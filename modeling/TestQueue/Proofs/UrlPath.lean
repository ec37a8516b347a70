import TestQueue.Net.Url
import TestQueue.Proofs.Percent

namespace TestQueue

namespace Text

variable {sep : Char → Bool}

lemma splitAt_ne_nil (sep : Char → Bool) (s : List Char) : splitAt sep s ≠ [] := by
  match s with
  | [] => simp [splitAt]
  | c :: s =>
    rw [splitAt]
    split
    · simp
    · split <;> simp

lemma splitAt_cons_of_not {c : Char} (hc : sep c = false) {s x : List Char} {rest : List (List Char)}
    (h : splitAt sep s = x :: rest) : splitAt sep (c :: s) = (c :: x) :: rest := by
  simp [splitAt, hc, h]

lemma splitAt_append {s : List Char} (hs : ∀ c ∈ s, sep c = false) {t x : List Char}
    {rest : List (List Char)} (h : splitAt sep t = x :: rest) :
    splitAt sep (s ++ t) = (s ++ x) :: rest := by
  induction s with
  | nil => exact h
  | cons c s ih =>
    exact splitAt_cons_of_not (hs c List.mem_cons_self)
      (ih fun d hd => hs d (List.mem_cons_of_mem _ hd))

lemma splitAt_of_not_sep {s : List Char} (hs : ∀ c ∈ s, sep c = false) : splitAt sep s = [s] := by
  have h := splitAt_append (t := []) hs rfl
  rwa [List.append_nil] at h

lemma splitAt_append_cons {c : Char} (hc : sep c = true) (s t : List Char) :
    splitAt sep (s ++ c :: t) = splitAt sep s ++ splitAt sep t := by
  induction s with
  | nil => simp [splitAt, hc]
  | cons d s ih =>
    cases hd : sep d with
    | true => simp [splitAt, hd, ih]
    | false =>
      obtain ⟨x, rest, hx⟩ := List.exists_cons_of_ne_nil (splitAt_ne_nil sep s)
      rw [List.cons_append, splitAt_cons_of_not hd hx,
        splitAt_cons_of_not hd (ih.trans (by rw [hx]; rfl))]
      rfl

lemma of_mem_splitAt {s x : List Char} (h : x ∈ splitAt sep s) :
    x.Sublist s ∧ ∀ c ∈ x, sep c = false := by
  induction s generalizing x with
  | nil =>
    obtain rfl := List.mem_singleton.1 h
    exact ⟨List.Sublist.refl _, fun c hc => by cases hc⟩
  | cons d s ih =>
    cases hd : sep d with
    | true =>
      simp only [splitAt, hd, if_true, List.mem_cons] at h
      rcases h with rfl | h
      · exact ⟨List.nil_sublist _, fun c hc => by cases hc⟩
      · exact ⟨(ih h).1.cons _, (ih h).2⟩
    | false =>
      obtain ⟨y, rest, hy⟩ := List.exists_cons_of_ne_nil (splitAt_ne_nil sep s)
      rw [splitAt_cons_of_not hd hy] at h
      rcases List.mem_cons.1 h with rfl | h
      · obtain ⟨hsub, hnot⟩ := ih (hy ▸ List.mem_cons_self)
        refine ⟨hsub.cons_cons _, fun c hc => ?_⟩
        rcases List.mem_cons.1 hc with rfl | hc
        · exact hd
        · exact hnot c hc
      · obtain ⟨hsub, hnot⟩ := ih (hy ▸ List.mem_cons_of_mem _ h)
        exact ⟨hsub.cons _, hnot⟩

end Text

namespace Net

def IsSegment (s : List Char) : Prop := ∀ c ∈ s, c ≠ '/' ∧ c ≠ '?' ∧ c ≠ '#'

def pathText (path : List (List Char)) : List Char := path.flatMap ('/' :: ·)

lemma pathText_append (a b : List (List Char)) : pathText (a ++ b) = pathText a ++ pathText b :=
  List.flatMap_append

lemma splitAt_append_pathText {sep : Char → Bool} (hsep : sep '/' = true) (s : List Char)
    {path : List (List Char)} (hpath : ∀ x ∈ path, ∀ c ∈ x, sep c = false) :
    Text.splitAt sep (s ++ pathText path) = Text.splitAt sep s ++ path := by
  induction path generalizing s with
  | nil => rw [pathText, List.flatMap_nil, List.append_nil, List.append_nil]
  | cons x path ih =>
    have hx := ih x fun y hy => hpath y (List.mem_cons_of_mem _ hy)
    change Text.splitAt sep (s ++ '/' :: (x ++ pathText path)) = _
    rw [Text.splitAt_append_cons hsep, hx, Text.splitAt_of_not_sep (hpath x List.mem_cons_self)]
    rfl

lemma pathText_ne {path : List (List Char)} (hpath : ∀ x ∈ path, IsSegment x) :
    ∀ c ∈ pathText path, c ≠ '?' ∧ c ≠ '#' := by
  intro c hc
  obtain ⟨x, hx, hc⟩ := List.mem_flatMap.1 hc
  rcases List.mem_cons.1 hc with rfl | hc
  · exact ⟨by decide, by decide⟩
  · exact (hpath x hx c hc).2

namespace Percent

lemma hexDigit_ne : ∀ n < 16, Text.hexDigit n ≠ '/' ∧ Text.hexDigit n ≠ '?' ∧
    Text.hexDigit n ≠ '#' := by decide

lemma isSegment_encode {s : List Char} (hs : '/' ∉ s) : IsSegment (encode Url.inPath s) := by
  intro c hc
  obtain ⟨d, hd, hc⟩ := List.mem_flatMap.1 hc
  split at hc
  · next hplain =>
    obtain rfl := List.mem_singleton.1 hc
    refine ⟨fun h => hs (h ▸ hd), ?_, ?_⟩
    · rintro rfl
      exact absurd hplain (by decide)
    · rintro rfl
      exact absurd hplain (by decide)
  · obtain ⟨b, -, hb⟩ := List.mem_flatMap.1 hc
    have hlt := b.toNat_lt
    have hdigit (n : ℕ) (hn : n < 16) : IsSegment [Text.hexDigit n] := by
      intro e he
      rw [List.mem_singleton.1 he]
      exact hexDigit_ne n hn
    simp only [escape, List.mem_cons, List.not_mem_nil, or_false] at hb
    rcases hb with rfl | rfl | rfl
    · exact ⟨by decide, by decide, by decide⟩
    · exact hdigit _ (by omega) _ (List.mem_singleton_self _)
    · exact hdigit _ (by omega) _ (List.mem_singleton_self _)

end Percent

namespace Url

open Percent (encode)

def isDots (segment : List Char) : Bool :=
  plainDots segment = ['.'] || plainDots segment = ['.', '.']

lemma plainDots_of_not_hasEscape {s : List Char} (h : Percent.hasEscape s = false) :
    plainDots s = s := by
  induction s using plainDots.induct with
  | case1 rest ih => cases h
  | case2 rest ih => cases h
  | case3 c rest hlower hupper ih =>
    rw [plainDots, ih (Bool.or_eq_false_iff.1 h).2]
    · exact hlower
    · exact hupper
  | case4 => rfl

lemma isDots_of_not_hasEscape {s : List Char} (h : Percent.hasEscape s = false) :
    isDots s = false ↔ s ≠ ['.'] ∧ s ≠ ['.', '.'] := by
  simp [isDots, plainDots_of_not_hasEscape h]

lemma descend_of_not_isDots {segment : List Char} (h : isDots segment = false)
    (path : List (List Char)) : descend false path segment = path ++ [encode inPath segment] := by
  simp only [isDots, Bool.or_eq_false_iff, decide_eq_false_iff_not] at h
  unfold descend
  simp only [Bool.false_and, Bool.false_eq_true, if_false]
  split
  · next heq => cases heq
  · next heq => exact absurd heq h.1
  · next heq => exact absurd heq h.2
  · rfl

lemma parent_cases (path : List (List Char)) : parent path = path ∨ parent path = path.dropLast := by
  unfold parent
  split
  · exact .inl rfl
  · exact .inr rfl

lemma parent_isPrefix (path : List (List Char)) : parent path <+: path := by
  rcases parent_cases path with h | h
  · rw [h]
  · rw [h]
    exact List.dropLast_prefix path

lemma descend_of_isDots {segment : List Char} (h : isDots segment = true)
    (path : List (List Char)) :
    descend false path segment = path ∨ descend false path segment = path.dropLast := by
  unfold descend
  simp only [Bool.false_and, Bool.false_eq_true, if_false]
  split
  · next heq => cases heq
  · exact .inl rfl
  · exact parent_cases path
  · next h1 h2 =>
    simp only [isDots, Bool.or_eq_true, decide_eq_true_eq] at h
    exact (h.elim h1 h2).elim

lemma arrive_of_not_isDots {segment : List Char} (h : isDots segment = false)
    (path : List (List Char)) : arrive false path segment = path ++ [encode inPath segment] := by
  simp only [isDots, Bool.or_eq_false_iff, decide_eq_false_iff_not] at h
  unfold arrive
  simp only [Bool.false_and, Bool.false_eq_true, if_false]
  split
  · next heq => cases heq
  · next heq => exact absurd heq h.1
  · next heq => exact absurd heq h.2
  · rfl

lemma arrive_of_isDots {segment : List Char} (h : isDots segment = true)
    (path : List (List Char)) : ∃ front, arrive false path segment = front ++ [[]] ∧
      front <+: path := by
  unfold arrive
  simp only [Bool.false_and, Bool.false_eq_true, if_false]
  split
  · next heq => cases heq
  · exact ⟨_, rfl, List.prefix_rfl⟩
  · exact ⟨_, rfl, parent_isPrefix path⟩
  · next h1 h2 =>
    simp only [isDots, Bool.or_eq_true, decide_eq_true_eq] at h
    exact (h.elim h1 h2).elim

lemma descend_foldl (path segments : List (List Char)) : ∃ front kept : List (List Char),
    segments.foldl (descend false) path = front ++ kept.map (encode inPath) ∧
      front <+: path ∧ kept.Sublist segments ∧ ∀ x ∈ kept, isDots x = false := by
  induction segments using List.reverseRecOn with
  | nil =>
    exact ⟨path, [], (List.append_nil _).symm, List.prefix_rfl, List.Sublist.refl _,
      fun x hx => by cases hx⟩
  | append_singleton segments x ih =>
    obtain ⟨front, kept, hfold, hfront, hsub, hdots⟩ := ih
    have hsub' : kept.Sublist (segments ++ [x]) := hsub.trans (List.sublist_append_left _ _)
    rw [List.foldl_append, List.foldl_cons, List.foldl_nil, hfold]
    cases hx : isDots x with
    | false =>
      refine ⟨front, kept ++ [x], ?_, hfront, hsub.append (List.Sublist.refl _), ?_⟩
      · rw [descend_of_not_isDots hx, List.map_append, List.append_assoc]
        rfl
      · intro y hy
        rcases List.mem_append.1 hy with hy | hy
        · exact hdots y hy
        · rwa [List.mem_singleton.1 hy]
    | true =>
      rcases descend_of_isDots hx (front ++ kept.map (encode inPath)) with hd | hd
      · exact ⟨front, kept, hd, hfront, hsub', hdots⟩
      · rw [hd]
        rcases List.eq_nil_or_concat' kept with rfl | ⟨kept, y, rfl⟩
        · refine ⟨front.dropLast, [], by simp, ?_, List.nil_sublist _, hdots⟩
          exact (List.dropLast_prefix front).trans hfront
        · refine ⟨front, kept, by simp [← List.append_assoc], hfront, ?_, ?_⟩
          · exact (List.sublist_append_left kept _).trans hsub'
          · exact fun z hz => hdots z (List.mem_append_left _ hz)

lemma follow_concat (path segments : List (List Char)) (last : List Char) :
    follow false path (segments ++ [last]) =
      arrive false (segments.foldl (descend false) path) last := by
  rw [follow, List.dropLast_concat, List.getLast?_concat, Option.getD_some]

lemma isSegment_of_mem_follow {path segments : List (List Char)} (hpath : ∀ x ∈ path, IsSegment x)
    (hsegments : ∀ x ∈ segments, '/' ∉ x) {x : List Char} (hx : x ∈ follow false path segments) :
    IsSegment x := by
  have hencode {y : List Char} (hy : y ∈ segments) : IsSegment (encode inPath y) :=
    Percent.isSegment_encode (hsegments y hy)
  have hfold {before : List (List Char)} (hb : before.Sublist segments) {y : List Char}
      (hy : y ∈ before.foldl (descend false) path) : IsSegment y := by
    obtain ⟨front, kept, he, hfront, hsub, -⟩ := descend_foldl path before
    rw [he] at hy
    rcases List.mem_append.1 hy with hy | hy
    · exact hpath y (hfront.subset hy)
    · obtain ⟨z, hz, rfl⟩ := List.mem_map.1 hy
      exact hencode ((hsub.trans hb).subset hz)
  have hlast {y : List Char} (hy : y ∈ [[]]) : IsSegment y := by
    rw [List.mem_singleton.1 hy]
    exact fun c hc => by cases hc
  rcases List.eq_nil_or_concat' segments with rfl | ⟨before, last, rfl⟩
  · rcases List.mem_append.1 hx with hx | hx
    · exact hpath x hx
    · exact hlast hx
  · have hb : before.Sublist (before ++ [last]) := List.sublist_append_left _ _
    rw [follow_concat] at hx
    cases hd : isDots last with
    | true =>
      obtain ⟨front, ha, hfront⟩ := arrive_of_isDots hd (before.foldl (descend false) path)
      rw [ha] at hx
      rcases List.mem_append.1 hx with hx | hx
      · exact hfold hb (hfront.subset hx)
      · exact hlast hx
    | false =>
      rw [arrive_of_not_isDots hd] at hx
      rcases List.mem_append.1 hx with hx | hx
      · exact hfold hb hx
      · rw [List.mem_singleton.1 hx]
        exact hencode (List.mem_append_right _ (List.mem_singleton_self _))

lemma follow_cons {x : List Char} (hx : isDots x = false) (path : List (List Char))
    {segments : List (List Char)} (hs : segments ≠ []) :
    follow false path (x :: segments) = follow false (path ++ [encode inPath x]) segments := by
  obtain rfl | ⟨before, last, rfl⟩ := List.eq_nil_or_concat' segments
  · exact absurd rfl hs
  · rw [← List.cons_append, follow_concat, follow_concat, List.foldl_cons,
      descend_of_not_isDots hx]

lemma follow_singleton {x : List Char} (hx : isDots x = false) (path : List (List Char)) :
    follow false path [x] = path ++ [encode inPath x] := arrive_of_not_isDots hx path

lemma of_foldl_descend {path segments : List (List Char)} {s : List Char}
    (h : segments.foldl (descend false) path = path ++ [s]) :
    ∃ x ∈ segments, isDots x = false ∧ s = encode inPath x := by
  obtain ⟨front, kept, hfold, hfront, hsub, hdots⟩ := descend_foldl path segments
  rw [h] at hfold
  obtain rfl | ⟨kept, y, rfl⟩ := List.eq_nil_or_concat' kept
  · have hlength := congrArg List.length hfold
    have hle := hfront.length_le
    simp only [List.length_append, List.length_cons, List.length_nil, List.map_nil] at hlength
    omega
  · rw [List.map_append, ← List.append_assoc] at hfold
    obtain ⟨-, hs⟩ := List.append_inj' hfold rfl
    have hy : y ∈ kept ++ [y] := List.mem_append_right _ (List.mem_singleton_self _)
    exact ⟨y, hsub.subset hy, hdots y hy, List.singleton_inj.1 hs⟩

lemma of_follow {path segments : List (List Char)} {s : List Char} (hs : s ≠ [])
    (h : follow false path segments = path ++ [s]) :
    ∃ x ∈ segments, isDots x = false ∧ s = encode inPath x := by
  obtain rfl | ⟨before, last, rfl⟩ := List.eq_nil_or_concat' segments
  · exact absurd (List.singleton_inj.1 (List.append_cancel_left h)).symm hs
  · rw [follow_concat] at h
    cases hd : isDots last with
    | true =>
      obtain ⟨front, ha, -⟩ := arrive_of_isDots hd (before.foldl (descend false) path)
      rw [ha] at h
      exact absurd (List.singleton_inj.1 (List.append_inj' h rfl).2).symm hs
    | false =>
      rw [arrive_of_not_isDots hd] at h
      exact ⟨last, List.mem_append_right _ (List.mem_singleton_self _), hd,
        (List.singleton_inj.1 (List.append_inj' h rfl).2).symm⟩

lemma of_follow_pair {path segments : List (List Char)} {s t : List Char} (ht : t ≠ [])
    (h : follow false path segments = path ++ [s, t]) : ∃ before last,
      segments = before ++ [last] ∧ ∃ x ∈ before, isDots x = false ∧ s = encode inPath x := by
  have h' : follow false path segments = (path ++ [s]) ++ [t] := by
    rw [h, List.append_assoc]
    rfl
  obtain rfl | ⟨before, last, rfl⟩ := List.eq_nil_or_concat' segments
  · exact absurd (List.singleton_inj.1 (List.append_inj' h' rfl).2).symm ht
  · rw [follow_concat] at h'
    cases hd : isDots last with
    | true =>
      obtain ⟨front, ha, -⟩ := arrive_of_isDots hd (before.foldl (descend false) path)
      rw [ha] at h'
      exact absurd (List.singleton_inj.1 (List.append_inj' h' rfl).2).symm ht
    | false =>
      rw [arrive_of_not_isDots hd] at h'
      exact ⟨before, last, rfl, of_foldl_descend (List.append_inj' h' rfl).1⟩

end Url

end Net

end TestQueue
