import TestQueue.Proofs.UrlPath

namespace TestQueue.Net

open Percent (encode)

structure IsWord (s : List Char) : Prop where
  nonempty : s ≠ []
  lower : ∀ c ∈ s, 'a' ≤ c ∧ c ≤ 'z'

namespace IsWord

variable {s : List Char} (h : IsWord s)

include h

lemma toNat_of_mem {c : Char} (hc : c ∈ s) : 97 ≤ c.toNat ∧ c.toNat ≤ 122 := h.lower c hc

lemma not_mem {c : Char} (hc : c.toNat < 97 ∨ 122 < c.toNat) : c ∉ s := by
  intro hm
  have := h.toNat_of_mem hm
  omega

lemma isSegment : IsSegment s := by
  intro c hc
  refine ⟨?_, ?_, ?_⟩ <;> rintro rfl <;> exact h.not_mem (by decide) hc

lemma isSlash_of_mem {c : Char} (hc : c ∈ s) : Url.isSlash true c = false := by
  have hslash : c ≠ '/' := (h.isSegment c hc).1
  have hbackslash : c ≠ '\\' := fun hb => h.not_mem (c := '\\') (by decide) (hb ▸ hc)
  simp [Url.isSlash, hslash, hbackslash]

lemma isOuterBlank_of_mem {c : Char} (hc : c ∈ s) : Url.isOuterBlank c = false := by
  have := h.toNat_of_mem hc
  simp only [Url.isOuterBlank, decide_eq_false_iff_not]
  omega

lemma isLineBreak_of_mem {c : Char} (hc : c ∈ s) : Url.isLineBreak c = false := by
  simp only [Url.isLineBreak, Bool.or_eq_false_iff, decide_eq_false_iff_not]
  refine ⟨⟨?_, ?_⟩, ?_⟩ <;> rintro rfl <;> exact h.not_mem (by decide) hc

lemma isSchemeChar_of_mem {c : Char} (hc : c ∈ s) : Url.isSchemeChar c = true := by
  have hlower : c.isLower = true := by
    simp only [Char.isLower, Bool.and_eq_true, decide_eq_true_eq]
    exact h.lower c hc
  simp [Url.isSchemeChar, Char.isAlphanum, Char.isAlpha, hlower]

lemma isPlain_of_mem {c : Char} (hc : c ∈ s) : Percent.isPlain Url.inPath c = true := by
  have hrange := h.toNat_of_mem hc
  have hspecial : c ∉ Url.inPath := by
    have hall : ∀ d ∈ Url.inPath, d.toNat < 97 ∨ 122 < d.toNat := by
      simp [Url.inPath, Url.inFragment]
    intro hm
    have := hall c hm
    omega
  simp only [Percent.isPlain, Bool.and_eq_true, decide_eq_true_eq, List.contains_eq_mem,
    Bool.not_eq_true', decide_eq_false_iff_not]
  exact ⟨by omega, hspecial⟩

lemma encode_eq : encode Url.inPath s = s :=
  Percent.encode_of_isPlain fun _ hc => h.isPlain_of_mem hc

lemma isDots_eq : Url.isDots s = false := by
  rw [Url.isDots_of_not_hasEscape (Percent.hasEscape_of_not_mem (h.not_mem (by decide)))]
  constructor <;> rintro rfl <;> exact h.not_mem (c := '.') (by decide) (by simp)

end IsWord

namespace Url

def inBody (c : Char) : Bool := c ≠ '?' && c ≠ '#'

lemma body_of (s : List Char) : (Parts.of s).body = s.takeWhile inBody := by
  change (s.takeWhile (· ≠ '#')).takeWhile (· ≠ '?') = _
  rw [List.takeWhile_takeWhile]
  congr 1
  funext c
  simp [inBody]

lemma rdropWhile_append_cons {p : Char → Bool} {c : Char} (hc : p c = false) (s t : List Char) :
    (s ++ c :: t).rdropWhile p = s ++ c :: t.rdropWhile p := by
  induction t using List.reverseRecOn with
  | nil => exact List.rdropWhile_concat_neg _ _ _ (by simp [hc])
  | append_singleton t d ih =>
    rw [← List.cons_append, ← List.append_assoc, List.rdropWhile_concat, List.rdropWhile_concat]
    split
    · exact ih
    · simp

section

variable {front rest : List Char} (hfront : IsWord front)

include hfront

lemma scheme?_of_word : scheme? (front ++ '/' :: rest) = none := by
  have hdrop : (front ++ '/' :: rest).dropWhile isSchemeChar = '/' :: rest := by
    rw [List.dropWhile_append_of_pos fun c hc => hfront.isSchemeChar_of_mem hc]
    rfl
  rw [scheme?, hdrop]
  cases (front ++ '/' :: rest).head? <;> rfl

lemma cleaned_of_word {text : String} (ht : text.toList = front ++ '/' :: rest) :
    cleaned text =
      front ++ '/' :: (rest.rdropWhile isOuterBlank).filter (!isLineBreak ·) := by
  have hleft : text.toList.dropWhile isOuterBlank = text.toList := by
    obtain ⟨c, front, rfl⟩ := List.exists_cons_of_ne_nil hfront.nonempty
    rw [ht, List.cons_append, List.dropWhile_cons_of_neg]
    simp [hfront.isOuterBlank_of_mem List.mem_cons_self]
  have hfilter : front.filter (!isLineBreak ·) = front :=
    List.filter_eq_self.2 fun c hc => by simp [hfront.isLineBreak_of_mem hc]
  change ((text.toList.dropWhile isOuterBlank).rdropWhile isOuterBlank).filter _ = _
  rw [hleft, ht, rdropWhile_append_cons (by decide), List.filter_append, hfilter,
    List.filter_cons_of_pos (by decide)]

lemma body_of_word : (Parts.of (front ++ '/' :: rest)).body =
    front ++ '/' :: rest.takeWhile inBody := by
  rw [body_of, List.takeWhile_append_of_pos]
  · rfl
  · intro c hc
    simp [inBody, hfront.isSegment c hc]

end

def IsWeb (scheme : List Char) : Prop := scheme = "http".toList ∨ scheme = "https".toList

lemma isFile_of_isWeb {scheme : List Char} (h : IsWeb scheme) : isFile scheme = false := by
  rcases h with rfl | rfl <;> simp [isFile]

lemma isSpecial_of_isWeb {scheme : List Char} (h : IsWeb scheme) : isSpecial scheme = true := by
  rcases h with rfl | rfl <;> simp [isSpecial, defaultPort?]

lemma join_of_word {base : Url} {list : List (List Char)} (hweb : IsWeb base.scheme)
    (hpath : base.path = .segments list) {front rest : List Char} (hfront : IsWord front)
    {text : String} (ht : cleaned text = front ++ '/' :: rest) :
    ∃ u, base.join text = .ok u ∧ u.scheme = base.scheme ∧ u.path = .segments
      (follow false list.dropLast
        (Text.splitAt (isSlash true) (front ++ '/' :: rest.takeWhile inBody))) := by
  obtain ⟨c, front, rfl⟩ := List.exists_cons_of_ne_nil hfront.nonempty
  have hc : isSlash true c = false := hfront.isSlash_of_mem List.mem_cons_self
  have hjoin : base.join text = base.relative list (.of (c :: front ++ '/' :: rest)) := by
    unfold join resolve
    simp only [ht, scheme?_of_word hfront, onBase, hpath]
  have hbody : (Parts.of (c :: front ++ '/' :: rest)).body =
      c :: (front ++ '/' :: rest.takeWhile inBody) := body_of_word hfront
  rw [hjoin]
  unfold relative
  simp only [hbody, isSpecial_of_isWeb hweb, isFile_of_isWeb hweb, hc]
  exact ⟨_, rfl, rfl, rfl⟩

lemma scheme_fileAt {p : Parts} {s : List Char} {u : Url} (h : fileAt p s = .ok u) :
    u.scheme = "file".toList := by
  unfold fileAt at h
  cases hhost : fileHost (s.takeWhile (!isSlash true ·)) with
  | error e => simp [hhost, bind, Except.bind] at h
  | ok host =>
    simp only [hhost, bind, Except.bind, Except.ok.injEq] at h
    rw [← h]

lemma withAuthority_eq_ok {scheme : List Char} {p : Parts} {s : List Char} {u : Url}
    (h : withAuthority scheme p s = .ok u) : u.scheme = scheme ∧
      (isFile scheme = false → ∃ t, u.path = .segments (pathAfter scheme t)) := by
  unfold withAuthority at h
  split at h
  · next hfile =>
    refine ⟨(scheme_fileAt h).trans (of_decide_eq_true hfile).symm, fun hn => ?_⟩
    rw [hfile] at hn
    cases hn
  · dsimp only at h
    split at h
    · cases h
    · cases ha : readAuthority scheme (s.takeWhile (!isSlash (isSpecial scheme) ·)) with
      | error e => simp [ha, bind, Except.bind] at h
      | ok a =>
        simp only [ha, bind, Except.bind, Except.ok.injEq] at h
        rw [← h]
        exact ⟨rfl, fun _ => ⟨_, rfl⟩⟩

lemma scheme_absolute {scheme : List Char} {p : Parts} {u : Url} (h : absolute scheme p = .ok u) :
    u.scheme = scheme := by
  unfold absolute at h
  dsimp only at h
  split at h
  · split at h
    · split at h
      · exact (withAuthority_eq_ok h).1
      · rw [← Except.ok.inj h]
    · rw [← Except.ok.inj h]
  · split at h
    · exact (withAuthority_eq_ok h).1
    · split at h
      · exact (withAuthority_eq_ok h).1
      · rw [← Except.ok.inj h]
      · rw [← Except.ok.inj h]

lemma isSegment_of_mem_pathAfter {scheme s x : List Char} (hweb : IsWeb scheme)
    (hx : x ∈ pathAfter scheme s) : IsSegment x := by
  match s with
  | [] =>
    rw [pathAfter, isSpecial_of_isWeb hweb, if_pos rfl] at hx
    rw [List.mem_singleton.1 hx]
    exact fun c hc => by cases hc
  | c :: rest =>
    simp only [pathAfter, isFile_of_isWeb hweb, isSpecial_of_isWeb hweb, Bool.false_eq_true,
      if_false] at hx
    refine isSegment_of_mem_follow (fun y hy => by cases hy) (fun y hy hslash => ?_) hx
    have hsep := (Text.of_mem_splitAt hy).2 '/' hslash
    simp [isSlash] at hsep

lemma path_of_parse {text : String} {u : Url} (h : parse text = .ok u) (hweb : IsWeb u.scheme) :
    ∃ list, u.path = .segments list ∧ ∀ x ∈ list, IsSegment x := by
  unfold parse resolve at h
  dsimp only at h
  cases hscheme : scheme? (cleaned text) with
  | none => simp [hscheme] at h
  | some found =>
    obtain ⟨scheme, rest⟩ := found
    simp only [hscheme] at h
    rw [scheme_absolute h] at hweb
    simp only [absolute, isFile_of_isWeb hweb, isSpecial_of_isWeb hweb, Bool.false_eq_true,
      if_false, if_true] at h
    obtain ⟨t, ht⟩ := (withAuthority_eq_ok h).2 (isFile_of_isWeb hweb)
    exact ⟨_, ht, fun x hx => isSegment_of_mem_pathAfter hweb hx⟩

lemma scheme_asFolder (u : Url) : u.asFolder.scheme = u.scheme := by
  unfold asFolder
  split <;> rfl

lemma path_asFolder {text : String} {u : Url} (h : parse text = .ok u) (hweb : IsWeb u.scheme) :
    ∃ folders, u.asFolder.path = .segments (folders ++ [[]]) ∧ ∀ x ∈ folders, IsSegment x := by
  obtain ⟨list, hpath, hlist⟩ := path_of_parse h hweb
  have hfolder : u.asFolder.path = .segments (folder u.scheme list) := by rw [asFolder, hpath]
  rw [hfolder, folder, isFile_of_isWeb hweb]
  split
  · next hlast =>
    obtain ⟨folders, rfl⟩ := List.getLast?_eq_some_iff.1 hlast
    exact ⟨folders, rfl, fun x hx => hlist x (List.mem_append_left _ hx)⟩
  · exact ⟨list, rfl, hlist⟩

lemma exists_target {u : Url} {path : List (List Char)} (h : u.path = .segments path) :
    ∃ query, u.target = pathText path ++ query ∧ query.takeWhile inBody = [] := by
  refine ⟨u.query.elim [] ('?' :: ·), ?_, ?_⟩
  · rw [target, h]
    cases u.query <;> rfl
  · cases u.query <;> rfl

end Url

end TestQueue.Net
