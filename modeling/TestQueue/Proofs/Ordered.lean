import Mathlib
import TestQueue.Ordered

namespace TestQueue.Ordered

variable {α : Type} {key : α → String}

lemma nodup_keys (s : Ordered α key) : (s.items.map key).Nodup := by
  rw [List.Nodup, List.pairwise_map]
  exact s.increasing.imp fun h => String.ne_of_lt h

lemma nodup_items (s : Ordered α key) : s.items.Nodup := s.nodup_keys.of_map key

lemma key_inj (s : Ordered α key) {a b : α} (ha : a ∈ s.items) (hb : b ∈ s.items)
    (h : key a = key b) : a = b :=
  List.inj_on_of_nodup_map s.nodup_keys ha hb h

lemma mem_place_iff {a b : α} {l : List α} (h : l.Pairwise fun a b => key a < key b) :
    b ∈ place key a l ↔ b = a ∨ b ∈ l ∧ key b ≠ key a := by
  fun_induction place key a l with
  | case1 => simp
  | case2 c rest hac =>
    have hlt : ∀ x ∈ c :: rest, key x ≠ key a := by
      intro x hx he
      rcases List.mem_cons.1 hx with rfl | hx
      · exact String.lt_irrefl _ (he ▸ hac)
      · exact String.lt_irrefl _ (he ▸ String.lt_trans hac ((List.pairwise_cons.1 h).1 x hx))
    rw [List.mem_cons]
    exact or_congr_right ⟨fun hb => ⟨hb, hlt b hb⟩, fun hb => hb.1⟩
  | case3 c rest _ hca ih =>
    have hc : key c ≠ key a := String.ne_of_lt hca
    rw [List.mem_cons, ih (List.pairwise_cons.1 h).2, List.mem_cons]
    constructor
    · rintro (rfl | rfl | hb)
      · exact Or.inr ⟨Or.inl rfl, hc⟩
      · exact Or.inl rfl
      · exact Or.inr ⟨Or.inr hb.1, hb.2⟩
    · rintro (rfl | ⟨rfl | hb, hk⟩)
      · exact Or.inr (Or.inl rfl)
      · exact Or.inl rfl
      · exact Or.inr (Or.inr ⟨hb, hk⟩)
  | case4 c rest hac hca =>
    have hk : key a = key c := String.le_antisymm (String.not_lt.1 hca) (String.not_lt.1 hac)
    have hlt : ∀ x ∈ rest, key x ≠ key a := by
      intro x hx he
      exact String.lt_irrefl _ (he ▸ hk ▸ (List.pairwise_cons.1 h).1 x hx)
    rw [List.mem_cons, List.mem_cons]
    constructor
    · rintro (rfl | hb)
      · exact Or.inl rfl
      · exact Or.inr ⟨Or.inr hb, hlt b hb⟩
    · rintro (rfl | ⟨rfl | hb, hne⟩)
      · exact Or.inl rfl
      · exact absurd hk.symm hne
      · exact Or.inr hb

lemma mem_insert_iff {s : Ordered α key} {a b : α} :
    b ∈ (s.insert a).items ↔ b = a ∨ b ∈ s.items ∧ key b ≠ key a :=
  mem_place_iff s.increasing

@[simp] lemma mem_erase_iff {s : Ordered α key} {k : String} {a : α} :
    a ∈ (s.erase k).items ↔ a ∈ s.items ∧ key a ≠ k := by
  simp [erase, filter]

lemma find?_eq_some_iff {s : Ordered α key} {k : String} {a : α} :
    s.find? k = some a ↔ a ∈ s.items ∧ key a = k := by
  constructor
  · intro h
    exact ⟨List.mem_of_find?_eq_some h, by simpa using List.find?_some h⟩
  · rintro ⟨ha, rfl⟩
    cases hf : s.find? (key a) with
    | none =>
      have hn := List.find?_eq_none.1 hf a ha
      simp at hn
    | some b =>
      have hk : key b = key a := by simpa using List.find?_some hf
      rw [s.key_inj (List.mem_of_find?_eq_some hf) ha hk]

lemma filter_key (s : Ordered α key) (k : String) :
    s.items.filter (fun a => key a = k) = (s.find? k).toList := by
  obtain ⟨items, hi⟩ := s
  unfold find?
  dsimp only
  induction items with
  | nil => rfl
  | cons a rest ih =>
    obtain ⟨ha, hr⟩ := List.pairwise_cons.1 hi
    by_cases hk : key a = k
    · have hnone : rest.filter (fun b => key b = k) = [] := by
        rw [List.filter_eq_nil_iff]
        intro b hb
        simpa [← hk] using (String.ne_of_lt (ha b hb)).symm
      simp [hk, hnone]
    · simp [hk, ih hr]

lemma find?_insert (s : Ordered α key) (a : α) (k : String) :
    (s.insert a).find? k = if k = key a then some a else s.find? k := by
  ext b
  rw [find?_eq_some_iff, mem_insert_iff]
  split
  · rename_i h
    subst h
    constructor
    · rintro ⟨rfl | hb, hk⟩
      · rfl
      · exact absurd hk hb.2
    · intro hb
      obtain rfl := Option.some.inj hb
      exact ⟨Or.inl rfl, rfl⟩
  · rename_i h
    rw [find?_eq_some_iff]
    constructor
    · rintro ⟨rfl | hb, hk⟩
      · exact absurd hk.symm h
      · exact ⟨hb.1, hk⟩
    · rintro ⟨hb, rfl⟩
      exact ⟨Or.inr ⟨hb, h⟩, rfl⟩

lemma find?_map (s : Ordered α key) (f : α → α) (hf : ∀ a, key (f a) = key a) (k : String) :
    (s.map f hf).find? k = (s.find? k).map f := by
  simp [map, find?, List.find?_map, hf]

lemma place_of_forall_lt {a : α} {l : List α} (h : ∀ b ∈ l, key b < key a) :
    place key a l = l ++ [a] := by
  induction l with
  | nil => rfl
  | cons b l ih =>
    have hb : key b < key a := h b (by simp)
    rw [place, if_neg (String.lt_asymm hb), if_pos hb, ih fun c hc => h c (by simp [hc])]
    rfl

lemma items_ofList {l : List α} (h : l.Pairwise fun a b => key a < key b) :
    (ofList l : Ordered α key).items = l := by
  induction l using List.reverseRecOn with
  | nil => rfl
  | append_singleton l a ih =>
    obtain ⟨hl, -, ha⟩ := List.pairwise_append.1 h
    rw [ofList, List.foldl_append]
    change place key a (ofList l : Ordered α key).items = _
    rw [ih hl, place_of_forall_lt fun b hb => ha b hb a (by simp)]

lemma ofList_items (s : Ordered α key) : ofList s.items = s := by
  have h := items_ofList s.increasing
  generalize (ofList s.items : Ordered α key) = t at h
  obtain ⟨l, hl⟩ := s
  obtain ⟨l', hl'⟩ := t
  cases h
  rfl

end TestQueue.Ordered
