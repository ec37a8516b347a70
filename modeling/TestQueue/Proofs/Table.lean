import Mathlib
import TestQueue.Table

namespace TestQueue.Table

variable {κ ν μ : Type}

lemma nodup_keys (t : Table κ ν) : t.keys.Nodup := t.distinct

lemma filter_eq_self {t : Table κ ν} {p : κ → ν → Bool} (h : ∀ b ∈ t.bindings, p b.1 b.2 = true) :
    t.filter p = t := by
  obtain ⟨bs, hd⟩ := t
  simp only [filter, mk.injEq]
  exact List.filter_eq_self.2 h

variable [DecidableEq κ]

@[simp] lemma find?_empty (k : κ) : (empty : Table κ ν).find? k = none := rfl

lemma mem_of_find? {t : Table κ ν} {k : κ} {v : ν} (h : t.find? k = some v) :
    (k, v) ∈ t.bindings := by
  obtain ⟨b, hb, rfl⟩ := Option.map_eq_some_iff.1 h
  have hk : b.1 = k := by simpa using List.find?_some hb
  rw [← hk]
  exact List.mem_of_find?_eq_some hb

omit [DecidableEq κ] in
lemma binding_unique {t : Table κ ν} {k : κ} {v w : ν} (hv : (k, v) ∈ t.bindings)
    (hw : (k, w) ∈ t.bindings) : v = w := by
  have h := List.inj_on_of_nodup_map t.distinct hv hw rfl
  exact congrArg Prod.snd h

lemma find?_eq_none {t : Table κ ν} {k : κ} : t.find? k = none ↔ k ∉ t.keys := by
  simp only [find?, Option.map_eq_none_iff, List.find?_eq_none, decide_eq_true_eq, keys,
    List.mem_map]
  constructor
  · rintro h ⟨b, hb, rfl⟩
    exact h b hb rfl
  · rintro h b hb rfl
    exact h ⟨b, hb, rfl⟩

lemma find?_eq_some_iff {t : Table κ ν} {k : κ} {v : ν} :
    t.find? k = some v ↔ (k, v) ∈ t.bindings := by
  refine ⟨mem_of_find?, fun h => ?_⟩
  cases hf : t.find? k with
  | none => exact absurd (List.mem_map.2 ⟨_, h, rfl⟩) (find?_eq_none.1 hf)
  | some w => rw [binding_unique h (mem_of_find? hf)]

lemma mem_keys_iff {t : Table κ ν} {k : κ} : k ∈ t.keys ↔ ∃ v, t.find? k = some v := by
  rw [← Option.ne_none_iff_exists', ne_eq, find?_eq_none, not_not]

lemma mem_values_iff {t : Table κ ν} {v : ν} : v ∈ t.values ↔ ∃ k, t.find? k = some v := by
  simp only [values, List.mem_map, find?_eq_some_iff]
  constructor
  · rintro ⟨b, hb, rfl⟩
    exact ⟨b.1, hb⟩
  · rintro ⟨k, hk⟩
    exact ⟨_, hk, rfl⟩

lemma contains_iff {t : Table κ ν} {k : κ} : t.contains k = true ↔ ∃ v, t.find? k = some v := by
  rw [← mem_keys_iff, ← not_iff_not, Bool.not_eq_true, contains_eq_false]

lemma contains_eq_isSome (t : Table κ ν) (k : κ) : t.contains k = (t.find? k).isSome := by
  rw [Bool.eq_iff_iff, contains_iff, Option.isSome_iff_exists]

@[simp] lemma find?_filter (t : Table κ ν) (p : κ → ν → Bool) (k : κ) :
    (t.filter p).find? k = (t.find? k).filter (p k) := by
  ext v
  simp [find?_eq_some_iff, filter, Option.filter_eq_some_iff]

@[simp] lemma find?_erase (t : Table κ ν) (j k : κ) :
    (t.erase j).find? k = if k = j then none else t.find? k := by
  rw [erase, find?_filter]
  by_cases h : k = j
  · simp [h]
  · cases t.find? k <;> simp [h]

@[simp] lemma find?_mapValues (t : Table κ ν) (f : κ → ν → μ) (k : κ) :
    (t.mapValues f).find? k = (t.find? k).map (f k) := by
  ext w
  simp only [find?_eq_some_iff, mapValues, List.mem_map, Option.map_eq_some_iff, Prod.mk.injEq]
  constructor
  · rintro ⟨b, hb, rfl, rfl⟩
    exact ⟨b.2, hb, rfl⟩
  · rintro ⟨v, hv, rfl⟩
    exact ⟨_, hv, rfl, rfl⟩

@[simp] lemma find?_insert (t : Table κ ν) (j : κ) (v : ν) (k : κ) :
    (t.insert j v).find? k = if k = j then some v else t.find? k := by
  unfold insert
  split
  · rename_i h
    obtain ⟨w, hw⟩ := contains_iff.1 h
    rw [find?_mapValues]
    by_cases hk : k = j
    · simp [hk, hw]
    · simp [hk]
  · rename_i h
    have hj : j ∉ t.keys := contains_eq_false.1 (by simpa using h)
    ext w
    simp only [find?_eq_some_iff, List.mem_append, List.mem_singleton, Prod.mk.injEq]
    by_cases hk : k = j
    · subst hk
      have hw : (k, w) ∉ t.bindings := fun hb => hj (List.mem_map.2 ⟨_, hb, rfl⟩)
      simp [hw, eq_comm]
    · simp [hk, find?_eq_some_iff]

lemma insert_eq_self {t : Table κ ν} {k : κ} {v : ν} (h : t.find? k = some v) :
    t.insert k v = t := by
  unfold insert
  rw [dif_pos (contains_iff.2 ⟨v, h⟩)]
  obtain ⟨bs, hd⟩ := t
  simp only [mapValues, mk.injEq]
  conv_rhs => rw [← List.map_id bs]
  apply List.map_congr_left
  intro b hb
  by_cases hk : b.1 = k
  · have hv : b.2 = v := binding_unique (t := ⟨bs, hd⟩) (k := k) (hk ▸ hb) (mem_of_find? h)
    simp [← hk, ← hv]
  · simp [hk]

lemma insert_insert (t : Table κ ν) (k : κ) (v w : ν) :
    (t.insert k v).insert k w = t.insert k w := by
  have hc : (t.insert k v).contains k = true := contains_iff.2 ⟨v, by simp⟩
  rw [insert, dif_pos hc]
  unfold insert
  split
  · simp only [mapValues, mk.injEq, List.map_map]
    apply List.map_congr_left
    intro b hb
    by_cases hk : b.1 = k <;> simp [hk]
  · rename_i h
    have hk : k ∉ t.keys := contains_eq_false.1 (by simpa using h)
    simp only [mapValues, mk.injEq, List.map_append, List.map_cons, List.map_nil, if_true]
    congr 1
    conv_rhs => rw [← List.map_id t.bindings]
    apply List.map_congr_left
    intro b hb
    have hne : b.1 ≠ k := fun he => hk (List.mem_map.2 ⟨b, hb, he⟩)
    simp [hne]

lemma perm_iff_find? {t u : Table κ ν} :
    t.bindings.Perm u.bindings ↔ ∀ k, t.find? k = u.find? k := by
  rw [List.perm_ext_iff_of_nodup t.distinct.of_map u.distinct.of_map]
  constructor
  · intro h k
    ext v
    rw [find?_eq_some_iff, find?_eq_some_iff, h]
  · rintro h ⟨k, v⟩
    rw [← find?_eq_some_iff, ← find?_eq_some_iff, h]

lemma bindings_insert_of_absent {t : Table κ ν} {k : κ} (h : t.find? k = none) (v : ν) :
    (t.insert k v).bindings = t.bindings ++ [(k, v)] := by
  have hc : ¬ t.contains k = true := by rw [contains_eq_isSome, h]; simp
  rw [insert, dif_neg hc]

lemma values_insert_of_absent {t : Table κ ν} {k : κ} (h : t.find? k = none) (v : ν) :
    (t.insert k v).values = t.values ++ [v] := by
  rw [values, bindings_insert_of_absent h, List.map_append]
  rfl

lemma bindings_ofList {bs : List (κ × ν)} (h : (bs.map Prod.fst).Nodup) :
    (ofList bs).bindings = bs := by
  induction bs using List.reverseRecOn with
  | nil => rfl
  | append_singleton bs b ih =>
    rw [List.map_append, List.nodup_append] at h
    have hbs := ih h.1
    have hb : (ofList bs).find? b.1 = none := by
      rw [find?_eq_none, keys, hbs]
      exact fun hk => h.2.2 _ hk _ (List.mem_singleton_self _) rfl
    rw [ofList, List.foldl_append]
    change ((ofList bs).insert b.1 b.2).bindings = _
    rw [bindings_insert_of_absent hb, hbs]

lemma ofList_bindings (t : Table κ ν) : ofList t.bindings = t := by
  have h := bindings_ofList t.distinct
  generalize ofList t.bindings = u at h
  obtain ⟨bs, hd⟩ := t
  obtain ⟨cs, hd'⟩ := u
  cases h
  rfl

def total (f : ν → ℕ) (t : Table κ ν) : ℕ := (t.values.map f).sum

lemma total_congr {f : ν → ℕ} {t u : Table κ ν}
    (h : ∀ k, (u.find? k).map f = (t.find? k).map f) : u.total f = t.total f := by
  have hv (t : Table κ ν) : t.values.map f = (t.mapValues fun _ => f).values := by
    simp [values, mapValues]
  have hp : (u.mapValues fun _ => f).bindings.Perm (t.mapValues fun _ => f).bindings := by
    rw [perm_iff_find?]
    simpa using h
  rw [total, total, hv, hv]
  exact (hp.map Prod.snd).sum_eq

lemma perm_cons_erase {t : Table κ ν} {k : κ} {v : ν} (h : t.find? k = some v) :
    t.bindings.Perm ((k, v) :: (t.erase k).bindings) := by
  have hk : (k, v) ∉ (t.erase k).bindings := by
    rw [← find?_eq_some_iff, find?_erase, if_pos rfl]
    simp
  refine (List.perm_ext_iff_of_nodup t.distinct.of_map
    (List.nodup_cons.2 ⟨hk, (t.erase k).distinct.of_map⟩)).2 ?_
  rintro ⟨j, w⟩
  rw [List.mem_cons, ← find?_eq_some_iff, ← find?_eq_some_iff, find?_erase]
  by_cases hj : j = k
  · simp [hj, h, eq_comm]
  · simp [hj]

lemma total_eq_erase (f : ν → ℕ) (t : Table κ ν) (k : κ) :
    t.total f = (t.erase k).total f + ((t.find? k).map f).getD 0 := by
  cases h : t.find? k with
  | none =>
    refine total_congr fun j => ?_
    rw [find?_erase]
    split
    · rename_i hj
      rw [hj, h]
    · rfl
  | some v =>
    have hp := ((perm_cons_erase h).map Prod.snd).map f
    rw [total, values, hp.sum_eq, List.map_cons, List.map_cons, List.sum_cons, Nat.add_comm]
    rfl

lemma total_add_of_agree {f : ν → ℕ} {t u : Table κ ν} {k : κ}
    (h : ∀ j, j ≠ k → (u.find? j).map f = (t.find? j).map f) :
    u.total f + ((t.find? k).map f).getD 0 = t.total f + ((u.find? k).map f).getD 0 := by
  have he : (u.erase k).total f = (t.erase k).total f := by
    refine total_congr fun j => ?_
    rw [find?_erase, find?_erase]
    split
    · rfl
    · exact h j ‹_›
  rw [total_eq_erase f u k, total_eq_erase f t k, he, Nat.add_right_comm]

end TestQueue.Table
