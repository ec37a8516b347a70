/-!
Finite maps as lists of bindings with pairwise distinct keys. The order of the bindings carries no
meaning; it is the order of first insertion.
-/

namespace TestQueue

structure Table (κ ν : Type) where
  bindings : List (κ × ν)
  distinct : (bindings.map Prod.fst).Nodup
  deriving DecidableEq

namespace Table

variable {κ ν : Type}

def empty : Table κ ν := ⟨[], List.nodup_nil⟩

instance : Inhabited (Table κ ν) := ⟨empty⟩

def keys (t : Table κ ν) : List κ := t.bindings.map Prod.fst

def values (t : Table κ ν) : List ν := t.bindings.map Prod.snd

def size (t : Table κ ν) : Nat := t.bindings.length

def filter (p : κ → ν → Bool) (t : Table κ ν) : Table κ ν where
  bindings := t.bindings.filter fun b => p b.1 b.2
  distinct := t.distinct.sublist (List.filter_sublist.map _)

def mapValues {μ : Type} (f : κ → ν → μ) (t : Table κ ν) : Table κ μ where
  bindings := t.bindings.map fun b => (b.1, f b.1 b.2)
  distinct := by
    have h := t.distinct
    simpa [List.map_map, Function.comp_def] using h

variable [DecidableEq κ]

def find? (t : Table κ ν) (k : κ) : Option ν :=
  (t.bindings.find? fun b => b.1 = k).map Prod.snd

def contains (t : Table κ ν) (k : κ) : Bool := t.bindings.any fun b => b.1 = k

def erase (t : Table κ ν) (k : κ) : Table κ ν := t.filter fun j _ => j ≠ k

theorem contains_eq_false {t : Table κ ν} {k : κ} : t.contains k = false ↔ k ∉ t.keys := by
  simp only [contains, keys, List.any_eq_false, List.mem_map, decide_eq_true_eq]
  constructor
  · rintro h ⟨b, hb, rfl⟩
    exact h b hb rfl
  · rintro h b hb rfl
    exact h ⟨b, hb, rfl⟩

def insert (t : Table κ ν) (k : κ) (v : ν) : Table κ ν :=
  if h : t.contains k then t.mapValues fun j w => if j = k then v else w
  else
    { bindings := t.bindings ++ [(k, v)]
      distinct := by
        have hk : k ∉ t.keys := contains_eq_false.1 (by simpa using h)
        rw [List.map_append, List.nodup_append]
        refine ⟨t.distinct, by simp, ?_⟩
        rintro a ha b hb rfl
        simp only [List.map_cons, List.map_nil, List.mem_singleton] at hb
        exact hk (hb ▸ ha) }

def ofList (bs : List (κ × ν)) : Table κ ν := bs.foldl (fun t b => t.insert b.1 b.2) empty

end Table

end TestQueue
