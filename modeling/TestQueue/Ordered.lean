/-!
Lists strictly increasing in a text key, so that each key occurs once and two of them with the same
elements are equal.
-/

namespace TestQueue

structure Ordered (α : Type) (key : α → String) where
  items : List α
  increasing : items.Pairwise fun a b => key a < key b
  deriving DecidableEq

namespace Ordered

variable {α : Type} {key : α → String}

def empty : Ordered α key := ⟨[], List.Pairwise.nil⟩

instance : Inhabited (Ordered α key) := ⟨empty⟩

def place (key : α → String) (a : α) : List α → List α
  | [] => [a]
  | b :: rest =>
    if key a < key b then a :: b :: rest
    else if key b < key a then b :: place key a rest
    else a :: rest

theorem mem_place {a b : α} {l : List α} (h : b ∈ place key a l) : b = a ∨ b ∈ l := by
  fun_induction place key a l with
  | case1 => simpa using h
  | case2 => simpa using h
  | case3 c rest _ _ ih =>
    rcases List.mem_cons.1 h with rfl | h
    · simp
    · rcases ih h with rfl | h <;> simp_all
  | case4 => rcases List.mem_cons.1 h with rfl | h <;> simp_all

theorem increasing_place (a : α) {l : List α} (h : l.Pairwise fun a b => key a < key b) :
    (place key a l).Pairwise fun a b => key a < key b := by
  fun_induction place key a l with
  | case1 => simp
  | case2 b rest hab =>
    refine List.Pairwise.cons ?_ h
    intro c hc
    rcases List.mem_cons.1 hc with rfl | hc
    · exact hab
    · exact String.lt_trans hab ((List.pairwise_cons.1 h).1 c hc)
  | case3 b rest _ hba ih =>
    obtain ⟨hb, hr⟩ := List.pairwise_cons.1 h
    refine List.Pairwise.cons ?_ (ih hr)
    intro c hc
    rcases mem_place hc with rfl | hc
    · exact hba
    · exact hb c hc
  | case4 b rest hab hba =>
    obtain ⟨hb, hr⟩ := List.pairwise_cons.1 h
    have he : key a = key b := String.le_antisymm (String.not_lt.1 hba) (String.not_lt.1 hab)
    exact List.Pairwise.cons (fun c hc => he ▸ hb c hc) hr

def insert (s : Ordered α key) (a : α) : Ordered α key :=
  ⟨place key a s.items, increasing_place a s.increasing⟩

def filter (s : Ordered α key) (p : α → Bool) : Ordered α key :=
  ⟨s.items.filter p, s.increasing.sublist List.filter_sublist⟩

def find? (s : Ordered α key) (k : String) : Option α := s.items.find? fun a => key a = k

def erase (s : Ordered α key) (k : String) : Ordered α key := s.filter fun a => key a ≠ k

def ofList (l : List α) : Ordered α key := l.foldl insert empty

def map (s : Ordered α key) (f : α → α) (h : ∀ a, key (f a) = key a) : Ordered α key where
  items := s.items.map f
  increasing := by
    rw [List.pairwise_map]
    exact s.increasing.imp fun hab => by simpa [h] using hab

end Ordered

end TestQueue
