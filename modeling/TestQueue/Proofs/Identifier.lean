import Mathlib
import TestQueue.Identifier

namespace TestQueue

lemma BucketId.text_injective : Function.Injective BucketId.text := by
  rintro ⟨a⟩ ⟨b⟩ rfl
  rfl

namespace IdSource

def Drawn (s : IdSource) (text : String) : Prop := ∃ n < s.drawn, s.nth n = text

lemma Drawn.advance {s : IdSource} {text : String} (h : s.Drawn text) (n : ℕ) :
    (s.advance n).Drawn text := by
  obtain ⟨i, hi, he⟩ := h
  exact ⟨i, Nat.lt_add_right n hi, he⟩

@[simp] lemma length_upcoming (s : IdSource) (n : ℕ) : (s.upcoming n).length = n := by
  simp [upcoming]

lemma drawn_of_mem_upcoming {s : IdSource} {n : ℕ} {text : String} (h : text ∈ s.upcoming n) :
    (s.advance n).Drawn text := by
  simp only [upcoming, List.mem_map, List.mem_range'_1] at h
  obtain ⟨i, hi, he⟩ := h
  exact ⟨i, hi.2, he⟩

lemma drawn_of_mem_map_upcoming {s : IdSource} {n : ℕ} {b : BucketId}
    (h : b ∈ (s.upcoming n).map BucketId.mk) : (s.advance n).Drawn b.text := by
  obtain ⟨t, ht, rfl⟩ := List.mem_map.1 h
  exact drawn_of_mem_upcoming ht

lemma next_drawn (s : IdSource) : (s.advance 1).Drawn s.next := ⟨s.drawn, Nat.lt_succ_self _, rfl⟩

section

variable {s : IdSource} (hs : Function.Injective s.nth)

include hs

lemma nodup_upcoming (n : ℕ) : (s.upcoming n).Nodup :=
  List.Nodup.map hs List.nodup_range'

lemma not_drawn_of_mem_upcoming {n : ℕ} {text : String} (h : text ∈ s.upcoming n) :
    ¬ s.Drawn text := by
  simp only [upcoming, List.mem_map, List.mem_range'_1] at h
  obtain ⟨i, hi, he⟩ := h
  rintro ⟨k, hk, hk'⟩
  obtain rfl := hs (hk'.trans he.symm)
  omega

lemma nodup_map_upcoming (n : ℕ) : ((s.upcoming n).map BucketId.mk).Nodup :=
  (nodup_upcoming hs n).map fun _ _ h => congrArg BucketId.text h

lemma not_drawn_of_mem_map_upcoming {n : ℕ} {b : BucketId}
    (h : b ∈ (s.upcoming n).map BucketId.mk) : ¬ s.Drawn b.text := by
  obtain ⟨t, ht, rfl⟩ := List.mem_map.1 h
  exact not_drawn_of_mem_upcoming hs ht

lemma next_not_drawn : ¬ s.Drawn s.next := by
  rintro ⟨k, hk, hk'⟩
  obtain rfl := hs hk'
  exact Nat.lt_irrefl _ hk

end

lemma sequential_injective (stem : String) : Function.Injective (sequential stem).nth := by
  intro m n h
  have hr : toString (m + 1) = toString (n + 1) := by
    simpa [sequential, String.append_assoc] using h
  have hk := Nat.repr_injective hr
  omega

lemma exists_extension {l : List String} (h : l.Nodup) :
    ∃ f : ℕ → String, Function.Injective f ∧ ∀ i (hi : i < l.length), f i = l[i] := by
  let fresh := l.finite_toSet.infinite_compl.natEmbedding
  have hfresh (i : ℕ) : (fresh i : String) ∉ l := (fresh i).2
  refine ⟨fun i => if hi : i < l.length then l[i] else fresh i, fun i k he => ?_, fun i hi => ?_⟩
  · dsimp only at he
    split at he <;> split at he
    · exact h.getElem_inj_iff.1 he
    · exact absurd (he ▸ List.getElem_mem _) (hfresh k)
    · exact absurd (he ▸ List.getElem_mem _) (hfresh i)
    · exact fresh.injective (Subtype.ext he)
  · exact dif_pos hi

lemma exists_source {old new : List BucketId} (h : (old ++ new).Nodup) :
    ∃ s : IdSource, Function.Injective s.nth ∧ (∀ b : BucketId, s.Drawn b.text ↔ b ∈ old) ∧
      (s.upcoming new.length).map BucketId.mk = new := by
  obtain ⟨f, hf, hl⟩ := exists_extension (h.map BucketId.text_injective)
  have hold (i : ℕ) (hi : i < old.length) : f i = old[i].text := by
    rw [hl i (by simp; omega), List.getElem_map, List.getElem_append_left]
  have hnew (i : ℕ) (hi : i < new.length) : f (old.length + i) = new[i].text := by
    rw [hl _ (by simp; omega), List.getElem_map, List.getElem_append_right (by omega)]
    simp
  refine ⟨⟨f, old.length⟩, hf, fun b => ?_, ?_⟩
  · rw [List.mem_iff_getElem]
    constructor
    · rintro ⟨i, hi, he⟩
      exact ⟨i, hi, BucketId.text_injective ((hold i hi).symm.trans he)⟩
    · rintro ⟨i, hi, rfl⟩
      exact ⟨i, hi, hold i hi⟩
  · refine List.ext_getElem (by simp) fun i hi hi' => ?_
    simp [upcoming, hnew i hi']

end IdSource

end TestQueue
