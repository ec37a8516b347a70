import Mathlib.Tactic
import TestQueue.Json.Decode

namespace TestQueue.Json.RecordReader

variable {α β : Type}

def keyed (ms : List (String × Json)) : List (Json × Json) := ms.map fun m => (.str m.1, m.2)

lemma members_cons (r : RecordReader α) {name : String} (h : name ∈ r.fields) (v : Json)
    (ms : List (String × Json)) (s : r.State) :
    r.members (keyed ((name, v) :: ms)) s =
      (r.accept name v s).bind (r.members (keyed ms)) := by
  change (if name ∈ r.fields then _ else _) = _
  rw [if_pos h]
  rfl

/-- The state after members for fields of the record. -/
inductive Takes (r : RecordReader α) : List (String × Json) → r.State → r.State → Prop
  | nil (s : r.State) : Takes r [] s s
  | cons {name : String} {v : Json} {ms : List (String × Json)} {s t u : r.State}
      (known : name ∈ r.fields) (accepted : r.accept name v s = .ok t) (rest : Takes r ms t u) :
      Takes r ((name, v) :: ms) s u

namespace Takes

lemma members_eq {r : RecordReader α} {ms : List (String × Json)} {s t : r.State}
    (h : r.Takes ms s t) : r.members (keyed ms) s = .ok t := by
  induction h with
  | nil => rfl
  | cons known accepted _ ih => rw [members_cons _ known, accepted]; exact ih

lemma append {r : RecordReader α} {ms ms' : List (String × Json)} {s t u : r.State}
    (h : r.Takes ms s t) (h' : r.Takes ms' t u) : r.Takes (ms ++ ms') s u := by
  induction h with
  | nil => exact h'
  | cons known accepted _ ih => exact .cons known accepted (ih h')

lemma field {r : RecordReader (β → α)} {ms : List (String × Json)} {s t : r.State}
    (h : r.Takes ms s t) {name : String} (hname : name ∉ r.fields) (item : Json → Decoded β)
    (absent : Absent β) (b? : Option β) :
    (r.field name item absent).Takes ms (s, b?) (t, b?) := by
  induction h with
  | nil => exact .nil _
  | @cons n v _ s t _ known accepted _ ih =>
    have hne : n ≠ name := fun he => hname (he ▸ known)
    refine .cons (t := (t, b?)) (List.mem_append_left _ known) ?_ ih
    simp [RecordReader.field, hne, accepted, Except.map]

end Takes

def Reads (r : RecordReader α) (ms : List (String × Json)) (a : α) : Prop :=
  ∃ s, r.Takes ms r.start s ∧ r.finish .object s = .ok a

namespace Reads

lemma read_eq {r : RecordReader α} {ms : List (String × Json)} {a : α} (h : r.Reads ms a) :
    r.read (.object ms) = .ok a := by
  obtain ⟨s, hs, ha⟩ := h
  change (r.members (keyed ms) r.start).bind (r.finish .object) = _
  rw [hs.members_eq]
  exact ha

lemma done (a : α) : (RecordReader.done a).Reads [] a := ⟨(), .nil _, rfl⟩

section

variable {r : RecordReader (β → α)} {ms : List (String × Json)} {f : β → α} {name : String}
  {item : Json → Decoded β} {absent : Absent β}

lemma field (h : r.Reads ms f) (hname : name ∉ r.fields) {v : Json} {b : β}
    (hv : item v = .ok b) : (r.field name item absent).Reads (ms ++ [(name, v)]) (f b) := by
  obtain ⟨s, hs, hf⟩ := h
  refine ⟨(s, some b), (hs.field hname item absent none).append
    (.cons (List.mem_append_right _ (by simp)) ?_ (.nil _)), ?_⟩
  · simp [RecordReader.field, hv, Except.map]
  · simp only [RecordReader.field, hf]
    rfl

lemma field_absent (h : r.Reads ms f) (hname : name ∉ r.fields) {b : β}
    (hb : absent.fromObject = .ok b) : (r.field name item absent).Reads ms (f b) := by
  obtain ⟨s, hs, hf⟩ := h
  refine ⟨(s, none), hs.field hname item absent none, ?_⟩
  simp only [RecordReader.field, hf, Absent.value, hb]
  rfl

end

end Reads

end TestQueue.Json.RecordReader
