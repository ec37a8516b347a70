import TestQueue.Proofs.Identifier
import TestQueue.Proofs.Ordered
import TestQueue.Worker.Roster

namespace TestQueue

open Time (Instant)

lemma WorkerId.text_injective : Function.Injective WorkerId.text := by
  rintro ⟨a⟩ ⟨b⟩ rfl
  rfl

lemma WorkerRecord.mem_insert_processing {s : BucketSet} {a b : BucketId} :
    b ∈ (s.insert a).items ↔ b = a ∨ b ∈ s.items := by
  rw [Ordered.mem_insert_iff]
  constructor
  · exact Or.imp_right And.left
  · rintro (rfl | hb)
    · exact Or.inl rfl
    · by_cases he : b = a
      · exact Or.inl he
      · exact Or.inr ⟨hb, fun ht => he (BucketId.text_injective ht)⟩

lemma WorkerRecord.mem_erase_processing {s : BucketSet} {a b : BucketId} :
    b ∈ (s.erase a.text).items ↔ b ∈ s.items ∧ b ≠ a := by
  rw [Ordered.mem_erase_iff, BucketId.text_injective.ne_iff]

namespace Roster

variable {t : Roster} {v w : WorkerId}

lemma find?_eq_some_iff {r : WorkerRecord} :
    t.find? w = some r ↔ r ∈ t.workers.items ∧ r.workerId = w := by
  rw [find?, Ordered.find?_eq_some_iff, WorkerId.text_injective.eq_iff]

lemma find?_put (t : Roster) (r : WorkerRecord) (v : WorkerId) :
    (t.put r).find? v = if v = r.workerId then some r else t.find? v := by
  rw [find?, put, Ordered.find?_insert]
  simp only [WorkerId.text_injective.eq_iff]
  rfl

lemma workerId_record (t : Roster) (w : WorkerId) : (t.record w).workerId = w := by
  unfold record
  cases hf : t.find? w with
  | none => rfl
  | some r => exact (find?_eq_some_iff.1 hf).2

lemma record_of_find? {r : WorkerRecord} (h : t.find? w = some r) : t.record w = r := by
  rw [record, h, Option.getD_some]

lemma record_of_find?_eq {t' : Roster} {r : WorkerRecord}
    (h : ∀ v, t'.find? v = if v = w then some r else t.find? v) (v : WorkerId) :
    t'.record v = if v = w then r else t.record v := by
  rw [record, h]
  split <;> rfl

lemma find?_register (t : Roster) (w : WorkerId) (c : WorkerConfiguration) (now : Instant)
    (v : WorkerId) : (t.register w c now).find? v =
      if v = w then some ((t.record w).register c now) else t.find? v := by
  rw [register, find?_put, show ((t.record w).register c now).workerId = w from
    t.workerId_record w]

lemma record_register (t : Roster) (w : WorkerId) (c : WorkerConfiguration) (now : Instant)
    (v : WorkerId) : (t.register w c now).record v =
      if v = w then (t.record w).register c now else t.record v :=
  record_of_find?_eq (t.find?_register w c now) v

lemma find?_of_isKnown (h : t.isKnown w = true) : ∃ r, t.find? w = some r := by
  rw [isKnown, record] at h
  cases hf : t.find? w with
  | none => simp [hf, WorkerRecord.notRegistered] at h
  | some r => exact ⟨r, rfl⟩

lemma find?_modify {f : WorkerRecord → WorkerRecord} (hf : ∀ r, (f r).workerId = r.workerId)
    (t : Roster) (w v : WorkerId) :
    (t.modify w f).find? v = if v = w then (t.find? w).map f else t.find? v := by
  unfold modify
  split
  · next r hr => rw [find?_put, hf, (find?_eq_some_iff.1 hr).2, hr, Option.map_some]
  · next hr =>
    split
    · next h => rw [h, hr, Option.map_none]
    · rfl

lemma record_modify {f : WorkerRecord → WorkerRecord} (hf : ∀ r, (f r).workerId = r.workerId)
    (hk : t.isKnown w = true) (v : WorkerId) :
    (t.modify w f).record v = if v = w then f (t.record w) else t.record v := by
  obtain ⟨r, hr⟩ := find?_of_isKnown hk
  rw [record_of_find? hr]
  refine record_of_find?_eq (fun v => ?_) v
  rw [find?_modify hf, hr, Option.map_some]

lemma record_didDequeue (hk : t.isKnown w = true) (b : BucketId) (v : WorkerId) :
    (t.didDequeue w b).record v = if v = w then
      { t.record w with processing := (t.record w).processing.insert b } else t.record v :=
  record_modify (f := fun r => { r with processing := r.processing.insert b }) (fun _ => rfl) hk v

lemma record_didFinish (hk : t.isKnown w = true) (b : BucketId) (v : WorkerId) :
    (t.didFinish w b).record v = if v = w then
      { t.record w with processing := (t.record w).processing.erase b.text } else t.record v :=
  record_modify (f := fun r => { r with processing := r.processing.erase b.text })
    (fun _ => rfl) hk v

lemma eligibility_eq_eligible :
    t.eligibility w = .eligible ↔ (t.record w).status = .alive ∧ (t.record w).blocked = false := by
  rw [eligibility, WorkerRecord.eligibility]
  cases (t.record w).status <;> cases (t.record w).blocked <;> simp

lemma isKnown_of_eligible (h : t.eligibility w = .eligible) : t.isKnown w = true := by
  simp [isKnown, (eligibility_eq_eligible.1 h).1]

lemma find?_reportAlive {t' : Roster} {status : Liveness} {now : Instant}
    (h : t.reportAlive w now = .ok (status, t')) : ∃ r r', t.find? w = some r ∧
      r.reportAlive now = .ok r' ∧ ∀ v, t'.find? v = if v = w then some r' else t.find? v := by
  unfold reportAlive known at h
  cases hf : t.find? w with
  | none =>
    rw [hf] at h
    cases h
  | some r =>
    rw [hf] at h
    cases ha : r.reportAlive now with
    | error e =>
      simp only [bind, Except.bind, ha] at h
      cases h
    | ok r' =>
      simp only [bind, Except.bind, ha, Except.ok.injEq, Prod.mk.injEq] at h
      obtain ⟨-, rfl⟩ := h
      refine ⟨r, r', rfl, ha, fun v => ?_⟩
      have hid : r'.workerId = w := by
        rw [← (find?_eq_some_iff.1 hf).2]
        unfold WorkerRecord.reportAlive at ha
        split at ha <;> cases ha <;> rfl
      rw [find?_put, hid]

lemma reportAlive_eq_ok {t' : Roster} {status : Liveness} {now : Instant}
    (h : t.reportAlive w now = .ok (status, t')) : ∃ r, (t.record w).reportAlive now = .ok r ∧
      ∀ v, t'.record v = if v = w then r else t.record v := by
  obtain ⟨r, r', hf, ha, hr⟩ := find?_reportAlive h
  exact ⟨r', by rw [record_of_find? hf, ha], record_of_find?_eq hr⟩

lemma find?_setBlocked {t' : Roster} {r : WorkerRecord} {blocked : Bool}
    (h : t.setBlocked w blocked = .ok (r, t')) : ∃ r, t.find? w = some r ∧
      ∀ v, t'.find? v = if v = w then some { r with blocked } else t.find? v := by
  unfold setBlocked known at h
  cases hf : t.find? w with
  | none =>
    rw [hf] at h
    cases h
  | some r =>
    rw [hf] at h
    simp only [bind, Except.bind, Except.ok.injEq, Prod.mk.injEq] at h
    obtain ⟨-, rfl⟩ := h
    refine ⟨r, rfl, fun v => ?_⟩
    rw [find?_put]
    simp only [(find?_eq_some_iff.1 hf).2]

lemma setBlocked_eq_ok {t' : Roster} {r : WorkerRecord} {blocked : Bool}
    (h : t.setBlocked w blocked = .ok (r, t')) :
    ∀ v, t'.record v = if v = w then { t.record w with blocked } else t.record v := by
  obtain ⟨r, hf, hr⟩ := find?_setBlocked h
  rw [record_of_find? hf]
  exact record_of_find?_eq hr

end Roster

end TestQueue
