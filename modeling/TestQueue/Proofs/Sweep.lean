import TestQueue.Proofs.Roster

namespace TestQueue

open Time (Instant)

namespace WorkerRecord

variable (p : AlivenessPolicy) (now : Instant) (r : WorkerRecord)

def fallsSilent : Bool := r.lastHeartbeat.any fun heartbeat => r.goesSilent p now heartbeat

inductive Swept : WorkerRecord × List Transition → Prop
  | kept : r.fallsSilent p now = false → Swept (r, [])
  | silenced : r.fallsSilent p now = true →
      Swept (r.silence now, [⟨r.workerId, .silent, r.processing.items⟩])
  | silencedAndLost : r.fallsSilent p now = true →
      Swept ((r.silence now).lose,
        [⟨r.workerId, .silent, r.processing.items⟩, ⟨r.workerId, .lost, []⟩])
  | lost : r.fallsSilent p now = false → r.status = .silent →
      Swept (r.lose, [⟨r.workerId, .lost, []⟩])

lemma sweep_swept : Swept p now r (r.sweep p now) := by
  unfold sweep
  cases hb : r.lastHeartbeat with
  | none => exact .kept (by simp [fallsSilent, hb])
  | some heartbeat =>
    have hf : r.fallsSilent p now = r.goesSilent p now heartbeat := by simp [fallsSilent, hb]
    dsimp only
    cases hs : r.goesSilent p now heartbeat with
    | true =>
      cases hl : (r.silence now).goesLost p now heartbeat with
      | true =>
        simp only [if_true, hl]
        exact .silencedAndLost (hf.trans hs)
      | false => simpa [hl] using Swept.silenced (hf.trans hs)
    | false =>
      cases hl : r.goesLost p now heartbeat with
      | true =>
        have hst : r.status = .silent := by
          simp only [goesLost, Bool.and_eq_true, decide_eq_true_eq] at hl
          exact hl.1
        simpa [hl] using Swept.lost (hf.trans hs) hst
      | false => simpa [hl] using Swept.kept (hf.trans hs)

variable {p now r}

lemma workerId_of_mem_sweep {x : Transition} (h : x ∈ (r.sweep p now).2) :
    x.workerId = r.workerId := by
  have hout := sweep_swept p now r
  generalize r.sweep p now = out at *
  cases hout with
  | kept _ => cases h
  | silenced _ => rw [List.mem_singleton.1 h]
  | silencedAndLost _ => rcases List.mem_pair.1 h with rfl | rfl <;> rfl
  | lost _ _ => rw [List.mem_singleton.1 h]

lemma reclaimed_of_mem_sweep {x : Transition} (h : x ∈ (r.sweep p now).2)
    (hs : x.status = .silent) :
    r.fallsSilent p now = true ∧ x.reclaimed = r.processing.items := by
  have hout := sweep_swept p now r
  generalize r.sweep p now = out at *
  cases hout with
  | kept _ => cases h
  | silenced hf =>
    obtain rfl := List.mem_singleton.1 h
    exact ⟨hf, rfl⟩
  | silencedAndLost hf =>
    rcases List.mem_pair.1 h with rfl | rfl
    · exact ⟨hf, rfl⟩
    · cases hs
  | lost _ _ =>
    obtain rfl := List.mem_singleton.1 h
    cases hs

lemma exists_silent_of_fallsSilent (h : r.fallsSilent p now = true) :
    ∃ x ∈ (r.sweep p now).2, x.status = .silent := by
  have hout := sweep_swept p now r
  generalize r.sweep p now = out at *
  cases hout with
  | kept hf => exact absurd (h.symm.trans hf) (by simp)
  | silenced _ => exact ⟨_, List.mem_cons_self, rfl⟩
  | silencedAndLost _ => exact ⟨_, List.mem_cons_self, rfl⟩
  | lost hf _ => exact absurd (h.symm.trans hf) (by simp)

lemma pairwise_sweep : (r.sweep p now).2.Pairwise fun x y =>
    x.status = .silent → y.status = .silent → x.workerId ≠ y.workerId := by
  have hout := sweep_swept p now r
  generalize r.sweep p now = out at *
  cases hout <;> simp

end WorkerRecord

namespace Roster

variable {t : Roster} {now : Instant} {w : WorkerId}

lemma record_sweep (t : Roster) (now : Instant) (w : WorkerId) :
    (t.sweep now).2.record w = ((t.record w).sweep t.policy now).1 := by
  rw [record, find?, sweep, Ordered.find?_map, ← find?, record]
  cases t.find? w with
  | none => rfl
  | some r => rfl

lemma reclaimed_of_mem_sweep {x : Transition} (h : x ∈ (t.sweep now).1) (hs : x.status = .silent) :
    (t.record x.workerId).fallsSilent t.policy now = true ∧
      x.reclaimed = (t.record x.workerId).processing.items := by
  obtain ⟨r, hr, hx⟩ := List.mem_flatMap.1 h
  have hf : t.find? x.workerId = some r :=
    find?_eq_some_iff.2 ⟨hr, (WorkerRecord.workerId_of_mem_sweep hx).symm⟩
  rw [record_of_find? hf]
  exact WorkerRecord.reclaimed_of_mem_sweep hx hs

lemma exists_silent_of_fallsSilent (h : (t.record w).fallsSilent t.policy now = true) :
    ∃ x ∈ (t.sweep now).1, x.workerId = w ∧ x.status = .silent := by
  cases hf : t.find? w with
  | none =>
    rw [record, hf] at h
    cases h
  | some r =>
    rw [record_of_find? hf] at h
    obtain ⟨x, hx, hs⟩ := WorkerRecord.exists_silent_of_fallsSilent h
    obtain ⟨hr, hid⟩ := find?_eq_some_iff.1 hf
    exact ⟨x, List.mem_flatMap.2 ⟨r, hr, hx⟩, (WorkerRecord.workerId_of_mem_sweep hx).trans hid, hs⟩

lemma pairwise_sweep (t : Roster) (now : Instant) : (t.sweep now).1.Pairwise fun x y =>
    x.status = .silent → y.status = .silent → x.workerId ≠ y.workerId := by
  rw [sweep, List.pairwise_flatMap]
  refine ⟨fun r _ => WorkerRecord.pairwise_sweep, ?_⟩
  refine t.workers.increasing.imp fun {r s} hrs x hx y hy _ _ he => ?_
  rw [WorkerRecord.workerId_of_mem_sweep hx, WorkerRecord.workerId_of_mem_sweep hy] at he
  exact String.ne_of_lt hrs (congrArg WorkerId.text he)

end Roster

end TestQueue
