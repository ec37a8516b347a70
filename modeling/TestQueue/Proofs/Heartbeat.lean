import TestQueue.Proofs.Reachable

/-!
What holds of the record of every worker, because it holds of new records and is kept by all that
happens to records.
-/

namespace TestQueue

open Time (Instant)

namespace WorkerRecord

structure Kept (P : WorkerRecord → Prop) : Prop where
  start : ∀ w, P (notRegistered w)
  register : ∀ r c now, P r → P (r.register c now)
  report : ∀ r r' now, P r → r.reportAlive now = .ok r' → P r'
  block : ∀ r blocked, P r → P { r with blocked }
  hold : ∀ r processing, P r → P { r with processing }
  sweep : ∀ p now r, P r → P (r.sweep p now).1

end WorkerRecord

namespace Event

variable {e : Event} {P : WorkerRecord → Prop}

lemma records_after (hP : WorkerRecord.Kept P) (hs : e.server.queue.Sound e.server.ids)
    (h : ∀ v, P (e.server.roster.record v)) (v : WorkerId) : P (e.after.roster.record v) := by
  have choose {w : WorkerId} {r : WorkerRecord} (hr : P r) :
      P (if v = w then r else e.server.roster.record v) := by
    split
    · exact hr
    · exact h v
  cases e.effect hs with
  | repeated _ hel _ _ _ _ hr _ =>
    rw [hr, Roster.record_didDequeue (Roster.isKnown_of_eligible hel)]
    exact choose (hP.hold _ _ (h _))
  | handedOut _ hel _ _ _ _ _ hr _ =>
    rw [hr, Roster.record_didDequeue (Roster.isKnown_of_eligible hel)]
    exact choose (hP.hold _ _ (h _))
  | accepted _ hk _ _ hr =>
    rw [hr, Roster.record_didFinish hk]
    exact choose (hP.hold _ _ (h _))
  | scheduled _ _ _ _ hr => exact hr ▸ h v
  | deleted _ _ _ hr _ => exact hr ▸ h v
  | swept _ _ _ hr _ =>
    rw [hr, Roster.record_sweep]
    exact hP.sweep _ _ _ (h v)
  | registered _ hr _ _ _ =>
    rw [hr, Roster.record_register]
    exact choose (hP.register _ _ _ (h _))
  | heard _ hrep _ _ _ =>
    obtain ⟨r, hr, hrec⟩ := Roster.reportAlive_eq_ok hrep
    rw [hrec]
    exact choose (hP.report _ _ _ (h _) hr)
  | blocked _ hb _ _ _ =>
    rw [Roster.setBlocked_eq_ok hb]
    exact choose (hP.block _ _ (h _))
  | none _ _ hr _ => exact hr ▸ h v

end Event

namespace Dispatcher

lemma records_run {P : WorkerRecord → Prop} (hP : WorkerRecord.Kept P) {ids : IdSource}
    (hids : Function.Injective ids.nth) (settings : DispatcherSettings) (start : Instant)
    (commands : List (Instant × Command)) (w : WorkerId) :
    P (((new settings ids start).run commands).roster.record w) :=
  (run_induction (d := new settings ids start)
    (P := fun _ d => d.Sound ∧ ∀ w, P (d.roster.record w))
    ⟨sound_new hids settings start, hP.start⟩
    (fun _ _ h => ⟨Event.sound_after h.1, Event.records_after hP h.1.queue h.2⟩) commands).2 w

end Dispatcher

namespace WorkerRecord

def Heard (r : WorkerRecord) : Prop := r.status = .alive → r.lastHeartbeat ≠ none

lemma kept_heard : Kept Heard where
  start w h := by cases h
  register r c now _ _ := by simp [WorkerRecord.register]
  report r r' now _ h _ := by
    unfold reportAlive at h
    split at h <;> cases h <;> simp
  block r blocked h := h
  hold r processing h := h
  sweep p now r h := by
    have hout := sweep_swept p now r
    generalize r.sweep p now = out at hout
    cases hout with
    | kept _ => exact h
    | silenced _ => intro hst; cases hst
    | silencedAndLost _ => intro hst; cases hst
    | lost _ _ => intro hst; cases hst

end WorkerRecord

end TestQueue
