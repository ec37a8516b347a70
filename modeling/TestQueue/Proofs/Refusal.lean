import TestQueue.Proofs.InPlace
import TestQueue.Proofs.Reachable

/-!
Errors and refusals change nothing but the time of the last activity and the identifiers drawn.
-/

namespace TestQueue

open Time (Instant)

/-- An error, a fetch that is not answered with a bucket, and a result that is ignored. -/
def Refused : Except QueueError Answer → Prop
  | .error _ => True
  | .ok (.fetched a) => ∀ bucket, a ≠ .bucket bucket
  | .ok (.submitted (.ignored _)) => True
  | .ok _ => False

namespace Dispatcher

structure Continues (d d' : Dispatcher) : Prop where
  settings : d'.settings = d.settings
  signature : d'.signature = d.signature
  termination : ∃ t, d.termination.lastActivity ≤ t ∧
    d'.termination = { d.termination with lastActivity := t }

variable {d d' : Dispatcher}

lemma continues_refl (d : Dispatcher) : d.Continues d := ⟨rfl, rfl, _, le_rfl, rfl⟩

lemma continues_activity (d : Dispatcher) (now : Instant) : d.Continues (d.indicateActivity now) :=
  ⟨rfl, rfl, _, le_max_left _ _, rfl⟩

lemma Continues.trans {d'' : Dispatcher} (h : d.Continues d') (h' : d'.Continues d'') :
    d.Continues d'' := by
  obtain ⟨hs, hp, t, hle, ht⟩ := h
  obtain ⟨hs', hp', t', hle', ht'⟩ := h'
  rw [ht] at hle' ht'
  exact ⟨hs'.trans hs, hp'.trans hp, t', hle.trans hle', ht'⟩

lemma continues_handOut (d : Dispatcher) (w : WorkerId) (r : RequestId) (now : Instant) :
    d.Continues (d.handOut w r now).2 := by
  unfold handOut
  split <;> exact ⟨rfl, rfl, _, le_rfl, rfl⟩

lemma continues_settle (d : Dispatcher) (request : SubmitRequest) :
    d.Continues (d.settle request).2 := by
  unfold settle
  split <;> exact ⟨rfl, rfl, _, le_rfl, rfl⟩

lemma continues_enqueueTests (d : Dispatcher) (request : ScheduleRequest) :
    d.Continues (d.enqueueTests request).2 ∧
      (d.enqueueTests request).2.termination = d.termination := by
  unfold enqueueTests
  dsimp only
  split
  · exact ⟨continues_refl d, rfl⟩
  · split <;> exact ⟨⟨rfl, rfl, _, le_rfl, rfl⟩, rfl⟩

lemma continues_schedule (d : Dispatcher) (request : ScheduleRequest) (now : Instant) :
    d.Continues (d.scheduleTests request now).2 := by
  obtain ⟨⟨hs, hp, -⟩, ht⟩ := continues_enqueueTests (d.lock.indicateActivity now) request
  refine ⟨hs, hp, max d.termination.lastActivity now.millis, le_max_left _ _, ?_⟩
  change ((d.lock.indicateActivity now).enqueueTests request).2.termination.unlock = _
  rw [ht]
  rfl

lemma continues_perform (d : Dispatcher) (now : Instant) (c : Command) :
    d.Continues (d.perform now c).2 := by
  cases c with
  | register w declared =>
    change d.Continues (d.registerWorker w declared now).2
    unfold registerWorker
    split
    · exact continues_refl d
    · exact ⟨rfl, rfl, _, le_max_left _ _, rfl⟩
  | reportAlive w =>
    change d.Continues (d.reportAlive w now).2
    unfold reportAlive
    split <;> exact ⟨rfl, rfl, _, le_rfl, rfl⟩
  | setBlocked w blocked =>
    change d.Continues (d.setWorkerBlocked w blocked).2
    unfold setWorkerBlocked
    split <;> exact ⟨rfl, rfl, _, le_rfl, rfl⟩
  | fetch request =>
    change d.Continues (d.fetchBucket request now).2
    unfold fetchBucket
    split
    · exact continues_refl d
    · dsimp only
      split
      · exact continues_activity d now
      · exact (continues_activity d now).trans (continues_handOut _ _ _ now)
  | submit request =>
    change d.Continues (d.submitResult request now).2
    unfold submitResult
    split
    · exact continues_refl d
    · dsimp only
      split
      · exact (continues_activity d now).trans (continues_settle _ request)
      · exact continues_activity d now
  | schedule request => exact continues_schedule d request now
  | deleteJob j =>
    change d.Continues (d.deleteJob j).2
    unfold deleteJob
    split <;> exact ⟨rfl, rfl, _, le_rfl, rfl⟩
  | sweep => exact ⟨rfl, rfl, _, le_rfl, rfl⟩
  | version | listWorkers | workersByStatus | worker | processing | jobState | jobResults =>
    exact continues_refl d

end Dispatcher

namespace Event

variable {e : Event}

lemma refused_effect (hs : e.server.queue.Sound e.server.ids) (h : Refused e.answer) :
    e.after.queue = e.server.queue ∧ e.after.roster = e.server.roster ∧
      ∃ n, e.after.ids = e.server.ids.advance n := by
  cases e.effect hs with
  | repeated _ _ _ _ ha _ _ _ => simp [Refused, ha] at h
  | handedOut _ _ _ _ _ ha _ _ _ => simp [Refused, ha] at h
  | accepted _ _ _ ha _ => simp [Refused, ha] at h
  | scheduled _ _ _ ha _ => simp [Refused, ha] at h
  | deleted _ _ ha _ _ => simp [Refused, ha] at h
  | swept _ ha _ _ _ => simp [Refused, ha] at h
  | registered _ _ _ _ ha => simp [Refused, ha] at h
  | heard _ _ _ _ ha => simp [Refused, ha] at h
  | blocked _ _ _ _ ha => simp [Refused, ha] at h
  | none _ hq hr hids => exact ⟨hq, hr, _, hids⟩

end Event

namespace Dispatcher

lemma refused_perform {d : Dispatcher} (hs : d.Sound) {now : Instant} {c : Command}
    (h : Refused (d.perform now c).1) : ∃ n t, (d.perform now c).2 =
      { d with ids := d.ids.advance n, termination := { d.termination with lastActivity := t } } := by
  obtain ⟨hq, hr, n, hn⟩ := Event.refused_effect (e := ⟨d, now, c⟩) hs.queue h
  obtain ⟨hset, hsig, t, -, ht⟩ := continues_perform d now c
  refine ⟨n, t, ?_⟩
  change (d.perform now c).2.queue = d.queue at hq
  change (d.perform now c).2.roster = d.roster at hr
  change (d.perform now c).2.ids = d.ids.advance n at hn
  generalize (d.perform now c).2 = d' at *
  obtain ⟨settings, signature, ids, queue, roster, termination⟩ := d'
  subst hset hsig hn hq hr ht
  rfl

theorem refused_unchanged {ids : IdSource} (hids : Function.Injective ids.nth)
    (settings : DispatcherSettings) (start : Instant) (commands : List (Instant × Command)) :
    let d := (new settings ids start).run commands
    ∀ now c answer d', (performInPlace now c).exec d = (answer, d') →
      d.perform now c = (answer, d') ∧
      (Refused answer → ∃ n t, d' = { d with
        ids := d.ids.advance n
        termination := { d.termination with lastActivity := t } }) := by
  intro d now c answer d' h
  rw [exec_performInPlace] at h
  refine ⟨h, fun hr => ?_⟩
  have hs : d.Sound := sound_run hids settings start commands
  have hr' : Refused (d.perform now c).1 := by
    rw [h]
    exact hr
  have hu := refused_perform hs hr'
  rwa [h] at hu

theorem refused_unchanged_lostBucket :
    let d := (new plainSettings numberedIds .epoch).run lostBucket
    let request : SubmitRequest := ⟨⟨"w"⟩, ⟨"s"⟩, ⟨"id-1"⟩, ⟨⟨"id-3"⟩, [⟨⟨"C", "x", none⟩, []⟩]⟩⟩
    Function.Injective numberedIds.nth ∧ ∃ d' n t,
      (performInPlace .epoch (.submit request)).exec d =
        (.error (.unexpectedTest ⟨"id-3"⟩ ⟨"C", "x", none⟩), d') ∧
      Refused (.error (.unexpectedTest ⟨"id-3"⟩ ⟨"C", "x", none⟩)) ∧
      d' = { d with
        ids := d.ids.advance n
        termination := { d.termination with lastActivity := t } } := by
  intro d request
  have hids : Function.Injective numberedIds.nth := IdSource.sequential_injective "id"
  obtain ⟨d', hd⟩ : ∃ d', (performInPlace .epoch (.submit request)).exec d =
      (.error (.unexpectedTest ⟨"id-3"⟩ ⟨"C", "x", none⟩), d') := ⟨_, rfl⟩
  have hr : Refused (.error (.unexpectedTest ⟨"id-3"⟩ ⟨"C", "x", none⟩)) := trivial
  obtain ⟨n, t, h⟩ :=
    (refused_unchanged hids plainSettings .epoch lostBucket .epoch (.submit request) _ d' hd).2 hr
  exact ⟨hids, d', n, t, hd, hr, h⟩

end Dispatcher

end TestQueue
