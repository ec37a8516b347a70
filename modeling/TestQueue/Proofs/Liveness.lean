import TestQueue.Proofs.Effect
import TestQueue.Proofs.LateResult

namespace TestQueue

open Time (Instant)

/-! ### One worker -/

/-- All the changes of the status of a worker, each with the command that makes it. There is no
status of workers that have not registered. -/
inductive Liveness.Change (w : WorkerId) : Command → Option Liveness → Option Liveness → Prop
  | joins (declared : Option WorkerConfiguration) : Change w (.register w declared) none (some .alive)
  | silenced : Change w .sweep (some .alive) (some .silent)
  | lost : Change w .sweep (some .silent) (some .lost)
  | revived : Change w (.reportAlive w) (some .silent) (some .alive)
  | returns (declared : Option WorkerConfiguration) :
      Change w (.register w declared) (some .silent) (some .alive)
  | restarts (declared : Option WorkerConfiguration) :
      Change w (.register w declared) (some .lost) (some .alive)

namespace WorkerRecord

structure Regular (r : WorkerRecord) : Prop where
  registered : r.status ≠ .notRegistered
  heard : r.lastHeartbeat ≠ none
  configured : r.configuration ≠ none
  silentSince_iff : r.silentSince ≠ none ↔ r.status = .silent ∨ r.status = .lost
  idle : r.status ≠ .alive → r.processing = .empty

variable {r r' : WorkerRecord} {p : AlivenessPolicy} {now : Instant}

lemma alive_of_fallsSilent (h : r.fallsSilent p now = true) : r.status = .alive := by
  obtain ⟨heartbeat, -, hs⟩ := (Option.any_eq_true _ _).1 h
  simp only [goesSilent, Bool.and_eq_true, decide_eq_true_eq] at hs
  exact hs.1

lemma alive_of_eligible (h : r.eligibility = .eligible) :
    r.status = .alive ∧ r.blocked = false := by
  unfold eligibility at h
  cases hs : r.status <;> cases hb : r.blocked <;> simp [hs, hb] at h ⊢

lemma reportAlive_eq_ok_iff : r.reportAlive now = .ok r' ↔ (r.status = .alive ∨ r.status = .silent) ∧
    r' = { r with
      status := .alive
      lastHeartbeat := some now
      silentSince := if r.status = .silent then none else r.silentSince } := by
  unfold reportAlive
  cases r
  cases hs : ‹Liveness› <;> simp [eq_comm]

lemma reportAlive_of_lost (h : r.status = .lost) :
    r.reportAlive now = .error (.workerLost r.workerId) := by
  rw [reportAlive, h]

lemma regular_register (r : WorkerRecord) (c : WorkerConfiguration) (now : Instant) :
    (r.register c now).Regular where
  registered := by simp [register]
  heard := by simp [register]
  configured := by simp [register]
  silentSince_iff := by simp [register]
  idle h := absurd rfl h

lemma Regular.reportAlive (h : r.Regular) (ha : r.reportAlive now = .ok r') : r'.Regular := by
  obtain ⟨hst, rfl⟩ := reportAlive_eq_ok_iff.1 ha
  refine ⟨by simp, by simp, h.configured, ?_, fun hn => absurd rfl hn⟩
  rcases hst with hst | hst
  · have hnone := not_iff_not.2 h.silentSince_iff
    simp only [hst, reduceCtorEq, or_self, not_false_iff, iff_true] at hnone
    simpa [hst] using hnone
  · simp [hst]

lemma Regular.hold (h : r.Regular) (hst : r.status = .alive) (processing : BucketSet) :
    { r with processing }.Regular :=
  ⟨h.registered, h.heard, h.configured, h.silentSince_iff, fun hn => absurd hst hn⟩

lemma Regular.finish (h : r.Regular) (b : BucketId) :
    { r with processing := r.processing.erase b.text }.Regular :=
  ⟨h.registered, h.heard, h.configured, h.silentSince_iff, fun hn => by simp only [h.idle hn]; rfl⟩

lemma Regular.sweep (h : r.Regular) : (r.sweep p now).1.Regular := by
  have hout := sweep_swept p now r
  generalize r.sweep p now = out at hout
  cases hout with
  | kept _ => exact h
  | silenced _ => exact ⟨by simp [silence], h.heard, h.configured, by simp [silence], fun _ => rfl⟩
  | silencedAndLost _ =>
    exact ⟨by simp [lose], h.heard, h.configured, by simp [lose, silence], fun _ => rfl⟩
  | lost _ hst =>
    exact ⟨by simp [lose], h.heard, h.configured,
      by simpa [lose] using h.silentSince_iff.2 (Or.inl hst), fun _ => rfl⟩

lemma change_sweep (p : AlivenessPolicy) (now : Instant) (r : WorkerRecord) :
    (some r.status :: (r.sweep p now).2.map fun t => some t.status).IsChain
        (Liveness.Change r.workerId .sweep) ∧
      (some r.status :: (r.sweep p now).2.map fun t => some t.status).getLast? =
        some (some (r.sweep p now).1.status) := by
  have hout := sweep_swept p now r
  generalize r.sweep p now = out at hout
  cases hout with
  | kept _ => exact ⟨List.isChain_singleton _, rfl⟩
  | silenced hf =>
    rw [alive_of_fallsSilent hf]
    exact ⟨List.isChain_pair.2 .silenced, rfl⟩
  | silencedAndLost hf =>
    rw [alive_of_fallsSilent hf]
    exact ⟨List.isChain_cons_cons.2 ⟨.silenced, List.isChain_pair.2 .lost⟩, rfl⟩
  | lost _ hst =>
    rw [hst]
    exact ⟨List.isChain_pair.2 .lost, rfl⟩

lemma sweep_of_lost (h : r.status = .lost) : (r.sweep p now).1 = r := by
  have hout := sweep_swept p now r
  generalize r.sweep p now = out at hout
  cases hout with
  | kept _ => rfl
  | silenced hf => exact absurd (alive_of_fallsSilent hf) (by simp [h])
  | silencedAndLost hf => exact absurd (alive_of_fallsSilent hf) (by simp [h])
  | lost _ hst => exact absurd hst (by simp [h])

lemma blocked_sweep (p : AlivenessPolicy) (now : Instant) (r : WorkerRecord) :
    (r.sweep p now).1.blocked = r.blocked := by
  have hout := sweep_swept p now r
  generalize r.sweep p now = out at hout
  cases hout <;> rfl

end WorkerRecord

/-! ### All workers -/

namespace Roster

variable {t : Roster} {v w : WorkerId}

def status? (t : Roster) (w : WorkerId) : Option Liveness := (t.find? w).map WorkerRecord.status

lemma find?_didDequeue (t : Roster) (v : WorkerId) (b : BucketId) (w : WorkerId) :
    (t.didDequeue v b).find? w = if w = v then
      (t.find? v).map fun r => { r with processing := r.processing.insert b } else t.find? w :=
  find?_modify (f := fun r => { r with processing := r.processing.insert b }) (fun _ => rfl) t v w

lemma find?_didFinish (t : Roster) (v : WorkerId) (b : BucketId) (w : WorkerId) :
    (t.didFinish v b).find? w = if w = v then
      (t.find? v).map fun r => { r with processing := r.processing.erase b.text } else t.find? w :=
  find?_modify (f := fun r => { r with processing := r.processing.erase b.text })
    (fun _ => rfl) t v w

lemma find?_sweep (t : Roster) (now : Instant) (w : WorkerId) :
    (t.sweep now).2.find? w = (t.find? w).map fun r => (r.sweep t.policy now).1 :=
  t.workers.find?_map _ (fun r => by rw [WorkerRecord.workerId_sweep]) _

lemma filter_sweep (t : Roster) (now : Instant) (w : WorkerId) :
    ((t.sweep now).1.filter fun x => x.workerId = w) =
      ((t.find? w).map fun r => (r.sweep t.policy now).2).getD [] := by
  have hone (r : WorkerRecord) : ((r.sweep t.policy now).2.filter fun x => x.workerId = w) =
      if r.workerId = w then (r.sweep t.policy now).2 else [] := by
    split
    · next h =>
      exact List.filter_eq_self.2 fun x hx => by
        simpa using (WorkerRecord.workerId_of_mem_sweep hx).trans h
    · next h =>
      exact List.filter_eq_nil_iff.2 fun x hx => by
        simpa [WorkerRecord.workerId_of_mem_sweep hx] using h
  have hrecord : (t.workers.items.filter fun r => r.workerId = w) = (t.find? w).toList := by
    simpa only [WorkerId.text_injective.eq_iff] using! t.workers.filter_key w.text
  have hsplit (l : List WorkerRecord) :
      (l.flatMap fun r => if r.workerId = w then (r.sweep t.policy now).2 else []) =
        (l.filter fun r => r.workerId = w).flatMap fun r => (r.sweep t.policy now).2 := by
    induction l with
    | nil => rfl
    | cons r l ih => by_cases h : r.workerId = w <;> simp [h, ih]
  rw [sweep, List.filter_flatMap]
  simp only [hone]
  rw [hsplit, hrecord]
  cases t.find? w with
  | none => rfl
  | some r => simp

end Roster

namespace Dispatcher

lemma roster_fetchBucket (d : Dispatcher) (request : FetchRequest) (now : Instant) :
    (d.fetchBucket request now).2.roster = d.roster ∨
      d.roster.eligibility request.workerId = .eligible ∧
        ∃ b, (d.fetchBucket request now).2.roster = d.roster.didDequeue request.workerId b := by
  unfold fetchBucket
  split
  · exact Or.inl rfl
  · dsimp only
    split
    · exact Or.inl rfl
    · next hden =>
      unfold handOut
      split
      · next h _ _ =>
        exact Or.inr ⟨Event.eligible_of_denial (d := d) hden, h.bucket.bucketId, rfl⟩
      · exact Or.inl rfl
      · exact Or.inl rfl

lemma roster_submitResult (d : Dispatcher) (request : SubmitRequest) (now : Instant) :
    (d.submitResult request now).2.roster = d.roster ∨
      ∃ b, (d.submitResult request now).2.roster = d.roster.didFinish request.workerId b := by
  unfold submitResult
  split
  · exact Or.inl rfl
  · dsimp only
    split
    · unfold settle
      split
      · exact Or.inl rfl
      · exact Or.inl rfl
      · next b _ _ _ _ => exact Or.inr ⟨b, rfl⟩
    · exact Or.inl rfl

lemma roster_scheduleTests (d : Dispatcher) (request : ScheduleRequest) (now : Instant) :
    (d.scheduleTests request now).2.roster = d.roster := by
  unfold scheduleTests enqueueTests
  dsimp only
  split
  · rfl
  · split <;> rfl

lemma roster_deleteJob (d : Dispatcher) (j : JobId) : (d.deleteJob j).2.roster = d.roster := by
  unfold deleteJob
  split <;> rfl

end Dispatcher

namespace Event

variable {e : Event} {v w : WorkerId}

inductive RecordEffect (e : Event) (w : WorkerId) :
    Option WorkerRecord → Option WorkerRecord → Prop
  | kept (r : Option WorkerRecord) : RecordEffect e w r r
  | registered {declared : Option WorkerConfiguration} {c : WorkerConfiguration}
      (r : Option WorkerRecord) (command : e.command = .register w declared)
      (answer : e.answer = .ok (.registered c)) :
      RecordEffect e w r (some ((r.getD (.notRegistered w)).register c e.now))
  | heard {r r' : WorkerRecord} (command : e.command = .reportAlive w)
      (report : r.reportAlive e.now = .ok r') : RecordEffect e w (some r) (some r')
  | blocked {r : WorkerRecord} {flag : Bool} (command : e.command = .setBlocked w flag) :
      RecordEffect e w (some r) (some { r with blocked := flag })
  | held {r : WorkerRecord} (b : BucketId) (eligible : r.eligibility = .eligible) :
      RecordEffect e w (some r) (some { r with processing := r.processing.insert b })
  | finished {r : WorkerRecord} (b : BucketId) :
      RecordEffect e w (some r) (some { r with processing := r.processing.erase b.text })
  | swept {r : WorkerRecord} (command : e.command = .sweep) :
      RecordEffect e w (some r) (some (r.sweep e.server.roster.policy e.now).1)

lemma recordEffect_of_kept (h : e.after.roster = e.server.roster) :
    e.RecordEffect w (e.server.roster.find? w) (e.after.roster.find? w) := by
  rw [h]
  exact .kept _

lemma recordEffect_of_update {o : Option WorkerRecord} {r : WorkerRecord}
    (ho : e.server.roster.find? v = o)
    (hr : ∀ w, e.after.roster.find? w = if w = v then some r else e.server.roster.find? w)
    (he : e.RecordEffect v o (some r)) :
    e.RecordEffect w (e.server.roster.find? w) (e.after.roster.find? w) := by
  rw [hr]
  split
  · next h =>
    rw [h, ho]
    exact he
  · exact .kept _

lemma recordEffect (e : Event) (w : WorkerId) :
    e.RecordEffect w (e.server.roster.find? w) (e.after.roster.find? w) := by
  obtain ⟨d, now, c⟩ := e
  cases c with
  | register v declared =>
    have hans : (Event.mk d now (.register v declared)).answer =
      (d.registerWorker v declared now).1.map .registered := rfl
    have haft : (Event.mk d now (.register v declared)).after =
      (d.registerWorker v declared now).2 := rfl
    unfold Dispatcher.registerWorker at hans haft
    cases ha : d.admission v declared with
    | error err =>
      rw [ha] at haft
      exact recordEffect_of_kept (by rw [haft])
    | ok c =>
      rw [ha] at hans haft
      refine recordEffect_of_update rfl (fun w => ?_) (.registered _ rfl hans)
      rw [haft, Roster.find?_register]
      rfl
  | reportAlive v =>
    have haft : (Event.mk d now (.reportAlive v)).after = (d.reportAlive v now).2 := rfl
    unfold Dispatcher.reportAlive at haft
    cases ha : d.roster.reportAlive v now with
    | error err =>
      rw [ha] at haft
      exact recordEffect_of_kept (by rw [haft])
    | ok x =>
      rw [ha] at haft
      obtain ⟨r, r', hf, hr, hall⟩ := Roster.find?_reportAlive ha
      exact recordEffect_of_update hf (by rw [haft]; exact hall) (.heard rfl hr)
  | setBlocked v flag =>
    have haft : (Event.mk d now (.setBlocked v flag)).after = (d.setWorkerBlocked v flag).2 := rfl
    unfold Dispatcher.setWorkerBlocked at haft
    cases ha : d.roster.setBlocked v flag with
    | error err =>
      rw [ha] at haft
      exact recordEffect_of_kept (by rw [haft])
    | ok x =>
      rw [ha] at haft
      obtain ⟨r, hf, hall⟩ := Roster.find?_setBlocked ha
      exact recordEffect_of_update hf (by rw [haft]; exact hall) (.blocked rfl)
  | fetch request =>
    obtain hk | ⟨hel, b, hr⟩ := d.roster_fetchBucket request now
    · exact recordEffect_of_kept hk
    · obtain ⟨r, hf⟩ := Roster.find?_of_isKnown (Roster.isKnown_of_eligible hel)
      rw [Roster.eligibility, Roster.record_of_find? hf] at hel
      refine recordEffect_of_update hf (fun w => ?_) (.held b hel)
      change (d.fetchBucket request now).2.roster.find? w = _
      rw [hr, Roster.find?_didDequeue, hf, Option.map_some]
  | submit request =>
    obtain hk | ⟨b, hr⟩ := d.roster_submitResult request now
    · exact recordEffect_of_kept hk
    · change Event.RecordEffect _ w _ ((d.submitResult request now).2.roster.find? w)
      rw [hr, Roster.find?_didFinish]
      split
      · next h =>
        subst h
        cases d.roster.find? request.workerId with
        | none => exact .kept _
        | some r => exact .finished b
      · exact .kept _
  | schedule request => exact recordEffect_of_kept (d.roster_scheduleTests request now)
  | deleteJob j => exact recordEffect_of_kept (d.roster_deleteJob j)
  | sweep =>
    change Event.RecordEffect _ w _ ((d.roster.sweep now).2.find? w)
    rw [Roster.find?_sweep]
    cases d.roster.find? w with
    | none => exact .kept _
    | some r => exact .swept rfl
  | version | listWorkers | workersByStatus | worker | processing | jobState | jobResults =>
    exact recordEffect_of_kept rfl

/-- The statuses that a worker gets by an event, one after the other. A sweep reports them. -/
def statuses (e : Event) (w : WorkerId) : List (Option Liveness) :=
  match e.answer with
  | .ok (.swept transitions) =>
    (transitions.filter fun t => t.workerId = w).map fun t => some t.status
  | _ => [e.after.roster.status? w].filter (· ≠ e.server.roster.status? w)

structure Orderly (e : Event) (w : WorkerId) : Prop where
  chain : (e.server.roster.status? w :: e.statuses w).IsChain (Liveness.Change w e.command)
  last : (e.server.roster.status? w :: e.statuses w).getLast? = some (e.after.roster.status? w)

def Registers (e : Event) (w : WorkerId) : Prop :=
  ∃ declared c, e.command = .register w declared ∧ e.answer = .ok (.registered c)

lemma regular_after (h : ∀ w r, e.server.roster.find? w = some r → r.Regular) (w : WorkerId)
    (r : WorkerRecord) (hr : e.after.roster.find? w = some r) : r.Regular := by
  have he := e.recordEffect w
  specialize h w
  rw [hr] at he
  generalize e.server.roster.find? w = o at h he
  cases he with
  | kept => exact h r rfl
  | registered _ _ => exact WorkerRecord.regular_register _ _ _
  | heard _ ha => exact (h _ rfl).reportAlive ha
  | blocked _ =>
    obtain ⟨hreg, hh, hc, hsi, hi⟩ := h _ rfl
    exact ⟨hreg, hh, hc, hsi, hi⟩
  | held b hel => exact (h _ rfl).hold (WorkerRecord.alive_of_eligible hel).1 _
  | finished b => exact (h _ rfl).finish b
  | swept _ => exact (h _ rfl).sweep

lemma status_after (h : ∀ r, e.server.roster.find? w = some r → r.Regular)
    (hc : e.command ≠ .sweep) : e.after.roster.status? w = e.server.roster.status? w ∨
      Liveness.Change w e.command (e.server.roster.status? w) (e.after.roster.status? w) := by
  have he := e.recordEffect w
  unfold Roster.status?
  generalize e.server.roster.find? w = o at h he ⊢
  generalize e.after.roster.find? w = o' at he ⊢
  cases he with
  | kept | held | finished | blocked => exact Or.inl rfl
  | @registered declared c _ hcmd _ =>
    rw [hcmd]
    cases o with
    | none => exact Or.inr (.joins declared)
    | some r =>
      have hreg := (h r rfl).registered
      cases hst : r.status with
      | notRegistered => exact absurd hst hreg
      | alive => exact Or.inl (by simp [hst, WorkerRecord.register])
      | silent => exact Or.inr (by simpa [hst] using! Liveness.Change.returns declared)
      | lost => exact Or.inr (by simpa [hst] using! Liveness.Change.restarts declared)
  | @heard r r' hcmd ha =>
    rw [hcmd]
    obtain ⟨hst | hst, rfl⟩ := WorkerRecord.reportAlive_eq_ok_iff.1 ha
    · exact Or.inl (by simp [hst])
    · exact Or.inr (by simpa [hst] using Liveness.Change.revived)
  | swept hcmd => exact absurd hcmd hc

lemma orderly (h : ∀ r, e.server.roster.find? w = some r → r.Regular) : e.Orderly w := by
  by_cases hc : e.command = .sweep
  · obtain ⟨d, now, c⟩ := e
    obtain rfl : c = .sweep := hc
    have hst : (Event.mk d now .sweep).statuses w =
        ((d.roster.sweep now).1.filter fun t => t.workerId = w).map fun t => some t.status := rfl
    have haft : (Event.mk d now .sweep).after.roster.status? w =
        ((d.roster.sweep now).2.find? w).map WorkerRecord.status := rfl
    rw [Roster.filter_sweep] at hst
    rw [Roster.find?_sweep] at haft
    have hbefore : d.roster.status? w = (d.roster.find? w).map WorkerRecord.status := rfl
    cases hf : d.roster.find? w with
    | none =>
      rw [hf] at hst haft hbefore
      constructor
      · rw [hst]
        exact List.isChain_singleton _
      · rw [hst, haft, hbefore]
        rfl
    | some r =>
      rw [hf] at hst haft hbefore
      have hsw := r.change_sweep d.roster.policy now
      rw [(Roster.find?_eq_some_iff.1 hf).2] at hsw
      constructor
      · rw [hst, hbefore]
        exact hsw.1
      · rw [hst, haft, hbefore]
        exact hsw.2
  · have hst : e.statuses w =
        [e.after.roster.status? w].filter (· ≠ e.server.roster.status? w) := by
      unfold statuses
      split
      · next ha =>
        have hkind := answer_inKind ha
        cases hcmd : e.command <;> simp [inKind, hcmd] at hkind hc
      · rfl
    by_cases hsame : e.after.roster.status? w = e.server.roster.status? w
    · have hnil : e.statuses w = [] := by simp [hst, hsame]
      exact ⟨by rw [hnil]; exact List.isChain_singleton _, by rw [hnil, hsame]; rfl⟩
    · have hone : e.statuses w = [e.after.roster.status? w] := by simp [hst, hsame]
      exact ⟨by rw [hone]; exact List.isChain_pair.2 ((status_after h hc).resolve_left hsame),
        by rw [hone]; rfl⟩

lemma blocked_after (e : Event) (w : WorkerId) :
    (e.after.roster.record w).blocked = (e.server.roster.record w).blocked ∨
      e.command = .setBlocked w (e.after.roster.record w).blocked := by
  have he := e.recordEffect w
  unfold Roster.record
  generalize e.server.roster.find? w = o at he ⊢
  generalize e.after.roster.find? w = o' at he ⊢
  cases he with
  | kept | held | finished => exact Or.inl rfl
  | registered _ _ => exact Or.inl rfl
  | heard _ ha =>
    obtain ⟨-, rfl⟩ := WorkerRecord.reportAlive_eq_ok_iff.1 ha
    exact Or.inl rfl
  | blocked hcmd => exact Or.inr hcmd
  | swept _ => exact Or.inl (WorkerRecord.blocked_sweep _ _ _)

lemma lost_after (h : e.server.roster.status? w = some .lost) (hr : ¬ e.Registers w) :
    e.after.roster.status? w = some .lost := by
  have he := e.recordEffect w
  unfold Roster.status? at h ⊢
  generalize e.server.roster.find? w = o at h he
  generalize e.after.roster.find? w = o' at he ⊢
  cases he with
  | kept | held | finished | blocked => exact h
  | registered _ hcmd ha => exact absurd ⟨_, _, hcmd, ha⟩ hr
  | heard _ ha =>
    have hst := (WorkerRecord.reportAlive_eq_ok_iff.1 ha).1
    rw [Option.some.inj h] at hst
    simp at hst
  | swept _ => rw [Option.map_some, WorkerRecord.sweep_of_lost (Option.some.inj h)]; exact h

lemma reportAlive_of_lost (h : e.server.roster.status? w = some .lost)
    (hc : e.command = .reportAlive w) : e.answer = .error (.workerLost w) := by
  obtain ⟨r, hf, hst⟩ := Option.map_eq_some_iff.1 h
  obtain ⟨d, now, c⟩ := e
  obtain rfl : c = .reportAlive w := hc
  have hr : d.roster.reportAlive w now = .error (.workerLost w) := by
    have hlost : r.reportAlive now = _ := WorkerRecord.reportAlive_of_lost hst
    rw [(Roster.find?_eq_some_iff.1 hf).2] at hlost
    simp only [Roster.reportAlive, Roster.known, hf, bind, Except.bind, hlost]
  simp [answer, Dispatcher.perform, Dispatcher.answering, Dispatcher.reportAlive, hr, Except.map]

lemma not_handsOut_of_not_eligible {b : BucketId} {r : RequestId}
    (h : e.server.roster.eligibility w ≠ .eligible) : ¬ e.HandsOut b w r := by
  rintro ⟨request, bucket, hc, rfl, -, ha, -⟩
  rw [answer, hc] at ha
  exact h (may_fetch ha).2

end Event

namespace Dispatcher

lemma regular_run (settings : DispatcherSettings) (ids : IdSource) (start : Instant)
    (commands : List (Instant × Command)) (w : WorkerId) (r : WorkerRecord) :
    ((new settings ids start).run commands).roster.find? w = some r → r.Regular :=
  run_induction (d := new settings ids start)
    (P := fun _ d => ∀ w r, d.roster.find? w = some r → r.Regular) (fun _ _ h => by cases h)
    (fun _ _ h => Event.regular_after h) commands w r

lemma lost_run {d : Dispatcher} {w : WorkerId} (h : d.roster.status? w = some .lost)
    (later : List (Instant × Command)) : (∀ e ∈ d.history later, ¬ e.Registers w) →
      (d.run later).roster.status? w = some .lost ∧
      ∀ e ∈ d.history later, (e.command = .reportAlive w → e.answer = .error (.workerLost w)) ∧
        ∀ b r, ¬ e.HandsOut b w r := by
  refine run_induction (P := fun past d' => (∀ e ∈ past, ¬ e.Registers w) →
    d'.roster.status? w = some .lost ∧ ∀ e ∈ past, (e.command = .reportAlive w →
      e.answer = .error (.workerLost w)) ∧ ∀ b r, ¬ e.HandsOut b w r)
    (fun _ => ⟨h, fun _ he => by cases he⟩) (fun past e ih hr => ?_) later
  rw [List.forall_mem_cons] at hr
  obtain ⟨hl, hpast⟩ := ih hr.2
  refine ⟨Event.lost_after hl hr.1, List.forall_mem_cons.2
    ⟨⟨Event.reportAlive_of_lost hl, fun b r => Event.not_handsOut_of_not_eligible ?_⟩, hpast⟩⟩
  obtain ⟨q, hf, hst⟩ := Option.map_eq_some_iff.1 hl
  rw [Roster.eligibility, Roster.record_of_find? hf, WorkerRecord.eligibility, hst]
  simp

lemma blocked_run {d : Dispatcher} {w : WorkerId} (h : (d.roster.record w).blocked = true)
    (later : List (Instant × Command)) : (∀ e ∈ d.history later, e.command ≠ .setBlocked w false) →
      ((d.run later).roster.record w).blocked = true ∧
      ∀ e ∈ d.history later, ∀ b r, ¬ e.HandsOut b w r := by
  refine run_induction (P := fun past d' => (∀ e ∈ past, e.command ≠ .setBlocked w false) →
    (d'.roster.record w).blocked = true ∧ ∀ e ∈ past, ∀ b r, ¬ e.HandsOut b w r)
    (fun _ => ⟨h, fun _ he => by cases he⟩) (fun past e ih hc => ?_) later
  rw [List.forall_mem_cons] at hc
  obtain ⟨hb, hpast⟩ := ih hc.2
  constructor
  · rcases e.blocked_after w with hsame | hset
    · rw [hsame, hb]
    · cases hflag : (e.after.roster.record w).blocked with
      | true => rfl
      | false => exact absurd (hflag ▸ hset) hc.1
  · refine List.forall_mem_cons.2 ⟨fun b r => Event.not_handsOut_of_not_eligible fun hel => ?_, hpast⟩
    rw [(Roster.eligibility_eq_eligible.1 hel).2] at hb
    cases hb

theorem worker_statuses (settings : DispatcherSettings) (ids : IdSource) (start : Instant)
    (commands : List (Instant × Command)) :
    let past := (new settings ids start).history commands
    let d := (new settings ids start).run commands
    (∀ e ∈ past, ∀ w, e.Orderly w) ∧
    (∀ r ∈ d.roster.workers.items, r.Regular) ∧
    (∀ w, d.roster.status? w = some .lost → ∀ later, (∀ e ∈ d.history later, ¬ e.Registers w) →
      (d.run later).roster.status? w = some .lost ∧
      ∀ e ∈ d.history later, (e.command = .reportAlive w → e.answer = .error (.workerLost w)) ∧
        ∀ b r, ¬ e.HandsOut b w r) ∧
    (∀ e ∈ past, ∀ w, (e.after.roster.record w).blocked ≠ (e.server.roster.record w).blocked →
      e.command = .setBlocked w (e.after.roster.record w).blocked) ∧
    (∀ w, (d.roster.record w).blocked = true →
      ∀ later, (∀ e ∈ d.history later, e.command ≠ .setBlocked w false) →
        ((d.run later).roster.record w).blocked = true ∧
        ∀ e ∈ d.history later, ∀ b r, ¬ e.HandsOut b w r) := by
  intro past d
  refine ⟨?_, fun r hr => ?_, fun w h later => lost_run h later,
    fun e _ w hne => (e.blocked_after w).resolve_left hne, fun w h later => blocked_run h later⟩
  · -- the server of an event is one that the run got to
    refine (run_induction (d := new settings ids start) (P := fun past d =>
      (∀ w r, d.roster.find? w = some r → r.Regular) ∧ ∀ e ∈ past, ∀ w, e.Orderly w)
      ⟨fun _ _ h => (by cases h), fun _ h => (by cases h)⟩ (fun past e ih => ?_) commands).2
    exact ⟨Event.regular_after ih.1,
      List.forall_mem_cons.2 ⟨fun w => Event.orderly (ih.1 w), ih.2⟩⟩
  · exact regular_run settings ids start commands r.workerId r
      (Roster.find?_eq_some_iff.2 ⟨hr, rfl⟩)

def longOverdue : Instant := ⟨601, 0, by decide, by decide, by decide⟩

def blockedAndLost : List (Instant × Command) :=
  lostBucket ++ [(.epoch, .setBlocked ⟨"w"⟩ true), (longOverdue, .sweep)]

theorem worker_statuses_blockedAndLost :
    let d := (new plainSettings numberedIds .epoch).run blockedAndLost
    let heartbeat : Event := ⟨d, longOverdue, .reportAlive ⟨"w"⟩⟩
    let registration : List (Instant × Command) := [(longOverdue, .register ⟨"w"⟩ none)]
    let registered := d.run registration
    let fetch : Event := ⟨registered, longOverdue, .fetch ⟨⟨"w"⟩, ⟨"t"⟩, ⟨"id-1"⟩⟩⟩
    d.roster.status? ⟨"w"⟩ = some .lost ∧ (d.roster.record ⟨"w"⟩).blocked = true ∧
      heartbeat.answer = .error (.workerLost ⟨"w"⟩) ∧ heartbeat.after.roster.status? ⟨"w"⟩ = some .lost ∧
      registered.roster.status? ⟨"w"⟩ = some .alive ∧ (registered.roster.record ⟨"w"⟩).blocked = true ∧
      ∀ b r, ¬ fetch.HandsOut b ⟨"w"⟩ r := by
  intro d heartbeat registration registered fetch
  have hl : d.roster.status? ⟨"w"⟩ = some .lost := by decide +kernel
  have hb : (d.roster.record ⟨"w"⟩).blocked = true := by decide +kernel
  obtain ⟨-, -, hlost, -, hblocked⟩ :=
    worker_statuses plainSettings numberedIds .epoch blockedAndLost
  obtain ⟨hl', hrefused⟩ := hlost ⟨"w"⟩ hl [(longOverdue, .reportAlive ⟨"w"⟩)] fun e he => by
    obtain rfl := List.mem_singleton.1 he
    rintro ⟨_, _, hc, -⟩
    cases hc
  obtain ⟨-, hnone⟩ := hblocked ⟨"w"⟩ hb (registration ++ [(fetch.now, fetch.command)]) fun e he => by
    rcases List.mem_pair.1 he with rfl | rfl <;> simp [fetch]
  have ha : registered.roster.status? ⟨"w"⟩ = some .alive := by decide +kernel
  have hb' : (registered.roster.record ⟨"w"⟩).blocked = true := by decide +kernel
  exact ⟨hl, hb, (hrefused heartbeat (List.mem_singleton_self _)).1 rfl, hl', ha, hb',
    hnone fetch List.mem_cons_self⟩

end Dispatcher

end TestQueue
