import TestQueue.Proofs.BucketQueue.Operations
import TestQueue.Proofs.History

/-!
The operations as steps that change the state at once, in the order in which the changes are made.
What was changed before a failure stays changed. Each of them does what the operation says that
computes the new state, and leaves the old one if it fails.
-/

namespace TestQueue

open Time (Instant)

abbrev InPlace (σ : Type) := ExceptT QueueError (StateM σ)

namespace InPlace

variable {σ τ α β : Type}

def exec (m : InPlace σ α) (s : σ) : Except QueueError α × σ := m.run.run s

def on (m : InPlace τ α) (part : σ → τ) (put : σ → τ → σ) : InPlace σ α :=
  ExceptT.mk fun s => ((m.exec (part s)).1, put s (m.exec (part s)).2)

/-- A change that is made in the end, also after a failure. -/
def lastly (m : InPlace σ α) (f : σ → σ) : InPlace σ α :=
  ExceptT.mk fun s => ((m.exec s).1, f (m.exec s).2)

def whole (f : σ → Except QueueError (α × σ)) (s : σ) : Except QueueError α × σ :=
  match f s with
  | .ok (a, s') => (.ok a, s')
  | .error e => (.error e, s)

@[simp] lemma exec_throw (e : QueueError) (s : σ) :
    (throw e : InPlace σ α).exec s = (.error e, s) := rfl

@[simp] lemma exec_get (s : σ) : (get : InPlace σ σ).exec s = (.ok s, s) := rfl

@[simp] lemma exec_modify (f : σ → σ) (s : σ) :
    (modify f : InPlace σ PUnit).exec s = (.ok ⟨⟩, f s) := rfl

@[simp] lemma exec_ofExcept (x : Except QueueError α) (s : σ) :
    (MonadExcept.ofExcept x : InPlace σ α).exec s = (x, s) := by
  cases x <;> rfl

@[simp] lemma exec_bind (m : InPlace σ α) (f : α → InPlace σ β) (s : σ) :
    (m >>= f).exec s = match m.exec s with
      | (.ok a, s') => (f a).exec s'
      | (.error e, s') => (.error e, s') := by
  simp only [exec, ExceptT.run_bind, StateT.run_bind]
  rcases m.run.run s with ⟨a | a, s'⟩ <;> rfl

@[simp] lemma exec_on (m : InPlace τ α) (part : σ → τ) (put : σ → τ → σ) (s : σ) :
    (m.on part put).exec s = ((m.exec (part s)).1, put s (m.exec (part s)).2) := rfl

@[simp] lemma exec_map (f : α → β) (m : InPlace σ α) (s : σ) :
    (f <$> m).exec s = ((m.exec s).1.map f, (m.exec s).2) := by
  rw [map_eq_pure_bind, exec_bind]
  rcases m.exec s with ⟨a | a, s'⟩ <;> rfl

@[simp] lemma exec_lastly (m : InPlace σ α) (f : σ → σ) (s : σ) :
    (m.lastly f).exec s = ((m.exec s).1, f (m.exec s).2) := rfl

end InPlace

/-! ### One job -/

namespace JobQueue

def acceptInPlace (result : BucketResult) (w : WorkerId) (r : RequestId) :
    InPlace (JobQueue × IdSource) Acceptance := do
  let b := result.bucketId
  let s ← get
  match s.1.outstanding.find? b with
  | none => return .stale (if b ∈ s.1.finishedIds then .hasResult b else .notOut b)
  | some o =>
    if o.handOut.isFor w r then
      match result.tests.find? (· ∉ o.handOut.bucket.tests) with
      | some t => throw (.unexpectedTest b t)
      | none =>
        modify fun s => ({ s.1 with outstanding := s.1.outstanding.erase b }, s.2)
        let complete := result.withLost o.handOut.bucket.tests
        let residual ← modifyGet fun s =>
          let (residual, ids) := s.1.retry o.handOut.bucket complete.failing s.2
          (residual, (s.1, ids))
        modify fun s => ({ s.1 with pending := s.1.pending ++ residual.toList }, s.2)
        modify fun s => ({ s.1 with finishedIds := s.1.finishedIds ++ [b] }, s.2)
        modify fun s => ({ s.1 with finished := s.1.finished ++ [complete] }, s.2)
        return .accepted b (residual.map Bucket.bucketId)
    else return .stale (.ownedBy b o.handOut.workerId o.handOut.requestId)

lemma exec_acceptInPlace (q : JobQueue) (result : BucketResult) (w : WorkerId) (r : RequestId)
    (ids : IdSource) : (acceptInPlace result w r).exec (q, ids) =
      InPlace.whole (fun s => s.1.accept result w r s.2) (q, ids) := by
  simp only [acceptInPlace, InPlace.exec_bind, InPlace.exec_get, InPlace.whole, accept]
  cases q.outstanding.find? result.bucketId with
  | none => rfl
  | some o =>
    dsimp only
    split
    · cases result.tests.find? (· ∉ o.handOut.bucket.tests) with
      | some t => rfl
      | none => rfl
    · rfl

end JobQueue

/-! ### The queue of all jobs -/

namespace BucketQueue

variable {j : JobId}

def enqueueInPlace (j : JobId) (priority : Priority) (buckets : List Bucket) :
    InPlace BucketQueue PrioritizedJob := do
  modify (·.withJob j priority)
  let jq ← MonadExcept.ofExcept ((← get).job? j)
  if jq.deleted then throw (.jobDeleted j)
  else
    modify fun q => { q with owners := assign q.owners j (buckets.map Bucket.bucketId) }
    modify (·.put j (jq.enqueue buckets))
    return jq.job

def acceptInPlace (result : BucketResult) (w : WorkerId) (r : RequestId) :
    InPlace (BucketQueue × IdSource) Acceptance := do
  let s ← get
  match s.1.owners.find? result.bucketId with
  | none => throw (.unknownBucket result.bucketId)
  | some j =>
    match s.1.jobs.find? j with
    | none => throw (.unknownBucket result.bucketId)
    | some jq =>
      let acceptance ← (JobQueue.acceptInPlace result w r).on (fun s => (jq, s.2))
        fun s t => (s.1.put j t.1, t.2)
      modify fun s => match acceptance with
        | .accepted _ (some retry) =>
          ({ s.1 with owners := s.1.owners.insert retry j }, s.2)
        | _ => s
      modify fun s => (s.1.finalize j, s.2)
      return acceptance

def deleteInPlace (j : JobId) : InPlace BucketQueue JobState := do
  let jq ← MonadExcept.ofExcept ((← get).job? j)
  modify (·.put j jq.markDeleted)
  modify (·.finalize j)
  return jq.markDeleted.state

lemma exec_enqueueInPlace (q : BucketQueue) (j : JobId) (priority : Priority)
    (buckets : List Bucket) : (enqueueInPlace j priority buckets).exec q =
      InPlace.whole (·.enqueue j priority buckets) q := by
  simp only [enqueueInPlace, InPlace.exec_bind, InPlace.exec_modify, InPlace.exec_get,
    InPlace.exec_ofExcept, job?_withJob]
  simp only [InPlace.whole, enqueue, job?_withJob, bind, Except.bind]
  cases hd : (q.jobOr j priority).deleted with
  | true => simp [withJob_of_deleted hd]
  | false => rfl

lemma exec_acceptInPlace (q : BucketQueue) (result : BucketResult) (w : WorkerId) (r : RequestId)
    (ids : IdSource) : (acceptInPlace result w r).exec (q, ids) =
      InPlace.whole (fun s => s.1.accept result w r s.2) (q, ids) := by
  simp only [acceptInPlace, InPlace.exec_bind, InPlace.exec_get, InPlace.whole, accept]
  cases q.owners.find? result.bucketId with
  | none => rfl
  | some j =>
    dsimp only
    cases hj : q.jobs.find? j with
    | none => rfl
    | some jq =>
      simp only [InPlace.exec_bind, InPlace.exec_on, JobQueue.exec_acceptInPlace, InPlace.whole]
      cases jq.accept result w r ids with
      | error e =>
        dsimp only
        rw [put_eq_self hj]
        rfl
      | ok x =>
        obtain ⟨acceptance, jq', ids'⟩ := x
        dsimp only [bind, Except.bind]
        cases acceptance with
        | accepted b retry => cases retry <;> rfl
        | stale why => rfl

lemma exec_deleteInPlace (q : BucketQueue) (j : JobId) :
    (deleteInPlace j).exec q = InPlace.whole (·.delete j) q := by
  simp only [deleteInPlace, InPlace.exec_bind, InPlace.exec_get, InPlace.exec_ofExcept,
    InPlace.whole, delete]
  cases q.job? j with
  | error e => rfl
  | ok jq => rfl

end BucketQueue

/-! ### The roster -/

namespace Roster

def reportAliveInPlace (w : WorkerId) (now : Instant) : InPlace Roster Liveness := do
  let t ← get
  let r ← MonadExcept.ofExcept (t.known w)
  let r ← MonadExcept.ofExcept (r.reportAlive now)
  set (t.put r)
  return r.status

def setBlockedInPlace (w : WorkerId) (blocked : Bool) : InPlace Roster WorkerRecord := do
  let t ← get
  let r ← MonadExcept.ofExcept (t.known w)
  set (t.put { r with blocked })
  return { r with blocked }

lemma exec_reportAliveInPlace (t : Roster) (w : WorkerId) (now : Instant) :
    (reportAliveInPlace w now).exec t = InPlace.whole (·.reportAlive w now) t := by
  simp only [reportAliveInPlace, InPlace.exec_bind, InPlace.exec_get, InPlace.exec_ofExcept,
    InPlace.whole, reportAlive]
  cases t.known w with
  | error e => rfl
  | ok r =>
    dsimp only [bind, Except.bind]
    cases r.reportAlive now with
    | error e => rfl
    | ok r' => rfl

lemma exec_setBlockedInPlace (t : Roster) (w : WorkerId) (blocked : Bool) :
    (setBlockedInPlace w blocked).exec t = InPlace.whole (·.setBlocked w blocked) t := by
  simp only [setBlockedInPlace, InPlace.exec_bind, InPlace.exec_get, InPlace.exec_ofExcept,
    InPlace.whole, setBlocked]
  cases t.known w with
  | error e => rfl
  | ok r => rfl

end Roster

/-! ### The server -/

namespace Dispatcher

section

variable {α : Type}

def onQueue (m : InPlace BucketQueue α) : InPlace Dispatcher α :=
  m.on Dispatcher.queue fun d queue => { d with queue }

def onQueueAndIds (m : InPlace (BucketQueue × IdSource) α) : InPlace Dispatcher α :=
  m.on (fun d => (d.queue, d.ids)) fun d s => { d with queue := s.1, ids := s.2 }

def onRoster (m : InPlace Roster α) : InPlace Dispatcher α :=
  m.on Dispatcher.roster fun d roster => { d with roster }

end

def registerInPlace (w : WorkerId) (declared : Option WorkerConfiguration) (now : Instant) :
    InPlace Dispatcher WorkerConfiguration := do
  let c ← MonadExcept.ofExcept ((← get).admission w declared)
  modify (·.indicateActivity now)
  modify fun d => { d with roster := d.roster.register w c now }
  return c

def fetchInPlace (request : FetchRequest) (now : Instant) : InPlace Dispatcher FetchAnswer := do
  if request.signature ≠ (← get).signature then throw .signatureMismatch
  else
    modify (·.indicateActivity now)
    match (← get).denial request.workerId with
    | some answer => return answer
    | none => modifyGet (·.handOut request.workerId request.requestId now)

def submitInPlace (request : SubmitRequest) (now : Instant) : InPlace Dispatcher SubmitAnswer := do
  if request.signature ≠ (← get).signature then throw .signatureMismatch
  else
    modify (·.indicateActivity now)
    if (← get).roster.isKnown request.workerId then
      let acceptance ← onQueueAndIds
        (BucketQueue.acceptInPlace request.result request.workerId request.requestId)
      match acceptance with
      | .accepted b retry =>
        modify fun d => { d with roster := d.roster.didFinish request.workerId b }
        return .accepted b retry
      | .stale why => return .ignored why.reason
    else throw (.unknownWorker request.workerId)

def enqueueTestsInPlace (request : ScheduleRequest) : InPlace Dispatcher ScheduleAnswer := do
  let d ← get
  match splitIntoBuckets? request.tests (request.workerCount.getD d.defaultWorkerCount)
    request.strategy request.template d.ids with
  | none => throw .zeroWorkers
  | some (buckets, ids) =>
    modify fun d => { d with ids }
    let job ← onQueue (BucketQueue.enqueueInPlace request.jobId request.priority buckets)
    return ⟨job.jobId, buckets.length⟩

def scheduleInPlace (request : ScheduleRequest) (now : Instant) :
    InPlace Dispatcher ScheduleAnswer := do
  modify lock
  modify fun d => d.indicateActivity now
  (enqueueTestsInPlace request).lastly unlock

/-- The command as steps. Those that only look, and sweeps, do not fail after a change. -/
def performInPlace (now : Instant) : Command → InPlace Dispatcher Answer
  | .register w declared => .registered <$> registerInPlace w declared now
  | .reportAlive w => .alive <$> onRoster (Roster.reportAliveInPlace w now)
  | .setBlocked w blocked => .worker <$> onRoster (Roster.setBlockedInPlace w blocked)
  | .fetch request => .fetched <$> fetchInPlace request now
  | .submit request => .submitted <$> submitInPlace request now
  | .schedule request => .scheduled <$> scheduleInPlace request now
  | .deleteJob j => .jobState <$> onQueue (BucketQueue.deleteInPlace j)
  | c => ExceptT.mk fun d => d.perform now c

section

variable (d : Dispatcher) (now : Instant)

lemma exec_registerInPlace (w : WorkerId) (declared : Option WorkerConfiguration) :
    (registerInPlace w declared now).exec d = d.registerWorker w declared now := by
  simp only [registerInPlace, InPlace.exec_bind, InPlace.exec_get, InPlace.exec_ofExcept,
    registerWorker]
  cases d.admission w declared with
  | error e => rfl
  | ok c => rfl

lemma exec_reportAliveInPlace (w : WorkerId) :
    (onRoster (Roster.reportAliveInPlace w now)).exec d = d.reportAlive w now := by
  simp only [onRoster, InPlace.exec_on, Roster.exec_reportAliveInPlace, InPlace.whole, reportAlive]
  cases d.roster.reportAlive w now with
  | error e => rfl
  | ok x => rfl

lemma exec_setBlockedInPlace (w : WorkerId) (blocked : Bool) :
    (onRoster (Roster.setBlockedInPlace w blocked)).exec d = d.setWorkerBlocked w blocked := by
  simp only [onRoster, InPlace.exec_on, Roster.exec_setBlockedInPlace, InPlace.whole,
    setWorkerBlocked]
  cases d.roster.setBlocked w blocked with
  | error e => rfl
  | ok x => rfl

lemma exec_fetchInPlace (request : FetchRequest) :
    (fetchInPlace request now).exec d = d.fetchBucket request now := by
  simp only [fetchInPlace, InPlace.exec_bind, InPlace.exec_get, fetchBucket]
  split
  · rfl
  · simp only [InPlace.exec_bind, InPlace.exec_modify, InPlace.exec_get]
    cases (d.indicateActivity now).denial request.workerId with
    | some answer => rfl
    | none => rfl

lemma exec_submitInPlace (request : SubmitRequest) :
    (submitInPlace request now).exec d = d.submitResult request now := by
  simp only [submitInPlace, InPlace.exec_bind, InPlace.exec_get, submitResult]
  split
  · rfl
  · simp only [InPlace.exec_bind, InPlace.exec_modify, InPlace.exec_get]
    split
    · simp only [InPlace.exec_bind, onQueueAndIds, InPlace.exec_on, BucketQueue.exec_acceptInPlace,
        InPlace.whole, settle]
      cases (d.indicateActivity now).queue.accept request.result request.workerId
        request.requestId (d.indicateActivity now).ids with
      | error e => rfl
      | ok x =>
        obtain ⟨acceptance, queue, ids⟩ := x
        cases acceptance with
        | accepted b retry => rfl
        | stale why => rfl
    · rfl

lemma exec_enqueueTestsInPlace (request : ScheduleRequest) :
    (enqueueTestsInPlace request).exec d = d.enqueueTests request := by
  simp only [enqueueTestsInPlace, InPlace.exec_bind, InPlace.exec_get, enqueueTests]
  cases splitIntoBuckets? request.tests (request.workerCount.getD d.defaultWorkerCount)
    request.strategy request.template d.ids with
  | none => rfl
  | some x =>
    obtain ⟨buckets, ids⟩ := x
    simp only [InPlace.exec_bind, InPlace.exec_modify, onQueue, InPlace.exec_on,
      BucketQueue.exec_enqueueInPlace, InPlace.whole]
    cases d.queue.enqueue request.jobId request.priority buckets with
    | error e => rfl
    | ok y => rfl

lemma exec_scheduleInPlace (request : ScheduleRequest) :
    (scheduleInPlace request now).exec d = d.scheduleTests request now := by
  simp only [scheduleInPlace, InPlace.exec_bind, InPlace.exec_modify, InPlace.exec_lastly,
    exec_enqueueTestsInPlace]
  rfl

lemma exec_deleteInPlace (j : JobId) :
    (onQueue (BucketQueue.deleteInPlace j)).exec d = d.deleteJob j := by
  simp only [onQueue, InPlace.exec_on, BucketQueue.exec_deleteInPlace, InPlace.whole, deleteJob]
  cases d.queue.delete j with
  | error e => rfl
  | ok x => rfl

theorem exec_performInPlace (c : Command) : (performInPlace now c).exec d = d.perform now c := by
  cases c with
  | register w declared =>
    rw [performInPlace, InPlace.exec_map, exec_registerInPlace]
    rfl
  | reportAlive w =>
    rw [performInPlace, InPlace.exec_map, exec_reportAliveInPlace]
    rfl
  | setBlocked w blocked =>
    rw [performInPlace, InPlace.exec_map, exec_setBlockedInPlace]
    rfl
  | fetch request =>
    rw [performInPlace, InPlace.exec_map, exec_fetchInPlace]
    rfl
  | submit request =>
    rw [performInPlace, InPlace.exec_map, exec_submitInPlace]
    rfl
  | schedule request =>
    rw [performInPlace, InPlace.exec_map, exec_scheduleInPlace]
    rfl
  | deleteJob j =>
    rw [performInPlace, InPlace.exec_map, exec_deleteInPlace]
    rfl
  | version | listWorkers | workersByStatus | worker | processing | jobState | jobResults | sweep =>
    rfl

end

end Dispatcher

end TestQueue
