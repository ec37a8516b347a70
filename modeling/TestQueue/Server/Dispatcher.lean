import TestQueue.Queue.BucketQueue
import TestQueue.Server.Config
import TestQueue.Server.Termination
import TestQueue.Work.Message
import TestQueue.Worker.Roster

/-!
The server behind its interface: the queue, the roster of workers and the termination policy, and
the operations on all of them at once. Time is an argument of every operation that looks at it.
-/

namespace TestQueue

open Time (Instant Span)

structure DispatcherSettings where
  version : String
  checkAgainAfter : UInt64
  depletion : DepletionPolicy
  aliveness : AlivenessPolicy
  termination : TerminationPolicy
  knownWorkers : Table WorkerId WorkerConfiguration
  deriving DecidableEq

namespace ServerConfig

def dispatcherSettings (c : ServerConfig) : DispatcherSettings where
  version := c.version
  checkAgainAfter := c.checkAgainAfter
  depletion := c.depletion
  aliveness := c.aliveness
  termination := c.termination
  knownWorkers := .ofList (c.workers.map fun w => (w.workerId, w.configuration))

end ServerConfig

structure Dispatcher where
  settings : DispatcherSettings
  signature : PayloadSignature
  ids : IdSource
  queue : BucketQueue
  roster : Roster
  termination : Termination

namespace Dispatcher

def new (settings : DispatcherSettings) (ids : IdSource) (now : Instant) : Dispatcher where
  settings := settings
  signature := ⟨ids.next⟩
  ids := ids.advance 1
  queue := .empty
  roster := .new settings.aliveness
  termination := .starting settings.termination now

abbrev Reply (α : Type) := Except QueueError α × Dispatcher

def indicateActivity (d : Dispatcher) (now : Instant) : Dispatcher :=
  { d with termination := d.termination.indicateActivity now }

def idleFor (d : Dispatcher) (now : Instant) : Span := d.termination.idleFor now

/-- The configuration that a worker registers with, before it is checked: the one it is listed with,
else what it declares, else the default. -/
def registration (d : Dispatcher) (w : WorkerId) (declared : Option WorkerConfiguration) :
    Except QueueError WorkerConfiguration :=
  match d.settings.knownWorkers.find? w with
  | some c => .ok c
  | none =>
    if d.settings.knownWorkers.bindings.isEmpty then
      .ok (declared.getD
        { WorkerConfiguration.standard with aliveInterval := d.settings.aliveness.defaultInterval })
    else .error (.workerNotAllowed w)

def admission (d : Dispatcher) (w : WorkerId) (declared : Option WorkerConfiguration) :
    Except QueueError WorkerConfiguration := do
  let c ← d.registration w declared
  match checkAliveInterval c.aliveInterval with
  | .error fault => .error (.invalidConfiguration w fault)
  | .ok _ => .ok { c with signature := some d.signature }

def registerWorker (d : Dispatcher) (w : WorkerId) (declared : Option WorkerConfiguration)
    (now : Instant) : Reply WorkerConfiguration :=
  match d.admission w declared with
  | .error e => (.error e, d)
  | .ok c =>
    let d := d.indicateActivity now
    (.ok c, { d with roster := d.roster.register w c now })

def reportAlive (d : Dispatcher) (w : WorkerId) (now : Instant) : Reply Liveness :=
  match d.roster.reportAlive w now with
  | .error e => (.error e, d)
  | .ok (status, roster) => (.ok status, { d with roster })

def setWorkerBlocked (d : Dispatcher) (w : WorkerId) (blocked : Bool) : Reply WorkerRecord :=
  match d.roster.setBlocked w blocked with
  | .error e => (.error e, d)
  | .ok (record, roster) => (.ok record, { d with roster })

def checkAgain (d : Dispatcher) : FetchAnswer := .checkAgainLater d.settings.checkAgainAfter

def denial (d : Dispatcher) (w : WorkerId) : Option FetchAnswer :=
  match d.roster.eligibility w with
  | .eligible => none
  | .silent => some d.checkAgain
  | .notRegistered => some (.refused ("worker " ++ w.text ++ " is not registered"))
  | .lost => some (.refused ("worker " ++ w.text ++ " was declared lost and must register again"))
  | .blocked => some (.refused ("worker " ++ w.text ++ " is blocked"))

def depletedAnswer (d : Dispatcher) : FetchAnswer :=
  match d.settings.depletion with
  | .stayAlive => d.checkAgain
  | .terminateWhenDepleted => .queueDepleted

def handOut (d : Dispatcher) (w : WorkerId) (r : RequestId) (now : Instant) :
    FetchAnswer × Dispatcher :=
  match d.queue.dequeue w r now with
  | (.handedOut h, queue) =>
    (.bucket h.bucket, { d with queue, roster := d.roster.didDequeue w h.bucket.bucketId })
  | (.checkAgainLater, queue) => (d.checkAgain, { d with queue })
  | (.exhausted, queue) => (d.depletedAnswer, { d with queue })

def fetchBucket (d : Dispatcher) (request : FetchRequest) (now : Instant) : Reply FetchAnswer :=
  if request.signature ≠ d.signature then (.error .signatureMismatch, d)
  else
    let d := d.indicateActivity now
    match d.denial request.workerId with
    | some answer => (.ok answer, d)
    | none =>
      let (answer, d) := d.handOut request.workerId request.requestId now
      (.ok answer, d)

def settle (d : Dispatcher) (request : SubmitRequest) : Reply SubmitAnswer :=
  match d.queue.accept request.result request.workerId request.requestId d.ids with
  | .error e => (.error e, d)
  | .ok (.stale why, queue, ids) => (.ok (.ignored why.reason), { d with queue, ids })
  | .ok (.accepted b retry, queue, ids) =>
    (.ok (.accepted b retry),
      { d with queue, ids, roster := d.roster.didFinish request.workerId b })

def submitResult (d : Dispatcher) (request : SubmitRequest) (now : Instant) :
    Reply SubmitAnswer :=
  if request.signature ≠ d.signature then (.error .signatureMismatch, d)
  else
    let d := d.indicateActivity now
    if d.roster.isKnown request.workerId then d.settle request
    else (.error (.unknownWorker request.workerId), d)

def defaultWorkerCount (d : Dispatcher) : UInt32 :=
  let listed := d.settings.knownWorkers.size
  let count := if listed = 0 then d.roster.aliveCount else listed
  UInt32.ofNat (max (min count (UInt32.size - 1)) 1)

/-- Splits the tests and adds the buckets to the job. Ids are used up even if the job refuses
them. -/
def enqueueTests (d : Dispatcher) (request : ScheduleRequest) : Reply ScheduleAnswer :=
  let workers := request.workerCount.getD d.defaultWorkerCount
  match splitIntoBuckets? request.tests workers request.strategy request.template d.ids with
  | none => (.error .zeroWorkers, d)
  | some (buckets, ids) =>
    match d.queue.enqueue request.jobId request.priority buckets with
    | .error e => (.error e, { d with ids })
    | .ok (job, queue) => (.ok ⟨job.jobId, buckets.length⟩, { d with ids, queue })

def lock (d : Dispatcher) : Dispatcher := { d with termination := d.termination.lock }

def unlock (d : Dispatcher) : Dispatcher := { d with termination := d.termination.unlock }

/-- The server cannot stop between the start and the end of a submission. -/
def scheduleTests (d : Dispatcher) (request : ScheduleRequest) (now : Instant) :
    Reply ScheduleAnswer :=
  let (answer, d) := (d.lock.indicateActivity now).enqueueTests request
  (answer, d.unlock)

def jobResults (d : Dispatcher) (j : JobId) : Except QueueError JobResults := d.queue.results j

def jobState (d : Dispatcher) (j : JobId) : Except QueueError JobState := d.queue.state j

def deleteJob (d : Dispatcher) (j : JobId) : Reply JobState :=
  match d.queue.delete j with
  | .error e => (.error e, d)
  | .ok (state, queue) => (.ok state, { d with queue })

def reclaimAll (queue : BucketQueue) (transitions : List Transition) : BucketQueue :=
  (transitions.filter fun t => t.status = .silent).foldl
    (fun queue t => (queue.reclaim t.workerId).2) queue

def sweep (d : Dispatcher) (now : Instant) : List Transition × Dispatcher :=
  let (transitions, roster) := d.roster.sweep now
  (transitions, { d with roster, queue := reclaimAll d.queue transitions })

def isDepleted (d : Dispatcher) : Bool := d.queue.isDepleted

def mayTerminate (d : Dispatcher) (now : Instant) : Bool :=
  d.termination.mayTerminate d.isDepleted now

def processing (d : Dispatcher) : ProcessingAnswer :=
  ⟨.ofList (d.roster.processing.map fun p => (p.1.text, p.2))⟩

end Dispatcher

end TestQueue
