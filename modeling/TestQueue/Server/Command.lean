import TestQueue.Server.Dispatcher

namespace TestQueue

open Time (Instant)

inductive Command where
  | version
  | register (worker : WorkerId) (declared : Option WorkerConfiguration)
  | reportAlive (worker : WorkerId)
  | setBlocked (worker : WorkerId) (blocked : Bool)
  | listWorkers
  | workersByStatus
  | worker (worker : WorkerId)
  | fetch (request : FetchRequest)
  | submit (request : SubmitRequest)
  | processing
  | schedule (request : ScheduleRequest)
  | jobState (job : JobId)
  | jobResults (job : JobId)
  | deleteJob (job : JobId)
  | sweep
  deriving DecidableEq

inductive Answer where
  | version (answer : VersionAnswer)
  | registered (configuration : WorkerConfiguration)
  | alive (status : Liveness)
  | worker (record : WorkerRecord)
  | workers (records : List WorkerRecord)
  | byStatus (groups : List (Liveness × List WorkerId))
  | fetched (answer : FetchAnswer)
  | submitted (answer : SubmitAnswer)
  | processing (answer : ProcessingAnswer)
  | scheduled (answer : ScheduleAnswer)
  | jobState (state : JobState)
  | jobResults (results : JobResults)
  | swept (transitions : List Transition)
  deriving DecidableEq

namespace Dispatcher

def answering {α : Type} (answer : α → Answer) (r : Reply α) : Reply Answer :=
  (r.1.map answer, r.2)

def perform (d : Dispatcher) (now : Instant) : Command → Reply Answer
  | .version => (.ok (.version ⟨d.settings.version⟩), d)
  | .register w declared => answering .registered (d.registerWorker w declared now)
  | .reportAlive w => answering .alive (d.reportAlive w now)
  | .setBlocked w blocked => answering .worker (d.setWorkerBlocked w blocked)
  | .listWorkers => (.ok (.workers d.roster.workers.items), d)
  | .workersByStatus => (.ok (.byStatus d.roster.byStatus), d)
  | .worker w => (.ok (.worker (d.roster.record w)), d)
  | .fetch request => answering .fetched (d.fetchBucket request now)
  | .submit request => answering .submitted (d.submitResult request now)
  | .processing => (.ok (.processing d.processing), d)
  | .schedule request => answering .scheduled (d.scheduleTests request now)
  | .jobState j => ((d.jobState j).map .jobState, d)
  | .jobResults j => ((d.jobResults j).map .jobResults, d)
  | .deleteJob j => answering .jobState (d.deleteJob j)
  | .sweep =>
    let (transitions, d) := d.sweep now
    (.ok (.swept transitions), d)

def run (d : Dispatcher) (commands : List (Instant × Command)) : Dispatcher :=
  commands.foldl (fun d c => (d.perform c.1 c.2).2) d

end Dispatcher

end TestQueue
