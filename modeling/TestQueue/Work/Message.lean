import TestQueue.Work.Job
import TestQueue.Work.Split
import TestQueue.Worker.Record

namespace TestQueue

structure VersionAnswer where
  version : String
  deriving DecidableEq

structure RegisterRequest where
  configuration : Option WorkerConfiguration
  deriving DecidableEq

structure FetchRequest where
  workerId : WorkerId
  requestId : RequestId
  signature : PayloadSignature
  deriving DecidableEq

inductive FetchAnswer where
  | bucket (bucket : Bucket)
  | checkAgainLater (seconds : UInt64)
  | queueDepleted
  | refused (reason : String)
  deriving DecidableEq

structure SubmitRequest where
  workerId : WorkerId
  requestId : RequestId
  signature : PayloadSignature
  result : BucketResult
  deriving DecidableEq

inductive SubmitAnswer where
  | accepted (bucket : BucketId) (retry : Option BucketId)
  | ignored (reason : String)
  deriving DecidableEq

structure ScheduleRequest where
  jobId : JobId
  priority : Priority
  tests : List TestEntry
  strategy : SplitStrategy
  workerCount : Option UInt32
  artifacts : BuildArtifacts
  behavior : ExecutionBehavior
  timeout : TestTimeout
  destination : Destination
  deriving DecidableEq

namespace ScheduleRequest

def template (r : ScheduleRequest) : BucketTemplate :=
  ⟨r.jobId, r.priority, r.artifacts, r.behavior, r.timeout, r.destination⟩

end ScheduleRequest

structure ScheduleAnswer where
  jobId : JobId
  bucketCount : Nat
  deriving DecidableEq

structure Acknowledgement where
  ok : Bool
  deriving DecidableEq

structure ProcessingAnswer where
  workers : Table String (List BucketId)
  deriving DecidableEq

end TestQueue
