import TestQueue.Server.Policy
import TestQueue.Work.Bucket

namespace TestQueue

inductive QueueError where
  | unknownJob (job : JobId)
  | jobDeleted (job : JobId)
  | unknownBucket (bucket : BucketId)
  | unknownWorker (worker : WorkerId)
  | workerNotAllowed (worker : WorkerId)
  | workerLost (worker : WorkerId)
  | invalidConfiguration (worker : WorkerId) (fault : IntervalFault)
  | signatureMismatch
  | unexpectedTest (bucket : BucketId) (test : TestEntry)
  | zeroWorkers
  deriving DecidableEq

namespace QueueError

def message : QueueError → String
  | unknownJob j => "unknown job: " ++ j.text
  | jobDeleted j => "job " ++ j.text ++ " is being deleted"
  | unknownBucket b => "unknown bucket: " ++ b.text
  | unknownWorker w => "unknown worker: " ++ w.text
  | workerNotAllowed w => "worker " ++ w.text ++ " is not in the list of known workers"
  | workerLost w => "worker " ++ w.text ++ " was declared lost and must register again"
  | invalidConfiguration w fault =>
    "worker " ++ w.text ++ " declared an invalid configuration: " ++ fault.message
  | signatureMismatch => "payload signature does not match this queue server"
  | unexpectedTest b t =>
    "result for bucket " ++ b.text ++ " contains test " ++ t.title ++ " which is not part of it"
  | zeroWorkers => "cannot split tests across zero workers"

end QueueError

end TestQueue
