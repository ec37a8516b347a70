import TestQueue.Work.Result

namespace TestQueue

structure PrioritizedJob where
  jobId : JobId
  priority : Priority
  sequence : Nat
  deriving DecidableEq

namespace PrioritizedJob

def serviceOrder (a b : PrioritizedJob) : Ordering :=
  (compare b.priority.toNat a.priority.toNat).then (compare a.sequence b.sequence)

def servedBefore (a b : PrioritizedJob) : Bool := a.serviceOrder b = .lt

end PrioritizedJob

inductive TestStatus where
  | passed
  | retrying
  | permanentlyFailed
  deriving DecidableEq, Repr

structure TestSummary where
  test : TestEntry
  status : TestStatus
  attempts : Nat
  deriving DecidableEq

structure JobResults where
  jobId : JobId
  results : List BucketResult
  tests : List TestSummary
  deriving DecidableEq

structure JobState where
  jobId : JobId
  priority : Priority
  pendingBuckets : Nat
  dispatchedBuckets : Nat
  finishedBuckets : Nat
  isDeleted : Bool
  isCompleted : Bool
  deriving DecidableEq

end TestQueue
