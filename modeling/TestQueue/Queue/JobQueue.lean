import TestQueue.Queue.Error
import TestQueue.Work.Job

/-!
The buckets of one job: waiting, out for execution, and with a recorded result.
-/

namespace TestQueue

open Time (Instant)

structure HandOut where
  bucket : Bucket
  workerId : WorkerId
  requestId : RequestId
  handedOutAt : Instant
  deriving DecidableEq

namespace HandOut

def isFor (h : HandOut) (w : WorkerId) (r : RequestId) : Bool :=
  h.workerId = w && h.requestId = r

end HandOut

structure Outstanding where
  order : Nat
  handOut : HandOut
  deriving DecidableEq

inductive Dequeued where
  | handedOut (h : HandOut)
  /-- Nothing is waiting, but buckets that are out may come back. -/
  | checkAgainLater
  | exhausted
  deriving DecidableEq

inductive Staleness where
  | hasResult (bucket : BucketId)
  | notOut (bucket : BucketId)
  | ownedBy (bucket : BucketId) (worker : WorkerId) (request : RequestId)
  deriving DecidableEq, Repr

namespace Staleness

def reason : Staleness → String
  | hasResult b => "bucket " ++ b.text ++ " already has a result"
  | notOut b => "bucket " ++ b.text ++ " is not out for execution"
  | ownedBy b w r =>
    "bucket " ++ b.text ++ " is owned by worker " ++ w.text ++ " under request " ++ r.text

end Staleness

inductive Acceptance where
  | accepted (bucket : BucketId) (retry : Option BucketId)
  | stale (why : Staleness)
  deriving DecidableEq

structure JobQueue where
  job : PrioritizedJob
  pending : List Bucket
  outstanding : Table BucketId Outstanding
  finished : List BucketResult
  finishedIds : List BucketId
  nextOrder : Nat
  deleted : Bool
  deriving DecidableEq

namespace JobQueue

def new (job : PrioritizedJob) : JobQueue := ⟨job, [], .empty, [], [], 0, false⟩

def enqueue (q : JobQueue) (buckets : List Bucket) : JobQueue :=
  { q with pending := q.pending ++ buckets }

def hasPending (q : JobQueue) : Bool := !q.pending.isEmpty

def hasOutstanding (q : JobQueue) : Bool := !q.outstanding.bindings.isEmpty

def isDrained (q : JobQueue) : Bool := !q.hasPending && !q.hasOutstanding

def handOuts (q : JobQueue) : List HandOut := q.outstanding.values.map Outstanding.handOut

def previous? (q : JobQueue) (w : WorkerId) (r : RequestId) : Option HandOut :=
  q.handOuts.find? (·.isFor w r)

def dequeue (q : JobQueue) (w : WorkerId) (r : RequestId) (now : Instant) :
    Dequeued × JobQueue :=
  match q.previous? w r, q.pending with
  | some h, _ => (.handedOut h, q)
  | none, [] => (if q.hasOutstanding then .checkAgainLater else .exhausted, q)
  | none, bucket :: rest =>
    let h : HandOut := ⟨bucket, w, r, now⟩
    (.handedOut h,
      { q with
        pending := rest
        outstanding := q.outstanding.insert bucket.bucketId ⟨q.nextOrder, h⟩
        nextOrder := q.nextOrder + 1 })

/-- The bucket for another try at the failing tests, and the ids after that. An id is drawn whenever
tests failed, even if no retry is left. -/
def retry (q : JobQueue) (bucket : Bucket) (failing : List TestEntry) (ids : IdSource) :
    Option Bucket × IdSource :=
  if failing.isEmpty || q.deleted then (none, ids)
  else (bucket.residual? ⟨ids.next⟩ failing, ids.advance 1)

def record (q : JobQueue) (h : HandOut) (result : BucketResult) (ids : IdSource) :
    Acceptance × JobQueue × IdSource :=
  let complete := result.withLost h.bucket.tests
  let (residual, ids) := q.retry h.bucket complete.failing ids
  (.accepted result.bucketId (residual.map Bucket.bucketId),
    { q with
      pending := q.pending ++ residual.toList
      outstanding := q.outstanding.erase result.bucketId
      finished := q.finished ++ [complete]
      finishedIds := q.finishedIds ++ [result.bucketId] },
    ids)

def accept (q : JobQueue) (result : BucketResult) (w : WorkerId) (r : RequestId)
    (ids : IdSource) : Except QueueError (Acceptance × JobQueue × IdSource) :=
  let b := result.bucketId
  match q.outstanding.find? b with
  | none => .ok (.stale (if b ∈ q.finishedIds then .hasResult b else .notOut b), q, ids)
  | some o =>
    if o.handOut.isFor w r then
      match result.tests.find? (· ∉ o.handOut.bucket.tests) with
      | some t => .error (.unexpectedTest b t)
      | none => .ok (q.record o.handOut result ids)
    else .ok (.stale (.ownedBy b o.handOut.workerId o.handOut.requestId), q, ids)

def heldBy (q : JobQueue) (w : WorkerId) : List Outstanding :=
  (q.outstanding.values.filter fun o => o.handOut.workerId = w).mergeSort
    fun a b => a.order ≤ b.order

/-- Takes back what the worker holds, to the head of the queue unless the job is deleted. -/
def reclaim (q : JobQueue) (w : WorkerId) : List BucketId × JobQueue :=
  let buckets := (q.heldBy w).map fun o => o.handOut.bucket
  (buckets.map Bucket.bucketId,
    { q with
      pending := if q.deleted then q.pending else buckets ++ q.pending
      outstanding := q.outstanding.filter fun _ o => o.handOut.workerId ≠ w })

def markDeleted (q : JobQueue) : JobQueue := { q with deleted := true, pending := [] }

def openTests (q : JobQueue) : List TestEntry :=
  q.pending.flatMap Bucket.tests ++ q.handOuts.flatMap fun h => h.bucket.tests

def outcomes (q : JobQueue) : List TestOutcome := q.finished.flatMap BucketResult.outcomes

def tally (summaries : List TestSummary) (o : TestOutcome) : List TestSummary :=
  if summaries.any fun s => s.test = o.test then
    summaries.map fun s =>
      if s.test = o.test then
        { s with
          attempts := s.attempts + 1
          status := if o.succeeded then .passed else s.status }
      else s
  else summaries ++ [⟨o.test, if o.succeeded then .passed else .permanentlyFailed, 1⟩]

def withRetrying (openTests : List TestEntry) (s : TestSummary) : TestSummary :=
  if s.status ≠ .passed ∧ s.test ∈ openTests then { s with status := .retrying } else s

def summaries (q : JobQueue) : List TestSummary :=
  (q.outcomes.foldl tally []).map (withRetrying q.openTests)

def results (q : JobQueue) : JobResults := ⟨q.job.jobId, q.finished, q.summaries⟩

def state (q : JobQueue) : JobState where
  jobId := q.job.jobId
  priority := q.job.priority
  pendingBuckets := q.pending.length
  dispatchedBuckets := q.outstanding.size
  finishedBuckets := q.finished.length
  isDeleted := q.deleted
  isCompleted := q.isDrained

end JobQueue

end TestQueue
