import TestQueue.Queue.JobQueue

/-!
The buckets of all jobs, served by priority and order of submission, and the index that tells which
job a bucket belongs to.
-/

namespace TestQueue

open Time (Instant)

structure BucketQueue where
  jobs : Table JobId JobQueue
  owners : Table BucketId JobId
  nextSequence : Nat
  deriving DecidableEq

namespace BucketQueue

def empty : BucketQueue := ⟨.empty, .empty, 0⟩

def inServiceOrder (q : BucketQueue) : List JobQueue :=
  q.jobs.values.mergeSort fun a b => a.job.serviceOrder b.job ≠ .gt

def job? (q : BucketQueue) (j : JobId) : Except QueueError JobQueue :=
  match q.jobs.find? j with
  | some jq => .ok jq
  | none => .error (.unknownJob j)

def put (q : BucketQueue) (j : JobId) (jq : JobQueue) : BucketQueue :=
  { q with jobs := q.jobs.insert j jq }

def finalize (q : BucketQueue) (j : JobId) : BucketQueue :=
  match q.jobs.find? j with
  | some jq =>
    if jq.deleted && jq.isDrained then
      { q with jobs := q.jobs.erase j, owners := q.owners.filter fun _ k => k ≠ j }
    else q
  | none => q

def withJob (q : BucketQueue) (j : JobId) (priority : Priority) : BucketQueue :=
  if q.jobs.contains j then q
  else
    { q with
      jobs := q.jobs.insert j (.new ⟨j, priority, q.nextSequence⟩)
      nextSequence := q.nextSequence + 1 }

def assign (owners : Table BucketId JobId) (j : JobId) (ids : List BucketId) :
    Table BucketId JobId :=
  ids.foldl (fun t b => t.insert b j) owners

def enqueue (q : BucketQueue) (j : JobId) (priority : Priority) (buckets : List Bucket) :
    Except QueueError (PrioritizedJob × BucketQueue) := do
  let q := q.withJob j priority
  let jq ← q.job? j
  if jq.deleted then .error (.jobDeleted j)
  else
    .ok (jq.job,
      { q.put j (jq.enqueue buckets) with
        owners := assign q.owners j (buckets.map Bucket.bucketId) })

def previous? (q : BucketQueue) (w : WorkerId) (r : RequestId) : Option HandOut :=
  q.jobs.values.findSome? (·.previous? w r)

def better (a b : JobQueue) : JobQueue := if b.job.servedBefore a.job then b else a

def first? : List JobQueue → Option JobQueue
  | [] => none
  | jq :: rest => some (rest.foldl better jq)

def next? (q : BucketQueue) : Option JobQueue := first? (q.jobs.values.filter (·.hasPending))

def dequeue (q : BucketQueue) (w : WorkerId) (r : RequestId) (now : Instant) :
    Dequeued × BucketQueue :=
  match q.previous? w r with
  | some h => (.handedOut h, q)
  | none =>
    match q.next? with
    | some jq =>
      let (answer, jq) := jq.dequeue w r now
      (answer, q.put jq.job.jobId jq)
    | none =>
      (if q.jobs.values.any (·.hasOutstanding) then .checkAgainLater else .exhausted, q)

def accept (q : BucketQueue) (result : BucketResult) (w : WorkerId) (r : RequestId)
    (ids : IdSource) : Except QueueError (Acceptance × BucketQueue × IdSource) :=
  match q.owners.find? result.bucketId with
  | none => .error (.unknownBucket result.bucketId)
  | some j =>
    match q.jobs.find? j with
    | none => .error (.unknownBucket result.bucketId)
    | some jq => do
      let (acceptance, jq, ids) ← jq.accept result w r ids
      let q := q.put j jq
      let q := match acceptance with
        | .accepted _ (some retry) => { q with owners := q.owners.insert retry j }
        | _ => q
      .ok (acceptance, q.finalize j, ids)

def reclaim (q : BucketQueue) (w : WorkerId) : List BucketId × BucketQueue :=
  let touched := q.jobs.bindings.filter fun b => !(b.2.reclaim w).1.isEmpty
  let q' := { q with jobs := q.jobs.mapValues fun _ jq => (jq.reclaim w).2 }
  (touched.flatMap fun b => (b.2.reclaim w).1, touched.foldl (fun q b => q.finalize b.1) q')

def results (q : BucketQueue) (j : JobId) : Except QueueError JobResults :=
  (q.job? j).map JobQueue.results

def state (q : BucketQueue) (j : JobId) : Except QueueError JobState :=
  (q.job? j).map JobQueue.state

def delete (q : BucketQueue) (j : JobId) : Except QueueError (JobState × BucketQueue) := do
  let jq := (← q.job? j).markDeleted
  .ok (jq.state, (q.put j jq).finalize j)

def isDepleted (q : BucketQueue) : Bool := q.jobs.values.all (·.isDrained)

end BucketQueue

end TestQueue
