import TestQueue.Proofs.BucketQueue.Fresh

/-!
The index and the jobs fit together, so what the operations would answer if a job or a bucket were
missing is never answered.
-/

namespace TestQueue

open Time (Instant)

/-- An answer for each place where an operation looks for something that should be there. -/
structure Exits where
  noJob : Except QueueError (PrioritizedJob × BucketQueue)
  nothingWaits : Dequeued × JobQueue
  noOwner : Except QueueError (Acceptance × BucketQueue × IdSource)
  notOut : Except QueueError (Acceptance × JobQueue × IdSource)

variable (x : Exits)

namespace JobQueue

variable {q : JobQueue}

def dequeueOr (q : JobQueue) (w : WorkerId) (r : RequestId) (now : Instant) :
    Dequeued × JobQueue :=
  match q.previous? w r, q.pending with
  | some h, _ => (.handedOut h, q)
  | none, [] => x.nothingWaits
  | none, bucket :: rest =>
    let h : HandOut := ⟨bucket, w, r, now⟩
    (.handedOut h,
      { q with
        pending := rest
        outstanding := q.outstanding.insert bucket.bucketId ⟨q.nextOrder, h⟩
        nextOrder := q.nextOrder + 1 })

def acceptOr (q : JobQueue) (result : BucketResult) (w : WorkerId) (r : RequestId)
    (ids : IdSource) : Except QueueError (Acceptance × JobQueue × IdSource) :=
  let b := result.bucketId
  match q.outstanding.find? b with
  | none => .ok (.stale (if b ∈ q.finishedIds then .hasResult b else .notOut b), q, ids)
  | some o =>
    if o.handOut.isFor w r then
      match result.tests.find? (· ∉ o.handOut.bucket.tests), q.outstanding.find? b with
      | some t, _ => .error (.unexpectedTest b t)
      | none, none => x.notOut
      | none, some o => .ok (q.record o.handOut result ids)
    else .ok (.stale (.ownedBy b o.handOut.workerId o.handOut.requestId), q, ids)

lemma dequeueOr_eq (hp : q.pending ≠ []) (w : WorkerId) (r : RequestId) (now : Instant) :
    q.dequeueOr x w r now = q.dequeue w r now := by
  obtain ⟨bucket, rest, hb⟩ := List.exists_cons_of_ne_nil hp
  unfold dequeueOr dequeue
  rw [hb]
  cases q.previous? w r <;> rfl

lemma acceptOr_eq (q : JobQueue) (result : BucketResult) (w : WorkerId) (r : RequestId)
    (ids : IdSource) : q.acceptOr x result w r ids = q.accept result w r ids := by
  unfold acceptOr accept
  dsimp only
  cases q.outstanding.find? result.bucketId with
  | none => rfl
  | some o =>
    dsimp only
    cases result.tests.find? fun t => t ∉ o.handOut.bucket.tests <;> rfl

end JobQueue

namespace BucketQueue

variable {q : BucketQueue} {ids : IdSource}

def enqueueOr (q : BucketQueue) (j : JobId) (priority : Priority) (buckets : List Bucket) :
    Except QueueError (PrioritizedJob × BucketQueue) :=
  let q := q.withJob j priority
  match q.jobs.find? j with
  | none => x.noJob
  | some jq =>
    if jq.deleted then .error (.jobDeleted j)
    else
      .ok (jq.job,
        { q.put j (jq.enqueue buckets) with
          owners := assign q.owners j (buckets.map Bucket.bucketId) })

def dequeueOr (q : BucketQueue) (w : WorkerId) (r : RequestId) (now : Instant) :
    Dequeued × BucketQueue :=
  match q.previous? w r with
  | some h => (.handedOut h, q)
  | none =>
    match q.next?.bind fun jq => q.jobs.find? jq.job.jobId with
    | some jq =>
      let (answer, jq) := jq.dequeueOr x w r now
      (answer, q.put jq.job.jobId jq)
    | none =>
      (if q.jobs.values.any (·.hasOutstanding) then .checkAgainLater else .exhausted, q)

def acceptOr (q : BucketQueue) (result : BucketResult) (w : WorkerId) (r : RequestId)
    (ids : IdSource) : Except QueueError (Acceptance × BucketQueue × IdSource) :=
  match q.owners.find? result.bucketId with
  | none => .error (.unknownBucket result.bucketId)
  | some j =>
    match q.jobs.find? j with
    | none => x.noOwner
    | some jq => do
      let (acceptance, jq, ids) ← jq.acceptOr x result w r ids
      let q := q.put j jq
      let q := match acceptance with
        | .accepted _ (some retry) => { q with owners := q.owners.insert retry j }
        | _ => q
      .ok (acceptance, q.finalize j, ids)

lemma enqueueOr_eq (q : BucketQueue) (j : JobId) (priority : Priority) (buckets : List Bucket) :
    q.enqueueOr x j priority buckets = q.enqueue j priority buckets := by
  have hj : (q.withJob j priority).jobs.find? j = some (q.jobOr j priority) := by
    rw [find?_withJob, if_pos rfl]
  simp only [enqueueOr, enqueue, hj, job?_withJob, bind, Except.bind]

lemma Routed.dequeueOr_eq (hq : q.Routed ids) (w : WorkerId) (r : RequestId) (now : Instant) :
    q.dequeueOr x w r now = q.dequeue w r now := by
  unfold BucketQueue.dequeueOr dequeue
  cases q.previous? w r with
  | some h => rfl
  | none =>
    cases hn : q.next? with
    | none => rfl
    | some jq =>
      obtain ⟨hm, hp⟩ := next?_eq_some hn
      obtain ⟨j, hj⟩ := Table.mem_values_iff.1 hm
      have hfound : q.jobs.find? jq.job.jobId = some jq := by rw [hq.named j jq hj, hj]
      have hwaits : jq.pending ≠ [] := by simpa [JobQueue.hasPending] using hp
      simp only [Option.bind_some, hfound, JobQueue.dequeueOr_eq x hwaits]

lemma Routed.acceptOr_eq (hq : q.Routed ids) (result : BucketResult) (w : WorkerId) (r : RequestId)
    (ids' : IdSource) : q.acceptOr x result w r ids' = q.accept result w r ids' := by
  unfold BucketQueue.acceptOr accept
  cases ho : q.owners.find? result.bucketId with
  | none => rfl
  | some j =>
    obtain ⟨jq, hj⟩ := hq.present _ j ho
    have hjob := jq.acceptOr_eq x result w r ids'
    simp only [hj]
    exact hjob ▸ rfl

theorem exits_unreachable {s : Stage} (hrun : Stage.start.Leads s) :
    (∀ j jq, s.queue.jobs.find? j = some jq → jq.job.jobId = j) ∧
    (∀ b, ∀ j ∈ s.queue.owners.find? b, j ∈ s.queue.jobs.keys) ∧
    (∀ j jq, s.queue.jobs.find? j = some jq → ∀ b,
      b ∈ jq.pending.map Bucket.bucketId ∨ b ∈ jq.outstanding.keys ∨ b ∈ jq.finishedIds →
        s.queue.owners.find? b = some j) ∧
    ∀ x : Exits,
      (∀ j priority buckets,
        s.queue.enqueueOr x j priority buckets = s.queue.enqueue j priority buckets) ∧
      (∀ w r now, s.queue.dequeueOr x w r now = s.queue.dequeue w r now) ∧
      ∀ result w r ids, s.queue.acceptOr x result w r ids = s.queue.accept result w r ids := by
  obtain ⟨ids, hq, -⟩ := (Stage.sound_start.leads hrun).exists_sound
  refine ⟨hq.named, fun b j hb => Table.mem_keys_iff.2 (hq.present b j hb),
    fun j jq hj b hb => hq.routed j jq b hj ?_, fun x => ?_⟩
  · have hs := hq.jobs j jq hj
    rw [← hs.outIds_eq_keys, hs.recorded] at hb
    exact JobQueue.mem_bucketIds_iff.2 hb
  · exact ⟨s.queue.enqueueOr_eq x, hq.dequeueOr_eq x, hq.acceptOr_eq x⟩

theorem exits_unreachable_twoBuckets :
    let bucket (b : BucketId) : Bucket :=
      ⟨b, ⟨"j"⟩, 1, [⟨"C", "x", none⟩], .empty, ⟨1, .empty⟩, .standard, .empty, 1⟩
    ∃ s : Stage, Stage.start.Leads s ∧ s.queue.owners.find? ⟨"b"⟩ = some ⟨"j"⟩ ∧
      ∀ x : Exits,
        (s.queue.dequeueOr x ⟨"w"⟩ ⟨"r2"⟩ .epoch).1 =
          .handedOut ⟨bucket ⟨"b"⟩, ⟨"w"⟩, ⟨"r2"⟩, .epoch⟩ ∧
        ∃ q, s.queue.acceptOr x ⟨⟨"a"⟩, []⟩ ⟨"w"⟩ ⟨"r"⟩ ⟨toString, 0⟩ =
          .ok (.accepted ⟨"a"⟩ (some ⟨"0"⟩), q) := by
  intro bucket
  obtain ⟨q, hfirst⟩ : ∃ q, empty.enqueue ⟨"j"⟩ 1 [bucket ⟨"a"⟩, bucket ⟨"b"⟩] =
    .ok (⟨⟨"j"⟩, 1, 0⟩, q) := ⟨_, rfl⟩
  let s : Stage := ⟨(q.dequeue ⟨"w"⟩ ⟨"r"⟩ .epoch).2, [⟨"a"⟩, ⟨"b"⟩]⟩
  have hs : Stage.start.Leads s :=
    (Relation.ReflTransGen.single (.enqueue (by decide) hfirst)).tail (.dequeue _ _ _)
  obtain ⟨-, -, hindex, hexits⟩ := exits_unreachable hs
  obtain ⟨jq, hj, hb⟩ : ∃ jq, s.queue.jobs.find? ⟨"j"⟩ = some jq ∧
      ⟨"b"⟩ ∈ jq.pending.map Bucket.bucketId := by
    cases hfirst
    exact ⟨_, rfl, by decide⟩
  refine ⟨s, hs, hindex _ jq hj _ (Or.inl hb), fun x => ?_⟩
  obtain ⟨-, hdequeue, haccept⟩ := hexits x
  rw [hdequeue, haccept]
  cases hfirst
  exact ⟨rfl, _, rfl⟩

end BucketQueue

end TestQueue
