import TestQueue.Proofs.JobQueue.Moves
import TestQueue.Proofs.JobQueue.Record

namespace TestQueue

open Time (Instant)

namespace JobQueue

inductive Operation where
  | enqueue (buckets : List Bucket)
  | dequeue (w : WorkerId) (r : RequestId) (now : Instant)
  | accept (result : BucketResult) (w : WorkerId) (r : RequestId) (ids : IdSource)
  | reclaim (w : WorkerId)
  | delete

def perform (q : JobQueue) : Operation → JobQueue
  | .enqueue buckets => q.enqueue buckets
  | .dequeue w r now => (q.dequeue w r now).2
  | .accept result w r ids =>
    match q.accept result w r ids with
    | .ok (_, q', _) => q'
    | .error _ => q
  | .reclaim w => (q.reclaim w).2
  | .delete => q.markDeleted

def mints (q : JobQueue) : Operation → List BucketId
  | .enqueue buckets => buckets.map Bucket.bucketId
  | .accept result w r ids =>
    match q.accept result w r ids with
    | .ok (.accepted _ retry, _) => retry.toList
    | _ => []
  | _ => []

def records (q : JobQueue) : Operation → List BucketResult
  | .accept result w r ids =>
    match q.outstanding.find? result.bucketId, q.accept result w r ids with
    | some o, .ok (.accepted _ _, _) => [result.withLost o.handOut.bucket.tests]
    | _, _ => []
  | _ => []

/-- A fetch hands out a bucket unless it is a repeated one, which is answered with the bucket that
is out under its request already. -/
def handsOut (q : JobQueue) : Operation → List HandOut
  | .dequeue w r now =>
    match q.previous? w r, (q.dequeue w r now).1 with
    | none, .handedOut h => [h]
    | _, _ => []
  | _ => []

inductive Effect (q : JobQueue) (op : Operation) : Prop
  | kept (after : q.perform op = q) (mints : q.mints op = []) (handsOut : q.handsOut op = [])
      (records : q.records op = [])
  | enqueued {buckets : List Bucket} (operation : op = .enqueue buckets)
  | handedOut {h : HandOut} {rest : List Bucket} (pending : q.pending = h.bucket :: rest)
      (after : q.perform op = q.afterHandOut rest h) (mints : q.mints op = [])
      (handsOut : q.handsOut op = [h]) (records : q.records op = [])
  | recorded {h : HandOut} {n : ℕ} {result : BucketResult} {ids : IdSource}
      (out : q.outstanding.find? result.bucketId = some ⟨n, h⟩)
      (tests : ∀ t ∈ result.tests, t ∈ h.bucket.tests)
      (after : q.perform op = q.afterRecord h result (q.residual? h result ids))
      (mints : q.mints op = (q.residual? h result ids).toList.map Bucket.bucketId)
      (handsOut : q.handsOut op = []) (records : q.records op = [result.withLost h.bucket.tests])
  | reclaimed {w : WorkerId} (operation : op = .reclaim w)
  | deleted (operation : op = .delete)

lemma of_mem_handOuts_afterHandOut {q : JobQueue} {rest : List Bucket} {h k : HandOut}
    (hk : k ∈ (q.afterHandOut rest h).handOuts) : k = h ∨ k ∈ q.handOuts := by
  obtain ⟨b, n, hb⟩ := mem_handOuts_iff.1 hk
  simp only [afterHandOut, Table.find?_insert] at hb
  split at hb
  · exact Or.inl (Outstanding.mk.inj (Option.some.inj hb)).2.symm
  · exact Or.inr (mem_handOuts_iff.2 ⟨b, n, hb⟩)

lemma effect (q : JobQueue) (op : Operation) : q.Effect op := by
  cases op with
  | enqueue buckets => exact .enqueued rfl
  | dequeue w r now =>
    cases hprev : q.previous? w r with
    | some h =>
      refine .kept ?_ rfl ?_ rfl
      · simp only [perform, dequeue, hprev]
      · simp only [handsOut, hprev]
    | none =>
      cases hp : q.pending with
      | nil =>
        refine .kept ?_ rfl ?_ rfl
        · simp only [perform, dequeue, hprev, hp]
        · simp only [handsOut, dequeue, hprev, hp]
          cases q.hasOutstanding <;> rfl
      | cons bucket rest =>
        have hd := dequeue_of_pending hprev hp now
        refine .handedOut hp (congrArg Prod.snd hd) rfl ?_ rfl
        simp only [handsOut, hprev, hd]
  | accept result w r ids =>
    cases hacc : q.accept result w r ids with
    | error e =>
      refine .kept ?_ ?_ rfl ?_
      · simp only [perform, hacc]
      · simp only [mints, hacc]
      · simp only [records, hacc]
        cases q.outstanding.find? result.bucketId <;> rfl
    | ok x =>
      obtain ⟨a, q', ids'⟩ := x
      rcases accept_cases hacc with ⟨⟨n, h⟩, ho, -, ht, hrec⟩ | ⟨why, rfl, rfl, -, -⟩
      · obtain ⟨m, he, -⟩ := q.record_eq h result ids
        obtain ⟨rfl, hq⟩ := Prod.mk.inj (he.symm.trans hrec)
        obtain ⟨rfl, -⟩ := Prod.mk.inj hq
        have hafter : q.perform (.accept result w r ids) =
            q.afterRecord h result (q.residual? h result ids) := by
          simp only [perform, hacc]
        refine .recorded ho ht hafter ?_ rfl ?_
        · simp only [mints, hacc]
          cases q.residual? h result ids <;> rfl
        · simp only [records, ho, hacc]
      · refine .kept ?_ ?_ rfl ?_
        · simp only [perform, hacc]
        · simp only [mints, hacc]
        · simp only [records, hacc]
          cases q'.outstanding.find? result.bucketId <;> rfl
  | reclaim w => exact .reclaimed rfl
  | delete => exact .deleted rfl

def run (q : JobQueue) (ops : List Operation) : JobQueue := ops.foldl perform q

def collect {α : Type} (f : JobQueue → Operation → List α) (q : JobQueue) : List Operation → List α
  | [] => []
  | op :: ops => f q op ++ collect f (q.perform op) ops

lemma run_append (q : JobQueue) (ops later : List Operation) :
    q.run (ops ++ later) = (q.run ops).run later := List.foldl_append

lemma run_concat (q : JobQueue) (ops : List Operation) (op : Operation) :
    q.run (ops ++ [op]) = (q.run ops).perform op := run_append q ops [op]

lemma collect_concat {α : Type} (f : JobQueue → Operation → List α) (q : JobQueue)
    (ops : List Operation) (op : Operation) :
    q.collect f (ops ++ [op]) = q.collect f ops ++ f (q.run ops) op := by
  induction ops generalizing q with
  | nil => simp [collect, run]
  | cons first ops ih => rw [List.cons_append, collect, ih, collect, List.append_assoc]; rfl

end JobQueue

end TestQueue
