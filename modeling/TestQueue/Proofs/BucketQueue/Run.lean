import TestQueue.Proofs.BucketQueue.Decision
import TestQueue.Proofs.BucketQueue.Reclaim

namespace TestQueue.BucketQueue

open Time (Instant)

variable {q q' : BucketQueue} {j : JobId} {jq : JobQueue}

/-- An operation succeeds. One that fails leaves the queue as it was. -/
inductive Step (q : BucketQueue) : BucketQueue → Prop
  | enqueue {j : JobId} {priority : Priority} {buckets : List Bucket} {job : PrioritizedJob}
      {q' : BucketQueue} (done : q.enqueue j priority buckets = .ok (job, q')) : Step q q'
  | dequeue (w : WorkerId) (r : RequestId) (now : Instant) : Step q (q.dequeue w r now).2
  | accept {result : BucketResult} {w : WorkerId} {r : RequestId} {ids ids' : IdSource}
      {a : Acceptance} {q' : BucketQueue}
      (done : q.accept result w r ids = .ok (a, q', ids')) : Step q q'
  | reclaim (w : WorkerId) : Step q (q.reclaim w).2
  | delete {j : JobId} {state : JobState} {q' : BucketQueue}
      (done : q.delete j = .ok (state, q')) : Step q q'

inductive Reachable : BucketQueue → Prop
  | empty : Reachable .empty
  | step {q q' : BucketQueue} (before : Reachable q) (step : q.Step q') : Reachable q'

structure Within (q' q : BucketQueue) : Prop where
  numbers : q'.nextSequence = q.nextSequence
  jobs : ∀ j jq', q'.jobs.find? j = some jq' → ∃ jq, q.jobs.find? j = some jq ∧ jq'.job = jq.job ∧
    ∀ b o, jq'.outstanding.find? b = some o → jq.outstanding.find? b = some o

lemma Within.entry (h : q'.Within q) {b : BucketId} {k : HandOut} (hk : q'.Entry j b k) :
    q.Entry j b k := by
  obtain ⟨jq', n, hj, hb⟩ := hk
  obtain ⟨jq, hj, -, hout⟩ := h.jobs j jq' hj
  exact ⟨jq, n, hj, hout b _ hb⟩

lemma nextSequence_finalize (q : BucketQueue) (j : JobId) :
    (q.finalize j).nextSequence = q.nextSequence := by
  unfold finalize
  split
  · split <;> rfl
  · rfl

lemma nextSequence_foldl_finalize (bs : List (JobId × JobQueue)) (q : BucketQueue) :
    (bs.foldl (fun q b => q.finalize b.1) q).nextSequence = q.nextSequence := by
  induction bs generalizing q with
  | nil => rfl
  | cons b bs ih => rw [List.foldl_cons, ih, nextSequence_finalize]

lemma within_finalize (q : BucketQueue) (j : JobId) : (q.finalize j).Within q where
  numbers := nextSequence_finalize q j
  jobs _ jq' hk := ⟨jq', (of_find?_finalize hk).1, rfl, fun _ _ => id⟩

lemma within_put {jq' : JobQueue} (hj : q.jobs.find? j = some jq) (hjob : jq'.job = jq.job)
    (hout : ∀ b o, jq'.outstanding.find? b = some o → jq.outstanding.find? b = some o) :
    (q.put j jq').Within q where
  numbers := rfl
  jobs k kq hk := by
    rw [find?_put] at hk
    split at hk
    · rename_i he
      obtain rfl := Option.some.inj hk
      exact ⟨jq, he ▸ hj, hjob, hout⟩
    · exact ⟨kq, hk, rfl, fun _ _ => id⟩

lemma within_reclaim (q : BucketQueue) (w : WorkerId) : (q.reclaim w).2.Within q where
  numbers := nextSequence_foldl_finalize _ _
  jobs k kq hk := by
    have hmap : ((q.jobs.find? k).map fun jq => (jq.reclaim w).2) = some kq := by
      unfold BucketQueue.reclaim at hk
      rw [find?_foldl_finalize, Table.find?_mapValues] at hk
      split at hk
      · exact (Option.filter_eq_some_iff.1 hk).1
      · exact hk
    obtain ⟨jq, hj, rfl⟩ := Option.map_eq_some_iff.1 hmap
    refine ⟨jq, hj, rfl, fun b o hb => ?_⟩
    simp only [JobQueue.reclaim, Table.find?_filter, Option.filter_eq_some_iff] at hb
    exact hb.1

lemma ranked_empty : empty.Ranked where
  named j jq h := by simp [empty] at h
  numbered j jq h := by simp [empty] at h
  distinct j k jq kq h := by simp [empty] at h
  single i j b c h k hi := by
    obtain ⟨jq, n, hj, -⟩ := hi
    simp [empty] at hj

namespace Ranked

variable (hq : q.Ranked)

include hq

lemma renew (hn : q'.nextSequence = q.nextSequence)
    (hjobs : ∀ j jq', q'.jobs.find? j = some jq' → ∃ jq, q.jobs.find? j = some jq ∧ jq'.job = jq.job)
    (hsingle : ∀ i j b c h k, q'.Entry i b h → q'.Entry j c k → h.workerId = k.workerId →
      h.requestId = k.requestId → i = j ∧ b = c) : q'.Ranked where
  named j jq' hj := by
    obtain ⟨jq, hj, he⟩ := hjobs j jq' hj
    rw [he, hq.named j jq hj]
  numbered j jq' hj := by
    obtain ⟨jq, hj, he⟩ := hjobs j jq' hj
    rw [he, hn]
    exact hq.numbered j jq hj
  distinct j k jq' kq' hj hk hs := by
    obtain ⟨jq, hj, he⟩ := hjobs j jq' hj
    obtain ⟨kq, hk, he'⟩ := hjobs k kq' hk
    exact hq.distinct j k jq kq hj hk (by rw [← he, ← he', hs])
  single := hsingle

lemma within (h : q'.Within q) : q'.Ranked := by
  refine hq.renew h.numbers (fun j jq' hj => ?_) fun i j b c k l hi hj =>
    hq.single i j b c k l (h.entry hi) (h.entry hj)
  obtain ⟨jq, hj, he, -⟩ := h.jobs j jq' hj
  exact ⟨jq, hj, he⟩

lemma withOwners (owners : Table BucketId JobId) : Ranked { q with owners } :=
  ⟨hq.named, hq.numbered, hq.distinct, hq.single⟩

lemma finalize (j : JobId) : (q.finalize j).Ranked := hq.within (within_finalize q j)

lemma put {jq' : JobQueue} (hj : q.jobs.find? j = some jq) (hjob : jq'.job = jq.job)
    (hout : ∀ b o, jq'.outstanding.find? b = some o → jq.outstanding.find? b = some o) :
    (q.put j jq').Ranked :=
  hq.within (within_put hj hjob hout)

lemma withJob (j : JobId) (priority : Priority) : (q.withJob j priority).Ranked := by
  unfold BucketQueue.withJob
  split
  · exact hq
  · have hfind {k : JobId} {kq : JobQueue}
        (hk : (q.jobs.insert j (.new ⟨j, priority, q.nextSequence⟩)).find? k = some kq) :
        (k = j ∧ kq = .new ⟨j, priority, q.nextSequence⟩) ∨ q.jobs.find? k = some kq := by
      rw [Table.find?_insert] at hk
      split at hk
      · exact Or.inl ⟨‹_›, (Option.some.inj hk).symm⟩
      · exact Or.inr hk
    refine ⟨fun k kq hk => ?_, fun k kq hk => ?_, fun k l kq lq hk hl hs => ?_,
      fun i k b c h l hi hk => ?_⟩
    · rcases hfind hk with ⟨rfl, rfl⟩ | hk'
      · rfl
      · exact hq.named k kq hk'
    · rcases hfind hk with ⟨rfl, rfl⟩ | hk'
      · exact Nat.lt_succ_self _
      · exact Nat.lt_succ_of_lt (hq.numbered k kq hk')
    · rcases hfind hk with ⟨rfl, rfl⟩ | hk' <;> rcases hfind hl with ⟨he, rfl⟩ | hl'
      · exact he.symm
      · exact absurd hs (hq.numbered l lq hl').ne'
      · exact absurd hs (hq.numbered k kq hk').ne
      · exact hq.distinct k l kq lq hk' hl' hs
    · have hold {i : JobId} {b : BucketId} {h : HandOut}
          (hi : Entry { q with
            jobs := q.jobs.insert j (.new ⟨j, priority, q.nextSequence⟩)
            nextSequence := q.nextSequence + 1 } i b h) : q.Entry i b h := by
        obtain ⟨iq, n, hi, hb⟩ := hi
        rcases hfind hi with ⟨-, rfl⟩ | hi'
        · cases hb
        · exact ⟨iq, n, hi', hb⟩
      exact hq.single i k b c h l (hold hi) (hold hk)

lemma enqueue {priority : Priority} {buckets : List Bucket} {job : PrioritizedJob}
    (h : q.enqueue j priority buckets = .ok (job, q')) : q'.Ranked := by
  have hjob : (q.withJob j priority).jobs.find? j = some (q.jobOr j priority) := by
    rw [find?_withJob, if_pos rfl]
  simp only [BucketQueue.enqueue, job?_withJob, bind, Except.bind] at h
  split at h
  · cases h
  · obtain ⟨-, rfl⟩ : _ = job ∧ _ = q' := by simpa using h
    have hput : ((q.withJob j priority).put j ((q.jobOr j priority).enqueue buckets)).Ranked :=
      (hq.withJob j priority).put hjob rfl fun _ _ => id
    exact hput.withOwners _

omit hq in
lemma entry_put_handOut {rest : List Bucket} {new h : HandOut} {k : JobId} {b : BucketId}
    (hj : q.jobs.find? j = some jq) (hk : (q.put j (jq.afterHandOut rest new)).Entry k b h) :
    (k = j ∧ b = new.bucket.bucketId ∧ h = new) ∨ q.Entry k b h := by
  obtain ⟨kq, n, hk, hb⟩ := hk
  rw [find?_put] at hk
  split at hk
  · rename_i he
    obtain rfl := Option.some.inj hk
    simp only [JobQueue.afterHandOut, Table.find?_insert] at hb
    split at hb
    · exact Or.inl ⟨he, ‹_›, (Outstanding.mk.inj (Option.some.inj hb)).2.symm⟩
    · exact Or.inr ⟨jq, n, he ▸ hj, hb⟩
  · exact Or.inr ⟨kq, n, hk, hb⟩

lemma put_handOut {rest : List Bucket} {new : HandOut} (hj : q.jobs.find? j = some jq)
    (hnew : ∀ h ∈ q.handOuts, h.isFor new.workerId new.requestId = false) :
    (q.put j (jq.afterHandOut rest new)).Ranked := by
  have hother {k : JobId} {b : BucketId} {h : HandOut} (hk : q.Entry k b h)
      (hw : h.workerId = new.workerId) (hr : h.requestId = new.requestId) : False := by
    have hf := hnew h (mem_handOuts_iff_entry.2 ⟨k, b, hk⟩)
    rw [HandOut.isFor_iff.2 ⟨hw, hr⟩] at hf
    cases hf
  refine hq.renew rfl (fun k kq hk => ?_) fun i k b c h l hi hk hw hr => ?_
  · rw [find?_put] at hk
    split at hk
    · rename_i he
      obtain rfl := Option.some.inj hk
      exact ⟨jq, he ▸ hj, rfl⟩
    · exact ⟨kq, hk, rfl⟩
  · rcases entry_put_handOut hj hi with ⟨rfl, rfl, rfl⟩ | hi' <;>
      rcases entry_put_handOut hj hk with ⟨he, he', rfl⟩ | hk'
    · exact ⟨he.symm, he'.symm⟩
    · exact (hother hk' hw.symm hr.symm).elim
    · exact (hother hi' hw hr).elim
    · exact hq.single i k b c h l hi' hk' hw hr

lemma dequeue (w : WorkerId) (r : RequestId) (now : Instant) : (q.dequeue w r now).2.Ranked := by
  have hd := hq.decision w r now
  generalize q.dequeue w r now = out at hd
  cases hd with
  | again => exact hq
  | front hnew hfirst _ => exact hq.put_handOut hfirst.present hnew
  | later => exact hq
  | exhausted => exact hq

lemma accept {result : BucketResult} {w : WorkerId} {r : RequestId} {ids ids' : IdSource}
    {a : Acceptance} (h : q.accept result w r ids = .ok (a, q', ids')) : q'.Ranked := by
  obtain ⟨j, jq, -, hj, ⟨o, n, -, -, -, -, -, -, rfl⟩ | ⟨_, -, -, rfl, -⟩⟩ := accept_cases h
  · have hput : (q.put j (jq.afterRecord o.handOut result
        (jq.residual? o.handOut result ids))).Ranked := by
      refine hq.put hj rfl fun b o hb => ?_
      simp only [JobQueue.afterRecord, Table.find?_erase] at hb
      split at hb
      · cases hb
      · exact hb
    exact (hput.withOwners _).finalize j
  · exact hq.finalize j

lemma reclaim (w : WorkerId) : (q.reclaim w).2.Ranked := hq.within (within_reclaim q w)

omit hq in
lemma reclaimFrom (hq : q.Ranked) (ws : List WorkerId) : (q.reclaimFrom ws).Ranked := by
  induction ws generalizing q with
  | nil => exact hq
  | cons w ws ih => exact ih (hq.reclaim w)

lemma delete {state : JobState} (h : q.delete j = .ok (state, q')) : q'.Ranked := by
  obtain ⟨jq, hj, -, rfl⟩ := delete_cases h
  have hput : (q.put j jq.markDeleted).Ranked := hq.put hj rfl fun _ _ => id
  exact hput.finalize j

lemma step (h : q.Step q') : q'.Ranked := by
  cases h with
  | enqueue done => exact hq.enqueue done
  | dequeue w r now => exact hq.dequeue w r now
  | accept done => exact hq.accept done
  | reclaim w => exact hq.reclaim w
  | delete done => exact hq.delete done

end Ranked

lemma Reachable.ranked (h : Reachable q) : q.Ranked := by
  induction h with
  | empty => exact ranked_empty
  | step _ hstep ih => exact ih.step hstep

end TestQueue.BucketQueue
