import TestQueue.Proofs.BucketQueue.Routing

namespace TestQueue.BucketQueue

open Time (Instant)

variable {q q' : BucketQueue} {j k : JobId}

lemma find?_put (q : BucketQueue) (j : JobId) (jq : JobQueue) (k : JobId) :
    (q.put j jq).jobs.find? k = if k = j then some jq else q.jobs.find? k :=
  Table.find?_insert _ _ _ _

lemma put_eq_self {jq : JobQueue} (hj : q.jobs.find? j = some jq) : q.put j jq = q := by
  rw [put, Table.insert_eq_self hj]

def jobOr (q : BucketQueue) (j : JobId) (priority : Priority) : JobQueue :=
  (q.jobs.find? j).getD (.new ⟨j, priority, q.nextSequence⟩)

lemma find?_withJob (q : BucketQueue) (j k : JobId) (priority : Priority) :
    (q.withJob j priority).jobs.find? k =
      if k = j then some (q.jobOr j priority) else q.jobs.find? k := by
  unfold withJob jobOr
  split
  · rename_i hc
    obtain ⟨jq, hj⟩ := Table.contains_iff.1 hc
    split
    · rename_i he
      simp [he, hj]
    · rfl
  · rename_i hc
    rw [Table.contains_eq_isSome, Option.not_isSome_iff_eq_none] at hc
    simp [hc]

lemma job?_withJob (q : BucketQueue) (j : JobId) (priority : Priority) :
    (q.withJob j priority).job? j = .ok (q.jobOr j priority) := by
  simp [job?, find?_withJob]

lemma withJob_of_deleted {priority : Priority} (hd : (q.jobOr j priority).deleted = true) :
    q.withJob j priority = q := by
  unfold withJob
  rw [if_pos]
  rw [Table.contains_eq_isSome]
  unfold jobOr at hd
  cases hj : q.jobs.find? j with
  | none =>
    rw [hj] at hd
    cases hd
  | some jq => rfl

lemma owners_withJob (q : BucketQueue) (j : JobId) (priority : Priority) :
    (q.withJob j priority).owners = q.owners := by
  unfold withJob
  split <;> rfl

lemma find?_assign (t : Table BucketId JobId) (j : JobId) (bs : List BucketId) (b : BucketId) :
    (assign t j bs).find? b = if b ∈ bs then some j else t.find? b := by
  unfold assign
  induction bs generalizing t with
  | nil => simp
  | cons c bs ih =>
    rw [List.foldl_cons, ih, Table.find?_insert]
    by_cases hb : b ∈ bs
    · simp [hb]
    · by_cases hc : b = c <;> simp [hb, hc]

lemma enqueue_eq_ok {priority : Priority} {buckets : List Bucket} {job : PrioritizedJob}
    (h : q.enqueue j priority buckets = .ok (job, q')) :
    (q.jobOr j priority).deleted = false ∧ job = (q.jobOr j priority).job ∧
      (∀ k, q'.jobs.find? k =
        if k = j then some ((q.jobOr j priority).enqueue buckets) else q.jobs.find? k) ∧
      ∀ b, q'.owners.find? b =
        if b ∈ buckets.map Bucket.bucketId then some j else q.owners.find? b := by
  simp only [enqueue, job?_withJob, bind, Except.bind] at h
  split at h
  · cases h
  · rename_i hd
    obtain ⟨rfl, rfl⟩ : _ = job ∧ _ = q' := by simpa using h
    refine ⟨by simpa using hd, rfl, fun k => ?_, fun b => ?_⟩
    · simp only [put, Table.find?_insert, find?_withJob]
      split <;> rfl
    · rw [find?_assign, owners_withJob]

lemma foldl_better_mem (a : JobQueue) (l : List JobQueue) : l.foldl better a ∈ a :: l := by
  induction l generalizing a with
  | nil => simp
  | cons b l ih =>
    rw [List.foldl_cons]
    rcases List.mem_cons.1 (ih (better a b)) with he | hm
    · rw [he, better]
      split <;> simp
    · exact List.mem_cons_of_mem _ (List.mem_cons_of_mem _ hm)

lemma next?_eq_some {jq : JobQueue} (h : q.next? = some jq) :
    jq ∈ q.jobs.values ∧ jq.hasPending = true := by
  unfold next? first? at h
  split at h
  · cases h
  · rename_i a l hl
    obtain rfl := Option.some.inj h
    have hm := foldl_better_mem a l
    rw [← hl, List.mem_filter] at hm
    exact hm

lemma previous?_eq_none_iff {w : WorkerId} {r : RequestId} :
    q.previous? w r = none ↔ ∀ h ∈ q.handOuts, h.isFor w r = false := by
  simp only [previous?, List.findSome?_eq_none_iff, JobQueue.previous?_eq_none_iff, handOuts,
    List.mem_flatMap]
  constructor
  · rintro hn h ⟨jq, hj, hh⟩
    exact hn jq hj h hh
  · rintro hn jq hj h hh
    exact hn h ⟨jq, hj, hh⟩

lemma isFor_of_previous? {w : WorkerId} {r : RequestId} {h : HandOut}
    (hp : q.previous? w r = some h) : h ∈ q.handOuts ∧ h.isFor w r = true := by
  obtain ⟨jq, hj, hf⟩ := List.exists_of_findSome?_eq_some hp
  obtain ⟨hm, hw⟩ := JobQueue.isFor_of_previous? hf
  exact ⟨List.mem_flatMap.2 ⟨jq, hj, hm⟩, hw⟩

lemma dequeue_of_next? {w : WorkerId} {r : RequestId} {jq : JobQueue}
    (hn : q.previous? w r = none) (hx : q.next? = some jq) (now : Instant) :
    ∃ bucket rest, jq.pending = bucket :: rest ∧ q.dequeue w r now =
      (.handedOut ⟨bucket, w, r, now⟩,
        q.put jq.job.jobId (jq.afterHandOut rest ⟨bucket, w, r, now⟩)) := by
  obtain ⟨hm, hw⟩ := next?_eq_some hx
  obtain ⟨j, hj⟩ := Table.mem_values_iff.1 hm
  obtain ⟨bucket, rest, hb⟩ := List.exists_cons_of_ne_nil
    (show jq.pending ≠ [] by simpa [JobQueue.hasPending] using hw)
  have hjn : jq.previous? w r = none := JobQueue.previous?_eq_none_iff.2 fun h hh =>
    previous?_eq_none_iff.1 hn h (mem_handOuts_iff.2 ⟨j, jq, hj, hh⟩)
  refine ⟨bucket, rest, hb, ?_⟩
  simp only [dequeue, hn, hx, JobQueue.dequeue_of_pending hjn hb]
  rfl

lemma dequeue_cases {ids : IdSource} (hs : q.Routed ids) (w : WorkerId) (r : RequestId)
    (now : Instant) :
    (∃ h, h ∈ q.handOuts ∧ h.isFor w r = true ∧ q.dequeue w r now = (.handedOut h, q)) ∨
    (∃ j jq bucket rest, q.jobs.find? j = some jq ∧ jq.pending = bucket :: rest ∧
      (∀ h ∈ q.handOuts, h.isFor w r = false) ∧
      q.dequeue w r now = (.handedOut ⟨bucket, w, r, now⟩,
        q.put j (jq.afterHandOut rest ⟨bucket, w, r, now⟩))) ∨
    (∃ a, (∀ h, a ≠ .handedOut h) ∧ q.dequeue w r now = (a, q)) := by
  cases hp : q.previous? w r with
  | some h =>
    obtain ⟨hm, hf⟩ := isFor_of_previous? hp
    exact Or.inl ⟨h, hm, hf, by simp only [dequeue, hp]⟩
  | none =>
    cases hx : q.next? with
    | some jq =>
      obtain ⟨j, hj⟩ := Table.mem_values_iff.1 (next?_eq_some hx).1
      obtain ⟨bucket, rest, hb, hd⟩ := dequeue_of_next? hp hx now
      rw [hs.named j jq hj] at hd
      exact Or.inr (Or.inl ⟨j, jq, bucket, rest, hj, hb, previous?_eq_none_iff.1 hp, hd⟩)
    | none =>
      refine Or.inr (Or.inr ⟨_, ?_, by simp only [dequeue, hp, hx]; rfl⟩)
      intro h
      split <;> simp

lemma accept_cases {result : BucketResult} {w : WorkerId} {r : RequestId} {ids ids' : IdSource}
    {a : Acceptance} (h : q.accept result w r ids = .ok (a, q', ids')) :
    ∃ j jq, q.owners.find? result.bucketId = some j ∧ q.jobs.find? j = some jq ∧
      ((∃ o n, jq.outstanding.find? result.bucketId = some o ∧ o.handOut.isFor w r = true ∧
          (∀ t ∈ result.tests, t ∈ o.handOut.bucket.tests) ∧
          a = .accepted result.bucketId
            ((jq.residual? o.handOut result ids).map Bucket.bucketId) ∧
          ids' = ids.advance n ∧ (jq.residual? o.handOut result ids ≠ none → n = 1) ∧
          q' = finalize { q.put j (jq.afterRecord o.handOut result
              (jq.residual? o.handOut result ids)) with
            owners := assign q.owners j
              ((jq.residual? o.handOut result ids).toList.map Bucket.bucketId) } j) ∨
        ∃ why, a = .stale why ∧ ids' = ids ∧ q' = q.finalize j ∧
          ∀ o, jq.outstanding.find? result.bucketId = some o → o.handOut.isFor w r = false) := by
  unfold accept at h
  split at h
  · cases h
  · rename_i j ho
    split at h
    · cases h
    · rename_i jq hj
      refine ⟨j, jq, ho, hj, ?_⟩
      cases ha : jq.accept result w r ids with
      | error e =>
        rw [ha] at h
        cases h
      | ok x =>
        obtain ⟨a', jq', ids''⟩ := x
        rw [ha] at h
        rcases JobQueue.accept_cases ha with ⟨o, hf, hw, ht, hr⟩ | ⟨why, rfl, rfl, rfl, hn⟩
        · obtain ⟨n, he, hn⟩ := jq.record_eq o.handOut result ids
          rw [he] at hr
          obtain ⟨rfl, rfl, rfl⟩ : _ = a' ∧ _ = jq' ∧ _ = ids'' := by simpa using hr
          simp only [bind, Except.bind, Except.ok.injEq, Prod.mk.injEq] at h
          obtain ⟨rfl, rfl, rfl⟩ := h
          refine Or.inl ⟨o, n, hf, hw, ht, rfl, rfl, hn, ?_⟩
          cases jq.residual? o.handOut result ids <;> rfl
        · obtain ⟨rfl, rfl, rfl⟩ : _ = a ∧ _ = q' ∧ _ = ids' := by
            simpa [bind, Except.bind] using h
          exact Or.inr ⟨why, rfl, rfl, by rw [put_eq_self hj], hn⟩

lemma delete_cases {state : JobState} (h : q.delete j = .ok (state, q')) :
    ∃ jq, q.jobs.find? j = some jq ∧ state = jq.markDeleted.state ∧
      q' = (q.put j jq.markDeleted).finalize j := by
  unfold delete job? at h
  cases hj : q.jobs.find? j with
  | none =>
    rw [hj] at h
    cases h
  | some jq =>
    rw [hj] at h
    obtain ⟨rfl, rfl⟩ : _ = state ∧ _ = q' := by simpa [bind, Except.bind] using h
    exact ⟨jq, rfl, rfl, rfl⟩

end TestQueue.BucketQueue
