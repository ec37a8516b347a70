import TestQueue.Proofs.BucketQueue.Reclaim

/-!
The index leads a bucket to its job as long as the job is there, whatever happens to the bucket.
-/

namespace TestQueue.BucketQueue

open Time (Instant)

variable {q q' : BucketQueue} {ids ids' : IdSource} {j k : JobId} {kq : JobQueue} {b : BucketId}

lemma owners_finalize (hb : q.owners.find? b = some k)
    (hk : (q.finalize j).jobs.find? k = some kq) : (q.finalize j).owners.find? b = some k := by
  obtain ⟨hf, hc⟩ := of_find?_finalize hk
  by_cases hkj : k = j
  · rw [finalize_eq_self fun jq hj => ?_]
    · exact hb
    · obtain rfl := Option.some.inj (hf.symm.trans (hkj ▸ hj))
      exact hc hkj
  · unfold finalize
    split
    · split
      · simp [hb, hkj]
      · exact hb
    · exact hb

lemma owners_foldl_finalize (bs : List (JobId × JobQueue)) (hb : q.owners.find? b = some k)
    (hk : (bs.foldl (fun q b => q.finalize b.1) q).jobs.find? k = some kq) :
    (bs.foldl (fun q b => q.finalize b.1) q).owners.find? b = some k := by
  induction bs generalizing q with
  | nil => exact hb
  | cons c bs ih =>
    have hc : (q.finalize c.1).jobs.find? k = some kq := by
      have hm := hk
      rw [List.foldl_cons, find?_foldl_finalize] at hm
      split at hm
      · exact (Option.filter_eq_some_iff.1 hm).1
      · exact hm
    exact ih (owners_finalize hb hc) hk

lemma owners_reclaim {w : WorkerId} (hb : q.owners.find? b = some k)
    (hk : (q.reclaim w).2.jobs.find? k = some kq) : (q.reclaim w).2.owners.find? b = some k :=
  owners_foldl_finalize (q := { q with jobs := q.jobs.mapValues fun _ jq => (jq.reclaim w).2 }) _
    hb hk

lemma owners_reclaimFrom (hs : q.Sound ids) (ws : List WorkerId) (hb : q.owners.find? b = some k)
    (hk : (q.reclaimFrom ws).jobs.find? k = some kq) :
    (q.reclaimFrom ws).owners.find? b = some k := by
  induction ws generalizing q with
  | nil => exact hb
  | cons w ws ih =>
    have hk' : ((q.reclaim w).2.reclaimFrom ws).jobs.find? k = some kq := hk
    rw [find?_reclaimFrom (hs.reclaim w), Option.filter_eq_some_iff, Option.map_eq_some_iff] at hk'
    obtain ⟨⟨jq, hj, -⟩, -⟩ := hk'
    exact ih (hs.reclaim w) (owners_reclaim hb hj) hk

lemma owners_delete {state : JobState} (h : q.delete j = .ok (state, q'))
    (hb : q.owners.find? b = some k) (hk : q'.jobs.find? k = some kq) :
    q'.owners.find? b = some k := by
  obtain ⟨jq, -, -, rfl⟩ := delete_cases h
  exact owners_finalize (q := q.put j jq.markDeleted) hb hk

section

variable (hids : Function.Injective ids.nth) (hs : q.Sound ids)

include hids hs

lemma owners_enqueue {priority : Priority} {buckets : List Bucket} {job : PrioritizedJob} {n : ℕ}
    (h : q.enqueue j priority buckets = .ok (job, q'))
    (hnew : buckets.map Bucket.bucketId = (ids.upcoming n).map .mk)
    (hb : q.owners.find? b = some k) : q'.owners.find? b = some k := by
  rw [(enqueue_eq_ok h).2.2.2, if_neg, hb]
  intro hm
  rw [hnew] at hm
  exact IdSource.not_drawn_of_mem_map_upcoming hids hm (hs.drawn _ k hb)

lemma owners_accept {result : BucketResult} {w : WorkerId} {r : RequestId} {a : Acceptance}
    (h : q.accept result w r ids = .ok (a, q', ids')) (hb : q.owners.find? b = some k)
    (hk : q'.jobs.find? k = some kq) : q'.owners.find? b = some k := by
  obtain ⟨j, jq, -, -, ⟨o, n, -, -, -, -, -, -, rfl⟩ | ⟨why, -, -, rfl, -⟩⟩ := accept_cases h
  · refine owners_finalize ?_ hk
    rw [find?_assign, if_neg, hb]
    intro hm
    obtain ⟨bucket, hr, rfl⟩ := List.mem_map.1 hm
    have hd := hs.drawn _ k hb
    rw [JobQueue.bucketId_of_residual? (Option.mem_toList.1 hr)] at hd
    exact IdSource.next_not_drawn hids hd
  · exact owners_finalize hb hk

end

lemma of_owners_foldl_finalize (bs : List (JobId × JobQueue))
    (h : (bs.foldl (fun q b => q.finalize b.1) q).owners.find? b = some k) :
    q.owners.find? b = some k := by
  induction bs generalizing q with
  | nil => exact h
  | cons c bs ih => exact of_owners_finalize (ih h)

lemma of_owners_reclaim {w : WorkerId} (h : (q.reclaim w).2.owners.find? b = some k) :
    q.owners.find? b = some k :=
  of_owners_foldl_finalize (q := { q with jobs := q.jobs.mapValues fun _ jq => (jq.reclaim w).2 }) _ h

lemma of_owners_reclaimFrom (ws : List WorkerId)
    (h : (q.reclaimFrom ws).owners.find? b = some k) : q.owners.find? b = some k := by
  induction ws generalizing q with
  | nil => exact h
  | cons w ws ih => exact of_owners_reclaim (ih h)

lemma of_owners_delete {state : JobState} (h : q.delete j = .ok (state, q'))
    (hb : q'.owners.find? b = some k) : q.owners.find? b = some k := by
  obtain ⟨jq, -, -, rfl⟩ := delete_cases h
  exact of_owners_finalize (q := q.put j jq.markDeleted) hb

lemma of_owners_enqueue {priority : Priority} {buckets : List Bucket} {job : PrioritizedJob}
    (h : q.enqueue j priority buckets = .ok (job, q')) (hb : q'.owners.find? b = some k) :
    q.owners.find? b = some k ∨ b ∈ buckets.map Bucket.bucketId := by
  rw [(enqueue_eq_ok h).2.2.2] at hb
  split at hb
  · exact Or.inr ‹_›
  · exact Or.inl hb

lemma of_owners_accept {result : BucketResult} {w : WorkerId} {r : RequestId} {a : Acceptance}
    (h : q.accept result w r ids = .ok (a, q', ids')) (hb : q'.owners.find? b = some k) :
    q.owners.find? b = some k ∨ b.text = ids.next := by
  obtain ⟨j, jq, -, -, ⟨o, n, -, -, -, -, -, -, rfl⟩ | ⟨why, -, -, rfl, -⟩⟩ := accept_cases h
  · have hb' := of_owners_finalize hb
    rw [find?_assign] at hb'
    split at hb'
    · rename_i hm
      obtain ⟨bucket, hr, rfl⟩ := List.mem_map.1 hm
      exact Or.inr (by rw [JobQueue.bucketId_of_residual? (Option.mem_toList.1 hr)])
    · exact Or.inl hb'
  · exact Or.inl (of_owners_finalize hb)

end TestQueue.BucketQueue
