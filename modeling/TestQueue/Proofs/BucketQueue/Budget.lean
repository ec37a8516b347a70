import TestQueue.Proofs.BucketQueue.Reclaim
import TestQueue.Proofs.JobQueue.Budget

namespace TestQueue.BucketQueue

variable {q q' : BucketQueue} {ids : IdSource} {j k : JobId} {jq : JobQueue}

def budget? (q : BucketQueue) (j : JobId) : Option ℕ := (q.jobs.find? j).map JobQueue.budget

def budget (q : BucketQueue) : ℕ := q.jobs.total JobQueue.budget

lemma budget_congr (h : ∀ k, q'.budget? k = q.budget? k) : q'.budget = q.budget :=
  Table.total_congr h

lemma budget_add_of_agree (h : ∀ k, k ≠ j → q'.budget? k = q.budget? k) :
    q'.budget + (q.budget? j).getD 0 = q.budget + (q'.budget? j).getD 0 :=
  Table.total_add_of_agree h

lemma budget_of_idle (h : q.handOuts = []) : q.budget =
    ((q.jobs.values.flatMap JobQueue.pending).map Bucket.attempts).sum := by
  have hjob : ∀ jq ∈ q.jobs.values, jq.budget = (jq.pending.map Bucket.attempts).sum := by
    intro jq hm
    rw [JobQueue.budget, JobQueue.openBuckets, List.flatMap_eq_nil_iff.1 h jq hm, List.map_nil,
      List.append_nil]
  rw [budget, Table.total, List.map_congr_left hjob, List.map_flatMap, List.flatMap_def,
    List.sum_flatten, List.map_map]
  rfl

lemma budget?_put_handOut {rest : List Bucket} {h : HandOut} (hs : q.Routed ids)
    (hj : q.jobs.find? j = some jq) (hp : jq.pending = h.bucket :: rest) (k : JobId) :
    (q.put j (jq.afterHandOut rest h)).budget? k = q.budget? k := by
  rw [budget?, budget?, find?_put]
  split
  · rename_i hk
    rw [hk, hj, Option.map_some, Option.map_some,
      JobQueue.budget_of_perm (JobQueue.openBuckets_afterHandOut (hs.jobs j jq hj) hp)]
  · rfl

lemma budget?_reclaimFrom (hs : q.Sound ids) (ws : List WorkerId) (hj : q.jobs.find? j = some jq)
    (hd : jq.deleted = false) : (q.reclaimFrom ws).budget? j = some jq.budget := by
  rw [budget?, find?_reclaimFrom_of_not_deleted hs hj hd, Option.map_some,
    JobQueue.budget_of_perm (JobQueue.openBuckets_reclaimFrom hd ws)]

lemma budget?_accept {result : BucketResult} {w : WorkerId} {r : RequestId} {ids' : IdSource}
    {b : BucketId} {retry : Option BucketId} (hs : q.Routed ids)
    (ha : q.accept result w r ids = .ok (.accepted b retry, q', ids')) :
    ∃ j jq, q.owners.find? b = some j ∧ q.jobs.find? j = some jq ∧
      (q'.budget? j).getD 0 + 1 ≤ jq.budget ∧ ∀ k, k ≠ j → q'.budget? k = q.budget? k := by
  obtain ⟨j, jq, ho, hj, ⟨o, n, hf, -, -, hb, -, -, rfl⟩ | ⟨why, hc, -⟩⟩ := accept_cases ha
  · obtain rfl : b = result.bucketId := by simp only [Acceptance.accepted.injEq] at hb; exact hb.1
    have hq := hs.jobs j jq hj
    have hlt := JobQueue.budget_afterRecord_lt hq ids (JobQueue.mem_handOuts_iff.2 ⟨_, _, hf⟩)
      (hq.keyed _ _ hf).symm
    refine ⟨j, jq, ho, hj, ?_, fun k hk => ?_⟩
    · rw [budget?, find?_finalize, if_pos rfl]
      simp only [find?_put, if_true, Option.filter_some]
      split
      · exact hlt
      · exact (Nat.succ_le_succ (Nat.zero_le _)).trans hlt
    · rw [budget?, find?_finalize, if_neg hk]
      simp only [find?_put, if_neg hk, budget?]
  · cases hc

end TestQueue.BucketQueue
