import TestQueue.Proofs.BucketQueue.Deletion

namespace TestQueue

open Time (Instant)

lemma JobQueue.reclaim_of_idle {q : JobQueue} {w : WorkerId}
    (hw : ∀ h ∈ q.handOuts, h.workerId ≠ w) : (q.reclaim w).2 = q := by
  have hout : ∀ o ∈ q.outstanding.values, o.handOut.workerId ≠ w :=
    fun o ho => hw _ (List.mem_map_of_mem ho)
  have hheld : q.heldBy w = [] := by
    rw [heldBy, List.filter_eq_nil_iff.2 fun o ho => by simpa using hout o ho, List.mergeSort_nil]
  have hkept : (q.outstanding.filter fun _ o => o.handOut.workerId ≠ w) = q.outstanding :=
    Table.filter_eq_self fun b hb => by simpa using hout b.2 (List.mem_map_of_mem hb)
  simp only [reclaim, hheld, hkept, List.map_nil, List.nil_append, ite_self]

namespace BucketQueue

variable {q q' : BucketQueue} {ids : IdSource}

/-- Every job is as it was, also in the order of service, except for those that are touched. -/
structure Spares (q q' : BucketQueue) (touched : JobId → Bool) : Prop where
  jobs : ∀ j, touched j = false → q'.jobs.find? j = q.jobs.find? j
  state : ∀ j, touched j = false → q'.state j = q.state j
  results : ∀ j, touched j = false → q'.results j = q.results j
  order : (q'.inServiceOrder.filter fun jq => !touched jq.job.jobId) =
    q.inServiceOrder.filter fun jq => !touched jq.job.jobId

lemma serviceOrder_ne_gt_iff {a b : PrioritizedJob} : a.serviceOrder b ≠ .gt ↔
    b.priority.toNat < a.priority.toNat ∨
      b.priority.toNat = a.priority.toNat ∧ a.sequence ≤ b.sequence := by
  simp only [PrioritizedJob.serviceOrder, ne_eq, Ordering.then_eq_gt, Nat.compare_eq_gt,
    Nat.compare_eq_eq]
  omega

lemma pairwise_inServiceOrder (q : BucketQueue) :
    q.inServiceOrder.Pairwise fun a b => a.job.serviceOrder b.job ≠ .gt := by
  refine (List.pairwise_mergeSort ?_ ?_ q.jobs.values).imp of_decide_eq_true
  · intro a b c hab hbc
    simp only [decide_eq_true_eq, serviceOrder_ne_gt_iff] at hab hbc ⊢
    omega
  · intro a b
    simp only [Bool.or_eq_true, decide_eq_true_eq, serviceOrder_ne_gt_iff]
    omega

namespace Ranked

variable (hq : q.Ranked)

include hq

lemma eq_of_sequence {a b : JobQueue} (ha : a ∈ q.jobs.values) (hb : b ∈ q.jobs.values)
    (hs : a.job.sequence = b.job.sequence) : a = b := by
  obtain ⟨j, hj⟩ := Table.mem_values_iff.1 ha
  obtain ⟨k, hk⟩ := Table.mem_values_iff.1 hb
  obtain rfl := hq.distinct j k a b hj hk hs
  exact Option.some.inj (hj.symm.trans hk)

lemma filter_values (p : JobId → Bool) :
    (q.jobs.values.filter fun jq => p jq.job.jobId) = (q.jobs.filter fun j _ => p j).values := by
  have hnamed : ∀ b ∈ q.jobs.bindings, p b.2.job.jobId = p b.1 := fun b hb => by
    rw [hq.named b.1 b.2 (Table.find?_eq_some_iff.2 hb)]
  rw [Table.values, Table.values, List.filter_map]
  exact congrArg (List.map Prod.snd) (List.filter_congr hnamed)

lemma filter_inServiceOrder_perm (p : JobId → Bool) :
    (q.inServiceOrder.filter fun jq => p jq.job.jobId).Perm
      (q.jobs.filter fun j _ => p j).values := by
  rw [← hq.filter_values]
  exact (List.mergeSort_perm _ _).filter _

lemma filter_inServiceOrder (hq' : q'.Ranked) {p : JobId → Bool}
    (h : ∀ j, p j = true → q'.jobs.find? j = q.jobs.find? j) :
    (q'.inServiceOrder.filter fun jq => p jq.job.jobId) =
      q.inServiceOrder.filter fun jq => p jq.job.jobId := by
  have hsame : (q'.jobs.filter fun j _ => p j).bindings.Perm
      (q.jobs.filter fun j _ => p j).bindings := by
    refine Table.perm_iff_find?.2 fun j => ?_
    rw [Table.find?_filter, Table.find?_filter]
    cases hp : p j with
    | true => rw [h j hp]
    | false => simp
  have hperm := (hq'.filter_inServiceOrder_perm p).trans
    ((hsame.map Prod.snd).trans (hq.filter_inServiceOrder_perm p).symm)
  have hmem {a : JobQueue} (ha : a ∈ q.inServiceOrder.filter fun jq => p jq.job.jobId) :
      a ∈ q.jobs.values := (List.mergeSort_perm _ _).mem_iff.1 (List.mem_filter.1 ha).1
  refine hperm.eq_of_pairwise (fun a b ha hb hab hba => ?_)
    ((pairwise_inServiceOrder q').filter _) ((pairwise_inServiceOrder q).filter _)
  rw [serviceOrder_ne_gt_iff] at hab hba
  exact hq.eq_of_sequence (hmem (hperm.mem_iff.1 ha)) (hmem hb) (by omega)

lemma spares (hq' : q'.Ranked) {touched : JobId → Bool}
    (h : ∀ j, touched j = false → q'.jobs.find? j = q.jobs.find? j) : q.Spares q' touched where
  jobs := h
  state j hj := by simp only [BucketQueue.state, job?, h j hj]
  results j hj := by simp only [BucketQueue.results, job?, h j hj]
  order :=
    hq.filter_inServiceOrder (p := fun j => !touched j) hq' fun j hj => h j (by simpa using hj)

end Ranked

lemma Ranked.spares_dequeue (hq : q.Ranked) (hs : q.Sound ids) (w : WorkerId) (r : RequestId)
    (now : Instant) :
    (∀ h, (q.dequeue w r now).1 = .handedOut h →
      ∃ j, q.owners.find? h.bucket.bucketId = some j ∧
        q.Spares (q.dequeue w r now).2 fun k => k = j) ∧
    ((∀ h, (q.dequeue w r now).1 ≠ .handedOut h) → (q.dequeue w r now).2 = q) := by
  have hranked := hq.dequeue w r now
  rcases dequeue_cases hs.toRouted w r now with
    ⟨k, hk, -, hd⟩ | ⟨j, jq, bucket, rest, hj, hp, -, hd⟩ | ⟨a, ha, hd⟩
  · obtain ⟨j, jq, hj, hm⟩ := mem_handOuts_iff.1 hk
    rw [hd]
    refine ⟨fun h hh => ?_, fun hn => absurd rfl (hn k)⟩
    obtain rfl := Dequeued.handedOut.inj hh
    exact ⟨j, hs.routed j jq _ hj (JobQueue.mem_bucketIds_of_handOut hm),
      hq.spares hq fun _ _ => rfl⟩
  · rw [hd] at hranked ⊢
    refine ⟨fun h hh => ?_, fun hn => absurd rfl (hn _)⟩
    obtain rfl := Dequeued.handedOut.inj hh
    have hopen : bucket ∈ jq.openBuckets := List.mem_append_left _ (hp ▸ List.mem_cons_self)
    refine ⟨j, hs.routed j jq _ hj (JobQueue.mem_bucketIds_of_open hopen),
      hq.spares hranked fun k hk => ?_⟩
    rw [find?_put, if_neg (of_decide_eq_false hk)]
  · rw [hd]
    exact ⟨fun h hh => absurd hh (ha h), fun _ => rfl⟩

def holdsOf (q : BucketQueue) (w : WorkerId) (j : JobId) : Bool :=
  (q.handOutsOf j).any fun h => h.workerId = w

lemma Ranked.spares_reclaim (hq : q.Ranked) (hs : q.Sound ids) (w : WorkerId) :
    q.Spares (q.reclaim w).2 (q.holdsOf w) := by
  refine hq.spares (hq.reclaim w) fun j hj => ?_
  rw [find?_reclaim hs.settled]
  cases hf : q.jobs.find? j with
  | none => rfl
  | some jq =>
    have hidle : (jq.reclaim w).2 = jq := by
      rw [holdsOf, handOutsOf_of_find? hf] at hj
      exact JobQueue.reclaim_of_idle fun h hh => by simpa using List.any_eq_false.1 hj h hh
    rw [Option.map_some, hidle, Option.filter_some, hs.settled j jq hf]
    rfl

end BucketQueue

end TestQueue
