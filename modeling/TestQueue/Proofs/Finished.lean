import TestQueue.Proofs.Acceptance

namespace TestQueue

open Time (Instant)

namespace Table

variable {κ ν : Type} [DecidableEq κ]

lemma total_eq_sum (f : ν → ℕ) (t : Table κ ν) {all : Finset κ} (h : ∀ k ∈ t.keys, k ∈ all) :
    t.total f = ∑ k ∈ all, ((t.find? k).map f).getD 0 := by
  have hkeys : ∑ k ∈ t.keys.toFinset, ((t.find? k).map f).getD 0 = t.total f := by
    rw [List.sum_toFinset _ t.nodup_keys, total, keys, values, List.map_map, List.map_map]
    congr 1
    apply List.map_congr_left
    intro b hb
    have hf : t.find? b.1 = some b.2 := find?_eq_some_iff.2 hb
    simp [hf]
  rw [← hkeys]
  apply Finset.sum_subset
  · intro k hk
    exact h k (List.mem_toFinset.1 hk)
  · intro k _ hk
    rw [find?_eq_none.2 fun hm => hk (List.mem_toFinset.2 hm)]
    rfl

end Table

namespace BucketQueue

def finishedIn (q : BucketQueue) (j : JobId) : ℕ :=
  ((q.jobs.find? j).map fun jq => jq.finished.length).getD 0

def finishedTotal (q : BucketQueue) : ℕ := q.jobs.total fun jq => jq.state.finishedBuckets

lemma finishedTotal_eq_sum (q : BucketQueue) {all : Finset JobId}
    (h : ∀ j ∈ q.jobs.keys, j ∈ all) : q.finishedTotal = ∑ j ∈ all, q.finishedIn j :=
  q.jobs.total_eq_sum _ h

end BucketQueue

def Dispatcher.KeepsJobs (d : Dispatcher) : Prop :=
  ∀ j jq, d.queue.jobs.find? j = some jq → jq.deleted = false

lemma Dispatcher.keepsJobs_new (settings : DispatcherSettings) (ids : IdSource) (start : Instant) :
    (new settings ids start).KeepsJobs := by
  intro j jq hj
  cases hj

namespace Event

variable {e : Event} (hs : e.server.Sound) (hk : e.server.KeepsJobs)
  (hdel : ∀ j, e.command ≠ .deleteJob j)

section

include hs hk hdel

theorem keepsJobs_after : e.after.KeepsJobs := by
  intro j jq hj
  cases e.jobEffect hs j with
  | kept hafter _ _ _ => exact hk j jq (hafter ▸ hj)
  | scheduled _ _ hkept hafter _ =>
    obtain rfl := Option.some.inj (hafter.symm.trans hj)
    exact hkept
  | @handedOut kq _ _ _ hbefore _ hafter =>
    obtain rfl := Option.some.inj (hafter.symm.trans hj)
    exact hk j kq hbefore
  | @recorded kq _ _ _ _ _ hbefore _ _ _ _ _ hafter _ =>
    obtain rfl := of_leavesJob hafter hj
    exact hk j kq hbefore
  | reclaimed _ hbefore hafter =>
    obtain rfl := of_leavesJob hafter hj
    rw [JobQueue.deleted_reclaimFrom]
    exact hk j _ hbefore
  | deleted h _ _ =>
    obtain ⟨_, hc, -⟩ := h
    exact absurd hc (hdel j)

open scoped Classical in
lemma finishedIn_after (j : JobId) : e.after.queue.finishedIn j = e.server.queue.finishedIn j +
    if ∃ b, e.Accepts b ∧ e.server.queue.owners.find? b = some j then 1 else 0 := by
  have quiet (hacc : ∀ b, e.Accepts b → e.server.queue.owners.find? b ≠ some j)
      (h : e.after.queue.finishedIn j = e.server.queue.finishedIn j) :
      e.after.queue.finishedIn j = e.server.queue.finishedIn j +
        if ∃ b, e.Accepts b ∧ e.server.queue.owners.find? b = some j then 1 else 0 := by
    rw [if_neg, h, Nat.add_zero]
    rintro ⟨b, hb, ho⟩
    exact hacc b hb ho
  have stays {jq : JobQueue} (h : e.LeavesJob j jq) (hd : jq.deleted = false) :
      e.after.queue.jobs.find? j = some jq := by
    rw [LeavesJob] at h
    rw [h, Option.filter_some, if_pos]
    simp [JobQueue.isClosed, hd]
  cases e.jobEffect hs j with
  | kept hafter _ _ hacc => exact quiet hacc (by rw [BucketQueue.finishedIn, hafter]; rfl)
  | @scheduled request buckets hsch _ _ hafter _ =>
    obtain ⟨_, hc, -⟩ := hsch
    apply quiet fun b hb => absurd hb (not_accepts (by simp [hc]))
    rw [BucketQueue.finishedIn, hafter, BucketQueue.jobOr, BucketQueue.finishedIn]
    cases e.server.queue.jobs.find? j <;> rfl
  | handedOut hout hbefore _ hafter =>
    apply quiet fun b hb => absurd hb (not_accepts_of_handsOut hout b)
    rw [BucketQueue.finishedIn, hafter, BucketQueue.finishedIn, hbefore]
    rfl
  | @recorded jq h request residual hc ha hbefore hm _ hid _ _ hafter _ =>
    have howner : e.server.queue.owners.find? request.result.bucketId = some j := by
      rw [hid]
      exact hs.queue.routed j jq _ hbefore (JobQueue.mem_bucketIds_of_handOut hm)
    rw [if_pos ⟨_, (accepts_iff hc ha).2 rfl, howner⟩, BucketQueue.finishedIn,
      stays hafter (hk j jq hbefore), BucketQueue.finishedIn, hbefore]
    simp [JobQueue.afterRecord]
  | @reclaimed jq ws hc hbefore hafter =>
    apply quiet fun b hb => absurd hb (not_accepts (by simp [hc]))
    have hd : (jq.reclaimFrom ws).deleted = false := by
      rw [JobQueue.deleted_reclaimFrom]
      exact hk j jq hbefore
    rw [BucketQueue.finishedIn, stays hafter hd, BucketQueue.finishedIn, hbefore]
    simp [JobQueue.finished_reclaimFrom]
  | deleted h _ _ =>
    obtain ⟨_, hc, -⟩ := h
    exact absurd hc (hdel j)

open scoped Classical in
theorem finishedTotal_after : e.after.queue.finishedTotal =
    e.server.queue.finishedTotal + if ∃ b, e.Accepts b then 1 else 0 := by
  let all := e.server.queue.jobs.keys.toFinset ∪ e.after.queue.jobs.keys.toFinset
  have hbefore : ∀ j ∈ e.server.queue.jobs.keys, j ∈ all := fun j hj =>
    Finset.mem_union_left _ (List.mem_toFinset.2 hj)
  have hafter : ∀ j ∈ e.after.queue.jobs.keys, j ∈ all := fun j hj =>
    Finset.mem_union_right _ (List.mem_toFinset.2 hj)
  rw [BucketQueue.finishedTotal_eq_sum _ hafter, BucketQueue.finishedTotal_eq_sum _ hbefore,
    Finset.sum_congr rfl fun j _ => finishedIn_after hs hk hdel j, Finset.sum_add_distrib]
  congr 1
  by_cases hacc : ∃ b, e.Accepts b
  · rw [if_pos hacc]
    obtain ⟨b, hb⟩ := hacc
    obtain ⟨_, _, h, hm, rfl, -⟩ := out_of_accepts hs hb
    obtain ⟨j, jq, hj, hh⟩ := BucketQueue.mem_handOuts_iff.1 hm
    have howner := hs.queue.routed j jq _ hj (JobQueue.mem_bucketIds_of_handOut hh)
    rw [Finset.sum_eq_single_of_mem j (hbefore j (Table.mem_keys_iff.2 ⟨jq, hj⟩)),
      if_pos ⟨_, hb, howner⟩]
    rintro k - hne
    rw [if_neg]
    rintro ⟨b', hb', hk'⟩
    obtain ⟨request, c, retry, hc, rfl, ha⟩ := hb'
    rw [(accepts_iff hc ha).1 hb, howner] at hk'
    exact hne (Option.some.inj hk').symm
  · rw [if_neg hacc]
    apply Finset.sum_eq_zero
    intro j _
    rw [if_neg]
    rintro ⟨b, hb, -⟩
    exact hacc ⟨b, hb⟩

end

end Event

end TestQueue
