import TestQueue.Proofs.JobQueue.Sound

namespace TestQueue

open Time (Instant)

namespace JobQueue

lemma openBuckets_enqueue (q : JobQueue) (buckets : List Bucket) :
    (q.enqueue buckets).openBuckets.Perm (q.openBuckets ++ buckets) := by
  change ((q.pending ++ buckets) ++ q.handOuts.map HandOut.bucket).Perm _
  rw [openBuckets, List.append_assoc, List.append_assoc]
  exact List.perm_append_comm.append_left _

lemma bucketIds_enqueue (q : JobQueue) (buckets : List Bucket) :
    (q.enqueue buckets).bucketIds.Perm (q.bucketIds ++ buckets.map Bucket.bucketId) := by
  rw [bucketIds_eq, bucketIds_eq, List.append_assoc]
  have h := ((openBuckets_enqueue q buckets).map Bucket.bucketId).append_right q.recordedIds
  rw [List.map_append, List.append_assoc] at h
  exact h.trans (List.perm_append_comm.append_left _)

lemma Sound.enqueue {q : JobQueue} (hs : q.Sound) (hd : q.deleted = false) {buckets : List Bucket}
    (hn : (buckets.map Bucket.bucketId).Nodup)
    (hnew : ∀ b ∈ q.bucketIds, b ∉ buckets.map Bucket.bucketId) : (q.enqueue buckets).Sound where
  nodup := by
    rw [(bucketIds_enqueue q buckets).nodup_iff, List.nodup_append]
    refine ⟨hs.nodup, hn, ?_⟩
    rintro b hb _ hb' rfl
    exact hnew b hb hb'
  keyed := hs.keyed
  recorded := hs.recorded
  dropped h := by
    rw [show (q.enqueue buckets).deleted = q.deleted from rfl, hd] at h
    cases h

def afterHandOut (q : JobQueue) (rest : List Bucket) (h : HandOut) : JobQueue :=
  { q with
    pending := rest
    outstanding := q.outstanding.insert h.bucket.bucketId ⟨q.nextOrder, h⟩
    nextOrder := q.nextOrder + 1 }

lemma dequeue_of_pending {q : JobQueue} {w : WorkerId} {r : RequestId} {bucket : Bucket}
    {rest : List Bucket} (hn : q.previous? w r = none) (hp : q.pending = bucket :: rest)
    (now : Instant) : q.dequeue w r now =
      (.handedOut ⟨bucket, w, r, now⟩, q.afterHandOut rest ⟨bucket, w, r, now⟩) := by
  simp only [dequeue, hn, hp, afterHandOut]

section

variable {q : JobQueue} {rest : List Bucket} {h : HandOut} (hs : q.Sound)
  (hp : q.pending = h.bucket :: rest)

include hs hp

lemma Sound.front_not_out : h.bucket.bucketId ∉ q.outIds :=
  hs.not_out_of_pending (List.mem_map.2 ⟨h.bucket, by simp [hp], rfl⟩)

lemma handOuts_afterHandOut : (q.afterHandOut rest h).handOuts = q.handOuts ++ [h] := by
  have hn := hs.find?_eq_none (hs.front_not_out hp)
  simp [handOuts, afterHandOut, Table.values_insert_of_absent hn]

lemma openBuckets_afterHandOut : (q.afterHandOut rest h).openBuckets.Perm q.openBuckets := by
  rw [openBuckets, openBuckets, handOuts_afterHandOut hs hp, hp, List.map_append,
    ← List.append_assoc]
  exact List.perm_append_comm

lemma bucketIds_afterHandOut : (q.afterHandOut rest h).bucketIds.Perm q.bucketIds := by
  rw [bucketIds_eq, bucketIds_eq]
  exact ((openBuckets_afterHandOut hs hp).map _).append_right _

lemma Sound.afterHandOut : (q.afterHandOut rest h).Sound where
  nodup := (bucketIds_afterHandOut hs hp).nodup_iff.2 hs.nodup
  keyed b o ho := by
    simp only [JobQueue.afterHandOut, Table.find?_insert] at ho
    split at ho
    · rename_i hb
      obtain rfl := Option.some.inj ho
      exact hb.symm
    · exact hs.keyed b o ho
  recorded := hs.recorded
  dropped hd := by
    have hn := hs.dropped hd
    rw [hp] at hn
    cases hn

end

lemma handOuts_reclaim (q : JobQueue) (w : WorkerId) :
    (q.reclaim w).2.handOuts = q.handOuts.filter fun h => h.workerId ≠ w := by
  simp only [handOuts, reclaim, Table.filter, Table.values, List.map_map, List.filter_map]
  rfl

lemma heldBy_perm (q : JobQueue) (w : WorkerId) :
    ((q.heldBy w).map Outstanding.handOut).Perm (q.handOuts.filter fun h => h.workerId = w) := by
  rw [handOuts, List.filter_map]
  exact (List.mergeSort_perm _ _).map _

lemma reclaim_perm (q : JobQueue) (w : WorkerId) : (q.reclaim w).1.Perm
    ((q.handOuts.filter fun h => h.workerId = w).map fun h => h.bucket.bucketId) := by
  have h := (q.heldBy_perm w).map fun h => h.bucket.bucketId
  simpa [reclaim, Function.comp_def] using h

open scoped List in
lemma openBuckets_reclaim {q : JobQueue} (hd : q.deleted = false) (w : WorkerId) :
    (q.reclaim w).2.openBuckets.Perm q.openBuckets := by
  have hp : (q.reclaim w).2.pending =
      ((q.heldBy w).map Outstanding.handOut).map HandOut.bucket ++ q.pending := by
    simp [reclaim, hd]
  have hf : (q.handOuts.filter (fun h => h.workerId = w) ++
      q.handOuts.filter fun h => h.workerId ≠ w).Perm q.handOuts := by
    simpa using List.filter_append_perm (fun h : HandOut => decide (h.workerId = w)) q.handOuts
  rw [openBuckets, openBuckets, hp, handOuts_reclaim, List.append_assoc]
  calc ((q.heldBy w).map Outstanding.handOut).map HandOut.bucket ++
        (q.pending ++ (q.handOuts.filter fun h => h.workerId ≠ w).map HandOut.bucket)
    _ ~ q.pending ++ (((q.heldBy w).map Outstanding.handOut).map HandOut.bucket ++
        (q.handOuts.filter fun h => h.workerId ≠ w).map HandOut.bucket) := by
      rw [← List.append_assoc, ← List.append_assoc]
      exact List.perm_append_comm.append_right _
    _ ~ q.pending ++ q.handOuts.map HandOut.bucket := by
      rw [← List.map_append]
      exact (((q.heldBy_perm w).append_right _).trans hf).map _ |>.append_left _

lemma bucketIds_reclaim {q : JobQueue} (hd : q.deleted = false) (w : WorkerId) :
    (q.reclaim w).2.bucketIds.Perm q.bucketIds := by
  rw [bucketIds_eq, bucketIds_eq]
  exact ((openBuckets_reclaim hd w).map _).append_right _

lemma openBuckets_reclaim_sublist {q : JobQueue} (hd : q.deleted = true) (w : WorkerId) :
    (q.reclaim w).2.openBuckets.Sublist q.openBuckets := by
  refine List.Sublist.append ?_ ?_
  · simp [reclaim, hd]
  · rw [handOuts_reclaim]
    exact List.filter_sublist.map _

lemma openBuckets_reclaim_subset (q : JobQueue) (w : WorkerId) :
    (q.reclaim w).2.openBuckets ⊆ q.openBuckets := by
  cases hd : q.deleted with
  | true => exact (openBuckets_reclaim_sublist hd w).subset
  | false => exact (openBuckets_reclaim hd w).subset

lemma bucketIds_reclaim_subset (q : JobQueue) (w : WorkerId) :
    (q.reclaim w).2.bucketIds ⊆ q.bucketIds := by
  intro b hb
  rw [bucketIds_eq, List.mem_append] at hb ⊢
  exact hb.imp_left fun hb => List.map_subset _ (openBuckets_reclaim_subset q w) hb

lemma Sound.reclaim {q : JobQueue} (hs : q.Sound) (w : WorkerId) : (q.reclaim w).2.Sound where
  nodup := by
    cases hd : q.deleted with
    | true =>
      have hn := hs.nodup
      rw [bucketIds_eq] at hn ⊢
      exact (((openBuckets_reclaim_sublist hd w).map _).append (List.Sublist.refl _)).nodup hn
    | false => exact (bucketIds_reclaim hd w).nodup_iff.2 hs.nodup
  keyed b o ho := by
    simp only [JobQueue.reclaim, Table.find?_filter, Option.filter_eq_some_iff] at ho
    exact hs.keyed b o ho.1
  recorded := hs.recorded
  dropped hd := by
    have hq : q.deleted = true := hd
    simpa [JobQueue.reclaim, hq] using hs.dropped hq

lemma bucketIds_markDeleted_sublist (q : JobQueue) :
    q.markDeleted.bucketIds.Sublist q.bucketIds := by
  refine List.Sublist.append (List.Sublist.append ?_ (List.Sublist.refl _)) (List.Sublist.refl _)
  exact List.nil_sublist _

lemma Sound.markDeleted {q : JobQueue} (hs : q.Sound) : q.markDeleted.Sound where
  nodup := (bucketIds_markDeleted_sublist q).nodup hs.nodup
  keyed := hs.keyed
  recorded := hs.recorded
  dropped _ := rfl

end JobQueue

end TestQueue
