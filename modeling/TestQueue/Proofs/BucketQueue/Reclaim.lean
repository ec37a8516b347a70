import TestQueue.Proofs.BucketQueue.HandOuts

namespace TestQueue

namespace JobQueue

def reclaimFrom (q : JobQueue) (ws : List WorkerId) : JobQueue :=
  ws.foldl (fun q w => (q.reclaim w).2) q

lemma finished_reclaimFrom (q : JobQueue) (ws : List WorkerId) :
    (q.reclaimFrom ws).finished = q.finished := by
  induction ws generalizing q with
  | nil => rfl
  | cons w ws ih => exact ih (q.reclaim w).2

lemma deleted_reclaimFrom (q : JobQueue) (ws : List WorkerId) :
    (q.reclaimFrom ws).deleted = q.deleted := by
  induction ws generalizing q with
  | nil => rfl
  | cons w ws ih => exact ih (q.reclaim w).2

lemma openBuckets_reclaimFrom {q : JobQueue} (hd : q.deleted = false) (ws : List WorkerId) :
    (q.reclaimFrom ws).openBuckets.Perm q.openBuckets := by
  induction ws generalizing q with
  | nil => exact List.Perm.refl _
  | cons w ws ih =>
    have hw : (q.reclaim w).2.deleted = false := hd
    exact (ih hw).trans (openBuckets_reclaim hd w)

lemma bucketIds_reclaimFrom {q : JobQueue} (hd : q.deleted = false) (ws : List WorkerId) :
    (q.reclaimFrom ws).bucketIds.Perm q.bucketIds := by
  rw [bucketIds_eq, bucketIds_eq, recordedIds, finished_reclaimFrom]
  exact ((openBuckets_reclaimFrom hd ws).map _).append_right _

lemma openBuckets_reclaimFrom_subset (q : JobQueue) (ws : List WorkerId) :
    (q.reclaimFrom ws).openBuckets ⊆ q.openBuckets := by
  induction ws generalizing q with
  | nil => exact List.Subset.refl _
  | cons w ws ih => exact List.Subset.trans (ih (q.reclaim w).2) (openBuckets_reclaim_subset q w)

lemma openBuckets_reclaimFrom_subperm (q : JobQueue) (ws : List WorkerId) :
    (q.reclaimFrom ws).openBuckets.Subperm q.openBuckets := by
  induction ws generalizing q with
  | nil => exact List.Subperm.refl _
  | cons w ws ih =>
    apply (ih (q.reclaim w).2).trans
    cases hd : q.deleted with
    | true => exact (openBuckets_reclaim_sublist hd w).subperm
    | false => exact (openBuckets_reclaim hd w).subperm

lemma isClosed_reclaim {q : JobQueue} (hc : q.isClosed = true) (w : WorkerId) :
    (q.reclaim w).2.isClosed = true := by
  obtain ⟨hd, hp, hh⟩ := isClosed_iff.1 hc
  rw [isClosed_iff, handOuts_reclaim, hh]
  exact ⟨hd, by simpa [reclaim, hd] using hp, rfl⟩

lemma isClosed_reclaimFrom {q : JobQueue} (hc : q.isClosed = true) (ws : List WorkerId) :
    (q.reclaimFrom ws).isClosed = true := by
  induction ws generalizing q with
  | nil => exact hc
  | cons w ws ih => exact ih (isClosed_reclaim hc w)

end JobQueue

namespace BucketQueue

variable {q : BucketQueue} {ids : IdSource} {h : HandOut}

def reclaimFrom (q : BucketQueue) (ws : List WorkerId) : BucketQueue :=
  ws.foldl (fun q w => (q.reclaim w).2) q

lemma Sound.reclaimFrom (hs : q.Sound ids) (ws : List WorkerId) : (q.reclaimFrom ws).Sound ids := by
  induction ws generalizing q with
  | nil => exact hs
  | cons w ws ih => exact ih (hs.reclaim w)

lemma mem_handOuts_reclaimFrom (hs : q.Sound ids) (ws : List WorkerId) :
    h ∈ (q.reclaimFrom ws).handOuts ↔ h ∈ q.handOuts ∧ h.workerId ∉ ws := by
  induction ws generalizing q with
  | nil => simp [reclaimFrom]
  | cons w ws ih =>
    change h ∈ ((q.reclaim w).2.reclaimFrom ws).handOuts ↔ _
    rw [ih (hs.reclaim w), mem_handOuts_reclaim hs, List.mem_cons, not_or, and_assoc]

lemma heldIds_reclaimFrom (hs : q.Sound ids) {ws : List WorkerId} {w : WorkerId} (hw : w ∉ ws) :
    ((q.reclaimFrom ws).heldIds w).Perm (q.heldIds w) := by
  have hs' := hs.reclaimFrom ws
  apply (List.perm_ext_iff_of_nodup (hs'.nodup_heldIds w) (hs.nodup_heldIds w)).2
  intro b
  simp only [mem_heldIds_iff, Out, mem_handOuts_reclaimFrom hs]
  constructor
  · rintro ⟨r, h, ⟨hh, -⟩, hb⟩
    exact ⟨r, h, hh, hb⟩
  · rintro ⟨r, h, hh, hb, rfl, hr⟩
    exact ⟨r, h, ⟨hh, hw⟩, hb, rfl, hr⟩

lemma find?_reclaimFrom (hs : q.Sound ids) (ws : List WorkerId) (k : JobId) :
    (q.reclaimFrom ws).jobs.find? k =
      ((q.jobs.find? k).map (·.reclaimFrom ws)).filter fun jq => !jq.isClosed := by
  induction ws generalizing q with
  | nil =>
    change q.jobs.find? k = ((q.jobs.find? k).map id).filter _
    cases hk : q.jobs.find? k with
    | none => rfl
    | some kq =>
      have hc : (!kq.isClosed) = true := by rw [hs.settled k kq hk]; rfl
      rw [Option.map_some, Option.filter_some, id, if_pos hc]
  | cons w ws ih =>
    change ((q.reclaim w).2.reclaimFrom ws).jobs.find? k =
      ((q.jobs.find? k).map fun jq => (jq.reclaim w).2.reclaimFrom ws).filter _
    rw [ih (hs.reclaim w), find?_reclaim hs.settled]
    cases q.jobs.find? k with
    | none => rfl
    | some kq =>
      simp only [Option.map_some, Option.filter_some]
      -- a job that is removed on the way would be removed at the end as well
      cases hc : (kq.reclaim w).2.isClosed with
      | true => simp [JobQueue.isClosed_reclaimFrom hc]
      | false => rfl

lemma find?_reclaimFrom_of_not_deleted (hs : q.Sound ids) {j : JobId} {jq : JobQueue}
    (hj : q.jobs.find? j = some jq) (hd : jq.deleted = false) (ws : List WorkerId) :
    (q.reclaimFrom ws).jobs.find? j = some (jq.reclaimFrom ws) := by
  have hc : (!(jq.reclaimFrom ws).isClosed) = true := by
    rw [JobQueue.isClosed, JobQueue.deleted_reclaimFrom, hd]
    rfl
  rw [find?_reclaimFrom hs, hj, Option.map_some, Option.filter_some, if_pos hc]

end BucketQueue

end TestQueue
