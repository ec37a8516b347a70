import TestQueue.Proofs.Identifier
import TestQueue.Proofs.Table
import TestQueue.Queue.JobQueue

namespace TestQueue

open Time (Instant)

namespace HandOut

lemma isFor_iff {h : HandOut} {w : WorkerId} {r : RequestId} :
    h.isFor w r = true ↔ h.workerId = w ∧ h.requestId = r := by
  simp [isFor]

end HandOut

namespace JobQueue

def pendingIds (q : JobQueue) : List BucketId := q.pending.map Bucket.bucketId

def outIds (q : JobQueue) : List BucketId := q.handOuts.map fun h => h.bucket.bucketId

def recordedIds (q : JobQueue) : List BucketId := q.finished.map BucketResult.bucketId

def bucketIds (q : JobQueue) : List BucketId := q.pendingIds ++ q.outIds ++ q.recordedIds

def openBuckets (q : JobQueue) : List Bucket := q.pending ++ q.handOuts.map HandOut.bucket

structure Sound (q : JobQueue) : Prop where
  nodup : q.bucketIds.Nodup
  keyed : ∀ b o, q.outstanding.find? b = some o → o.handOut.bucket.bucketId = b
  recorded : q.finishedIds = q.recordedIds
  dropped : q.deleted = true → q.pending = []

lemma mem_handOuts_iff {q : JobQueue} {h : HandOut} :
    h ∈ q.handOuts ↔ ∃ b n, q.outstanding.find? b = some ⟨n, h⟩ := by
  simp only [handOuts, List.mem_map, Table.mem_values_iff]
  constructor
  · rintro ⟨o, ⟨b, hb⟩, rfl⟩
    exact ⟨b, o.order, hb⟩
  · rintro ⟨b, n, hb⟩
    exact ⟨_, ⟨b, hb⟩, rfl⟩

lemma mem_outIds_iff {q : JobQueue} {b : BucketId} :
    b ∈ q.outIds ↔ ∃ h ∈ q.handOuts, h.bucket.bucketId = b := List.mem_map

lemma mem_bucketIds_iff {q : JobQueue} {b : BucketId} :
    b ∈ q.bucketIds ↔ b ∈ q.pendingIds ∨ b ∈ q.outIds ∨ b ∈ q.recordedIds := by
  simp only [bucketIds, List.mem_append, or_assoc]

lemma bucketIds_eq (q : JobQueue) :
    q.bucketIds = q.openBuckets.map Bucket.bucketId ++ q.recordedIds := by
  rw [bucketIds, openBuckets, List.map_append, List.map_map]
  rfl

lemma mem_openBuckets_of_handOut {q : JobQueue} {h : HandOut} (hh : h ∈ q.handOuts) :
    h.bucket ∈ q.openBuckets :=
  List.mem_append_right _ (List.mem_map_of_mem hh)

lemma mem_bucketIds_of_open {q : JobQueue} {p : Bucket} (hp : p ∈ q.openBuckets) :
    p.bucketId ∈ q.bucketIds := by
  rw [bucketIds_eq]
  exact List.mem_append_left _ (List.mem_map_of_mem hp)

lemma mem_bucketIds_of_handOut {q : JobQueue} {h : HandOut} (hh : h ∈ q.handOuts) :
    h.bucket.bucketId ∈ q.bucketIds :=
  mem_bucketIds_of_open (mem_openBuckets_of_handOut hh)

lemma isDrained_iff {q : JobQueue} : q.isDrained = true ↔ q.pending = [] ∧ q.handOuts = [] := by
  simp [isDrained, hasOutstanding, handOuts, Table.values, hasPending]

lemma previous?_eq_none_iff {q : JobQueue} {w : WorkerId} {r : RequestId} :
    q.previous? w r = none ↔ ∀ h ∈ q.handOuts, h.isFor w r = false := by
  simp [previous?]

lemma isFor_of_previous? {q : JobQueue} {w : WorkerId} {r : RequestId} {h : HandOut}
    (hp : q.previous? w r = some h) : h ∈ q.handOuts ∧ h.isFor w r = true := by
  have hf := List.find?_some hp
  exact ⟨List.mem_of_find?_eq_some hp, hf⟩

namespace Sound

variable {q : JobQueue} (hs : q.Sound)

include hs

lemma find?_of_mem {h : HandOut} (hh : h ∈ q.handOuts) :
    ∃ n, q.outstanding.find? h.bucket.bucketId = some ⟨n, h⟩ := by
  obtain ⟨b, n, hb⟩ := mem_handOuts_iff.1 hh
  have hk := hs.keyed b _ hb
  exact ⟨n, by rw [← hb, ← hk]⟩

lemma outIds_eq_keys : q.outIds = q.outstanding.keys := by
  simp only [outIds, handOuts, Table.values, Table.keys, List.map_map]
  apply List.map_congr_left
  intro b hb
  exact hs.keyed b.1 b.2 (Table.find?_eq_some_iff.2 hb)

lemma find?_eq_none {b : BucketId} (hb : b ∉ q.outIds) : q.outstanding.find? b = none := by
  rw [hs.outIds_eq_keys] at hb
  exact Table.find?_eq_none.2 hb

lemma nodup_outIds : q.outIds.Nodup :=
  ((List.nodup_append.1 hs.nodup).1 |> List.nodup_append.1).2.1

lemma not_out_of_pending {b : BucketId} (hb : b ∈ q.pendingIds) : b ∉ q.outIds := by
  have h := List.nodup_append.1 (List.nodup_append.1 hs.nodup).1
  exact fun ho => h.2.2 b hb b ho rfl

end Sound

lemma sound_new (job : PrioritizedJob) : (new job).Sound where
  nodup := List.nodup_nil
  keyed b o h := by simp [new] at h
  recorded := rfl
  dropped _ := rfl

end JobQueue

end TestQueue
