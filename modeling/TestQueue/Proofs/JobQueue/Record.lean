import TestQueue.Proofs.JobQueue.Sound

namespace TestQueue

namespace JobQueue

def afterRecord (q : JobQueue) (h : HandOut) (result : BucketResult) (residual : Option Bucket) :
    JobQueue :=
  { q with
    pending := q.pending ++ residual.toList
    outstanding := q.outstanding.erase result.bucketId
    finished := q.finished ++ [result.withLost h.bucket.tests]
    finishedIds := q.finishedIds ++ [result.bucketId] }

def residual? (q : JobQueue) (h : HandOut) (result : BucketResult) (ids : IdSource) :
    Option Bucket :=
  (q.retry h.bucket (result.withLost h.bucket.tests).failing ids).1

lemma exists_record_eq (q : JobQueue) (h : HandOut) (result : BucketResult) :
    ∃ n, ∀ ids, q.record h result ids =
      (.accepted result.bucketId ((q.residual? h result ids).map Bucket.bucketId),
        q.afterRecord h result (q.residual? h result ids), ids.advance n) ∧
      (q.residual? h result ids ≠ none → n = 1) := by
  unfold record residual? retry
  dsimp only
  split
  · exact ⟨0, fun _ => ⟨rfl, fun h => absurd rfl h⟩⟩
  · exact ⟨1, fun _ => ⟨rfl, fun _ => rfl⟩⟩

lemma record_eq (q : JobQueue) (h : HandOut) (result : BucketResult) (ids : IdSource) :
    ∃ n, q.record h result ids =
      (.accepted result.bucketId ((q.residual? h result ids).map Bucket.bucketId),
        q.afterRecord h result (q.residual? h result ids), ids.advance n) ∧
      (q.residual? h result ids ≠ none → n = 1) :=
  (q.exists_record_eq h result).imp fun _ h => h ids

lemma residual?_eq_some {q : JobQueue} {h : HandOut} {result : BucketResult} {ids : IdSource}
    {bucket : Bucket} (hr : q.residual? h result ids = some bucket) : q.deleted = false ∧
      h.bucket.residual? ⟨ids.next⟩ (result.withLost h.bucket.tests).failing = some bucket := by
  unfold residual? retry at hr
  split at hr
  · cases hr
  · rename_i hd
    simp only [Bool.or_eq_true, not_or, Bool.not_eq_true] at hd
    exact ⟨hd.2, hr⟩

lemma bucketId_of_residual? {q : JobQueue} {h : HandOut} {result : BucketResult} {ids : IdSource}
    {bucket : Bucket} (hr : q.residual? h result ids = some bucket) :
    bucket.bucketId = ⟨ids.next⟩ := by
  have hb := (residual?_eq_some hr).2
  unfold Bucket.residual? at hb
  split at hb
  · cases hb
  · obtain rfl := Option.some.inj hb
    rfl

lemma accept_cases {q q' : JobQueue} {result : BucketResult} {w : WorkerId} {r : RequestId}
    {ids ids' : IdSource} {a : Acceptance} (h : q.accept result w r ids = .ok (a, q', ids')) :
    (∃ o, q.outstanding.find? result.bucketId = some o ∧ o.handOut.isFor w r = true ∧
      (∀ t ∈ result.tests, t ∈ o.handOut.bucket.tests) ∧
      q.record o.handOut result ids = (a, q', ids')) ∨
    (∃ why, a = .stale why ∧ q' = q ∧ ids' = ids ∧
      ∀ o, q.outstanding.find? result.bucketId = some o → o.handOut.isFor w r = false) := by
  unfold accept at h
  simp only at h
  split at h
  · rename_i hn
    obtain ⟨rfl, rfl, rfl⟩ : _ = a ∧ q = q' ∧ ids = ids' := by simpa using h
    exact Or.inr ⟨_, rfl, rfl, rfl, fun o ho => by rw [hn] at ho; cases ho⟩
  · rename_i o ho
    split at h
    · rename_i hf
      split at h
      · cases h
      · rename_i ht
        refine Or.inl ⟨o, ho, hf, fun t hm => ?_, by simpa using h⟩
        simpa using List.find?_eq_none.1 ht t hm
    · rename_i hf
      obtain ⟨rfl, rfl, rfl⟩ : _ = a ∧ q = q' ∧ ids = ids' := by simpa using h
      refine Or.inr ⟨_, rfl, rfl, rfl, fun o' ho' => ?_⟩
      obtain rfl := Option.some.inj (ho.symm.trans ho')
      simpa using hf

lemma accept_of_owner {q : JobQueue} {result : BucketResult} {w : WorkerId} {r : RequestId}
    {o : Outstanding} (ho : q.outstanding.find? result.bucketId = some o)
    (hf : o.handOut.isFor w r = true) (ht : ∀ t ∈ result.tests, t ∈ o.handOut.bucket.tests)
    (ids : IdSource) : q.accept result w r ids = .ok (q.record o.handOut result ids) := by
  have hn : (result.tests.find? fun t => t ∉ o.handOut.bucket.tests) = none := by simpa using ht
  simp only [accept, ho, hf, if_true, hn]

lemma accept_of_other {q : JobQueue} {result : BucketResult} {w : WorkerId} {r : RequestId}
    (ho : ∀ o, q.outstanding.find? result.bucketId = some o → o.handOut.isFor w r = false)
    (ids : IdSource) : ∃ why, q.accept result w r ids = .ok (.stale why, q, ids) := by
  cases hf : q.outstanding.find? result.bucketId with
  | none =>
    refine ⟨if result.bucketId ∈ q.finishedIds then .hasResult result.bucketId
      else .notOut result.bucketId, ?_⟩
    simp only [accept, hf]
  | some o =>
    refine ⟨.ownedBy result.bucketId o.handOut.workerId o.handOut.requestId, ?_⟩
    simp only [accept, hf, ho o hf, Bool.false_eq_true, if_false]

section

variable {q : JobQueue} {h : HandOut} {result : BucketResult} (hs : q.Sound)
  (residual : Option Bucket)

include hs

lemma handOuts_afterRecord : (q.afterRecord h result residual).handOuts =
    q.handOuts.filter fun k => k.bucket.bucketId ≠ result.bucketId := by
  simp only [handOuts, afterRecord, Table.erase, Table.filter, Table.values, List.map_map,
    List.filter_map]
  congr 1
  apply List.filter_congr
  intro b hb
  simp only [Function.comp_apply, hs.keyed b.1 b.2 (Table.find?_eq_some_iff.2 hb)]

variable (hh : h ∈ q.handOuts) (hid : result.bucketId = h.bucket.bucketId)

include hh hid

lemma openBuckets_afterRecord : ((q.afterRecord h result residual).openBuckets ++ [h.bucket]).Perm
    (q.openBuckets ++ residual.toList) := by
  have hone : (q.handOuts.filter fun k => k.bucket.bucketId = result.bucketId).Perm [h] := by
    refine (List.perm_ext_iff_of_nodup (hs.nodup_outIds.of_map.filter _) (by simp)).2 fun k => ?_
    rw [List.mem_filter, decide_eq_true_eq, List.mem_singleton, hid]
    constructor
    · rintro ⟨hk, he⟩
      exact List.inj_on_of_nodup_map hs.nodup_outIds hk hh he
    · rintro rfl
      exact ⟨hh, rfl⟩
  have hall : ((q.handOuts.filter fun k => k.bucket.bucketId ≠ result.bucketId) ++ [h]).Perm
      q.handOuts := by
    refine (hone.symm.append_left _).trans (List.perm_append_comm.trans ?_)
    simpa using List.filter_append_perm
      (fun k : HandOut => decide (k.bucket.bucketId = result.bucketId)) q.handOuts
  have hout := hall.map HandOut.bucket
  rw [List.map_append] at hout
  rw [openBuckets, handOuts_afterRecord hs, openBuckets, List.append_assoc, List.append_assoc]
  change ((q.pending ++ residual.toList) ++ _).Perm _
  rw [List.append_assoc]
  exact (List.perm_append_comm.trans (hout.append_right _)).append_left _

lemma bucketIds_afterRecord : (q.afterRecord h result residual).bucketIds.Perm
    (q.bucketIds ++ residual.toList.map Bucket.bucketId) := by
  have hr : (q.afterRecord h result residual).recordedIds = q.recordedIds ++ [result.bucketId] :=
    List.map_append
  have ho := (openBuckets_afterRecord hs residual hh hid).map Bucket.bucketId
  rw [List.map_append, List.map_append, List.map_singleton, ← hid] at ho
  rw [bucketIds_eq, bucketIds_eq, hr, List.append_assoc]
  apply (List.perm_append_comm.append_left _).trans
  rw [← List.append_assoc]
  apply (ho.append_right _).trans
  rw [List.append_assoc]
  exact List.perm_append_comm.append_left _

lemma Sound.afterRecord (hnew : ∀ bucket ∈ residual, bucket.bucketId ∉ q.bucketIds)
    (hd : residual ≠ none → q.deleted = false) : (q.afterRecord h result residual).Sound where
  nodup := by
    rw [(bucketIds_afterRecord hs residual hh hid).nodup_iff, List.nodup_append]
    cases residual with
    | none => simpa using hs.nodup
    | some bucket =>
      refine ⟨hs.nodup, by simp, ?_⟩
      rintro b hb _ hb' rfl
      simp only [Option.toList_some, List.map_cons, List.map_nil, List.mem_singleton] at hb'
      exact hnew bucket rfl (hb' ▸ hb)
  keyed b o ho := by
    simp only [JobQueue.afterRecord, Table.find?_erase] at ho
    split at ho
    · cases ho
    · exact hs.keyed b o ho
  recorded := by
    simp [JobQueue.afterRecord, recordedIds, hs.recorded, BucketResult.withLost]
  dropped h := by
    have hq : q.deleted = true := h
    cases residual with
    | none => simpa [JobQueue.afterRecord] using hs.dropped hq
    | some bucket => rw [hd (by simp)] at hq; cases hq

end

end JobQueue

end TestQueue
