import TestQueue.Proofs.BucketQueue.Operations

namespace TestQueue.BucketQueue

open Time (Instant)

variable {q q' : BucketQueue} {ids ids' : IdSource} {j : JobId}

lemma find?_foldl_finalize (bs : List (JobId × JobQueue)) (q : BucketQueue) (k : JobId) :
    (bs.foldl (fun q b => q.finalize b.1) q).jobs.find? k = if k ∈ bs.map Prod.fst then
      (q.jobs.find? k).filter (fun jq => !jq.isClosed) else q.jobs.find? k := by
  induction bs generalizing q with
  | nil => simp
  | cons b bs ih =>
    rw [List.foldl_cons, ih, find?_finalize, List.map_cons]
    by_cases hb : k = b.1
    · by_cases hm : b.1 ∈ bs.map Prod.fst <;> simp [hb, hm, Option.filter_filter]
    · simp only [List.mem_cons, hb, false_or, if_false]

lemma isClosed_reclaim_of_nil {jq : JobQueue} {w : WorkerId} (hn : (jq.reclaim w).1 = [])
    (hc : (jq.reclaim w).2.isClosed = true) : jq.isClosed = true := by
  rw [JobQueue.isClosed_iff, JobQueue.handOuts_reclaim] at hc
  obtain ⟨hd, hp, hh⟩ := hc
  have hd' : jq.deleted = true := hd
  have hw : jq.handOuts.filter (fun h => h.workerId = w) = [] := by
    have hperm := jq.reclaim_perm w
    rw [hn, List.nil_perm, List.map_eq_nil_iff] at hperm
    exact hperm
  rw [JobQueue.isClosed_iff]
  refine ⟨hd', by simpa [JobQueue.reclaim, hd'] using hp, ?_⟩
  apply List.eq_nil_iff_forall_not_mem.2
  intro h hm
  by_cases he : h.workerId = w
  · exact List.filter_eq_nil_iff.1 hw h hm (by simpa using he)
  · exact List.filter_eq_nil_iff.1 hh h hm (by simpa using he)

/-- Only the jobs that the worker holds something of are looked at for removal, but no other job
is to be removed. -/
lemma find?_reclaim (hs : ∀ k kq, q.jobs.find? k = some kq → kq.isClosed = false) (w : WorkerId)
    (k : JobId) : (q.reclaim w).2.jobs.find? k =
      ((q.jobs.find? k).map fun jq => (jq.reclaim w).2).filter fun jq => !jq.isClosed := by
  unfold reclaim
  rw [find?_foldl_finalize, Table.find?_mapValues]
  split
  · rfl
  · rename_i hk
    cases hf : q.jobs.find? k with
    | none => rfl
    | some kq =>
      have hn : (kq.reclaim w).1 = [] := by
        by_contra hne
        refine hk (List.mem_map.2 ⟨(k, kq), List.mem_filter.2 ⟨Table.mem_of_find? hf, ?_⟩, rfl⟩)
        simpa using hne
      have hc : (kq.reclaim w).2.isClosed = false := by
        rw [← Bool.not_eq_true]
        exact fun hc => Bool.false_ne_true ((hs k kq hf).symm.trans (isClosed_reclaim_of_nil hn hc))
      rw [Option.map_some, Option.filter_some, hc]
      rfl

lemma Routed.foldl_finalize (hs : q.Routed ids) (bs : List (JobId × JobQueue)) :
    (bs.foldl (fun q b => q.finalize b.1) q).Routed ids := by
  induction bs generalizing q with
  | nil => exact hs
  | cons b bs ih => exact ih (hs.finalize b.1)

lemma Routed.mapReclaim (hs : q.Routed ids) (w : WorkerId) :
    Routed { q with jobs := q.jobs.mapValues fun _ jq => (jq.reclaim w).2 } ids where
  named k kq hk := by
    simp only [Table.find?_mapValues, Option.map_eq_some_iff] at hk
    obtain ⟨jq, hj, rfl⟩ := hk
    exact hs.named k jq hj
  jobs k kq hk := by
    simp only [Table.find?_mapValues, Option.map_eq_some_iff] at hk
    obtain ⟨jq, hj, rfl⟩ := hk
    exact (hs.jobs k jq hj).reclaim w
  routed k kq b hk hb := by
    simp only [Table.find?_mapValues, Option.map_eq_some_iff] at hk
    obtain ⟨jq, hj, rfl⟩ := hk
    exact hs.routed k jq b hj (jq.bucketIds_reclaim_subset w hb)
  present b k hk := by
    obtain ⟨jq, hj⟩ := hs.present b k hk
    exact ⟨(jq.reclaim w).2, by simp [hj]⟩
  drawn := hs.drawn

lemma Sound.reclaim (hs : q.Sound ids) (w : WorkerId) : (q.reclaim w).2.Sound ids where
  toRouted := (hs.mapReclaim w).foldl_finalize _
  settled k kq hk := by
    rw [find?_reclaim hs.settled, Option.filter_eq_some_iff] at hk
    simpa using hk.2

lemma Sound.delete (hs : q.Sound ids) {state : JobState} (h : q.delete j = .ok (state, q')) :
    q'.Sound ids := by
  obtain ⟨jq, hj, -, rfl⟩ := delete_cases h
  have hfind : ∀ k, (q.put j jq.markDeleted).jobs.find? k =
      if k = j then some jq.markDeleted else q.jobs.find? k := fun k => Table.find?_insert _ _ _ _
  refine Routed.sound_finalize ?_ ?_
  · refine hs.toRouted.replace hfind (hs.named j jq hj) (hs.jobs j jq hj).markDeleted ?_
      (fun b => Or.inl rfl) (fun _ => id)
    intro b hb
    exact hs.routed j jq b hj (jq.bucketIds_markDeleted_sublist.subset hb)
  · intro k kq hne hk
    rw [hfind, if_neg hne] at hk
    exact hs.settled k kq hk

lemma Sound.put_handOut (hs : q.Sound ids) {jq : JobQueue} {rest : List Bucket} {h : HandOut}
    (hj : q.jobs.find? j = some jq) (hp : jq.pending = h.bucket :: rest) :
    (q.put j (jq.afterHandOut rest h)).Sound ids := by
  have hq := hs.jobs j jq hj
  have hfind : ∀ k, (q.put j (jq.afterHandOut rest h)).jobs.find? k =
      if k = j then some (jq.afterHandOut rest h) else q.jobs.find? k :=
    fun k => Table.find?_insert _ _ _ _
  refine { hs.toRouted.replace hfind (hs.named j jq hj) (hq.afterHandOut hp) ?_
      (fun b => Or.inl rfl) (fun _ => id) with settled := ?_ }
  · intro b hb
    exact hs.routed j jq b hj ((JobQueue.bucketIds_afterHandOut hq hp).mem_iff.1 hb)
  · intro k kq hk
    rw [hfind] at hk
    split at hk
    · obtain rfl := Option.some.inj hk
      rw [← Bool.not_eq_true, JobQueue.isClosed_iff, JobQueue.handOuts_afterHandOut hq hp]
      simp
    · exact hs.settled k kq hk

section

variable (hids : Function.Injective ids.nth) (hs : q.Sound ids)

lemma Routed.jobOr_sound (hs : q.Routed ids) (j : JobId) (priority : Priority) :
    (q.jobOr j priority).Sound ∧ (q.jobOr j priority).job.jobId = j ∧
      ∀ b ∈ (q.jobOr j priority).bucketIds, q.owners.find? b = some j := by
  unfold jobOr
  cases hj : q.jobs.find? j with
  | none =>
    refine ⟨JobQueue.sound_new _, rfl, fun b hb => ?_⟩
    cases hb
  | some jq => exact ⟨hs.jobs j jq hj, hs.named j jq hj, fun b hb => hs.routed j jq b hj hb⟩

include hids hs

lemma Sound.enqueue {priority : Priority} {buckets : List Bucket} {job : PrioritizedJob} {n : ℕ}
    (h : q.enqueue j priority buckets = .ok (job, q'))
    (hb : buckets.map Bucket.bucketId = (ids.upcoming n).map .mk) : q'.Sound (ids.advance n) := by
  obtain ⟨hd, -, hfind, hown⟩ := enqueue_eq_ok h
  obtain ⟨hq, hn, hr⟩ := hs.jobOr_sound j priority
  have hfresh : ∀ b ∈ buckets.map Bucket.bucketId,
      ¬ ids.Drawn b.text ∧ (ids.advance n).Drawn b.text := by
    rw [hb]
    exact fun b hm => ⟨IdSource.not_drawn_of_mem_map_upcoming hids hm,
      IdSource.drawn_of_mem_map_upcoming hm⟩
  have hnodup : (buckets.map Bucket.bucketId).Nodup := hb ▸ IdSource.nodup_map_upcoming hids n
  have hq' : ((q.jobOr j priority).enqueue buckets).Sound := by
    apply hq.enqueue hd hnodup
    intro b hm hm'
    exact (hfresh b hm').1 (hs.drawn b j (hr b hm))
  refine { hs.toRouted.replace hfind hn hq' ?_ ?_ (fun t ht => ht.advance n) with settled := ?_ }
  · intro b hm
    rw [hown]
    split
    · rfl
    · rename_i hm'
      have hm := (JobQueue.bucketIds_enqueue _ _).mem_iff.1 hm
      exact hr b ((List.mem_append.1 hm).resolve_right hm')
  · intro b
    rw [hown]
    split
    · rename_i hm
      exact Or.inr ⟨rfl, hfresh b hm⟩
    · exact Or.inl rfl
  · intro k kq hk
    rw [hfind] at hk
    split at hk
    · obtain rfl := Option.some.inj hk
      rw [← Bool.not_eq_true, JobQueue.isClosed_iff]
      rintro ⟨hd', -⟩
      rw [show ((q.jobOr j priority).enqueue buckets).deleted =
        (q.jobOr j priority).deleted from rfl, hd] at hd'
      cases hd'
    · exact hs.settled k kq hk

lemma Sound.accept {result : BucketResult} {w : WorkerId} {r : RequestId} {a : Acceptance}
    (h : q.accept result w r ids = .ok (a, q', ids')) : q'.Sound ids' := by
  obtain ⟨j, jq, ho, hj, hc⟩ := accept_cases h
  rcases hc with ⟨o, n, hf, -, -, -, rfl, hn, rfl⟩ | ⟨why, -, rfl, rfl, -⟩
  · have hq := hs.jobs j jq hj
    have hid := hq.keyed _ _ hf
    have hh : o.handOut ∈ jq.handOuts := JobQueue.mem_handOuts_iff.2 ⟨_, _, hf⟩
    set residual := jq.residual? o.handOut result ids with hres
    have hnew : ∀ bucket ∈ residual, bucket.bucketId = ⟨ids.next⟩ ∧ n = 1 ∧ jq.deleted = false := by
      intro bucket hb
      have hb' : jq.residual? o.handOut result ids = some bucket := hb
      exact ⟨JobQueue.bucketId_of_residual? hb', hn (Option.ne_none_iff_exists'.2 ⟨bucket, hb⟩),
        (JobQueue.residual?_eq_some hb').1⟩
    have hq' : (jq.afterRecord o.handOut result residual).Sound := by
      refine hq.afterRecord residual hh hid.symm ?_ ?_
      · intro bucket hb hm
        rw [(hnew bucket hb).1] at hm
        exact IdSource.next_not_drawn hids (hs.drawn _ j (hs.routed j jq _ hj hm))
      · intro hne
        obtain ⟨bucket, hb⟩ := Option.ne_none_iff_exists'.1 hne
        exact (hnew bucket hb).2.2
    have hfind : ∀ k, (q.put j (jq.afterRecord o.handOut result residual)).jobs.find? k =
        if k = j then some (jq.afterRecord o.handOut result residual) else q.jobs.find? k :=
      fun k => Table.find?_insert _ _ _ _
    refine Routed.sound_finalize (hs.toRouted.replace hfind (hs.named j jq hj) hq' ?_ ?_
      (fun t ht => ht.advance n)) ?_
    · intro b hb
      rw [find?_assign]
      split
      · rfl
      · rename_i hm
        have hb' := (JobQueue.bucketIds_afterRecord hq residual hh hid.symm).mem_iff.1 hb
        exact hs.routed j jq b hj ((List.mem_append.1 hb').resolve_right hm)
    · intro b
      rw [find?_assign]
      split
      · rename_i hm
        obtain ⟨bucket, hb, rfl⟩ := List.mem_map.1 hm
        obtain ⟨he, rfl, -⟩ := hnew bucket (Option.mem_toList.1 hb)
        rw [he]
        exact Or.inr ⟨rfl, IdSource.next_not_drawn hids, ids.next_drawn⟩
      · exact Or.inl rfl
    · intro k kq hne hk
      have hk' : (q.put j (jq.afterRecord o.handOut result residual)).jobs.find? k = some kq := hk
      rw [hfind, if_neg hne] at hk'
      exact hs.settled k kq hk'
  · exact hs.toRouted.sound_finalize fun k kq _ hk => hs.settled k kq hk

end

end TestQueue.BucketQueue
