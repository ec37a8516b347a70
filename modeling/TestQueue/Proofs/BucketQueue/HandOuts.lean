import TestQueue.Proofs.BucketQueue.Sound

namespace TestQueue.BucketQueue

open Time (Instant)

variable {q q' : BucketQueue} {ids : IdSource} {j : JobId} {h : HandOut}

def Out (q : BucketQueue) (b : BucketId) (w : WorkerId) (r : RequestId) : Prop :=
  ∃ h ∈ q.handOuts, h.bucket.bucketId = b ∧ h.workerId = w ∧ h.requestId = r

def OutElsewhere (q : BucketQueue) (j : JobId) (h : HandOut) : Prop :=
  ∃ k kq, k ≠ j ∧ q.jobs.find? k = some kq ∧ h ∈ kq.handOuts

lemma mem_handOuts_of_replace {jq : JobQueue}
    (hfind : ∀ k, q'.jobs.find? k = if k = j then some jq else q.jobs.find? k) :
    h ∈ q'.handOuts ↔ h ∈ jq.handOuts ∨ q.OutElsewhere j h := by
  rw [mem_handOuts_iff]
  constructor
  · rintro ⟨k, kq, hk, hh⟩
    rw [hfind] at hk
    split at hk
    · obtain rfl := Option.some.inj hk
      exact Or.inl hh
    · rename_i hne
      exact Or.inr ⟨k, kq, hne, hk, hh⟩
  · rintro (hh | ⟨k, kq, hne, hk, hh⟩)
    · exact ⟨j, jq, by rw [hfind, if_pos rfl], hh⟩
    · exact ⟨k, kq, by rw [hfind, if_neg hne, hk], hh⟩

lemma mem_handOuts_of_find? {jq : JobQueue} (hj : q.jobs.find? j = some jq) :
    h ∈ q.handOuts ↔ h ∈ jq.handOuts ∨ q.OutElsewhere j h := by
  apply mem_handOuts_of_replace
  intro k
  split
  · rename_i he
    rw [he, hj]
  · rfl

lemma mem_handOuts_jobOr (priority : Priority) :
    h ∈ q.handOuts ↔ h ∈ (q.jobOr j priority).handOuts ∨ q.OutElsewhere j h := by
  cases hj : q.jobs.find? j with
  | some jq =>
    rw [show q.jobOr j priority = jq by simp [jobOr, hj]]
    exact mem_handOuts_of_find? hj
  | none =>
    rw [show (q.jobOr j priority).handOuts = [] by simp [jobOr, hj]; rfl, mem_handOuts_iff]
    constructor
    · rintro ⟨k, kq, hk, hh⟩
      refine Or.inr ⟨k, kq, ?_, hk, hh⟩
      rintro rfl
      rw [hj] at hk
      cases hk
    · rintro (hh | ⟨k, kq, -, hk, hh⟩)
      · cases hh
      · exact ⟨k, kq, hk, hh⟩

lemma mem_handOuts_enqueue {priority : Priority} {buckets : List Bucket} {job : PrioritizedJob}
    (he : q.enqueue j priority buckets = .ok (job, q')) : h ∈ q'.handOuts ↔ h ∈ q.handOuts := by
  rw [mem_handOuts_of_replace (enqueue_eq_ok he).2.2.1, mem_handOuts_jobOr priority]
  rfl

lemma mem_handOuts_delete {state : JobState} (hd : q.delete j = .ok (state, q')) :
    h ∈ q'.handOuts ↔ h ∈ q.handOuts := by
  obtain ⟨jq, hj, -, rfl⟩ := delete_cases hd
  rw [mem_handOuts_finalize, mem_handOuts_of_find? hj,
    mem_handOuts_of_replace (q := q) fun k => Table.find?_insert _ _ _ _]
  rfl

lemma mem_handOuts_put_handOut {jq : JobQueue} {rest : List Bucket} {new : HandOut}
    (hs : q.Routed ids) (hj : q.jobs.find? j = some jq) (hp : jq.pending = new.bucket :: rest) :
    h ∈ (q.put j (jq.afterHandOut rest new)).handOuts ↔ h = new ∨ h ∈ q.handOuts := by
  rw [mem_handOuts_of_find? hj, mem_handOuts_of_replace fun k => Table.find?_insert _ _ _ _,
    JobQueue.handOuts_afterHandOut (hs.jobs j jq hj) hp, List.mem_append, List.mem_singleton]
  tauto

lemma mem_handOuts_accept {result : BucketResult} {w : WorkerId} {r : RequestId} {ids' : IdSource}
    {b : BucketId} {retry : Option BucketId} (hs : q.Routed ids)
    (ha : q.accept result w r ids = .ok (.accepted b retry, q', ids')) :
    h ∈ q'.handOuts ↔ h ∈ q.handOuts ∧ h.bucket.bucketId ≠ result.bucketId := by
  obtain ⟨j, jq, ho, hj, ⟨o, n, -, -, -, -, -, -, rfl⟩ | ⟨why, hc, -⟩⟩ := accept_cases ha
  · have hq := hs.jobs j jq hj
    have helse : q.OutElsewhere j h → h.bucket.bucketId ≠ result.bucketId := by
      rintro ⟨k, kq, hne, hk, hh⟩ he
      have hr := hs.routed k kq _ hk (JobQueue.mem_bucketIds_of_handOut hh)
      rw [he, ho] at hr
      exact hne (Option.some.inj hr).symm
    rw [mem_handOuts_finalize, mem_handOuts_of_find? hj,
      mem_handOuts_of_replace (q := q) fun k => Table.find?_insert _ _ _ _,
      JobQueue.handOuts_afterRecord hq, List.mem_filter, decide_eq_true_eq]
    tauto
  · cases hc

lemma mem_handOuts_reclaim (hs : q.Sound ids) {w : WorkerId} :
    h ∈ (q.reclaim w).2.handOuts ↔ h ∈ q.handOuts ∧ h.workerId ≠ w := by
  simp only [mem_handOuts_iff, find?_reclaim hs.settled, Option.filter_eq_some_iff,
    Option.map_eq_some_iff]
  constructor
  · rintro ⟨k, -, ⟨⟨jq, hj, rfl⟩, -⟩, hh⟩
    rw [JobQueue.handOuts_reclaim, List.mem_filter, decide_eq_true_eq] at hh
    exact ⟨⟨k, jq, hj, hh.1⟩, hh.2⟩
  · rintro ⟨⟨k, jq, hj, hh⟩, hw⟩
    have hm : h ∈ (jq.reclaim w).2.handOuts := by
      rw [JobQueue.handOuts_reclaim, List.mem_filter, decide_eq_true_eq]
      exact ⟨hh, hw⟩
    refine ⟨k, _, ⟨⟨jq, hj, rfl⟩, ?_⟩, hm⟩
    rw [Bool.not_eq_true', ← Bool.not_eq_true, JobQueue.isClosed_iff]
    rintro ⟨-, -, hn⟩
    rw [hn] at hm
    cases hm

lemma Routed.out_unique (hs : q.Routed ids) {k : HandOut} (hh : h ∈ q.handOuts)
    (hk : k ∈ q.handOuts) (he : h.bucket.bucketId = k.bucket.bucketId) : h = k := by
  obtain ⟨i, iq, hi, hh⟩ := mem_handOuts_iff.1 hh
  obtain ⟨j, jq, hj, hk⟩ := mem_handOuts_iff.1 hk
  obtain rfl : i = j := hs.job_unique hi hj (JobQueue.mem_bucketIds_of_handOut hh)
    (he ▸ JobQueue.mem_bucketIds_of_handOut hk)
  obtain rfl := Option.some.inj (hi.symm.trans hj)
  exact List.inj_on_of_nodup_map (hs.jobs i iq hi).nodup_outIds hh hk he

lemma Routed.out_of_accept (hs : q.Routed ids) {result : BucketResult} {w : WorkerId}
    {r : RequestId} {ids' : IdSource} {b : BucketId} {retry : Option BucketId}
    (ha : q.accept result w r ids = .ok (.accepted b retry, q', ids')) :
    q.Out result.bucketId w r := by
  obtain ⟨j, jq, -, hj, ⟨o, n, hf, hw, -⟩ | ⟨why, hc, -⟩⟩ := accept_cases ha
  · obtain ⟨hw, hr⟩ := HandOut.isFor_iff.1 hw
    have hh : o.handOut ∈ jq.handOuts := JobQueue.mem_handOuts_iff.2 ⟨_, _, hf⟩
    exact ⟨o.handOut, mem_handOuts_iff.2 ⟨j, jq, hj, hh⟩, (hs.jobs j jq hj).keyed _ _ hf, hw, hr⟩
  · cases hc

lemma Routed.nodup_flatMap (hs : q.Routed ids) {f : JobQueue → List BucketId}
    (hf : ∀ jq, (f jq).Sublist jq.bucketIds) : (q.jobs.values.flatMap f).Nodup := by
  have hfind : ∀ b ∈ q.jobs.bindings, q.jobs.find? b.1 = some b.2 :=
    fun b hb => Table.find?_eq_some_iff.2 hb
  rw [Table.values, List.flatMap_map, List.nodup_flatMap]
  constructor
  · intro b hb
    exact (hf b.2).nodup (hs.jobs b.1 b.2 (hfind b hb)).nodup
  · have hkeys : q.jobs.bindings.Pairwise fun a b => a.1 ≠ b.1 :=
      List.pairwise_map.1 q.jobs.distinct
    refine hkeys.imp_of_mem fun {a b} ha hb hne => ?_
    intro x hx hy
    exact hne (hs.job_unique (hfind a ha) (hfind b hb) ((hf a.2).subset hx) ((hf b.2).subset hy))

def heldIds (q : BucketQueue) (w : WorkerId) : List BucketId :=
  (q.handOuts.filter fun h => h.workerId = w).map fun h => h.bucket.bucketId

lemma mem_heldIds_iff {w : WorkerId} {b : BucketId} : b ∈ q.heldIds w ↔ ∃ r, q.Out b w r := by
  simp only [heldIds, List.mem_map, List.mem_filter, decide_eq_true_eq]
  constructor
  · rintro ⟨h, ⟨hh, hw⟩, hb⟩
    exact ⟨h.requestId, h, hh, hb, hw, rfl⟩
  · rintro ⟨r, h, hh, hb, hw, -⟩
    exact ⟨h, ⟨hh, hw⟩, hb⟩

lemma Routed.nodup_heldIds (hs : q.Routed ids) (w : WorkerId) : (q.heldIds w).Nodup := by
  have hn : (q.jobs.values.flatMap JobQueue.outIds).Nodup := hs.nodup_flatMap fun jq =>
    (List.sublist_append_right _ _).trans (List.sublist_append_left _ _)
  have he : q.jobs.values.flatMap JobQueue.outIds =
      q.handOuts.map fun h => h.bucket.bucketId := by
    rw [handOuts, List.map_flatMap]
    rfl
  rw [he] at hn
  exact (List.filter_sublist.map _).nodup hn

lemma flatMap_filter_of_nil {α β : Type} {f : α → List β} {p : α → Bool} {l : List α}
    (h : ∀ a ∈ l, p a = false → f a = []) : (l.filter p).flatMap f = l.flatMap f := by
  induction l with
  | nil => rfl
  | cons a l ih =>
    have ih' := ih fun b hb => h b (List.mem_cons_of_mem _ hb)
    cases hp : p a with
    | true => rw [List.filter_cons_of_pos hp, List.flatMap_cons, List.flatMap_cons, ih']
    | false =>
      rw [List.filter_cons_of_neg (by simp [hp]), List.flatMap_cons, ih',
        h a List.mem_cons_self hp, List.nil_append]

lemma reclaim_perm (q : BucketQueue) (w : WorkerId) : (q.reclaim w).1.Perm (q.heldIds w) := by
  have he : (q.reclaim w).1 = q.jobs.values.flatMap fun jq => (jq.reclaim w).1 := by
    rw [Table.values, List.flatMap_map]
    exact flatMap_filter_of_nil fun b _ hb => by simpa using hb
  rw [he, heldIds, handOuts, List.filter_flatMap, List.map_flatMap]
  exact List.Perm.flatMap_left _ fun jq _ => jq.reclaim_perm w

end TestQueue.BucketQueue
