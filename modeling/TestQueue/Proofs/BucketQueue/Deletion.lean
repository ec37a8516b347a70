import TestQueue.Proofs.BucketQueue.Fresh

/-!
A deleted job stays as long as something of it is out, and takes in nothing. Then it is removed, and
a later job of the same name has nothing to do with it.
-/

namespace TestQueue.BucketQueue

open Time (Instant)

variable {q q' : BucketQueue} {ids : IdSource} {j : JobId} {jq : JobQueue} {h : HandOut}

def handOutsOf (q : BucketQueue) (j : JobId) : List HandOut :=
  ((q.jobs.find? j).map JobQueue.handOuts).getD []

lemma handOutsOf_of_find? (hj : q.jobs.find? j = some jq) : q.handOutsOf j = jq.handOuts := by
  rw [handOutsOf, hj, Option.map_some, Option.getD_some]

lemma exists_of_handOutsOf (hne : q.handOutsOf j ≠ []) : ∃ jq, q.jobs.find? j = some jq := by
  apply Option.ne_none_iff_exists'.1
  intro hn
  rw [handOutsOf, hn] at hne
  exact hne rfl

structure Closing (q : BucketQueue) (j : JobId) : Prop where
  waiting : ∃ jq, q.jobs.find? j = some jq ∧ jq.deleted = true ∧ jq.pending = []
  refused : ∀ priority buckets, q.enqueue j priority buckets = .error (.jobDeleted j)
  handedOut : ∀ w r now h, (q.dequeue w r now).1 = .handedOut h →
    q.owners.find? h.bucket.bucketId = some j → h ∈ q.handOutsOf j ∧ h.isFor w r = true
  retries : ∀ result w r ids b retry q' ids', q.owners.find? result.bucketId = some j →
    q.accept result w r ids = .ok (.accepted b retry, q', ids') → retry = none
  dropped : ∀ w, ∀ h ∈ q.handOutsOf j, h.workerId = w → ∀ k kq,
    (q.reclaim w).2.jobs.find? k = some kq → h.bucket.bucketId ∉ kq.bucketIds

structure Gone (q : BucketQueue) (j : JobId) : Prop where
  absent : q.jobs.find? j = none
  unindexed : ∀ b, q.owners.find? b ≠ some j

lemma not_mem_bucketIds_reclaim (hs : jq.Sound) (hd : jq.deleted = true) (hh : h ∈ jq.handOuts) :
    h.bucket.bucketId ∉ (jq.reclaim h.workerId).2.bucketIds := by
  intro hm
  rcases JobQueue.mem_bucketIds_iff.1 hm with hm | hm | hm
  · have hp : (jq.reclaim h.workerId).2.pending = [] := by
      simpa [JobQueue.reclaim, hd] using hs.dropped hd
    rw [JobQueue.pendingIds, hp] at hm
    cases hm
  · obtain ⟨k, hk, he⟩ := JobQueue.mem_outIds_iff.1 hm
    rw [JobQueue.handOuts_reclaim, List.mem_filter, decide_eq_true_eq] at hk
    obtain rfl := List.inj_on_of_nodup_map hs.nodup_outIds hk.1 hh he
    exact hk.2 rfl
  · have hn := hs.nodup
    rw [JobQueue.bucketIds_eq, List.nodup_append] at hn
    exact hn.2.2 _ (List.mem_map_of_mem (JobQueue.mem_openBuckets_of_handOut hh)) _ hm rfl

section

variable (hs : q.Sound ids)

include hs

section

variable (hj : q.jobs.find? j = some jq) (hd : jq.deleted = true)

include hj hd

lemma handOut_of_deleted {w : WorkerId} {r : RequestId} {now : Instant}
    (hh : (q.dequeue w r now).1 = .handedOut h)
    (ho : q.owners.find? h.bucket.bucketId = some j) :
    h ∈ jq.handOuts ∧ h.isFor w r = true := by
  rcases dequeue_cases hs.toRouted w r now with
    ⟨k, hk, hf, he⟩ | ⟨k, kq, bucket, rest, hk, hb, -, he⟩ | ⟨a, ha, he⟩
  · rw [he] at hh
    obtain rfl := Dequeued.handedOut.inj hh
    obtain ⟨i, iq, hi, hm⟩ := mem_handOuts_iff.1 hk
    have hr := hs.routed i iq _ hi (JobQueue.mem_bucketIds_of_handOut hm)
    obtain rfl := Option.some.inj (hr.symm.trans ho)
    obtain rfl := Option.some.inj (hi.symm.trans hj)
    exact ⟨hm, hf⟩
  · rw [he] at hh
    obtain rfl := Dequeued.handedOut.inj hh
    have hm : bucket ∈ kq.openBuckets := List.mem_append_left _ (hb ▸ List.mem_cons_self)
    have hr := hs.routed k kq _ hk (JobQueue.mem_bucketIds_of_open hm)
    obtain rfl := Option.some.inj (hr.symm.trans ho)
    obtain rfl := Option.some.inj (hk.symm.trans hj)
    rw [(hs.jobs _ kq hk).dropped hd] at hb
    cases hb
  · rw [he] at hh
    exact absurd hh (ha h)

omit hs in
lemma retry_of_deleted {result : BucketResult} {w : WorkerId} {r : RequestId} {ids' : IdSource}
    {b : BucketId} {retry : Option BucketId} (ho : q.owners.find? result.bucketId = some j)
    (ha : q.accept result w r ids = .ok (.accepted b retry, q', ids')) : retry = none := by
  obtain ⟨k, kq, ho', hk, ⟨o, n, -, -, -, he, -⟩ | ⟨why, he, -⟩⟩ := accept_cases ha
  · obtain rfl := Option.some.inj (ho'.symm.trans ho)
    obtain rfl := Option.some.inj (hk.symm.trans hj)
    obtain ⟨-, rfl⟩ := Acceptance.accepted.inj he
    rw [Option.map_eq_none_iff, Option.eq_none_iff_forall_ne_some]
    intro bucket hb
    have hopen := (JobQueue.residual?_eq_some hb).1
    rw [hd] at hopen
    cases hopen
  · cases he

lemma dropped_of_deleted (hh : h ∈ jq.handOuts) {k : JobId} {kq : JobQueue}
    (hk : (q.reclaim h.workerId).2.jobs.find? k = some kq) :
    h.bucket.bucketId ∉ kq.bucketIds := by
  intro hm
  rw [find?_reclaim hs.settled, Option.filter_eq_some_iff, Option.map_eq_some_iff] at hk
  obtain ⟨⟨lq, hl, rfl⟩, -⟩ := hk
  obtain rfl := hs.job_unique hl hj (lq.bucketIds_reclaim_subset _ hm)
    (JobQueue.mem_bucketIds_of_handOut hh)
  obtain rfl := Option.some.inj (hl.symm.trans hj)
  exact not_mem_bucketIds_reclaim (hs.jobs _ lq hl) hd hh hm

lemma closing_of_deleted : q.Closing j where
  waiting := ⟨jq, hj, hd, (hs.jobs j jq hj).dropped hd⟩
  refused priority buckets := by
    have hd' : (q.jobOr j priority).deleted = true := by rw [jobOr, hj]; exact hd
    simp only [enqueue, job?_withJob, bind, Except.bind, hd', if_true]
  handedOut w r now h hh ho := by
    rw [handOutsOf_of_find? hj]
    exact handOut_of_deleted hs hj hd hh ho
  retries result w r ids b retry q' ids' ho ha := retry_of_deleted hj hd ho ha
  dropped w h hh hw k kq hk := by
    subst hw
    rw [handOutsOf_of_find? hj] at hh
    exact dropped_of_deleted hs hj hd hh hk

end

lemma gone_of_absent (hj : q.jobs.find? j = none) : q.Gone j where
  absent := hj
  unindexed b hb := by
    obtain ⟨jq, hq⟩ := hs.present b j hb
    rw [hj] at hq
    cases hq

lemma closing_or_gone (hd : ∀ jq, q.jobs.find? j = some jq → jq.deleted = true) :
    (q.handOutsOf j ≠ [] → q.Closing j) ∧ (q.handOutsOf j = [] → q.Gone j) := by
  constructor
  · intro hne
    obtain ⟨jq, hj⟩ := exists_of_handOutsOf hne
    exact closing_of_deleted hs hj (hd jq hj)
  · intro hnil
    apply gone_of_absent hs
    apply Option.eq_none_iff_forall_ne_some.2
    intro jq hj
    rw [handOutsOf_of_find? hj] at hnil
    exact hs.out_of_deleted hj (hd jq hj) hnil

end

lemma deleted_of_delete {state : JobState} (h : q.delete j = .ok (state, q'))
    (hj : q'.jobs.find? j = some jq) : jq.deleted = true := by
  obtain ⟨kq, -, -, rfl⟩ := delete_cases h
  have hf := (of_find?_finalize hj).1
  rw [find?_put, if_pos rfl] at hf
  obtain rfl := Option.some.inj hf
  rfl

lemma enqueue_of_absent (hj : q.jobs.find? j = none) (priority : Priority)
    (buckets : List Bucket) :
    ∃ q', q.enqueue j priority buckets = .ok (⟨j, priority, q.nextSequence⟩, q') ∧
      q'.jobs.find? j = some ((JobQueue.new ⟨j, priority, q.nextSequence⟩).enqueue buckets) := by
  have hnew : q.jobOr j priority = .new ⟨j, priority, q.nextSequence⟩ := by
    rw [jobOr, hj, Option.getD_none]
  obtain ⟨q', hq⟩ : ∃ q', q.enqueue j priority buckets =
      .ok (⟨j, priority, q.nextSequence⟩, q') := by
    simp only [enqueue, job?_withJob, bind, Except.bind, hnew]
    exact ⟨_, rfl⟩
  refine ⟨q', hq, ?_⟩
  rw [(enqueue_eq_ok hq).2.2.1, if_pos rfl, hnew]

namespace Stage

variable {s s' s₁ s₂ : Stage}

/-- Some moves lead from one stage to the other, from stages that all have the property. -/
def LeadsWhile (P : Stage → Prop) : Stage → Stage → Prop :=
  Relation.ReflTransGen fun s s' => P s ∧ s.Move s'

lemma deleted_of_leadsWhile (hs : s.Sound)
    (hd : ∀ jq, s.queue.jobs.find? j = some jq → jq.deleted = true)
    (h : s.LeadsWhile (fun s => s.queue.handOutsOf j ≠ []) s') :
    s'.Sound ∧ ∀ jq, s'.queue.jobs.find? j = some jq → jq.deleted = true := by
  induction h with
  | refl => exact ⟨hs, hd⟩
  | tail _ m ih =>
    obtain ⟨hout, m⟩ := m
    -- something was out before the move, so the job was there and is not a new one
    refine ⟨ih.1.move m, fun jq' hj' => ?_⟩
    obtain ⟨kq, hk⟩ := exists_of_handOutsOf hout
    rcases job_of_move ih.1 m hj' with ⟨jq, hj, -, hkeep⟩ | ⟨hn, -⟩
    · exact hkeep (ih.2 jq hj)
    · rw [hk] at hn
      cases hn

lemma of_owners_leads {b : BucketId} {k : JobId} (h : s.Leads s') (hb : b ∈ s.used) :
    b ∈ s'.used ∧ (s'.queue.owners.find? b = some k → s.queue.owners.find? b = some k) := by
  induction h with
  | refl => exact ⟨hb, id⟩
  | tail _ m ih => exact ⟨used_subset_of_move m ih.1, fun ho => ih.2 (of_owners_move m ih.1 ho)⟩

lemma owners_of_gone (hs : s.Sound) (hj : s.queue.jobs.find? j = some jq) (h₁ : s.Leads s₁)
    (hn : s₁.queue.jobs.find? j = none) (h₂ : s₁.Leads s₂) {b : BucketId} (hb : b ∈ jq.bucketIds) :
    s₂.queue.owners.find? b = none := by
  obtain ⟨ids, hq, -⟩ := hs.exists_sound
  obtain ⟨ids₁, hq₁, -⟩ := (hs.leads h₁).exists_sound
  have ho := hq.routed j jq b hj hb
  have hused := hs.used_of_owner ho
  apply Option.eq_none_iff_forall_ne_some.2
  intro k hk
  -- what the index knows at the end it knew all the time, also when the job was gone
  have hk₁ := (of_owners_leads h₂ (of_owners_leads (k := k) h₁ hused).1).2 hk
  obtain rfl := Option.some.inj (ho.symm.trans ((of_owners_leads h₁ hused).2 hk₁))
  exact (gone_of_absent hq₁ hn).unindexed b hk₁

lemma nextSequence_le_of_leads (h : s.Leads s') : s.queue.nextSequence ≤ s'.queue.nextSequence := by
  induction h with
  | refl => exact Nat.le_refl _
  | tail _ m ih => exact ih.trans (nextSequence_le_of_move m)

lemma sequence_of_leads (hs : s.Sound) (hn : s.queue.jobs.find? j = none) (h : s.Leads s')
    {jq' : JobQueue} (hj : s'.queue.jobs.find? j = some jq') :
    s.queue.nextSequence ≤ jq'.job.sequence := by
  induction h generalizing jq' with
  | refl =>
    rw [hn] at hj
    cases hj
  | tail hl m ih =>
    rcases job_of_move (hs.leads hl) m hj with ⟨jq, hj, he, -⟩ | ⟨-, he⟩
    · rw [he]
      exact ih hj
    · rw [he]
      exact nextSequence_le_of_leads hl

end Stage

theorem deletion_deferred {s : Stage} (hrun : Stage.start.Leads s) (j : JobId) :
    (∀ jq, s.queue.jobs.find? j = some jq → jq.deleted = true →
      jq.pending = [] ∧ jq.handOuts ≠ []) ∧
    (∀ state q, s.queue.delete j = .ok (state, q) →
      ∀ s', Stage.LeadsWhile (fun s => s.queue.handOutsOf j ≠ []) ⟨q, s.used⟩ s' →
        (s'.queue.handOutsOf j ≠ [] → s'.queue.Closing j) ∧
        (s'.queue.handOutsOf j = [] → s'.queue.Gone j)) ∧
    ∀ jq, s.queue.jobs.find? j = some jq →
      ∀ s₁, s.Leads s₁ → s₁.queue.jobs.find? j = none →
        jq.job.sequence < s₁.queue.nextSequence ∧
        (∀ priority buckets, ∃ q,
          s₁.queue.enqueue j priority buckets =
            .ok (⟨j, priority, s₁.queue.nextSequence⟩, q) ∧
          q.jobs.find? j =
            some ((JobQueue.new ⟨j, priority, s₁.queue.nextSequence⟩).enqueue buckets)) ∧
        ∀ s₂, s₁.Leads s₂ →
          (∀ jq₂, s₂.queue.jobs.find? j = some jq₂ → jq.job.sequence < jq₂.job.sequence ∧
            ∀ b ∈ jq.bucketIds, b ∉ jq₂.bucketIds) ∧
          ∀ result w r ids, result.bucketId ∈ jq.bucketIds →
            s₂.queue.accept result w r ids = .error (.unknownBucket result.bucketId) := by
  have hs : s.Sound := Stage.sound_start.leads hrun
  obtain ⟨ids, hq, -⟩ := hs.exists_sound
  refine ⟨fun jq hj hd => ⟨(hq.jobs j jq hj).dropped hd, hq.out_of_deleted hj hd⟩,
    fun state q hdel s' hl => ?_, fun jq hj s₁ hl₁ hn => ?_⟩
  · obtain ⟨hs', hd'⟩ := Stage.deleted_of_leadsWhile (hs.move (.delete hdel))
      (fun _ => deleted_of_delete hdel) hl
    obtain ⟨ids', hq', -⟩ := hs'.exists_sound
    exact closing_or_gone hq' hd'
  · have hs₁ := hs.leads hl₁
    have hseq : jq.job.sequence < s₁.queue.nextSequence :=
      ((Stage.ranked_of_leads hrun).numbered j jq hj).trans_le (Stage.nextSequence_le_of_leads hl₁)
    refine ⟨hseq, enqueue_of_absent hn, fun s₂ hl₂ => ?_⟩
    obtain ⟨ids₂, hq₂, -⟩ := (hs₁.leads hl₂).exists_sound
    have hgone {b : BucketId} (hb : b ∈ jq.bucketIds) : s₂.queue.owners.find? b = none :=
      Stage.owners_of_gone hs hj hl₁ hn hl₂ hb
    refine ⟨fun jq₂ hj₂ => ⟨?_, fun b hb hb₂ => ?_⟩, fun result w r ids hb => ?_⟩
    · exact hseq.trans_le (Stage.sequence_of_leads hs₁ hn hl₂ hj₂)
    · have ho := hq₂.routed j jq₂ b hj₂ hb₂
      rw [hgone hb] at ho
      cases ho
    · simp only [accept, hgone hb]

theorem deletion_deferred_lostWorker :
    let bucket (b : BucketId) : Bucket :=
      ⟨b, ⟨"j"⟩, 1, [⟨"C", "x", none⟩], .empty, ⟨1, .empty⟩, .standard, .empty, 1⟩
    ∃ (s : Stage) (state : JobState) (deleted : BucketQueue),
      Stage.start.Leads s ∧
      s.queue.delete ⟨"j"⟩ = .ok (state, deleted) ∧ deleted.Closing ⟨"j"⟩ ∧
      (deleted.reclaim ⟨"w"⟩).2.Gone ⟨"j"⟩ ∧
      ∃ job recreated, job.sequence ≠ 0 ∧
        (deleted.reclaim ⟨"w"⟩).2.enqueue ⟨"j"⟩ 1 [bucket ⟨"b"⟩] = .ok (job, recreated) ∧
        ∀ ids, recreated.accept ⟨⟨"a"⟩, []⟩ ⟨"w"⟩ ⟨"r"⟩ ids = .error (.unknownBucket ⟨"a"⟩) := by
  intro bucket
  obtain ⟨q, hfirst⟩ : ∃ q, empty.enqueue ⟨"j"⟩ 1 [bucket ⟨"a"⟩] = .ok (⟨⟨"j"⟩, 1, 0⟩, q) :=
    ⟨_, rfl⟩
  let s : Stage := ⟨(q.dequeue ⟨"w"⟩ ⟨"r"⟩ .epoch).2, [⟨"a"⟩]⟩
  have hs : Stage.start.Leads s :=
    (Relation.ReflTransGen.single (.enqueue (by decide) hfirst)).tail (.dequeue _ _ _)
  obtain ⟨deleted, hdel⟩ : ∃ q, s.queue.delete ⟨"j"⟩ = .ok (⟨⟨"j"⟩, 1, 0, 1, 0, true, false⟩, q) := by
    cases hfirst
    exact ⟨_, rfl⟩
  obtain ⟨jq, hj, hb⟩ : ∃ jq, s.queue.jobs.find? ⟨"j"⟩ = some jq ∧ ⟨"a"⟩ ∈ jq.bucketIds := by
    cases hfirst
    exact ⟨_, rfl, by decide⟩
  have hout : deleted.handOutsOf ⟨"j"⟩ ≠ [] := by
    cases hfirst
    cases hdel
    decide
  have hnil : (deleted.reclaim ⟨"w"⟩).2.handOutsOf ⟨"j"⟩ = [] := by
    cases hfirst
    cases hdel
    decide +kernel
  obtain ⟨-, hdefer, hold⟩ := deletion_deferred hs ⟨"j"⟩
  have hmove : Stage.Move ⟨deleted, s.used⟩ ⟨(deleted.reclaim ⟨"w"⟩).2, s.used⟩ := .reclaim _
  have hgone := (hdefer _ deleted hdel _ (.single ⟨hout, hmove⟩)).2 hnil
  obtain ⟨hseq, hnew, hlate⟩ :=
    hold jq hj _ ((Relation.ReflTransGen.single (.delete hdel)).tail hmove) hgone.absent
  obtain ⟨recreated, hagain, -⟩ := hnew 1 [bucket ⟨"b"⟩]
  have hfresh : (s.used ++ [bucket ⟨"b"⟩].map Bucket.bucketId).Nodup := by
    change [BucketId.mk "a", ⟨"b"⟩].Nodup
    decide
  have hlater := (hlate _ (.single (.enqueue hfresh hagain))).2
  exact ⟨s, _, deleted, hs, hdel, (hdefer _ deleted hdel _ .refl).1 hout, hgone, _, recreated,
    (Nat.zero_le _).trans_lt hseq |>.ne', hagain, fun ids => hlater _ _ _ ids hb⟩

end TestQueue.BucketQueue
