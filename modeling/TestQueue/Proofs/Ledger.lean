import TestQueue.Proofs.JobEffect

namespace TestQueue

open Time (Instant)

namespace Event

variable {e : Event} {j : JobId} {buckets : List Bucket}

lemma placing_of_schedules {request : ScheduleRequest} (h : e.Schedules j request) :
    e.placing j buckets = e.server.cut request := by
  obtain ⟨answer, hc, hj, ha⟩ := h
  simp only [placing, hc, ha, hj, if_true]

lemma placing_eq_nil (hsch : ∀ request, ¬ e.Schedules j request)
    (hacc : ∀ p ∈ buckets, ¬ e.Accepts p.bucketId) : e.placing j buckets = [] := by
  unfold placing
  split
  · rename_i request answer hc ha
    rw [if_neg]
    exact fun hj => hsch request ⟨answer, hc, hj, ha⟩
  · rename_i request b retry hc ha
    have hn : (buckets.filter fun p => p.bucketId = request.result.bucketId) = [] := by
      apply List.filter_eq_nil_iff.2
      intro p hp
      rw [decide_eq_true_eq]
      exact fun he => hacc p hp ((accepts_iff hc ha).2 he.symm)
    rw [hn, List.filterMap_nil]
  · rfl

lemma placing_of_accepted {request : SubmitRequest} {b : BucketId}
    {residual : Option Bucket} {ids : IdSource} {jq : JobQueue} {h : HandOut}
    (hc : e.command = .submit request)
    (ha : e.answer = .ok (.submitted (.accepted b (residual.map Bucket.bucketId))))
    (hp : h.bucket ∈ buckets) (hn : (buckets.map Bucket.bucketId).Nodup)
    (hid : request.result.bucketId = h.bucket.bucketId)
    (hr : residual = jq.residual? h request.result ids) :
    e.placing j buckets = residual.toList := by
  cases hres : residual with
  | none => simp [placing, hc, ha, hres]
  | some p =>
    have hf : buckets.filter (fun p => p.bucketId = request.result.bucketId) = [h.bucket] := by
      apply List.perm_singleton.1
      refine (List.perm_ext_iff_of_nodup (hn.of_map.filter _) (by simp)).2 fun p => ?_
      rw [List.mem_filter, decide_eq_true_eq, List.mem_singleton, hid]
      constructor
      · rintro ⟨hm, he⟩
        exact List.inj_on_of_nodup_map hn hm hp he
      · rintro rfl
        exact ⟨hp, rfl⟩
    rw [hres, eq_comm] at hr
    have hb := (JobQueue.residual?_eq_some hr).2
    rw [← JobQueue.bucketId_of_residual? hr] at hb
    simp only [placing, hc, ha, hres, Option.map_some, hf, List.filterMap_cons, hb,
      List.filterMap_nil, Option.toList_some]

end Event

namespace JobQueue

/-- The job has these buckets: no two of the same name, all led to it by the index, among them
those that are waiting or out. Unless the job is deleted each of them is somewhere in it. -/
structure Accounted (q : JobQueue) (owners : Table BucketId JobId) (j : JobId)
    (buckets : List Bucket) : Prop where
  owned : ∀ p ∈ buckets, owners.find? p.bucketId = some j
  nodup : (buckets.map Bucket.bucketId).Nodup
  placed : q.openBuckets ⊆ buckets
  whole : q.deleted = false → q.bucketIds.Perm (buckets.map Bucket.bucketId)

lemma accounted_new (owners : Table BucketId JobId) (job : PrioritizedJob) :
    (new job).Accounted owners job.jobId [] where
  owned p hp := by cases hp
  nodup := List.nodup_nil
  placed := List.nil_subset _
  whole _ := List.Perm.refl _

lemma Accounted.grow {q q' : JobQueue} {owners owners' : Table BucketId JobId} {j : JobId}
    {buckets new : List Bucket} (h : q.Accounted owners j buckets)
    (ho : ∀ p ∈ buckets ++ new, owners'.find? p.bucketId = some j)
    (hn : (new.map Bucket.bucketId).Nodup) (hnew : ∀ p ∈ new, owners.find? p.bucketId = none)
    (hopen : q'.openBuckets ⊆ q.openBuckets ++ new)
    (hids : q'.deleted = false → q.deleted = false ∧
      q'.bucketIds.Perm (q.bucketIds ++ new.map Bucket.bucketId)) :
    q'.Accounted owners' j (buckets ++ new) where
  owned := ho
  nodup := by
    rw [List.map_append, List.nodup_append]
    refine ⟨h.nodup, hn, ?_⟩
    intro a ha b hb he
    obtain ⟨p, hp, rfl⟩ := List.mem_map.1 ha
    obtain ⟨p', hp', rfl⟩ := List.mem_map.1 hb
    have hnone := hnew p' hp'
    rw [← he, h.owned p hp] at hnone
    cases hnone
  placed p hp := by
    rcases List.mem_append.1 (hopen hp) with hp | hp
    · exact List.mem_append_left _ (h.placed hp)
    · exact List.mem_append_right _ hp
  whole hd := by
    obtain ⟨hq, hp⟩ := hids hd
    rw [List.map_append]
    exact hp.trans ((h.whole hq).append_right _)

lemma Accounted.move {q q' : JobQueue} {owners owners' : Table BucketId JobId} {j : JobId}
    {buckets : List Bucket} (h : q.Accounted owners j buckets)
    (ho : ∀ p ∈ buckets, owners'.find? p.bucketId = some j)
    (hopen : q'.openBuckets ⊆ q.openBuckets)
    (hids : q'.deleted = false → q.deleted = false ∧ q'.bucketIds.Perm q.bucketIds) :
    q'.Accounted owners' j buckets := by
  have hg : q'.Accounted owners' j (buckets ++ []) :=
    h.grow (by simpa using ho) List.nodup_nil (by simp) (by simpa using hopen)
      (by simpa using hids)
  rwa [List.append_nil] at hg

section

variable {q : JobQueue} {owners owners' : Table BucketId JobId} {j : JobId} {buckets : List Bucket}
  (h : q.Accounted owners j buckets)

include h

lemma Accounted.enqueue {new : List Bucket} (hd : q.deleted = false)
    (hkept : ∀ p ∈ buckets, owners'.find? p.bucketId = some j)
    (hown : ∀ p ∈ new, owners'.find? p.bucketId = some j)
    (hn : (new.map Bucket.bucketId).Nodup) (hnew : ∀ p ∈ new, owners.find? p.bucketId = none) :
    (q.enqueue new).Accounted owners' j (buckets ++ new) :=
  h.grow (List.forall_mem_append.2 ⟨hkept, hown⟩) hn hnew (q.openBuckets_enqueue new).subset
    fun _ => ⟨hd, q.bucketIds_enqueue new⟩

lemma Accounted.afterHandOut {k : HandOut} {rest : List Bucket} (hs : q.Sound)
    (hp : q.pending = k.bucket :: rest) (hkept : ∀ p ∈ buckets, owners'.find? p.bucketId = some j) :
    (q.afterHandOut rest k).Accounted owners' j buckets :=
  h.move hkept (openBuckets_afterHandOut hs hp).subset
    fun hd => ⟨hd, bucketIds_afterHandOut hs hp⟩

lemma Accounted.afterRecord {k : HandOut} {result : BucketResult} {residual : Option Bucket}
    (hs : q.Sound) (hk : k ∈ q.handOuts) (hid : result.bucketId = k.bucket.bucketId)
    (hkept : ∀ p ∈ buckets, owners'.find? p.bucketId = some j)
    (hown : ∀ p ∈ residual, owners'.find? p.bucketId = some j)
    (hnew : ∀ p ∈ residual, owners.find? p.bucketId = none) :
    (q.afterRecord k result residual).Accounted owners' j (buckets ++ residual.toList) := by
  have hopen := openBuckets_afterRecord hs residual hk hid
  refine h.grow (List.forall_mem_append.2 ⟨hkept, ?_⟩) ?_ ?_
    (fun p hp => hopen.subset (List.mem_append_left _ hp))
    fun hd => ⟨hd, bucketIds_afterRecord hs residual hk hid⟩
  · exact fun p hp => hown p (Option.mem_toList.1 hp)
  · cases residual <;> simp
  · exact fun p hp => hnew p (Option.mem_toList.1 hp)

lemma Accounted.reclaimFrom (ws : List WorkerId)
    (hkept : ∀ p ∈ buckets, owners'.find? p.bucketId = some j) :
    (q.reclaimFrom ws).Accounted owners' j buckets := by
  apply h.move hkept (openBuckets_reclaimFrom_subset q ws)
  intro hd
  rw [deleted_reclaimFrom] at hd
  exact ⟨hd, bucketIds_reclaimFrom hd ws⟩

lemma Accounted.markDeleted (hkept : ∀ p ∈ buckets, owners'.find? p.bucketId = some j) :
    q.markDeleted.Accounted owners' j buckets := by
  apply h.move hkept (List.subset_append_right _ _)
  intro hd
  cases hd

end

end JobQueue

namespace Event

variable {e : Event} {j : JobId} {buckets : List Bucket} {jq : JobQueue}

lemma of_leavesJob {kq : JobQueue} (h : e.LeavesJob j kq)
    (hj : e.after.queue.jobs.find? j = some jq) : jq = kq := by
  rw [LeavesJob, hj] at h
  exact (Option.some.inj (Option.filter_eq_some_iff.1 h.symm).1).symm

lemma accounted_jobOr (owned : ∀ kq, e.server.queue.jobs.find? j = some kq →
      kq.Accounted e.server.queue.owners j buckets)
    (absent : e.server.queue.jobs.find? j = none → buckets = []) (priority : Priority) :
    (e.server.queue.jobOr j priority).Accounted e.server.queue.owners j buckets := by
  unfold BucketQueue.jobOr
  cases hj : e.server.queue.jobs.find? j with
  | none =>
    rw [absent hj]
    exact JobQueue.accounted_new _ _
  | some kq => exact owned kq hj

theorem accounted_after (hs : e.server.Sound)
    (owned : ∀ kq, e.server.queue.jobs.find? j = some kq →
      kq.Accounted e.server.queue.owners j buckets)
    (absent : e.server.queue.jobs.find? j = none → buckets = [])
    (hj : e.after.queue.jobs.find? j = some jq) :
    jq.Accounted e.after.queue.owners j (buckets ++ e.placing j buckets) := by
  have hkept {kq : JobQueue} (hk : kq.Accounted e.server.queue.owners j buckets) :
      ∀ p ∈ buckets, e.after.queue.owners.find? p.bucketId = some j :=
    fun p hp => owners_after hs (hk.owned p hp) hj
  have hfresh {b : BucketId} (hb : ¬ e.server.ids.Drawn b.text) :
      e.server.queue.owners.find? b = none := by
    apply Option.eq_none_iff_forall_ne_some.2
    intro k hk
    exact hb (hs.queue.drawn b k hk)
  cases e.jobEffect hs j with
  | kept hafter hsch _ hacc =>
    have hk := owned jq (hafter ▸ hj)
    rw [placing_eq_nil hsch fun p hp ha => hacc _ ha (hk.owned p hp), List.append_nil]
    exact hk.move (hkept hk) (List.Subset.refl _) fun hd => ⟨hd, List.Perm.refl _⟩
  | @scheduled request new hsch hsp hd hafter hown =>
    have hk := accounted_jobOr owned absent request.priority
    have hcut : e.server.cut request = new := by
      rw [Dispatcher.cut, hsp]
    obtain rfl := Option.some.inj (hj.symm.trans hafter)
    rw [placing_of_schedules hsch, hcut]
    exact hk.enqueue hd (hkept hk) hown (splitIntoBuckets?_nodup hsp hs.injective)
      fun p hp => hfresh (splitIntoBuckets?_not_drawn hsp hs.injective hp)
  | @handedOut kq h rest hh hb hp hafter =>
    have hk := owned kq hb
    obtain rfl := Option.some.inj (hj.symm.trans hafter)
    rw [placing_eq_nil (not_schedules_of_handsOut hh j) fun p _ => not_accepts_of_handsOut hh _,
      List.append_nil]
    exact hk.afterHandOut (hs.queue.jobs j kq hb) hp (hkept hk)
  | @recorded kq h request residual hc ha hb hout _ hid _ hr hafter hown =>
    have hk := owned kq hb
    obtain rfl := of_leavesJob hafter hj
    have hm : h.bucket ∈ buckets :=
      hk.placed (JobQueue.mem_openBuckets_of_handOut hout)
    rw [placing_of_accepted hc ha hm hk.nodup hid hr]
    refine hk.afterRecord (hs.queue.jobs j kq hb) hout hid (hkept hk)
      (fun p hp => hown p hp (by simp [hj])) fun p hp => ?_
    rw [hr] at hp
    rw [JobQueue.bucketId_of_residual? hp]
    exact hfresh (IdSource.next_not_drawn hs.injective)
  | @reclaimed kq ws hc hb hafter =>
    have hk := owned kq hb
    obtain rfl := of_leavesJob hafter hj
    rw [placing_eq_nil (fun _ => not_schedules (by simp [hc]))
      fun _ _ => not_accepts (by simp [hc]), List.append_nil]
    exact hk.reclaimFrom ws (hkept hk)
  | @deleted kq hdel hb hafter =>
    have hk := owned kq hb
    obtain rfl := of_leavesJob hafter hj
    obtain ⟨_, hc, -⟩ := hdel
    rw [placing_eq_nil (fun _ => not_schedules (by simp [hc]))
      fun _ _ => not_accepts (by simp [hc]), List.append_nil]
    exact hk.markDeleted (hkept hk)

end Event

end TestQueue
