import TestQueue.Proofs.Delivery

/-!
The job and the priority that are written on a bucket. The job is the one that the bucket is in, but
the priority is that of the request which the bucket comes from, and the job has that of its first.
-/

namespace TestQueue

open Time (Instant)

structure Bucket.StemsFrom (p : Bucket) (request : ScheduleRequest) : Prop where
  jobId : p.jobId = request.jobId
  priority : p.priority = request.priority
  artifacts : p.artifacts = request.artifacts
  behavior : p.behavior = request.behavior
  timeout : p.timeout = request.timeout
  destination : p.destination = request.destination

lemma Bucket.StemsFrom.residual? {p q : Bucket} {request : ScheduleRequest} {id : BucketId}
    {tests : List TestEntry} (h : p.StemsFrom request) (hr : p.residual? id tests = some q) :
    q.StemsFrom request := by
  unfold Bucket.residual? at hr
  split at hr
  · cases hr
  · obtain rfl := Option.some.inj hr
    exact ⟨h.jobId, h.priority, h.artifacts, h.behavior, h.timeout, h.destination⟩

lemma Dispatcher.stemsFrom_of_mem_cut {d : Dispatcher} {request : ScheduleRequest} {p : Bucket}
    (hp : p ∈ d.cut request) : p.StemsFrom request := by
  unfold cut at hp
  split at hp
  · rename_i buckets ids' hsp
    obtain ⟨groups, -, rfl, -⟩ := splitIntoBuckets?_eq_map_zip hsp
    obtain ⟨g, -, rfl⟩ := List.mem_map.1 hp
    exact ⟨rfl, rfl, rfl, rfl, rfl, rfl⟩
  · cases hp

lemma Event.placing_cases {e : Event} {j : JobId} {buckets : List Bucket} {p : Bucket}
    (hp : p ∈ e.placing j buckets) : (∃ request, e.Schedules j request ∧ p.StemsFrom request) ∨
      ∃ q ∈ buckets, ∀ request, q.StemsFrom request → p.StemsFrom request := by
  unfold placing at hp
  split at hp
  · rename_i request answer hc ha
    split at hp
    · rename_i hj
      exact Or.inl ⟨request, ⟨answer, hc, hj, ha⟩, Dispatcher.stemsFrom_of_mem_cut hp⟩
    · cases hp
  · obtain ⟨q, hq, hr⟩ := List.mem_filterMap.1 hp
    exact Or.inr ⟨q, (List.mem_filter.1 hq).1, fun _ h => h.residual? hr⟩
  · cases hp

lemma stemsFrom_of_placed {j : JobId} {past : List Event} {p : Bucket} (hp : p ∈ placed j past) :
    ∃ e ∈ past, ∃ request, e.Schedules j request ∧ p.StemsFrom request := by
  induction past generalizing p with
  | nil => cases hp
  | cons e past ih =>
    rcases List.mem_append.1 hp with hp | hp
    · obtain ⟨x, hx, h⟩ := ih hp
      exact ⟨x, List.mem_cons_of_mem _ hx, h⟩
    · rcases Event.placing_cases hp with h | ⟨q, hq, hpass⟩
      · exact ⟨e, List.mem_cons_self, h⟩
      · obtain ⟨x, hx, request, hsch, h⟩ := ih hq
        exact ⟨x, List.mem_cons_of_mem _ hx, request, hsch, hpass request h⟩

lemma jobId_of_placed {j : JobId} {past : List Event} {p : Bucket} (hp : p ∈ placed j past) :
    p.jobId = j := by
  obtain ⟨e, -, request, ⟨_, -, hj, -⟩, h⟩ := stemsFrom_of_placed hp
  exact h.jobId.trans hj

lemma sinceCreated_subset (j : JobId) (past : List Event) : sinceCreated j past ⊆ past := by
  induction past with
  | nil => exact List.Subset.refl _
  | cons e past ih =>
    rw [sinceCreated]
    apply List.cons_subset_cons
    split
    · exact ih
    · exact List.nil_subset _

lemma JobQueue.job_reclaimFrom (q : JobQueue) (ws : List WorkerId) :
    (q.reclaimFrom ws).job = q.job := by
  induction ws generalizing q with
  | nil => rfl
  | cons w ws ih => exact ih (q.reclaim w).2

namespace Event

variable {e : Event} {j : JobId} {jq : JobQueue}

lemma job_after (hs : e.server.Sound) (hj : e.after.queue.jobs.find? j = some jq) :
    (∃ kq, e.server.queue.jobs.find? j = some kq ∧ jq.job = kq.job) ∨
      e.server.queue.jobs.find? j = none ∧
        ∃ request, e.Schedules j request ∧ jq.job.priority = request.priority := by
  cases e.jobEffect hs j with
  | kept hafter _ _ _ => exact Or.inl ⟨jq, hafter ▸ hj, rfl⟩
  | @scheduled request buckets hsch _ _ hafter _ =>
    obtain rfl := Option.some.inj (hj.symm.trans hafter)
    cases hk : e.server.queue.jobs.find? j with
    | none => exact Or.inr ⟨rfl, request, hsch, by rw [BucketQueue.jobOr, hk]; rfl⟩
    | some kq => exact Or.inl ⟨kq, rfl, by rw [BucketQueue.jobOr, hk]; rfl⟩
  | @handedOut kq h rest _ hb _ hafter =>
    obtain rfl := Option.some.inj (hj.symm.trans hafter)
    exact Or.inl ⟨kq, hb, rfl⟩
  | @recorded kq h request residual _ _ hb _ _ _ _ _ hafter _ =>
    obtain rfl := of_leavesJob hafter hj
    exact Or.inl ⟨kq, hb, rfl⟩
  | @reclaimed kq ws _ hb hafter =>
    obtain rfl := of_leavesJob hafter hj
    exact Or.inl ⟨kq, hb, kq.job_reclaimFrom ws⟩
  | @deleted kq _ hb hafter =>
    obtain rfl := of_leavesJob hafter hj
    exact Or.inl ⟨kq, hb, rfl⟩

end Event

def CreatedWith (past : List Event) (j : JobId) (priority : Priority) : Prop :=
  ∃ e ∈ sinceCreated j past, e.server.queue.jobs.find? j = none ∧
    ∃ request, e.Schedules j request ∧ priority = request.priority

namespace Dispatcher

theorem createdWith_run {ids : IdSource} (hids : Function.Injective ids.nth)
    (settings : DispatcherSettings) (start : Instant) (commands : List (Instant × Command)) :
    ∀ j jq, ((new settings ids start).run commands).queue.jobs.find? j = some jq →
      CreatedWith ((new settings ids start).history commands) j jq.job.priority := by
  refine (run_induction (d := new settings ids start) (P := fun past d => d.Sound ∧
    ∀ j jq, d.queue.jobs.find? j = some jq → CreatedWith past j jq.job.priority)
    ⟨sound_new hids settings start, fun j jq hj => by cases hj⟩ ?_ commands).2
  rintro past e ⟨hs, ih⟩
  refine ⟨Event.sound_after hs, fun j jq hj => ?_⟩
  rcases Event.job_after hs hj with ⟨kq, hk, hjob⟩ | ⟨hn, hnew⟩
  · obtain ⟨x, hx, h⟩ := ih j kq hk
    refine ⟨x, ?_, hjob ▸ h⟩
    rw [sinceCreated, if_pos (Table.contains_iff.2 ⟨kq, hk⟩)]
    exact List.mem_cons_of_mem _ hx
  · exact ⟨e, by simp [sinceCreated], hn, hnew⟩

theorem buckets_labelled {ids : IdSource} (hids : Function.Injective ids.nth)
    (settings : DispatcherSettings) (start : Instant) (commands : List (Instant × Command)) :
    let d := (new settings ids start).run commands
    let past := (new settings ids start).history commands
    (∀ j jq, d.queue.jobs.find? j = some jq → ∃ state, d.jobState j = .ok state ∧
      CreatedWith past j state.priority ∧
      (∀ p ∈ jq.pending ++ jq.handOuts.map HandOut.bucket, p.jobId = j ∧
        ∃ e ∈ sinceCreated j past, ∃ request, e.Schedules j request ∧ p.StemsFrom request) ∧
      ((∀ e ∈ sinceCreated j past, ∀ request, e.Schedules j request →
          request.priority = state.priority) →
        ∀ p ∈ jq.pending ++ jq.handOuts.map HandOut.bucket, p.priority = state.priority)) ∧
    ∀ now request p, (d.perform now (.fetch request)).1 = .ok (.fetched (.bucket p)) →
      ∃ jq, (d.perform now (.fetch request)).2.queue.jobs.find? p.jobId = some jq ∧
        ∃ h ∈ jq.handOuts, h.bucket = p ∧ h.isFor request.workerId request.requestId = true := by
  intro d past
  have ha : d.Accounts past := accounts_run hids settings start commands
  have hplaced {j : JobId} {jq : JobQueue} (hj : d.queue.jobs.find? j = some jq) {p : Bucket}
      (hp : p ∈ jq.openBuckets) : p ∈ placed j (sinceCreated j past) :=
    (ha.accounted j jq hj).placed hp
  refine ⟨fun j jq hj => ⟨jq.state, ?_, createdWith_run hids settings start commands j jq hj,
    fun p hp => ⟨jobId_of_placed (hplaced hj hp), stemsFrom_of_placed (hplaced hj hp)⟩,
    fun hall p hp => ?_⟩, fun now request p hf => ?_⟩
  · simp only [jobState, BucketQueue.state, BucketQueue.job?, hj, Except.map]
  · obtain ⟨e, he, request, hsch, h⟩ := stemsFrom_of_placed (hplaced hj hp)
    exact h.priority.trans (hall e he request hsch)
  · let e : Event := ⟨d, now, .fetch request⟩
    obtain ⟨h, hm, rfl, hfor⟩ :=
      Event.holds_of_delivers (e := e) ha.sound ⟨request, rfl, rfl, rfl, hf⟩
    obtain ⟨j, jq, hj, hh⟩ := BucketQueue.mem_handOuts_iff.1 hm
    have hin := ((accounts_after (e := e) ha).accounted j jq hj).placed
      (JobQueue.mem_openBuckets_of_handOut hh)
    exact ⟨jq, by rw [jobId_of_placed hin]; exact hj, h, hh, rfl, hfor⟩

theorem buckets_labelled_lostBucket : Function.Injective numberedIds.nth ∧
    ∃ jq state, ((new plainSettings numberedIds .epoch).run lostBucket).queue.jobs.find? ⟨"j"⟩ =
        some jq ∧
      ((new plainSettings numberedIds .epoch).run lostBucket).jobState ⟨"j"⟩ = .ok state ∧
      (jq.pending ++ jq.handOuts.map HandOut.bucket).map Bucket.bucketId =
        [⟨"id-4"⟩, ⟨"id-3"⟩] ∧
      ∀ p ∈ jq.pending ++ jq.handOuts.map HandOut.bucket,
        p.jobId = ⟨"j"⟩ ∧ p.priority = state.priority := by
  have hids : Function.Injective numberedIds.nth := IdSource.sequential_injective "id"
  obtain ⟨jq, hj, hopen⟩ : ∃ jq, ((new plainSettings numberedIds .epoch).run
      lostBucket).queue.jobs.find? ⟨"j"⟩ = some jq ∧
      (jq.pending ++ jq.handOuts.map HandOut.bucket).map Bucket.bucketId =
        [⟨"id-4"⟩, ⟨"id-3"⟩] := ⟨_, rfl, by decide⟩
  have honly : ∀ c ∈ lostBucket, ∀ request, c.2 = .schedule request → request.priority = 1 := by
    simp [lostBucket]
  have hone : ∀ e ∈ sinceCreated ⟨"j"⟩ ((new plainSettings numberedIds .epoch).history lostBucket),
      ∀ request, e.Schedules ⟨"j"⟩ request → request.priority = 1 := by
    rintro e he request ⟨_, hc, -⟩
    exact honly _ (mem_of_mem_history (sinceCreated_subset _ _ he)) request hc
  obtain ⟨state, hstate, ⟨e, he, -, request, hsch, hfirst⟩, hjob, hpriority⟩ :=
    (buckets_labelled hids plainSettings .epoch lostBucket).1 ⟨"j"⟩ jq hj
  rw [hone e he request hsch] at hfirst
  rw [← hfirst] at hone
  exact ⟨hids, jq, state, hj, hstate, hopen, fun p hp => ⟨(hjob p hp).1, hpriority hone p hp⟩⟩

/-- Tests are added to a job under another priority, and both buckets are handed out. -/
def addedUrgently : List (Instant × Command) :=
  [(.epoch, .register ⟨"w"⟩ none),
    (.epoch, .schedule ⟨⟨"j"⟩, 1, [⟨"C", "x", none⟩], .individual, none, .empty, .empty, .standard,
      .empty⟩),
    (.epoch, .schedule ⟨⟨"j"⟩, 7, [⟨"C", "y", none⟩], .individual, none, .empty, .empty, .standard,
      .empty⟩),
    (.epoch, .fetch ⟨⟨"w"⟩, ⟨"r"⟩, ⟨"id-1"⟩⟩),
    (.epoch, .fetch ⟨⟨"w"⟩, ⟨"s"⟩, ⟨"id-1"⟩⟩)]

theorem other_priority_addedUrgently :
    let d := (new plainSettings numberedIds .epoch).run addedUrgently
    ¬ ∀ j jq state, d.queue.jobs.find? j = some jq → d.jobState j = .ok state →
      ∀ p ∈ jq.pending ++ jq.handOuts.map HandOut.bucket, p.priority = state.priority := by
  intro d h
  have hall := h ⟨"j"⟩ _ _ rfl rfl
  exact absurd hall (by decide)

end Dispatcher

end TestQueue
