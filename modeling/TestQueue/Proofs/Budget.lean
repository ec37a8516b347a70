import TestQueue.Proofs.BucketQueue.Budget
import TestQueue.Proofs.Location

/-!
A job gets no more results than its tests were granted when they were scheduled, however often its
buckets fail, are taken back and are handed out again.
-/

namespace TestQueue

open Time (Instant)

def scheduledBuckets (j : JobId) (past : List Event) : List Bucket :=
  (sinceCreated j past).flatMap fun e => e.placing j []

lemma scheduledBuckets_cons (j : JobId) (e : Event) (past : List Event) :
    scheduledBuckets j (e :: past) = e.placing j [] ++
      if e.server.queue.jobs.contains j then scheduledBuckets j past else [] := by
  rw [scheduledBuckets, sinceCreated, List.flatMap_cons]
  split <;> rfl

lemma splitIntoBuckets?_retries {tests : List TestEntry} {workers : UInt32}
    {strategy : SplitStrategy} {template : BucketTemplate} {ids ids' : IdSource}
    {buckets : List Bucket}
    (h : splitIntoBuckets? tests workers strategy template ids = some (buckets, ids')) {p : Bucket}
    (hp : p ∈ buckets) : p.remainingRetries = p.behavior.numberOfRetries := by
  obtain ⟨groups, -, rfl, -⟩ := splitIntoBuckets?_eq_map_zip h
  obtain ⟨g, -, rfl⟩ := List.mem_map.1 hp
  rfl

namespace Event

variable {e : Event} {j : JobId} {jq : JobQueue}

lemma thrifty_after {n : ℕ} (hs : e.server.Sound)
    (ih : ∀ kq, e.server.queue.jobs.find? j = some kq → kq.Thrifty n)
    (absent : e.server.queue.jobs.find? j = none → n = 0)
    (hj : e.after.queue.jobs.find? j = some jq) :
    jq.Thrifty (n + JobQueue.granted (e.placing j [])) := by
  -- only scheduling grants anything
  have step (hsch : ∀ request, ¬ e.Schedules j request) (hk : jq.Thrifty n) :
      jq.Thrifty (n + JobQueue.granted (e.placing j [])) := by
    rw [placing_eq_nil hsch (by simp)]
    exact hk
  cases e.jobEffect hs j with
  | kept hafter hsch _ _ => exact step hsch (ih jq (hafter ▸ hj))
  | @scheduled request new hsch hsp _ hafter _ =>
    have hcut : e.server.cut request = new := by
      rw [Dispatcher.cut, hsp]
    have hk : (e.server.queue.jobOr j request.priority).Thrifty n := by
      unfold BucketQueue.jobOr
      cases hb : e.server.queue.jobs.find? j with
      | none =>
        rw [absent hb]
        exact JobQueue.thrifty_new _
      | some kq => exact ih kq hb
    obtain rfl := Option.some.inj (hj.symm.trans hafter)
    rw [placing_of_schedules hsch, hcut]
    exact hk.enqueue fun p hp => splitIntoBuckets?_retries hsp hp
  | @handedOut kq h rest hh hb hp hafter =>
    obtain rfl := Option.some.inj (hj.symm.trans hafter)
    have hperm := JobQueue.openBuckets_afterHandOut (hs.queue.jobs j kq hb) hp
    exact step (not_schedules_of_handsOut hh j) ((ih kq hb).move rfl hperm.subperm)
  | @recorded kq h request residual hc _ hb hout _ hid _ hr hafter _ =>
    obtain rfl := of_leavesJob hafter hj
    subst hr
    exact step (fun _ => not_schedules (by simp [hc]))
      ((ih kq hb).afterRecord (hs.queue.jobs j kq hb) _ hout hid)
  | @reclaimed kq ws hc hb hafter =>
    obtain rfl := of_leavesJob hafter hj
    exact step (fun _ => not_schedules (by simp [hc])) ((ih kq hb).move
      (JobQueue.finished_reclaimFrom kq ws) (JobQueue.openBuckets_reclaimFrom_subperm kq ws))
  | @deleted kq hdel hb hafter =>
    obtain rfl := of_leavesJob hafter hj
    obtain ⟨_, hc, -⟩ := hdel
    exact step (fun _ => not_schedules (by simp [hc]))
      ((ih kq hb).move rfl (List.sublist_append_right _ _).subperm)

lemma budget?_after_fetch {request : FetchRequest} (hs : e.server.Sound)
    (hc : e.command = .fetch request) (j : JobId) :
    e.after.queue.budget? j = e.server.queue.budget? j := by
  cases e.effect hs.queue with
  | repeated _ _ _ _ _ hq _ _ => rw [hq]
  | handedOut _ _ hj hp _ _ hq _ _ =>
    rw [hq, BucketQueue.budget?_put_handOut hs.queue.toRouted hj hp]
  | accepted hc' | scheduled hc' | deleted hc' | swept hc' => cases hc'.symm.trans hc
  | registered _ _ hq _ => rw [hq]
  | heard _ _ hq _ => rw [hq]
  | blocked _ _ hq _ => rw [hq]
  | none _ hq _ _ => rw [hq]

lemma budget?_after_sweep (hs : e.server.Sound) (hc : e.command = .sweep)
    (hj : e.server.queue.jobs.find? j = some jq) (hd : jq.deleted = false) :
    e.after.queue.budget? j = some jq.budget := by
  have hq : e.after.queue = Dispatcher.reclaimAll e.server.queue (e.server.roster.sweep e.now).1 := by
    rw [after, hc]
    rfl
  rw [hq, Dispatcher.reclaimAll_eq, BucketQueue.budget?_reclaimFrom hs.queue _ hj hd]

lemma budget?_after_submit {request : SubmitRequest} {b : BucketId} {retry : Option BucketId}
    (hs : e.server.Sound) (hc : e.command = .submit request)
    (ha : e.answer = .ok (.submitted (.accepted b retry))) :
    ∃ j jq, e.server.queue.owners.find? b = some j ∧ e.server.queue.jobs.find? j = some jq ∧
      (e.after.queue.budget? j).getD 0 + 1 ≤ jq.budget ∧
      ∀ k, k ≠ j → e.after.queue.budget? k = e.server.queue.budget? k := by
  have hacc : e.Accepts request.result.bucketId := ⟨request, b, retry, hc, rfl, ha⟩
  cases e.effect hs.queue with
  | @accepted request' retry' hc' _ h ha' _ =>
    obtain rfl := Command.submit.inj (hc'.symm.trans hc)
    have he : request'.result.bucketId = b ∧ retry' = retry := by
      simpa using ha'.symm.trans ha
    rw [← he.1]
    exact BucketQueue.budget?_accept hs.queue.toRouted h
  | repeated hc' | handedOut hc' | scheduled hc' | deleted hc' | swept hc' | registered hc'
  | heard hc' | blocked hc' => cases hc'.symm.trans hc
  | none quiet _ _ _ => exact absurd hacc (quiet.accepts _)

end Event

namespace Dispatcher

lemma thrifty_run {ids : IdSource} (hids : Function.Injective ids.nth)
    (settings : DispatcherSettings) (start : Instant) (commands : List (Instant × Command)) :
    ∀ j jq, ((new settings ids start).run commands).queue.jobs.find? j = some jq →
      jq.Thrifty (JobQueue.granted
        (scheduledBuckets j ((new settings ids start).history commands))) := by
  refine (run_induction (d := new settings ids start) (P := fun past d => d.Sound ∧
    ∀ j jq, d.queue.jobs.find? j = some jq →
      jq.Thrifty (JobQueue.granted (scheduledBuckets j past)))
    ⟨sound_new hids settings start, fun j jq h => ?_⟩ ?_ commands).2
  · cases h
  · rintro past e ⟨hs, ih⟩
    refine ⟨Event.sound_after hs, fun j jq hj => ?_⟩
    rw [scheduledBuckets_cons, JobQueue.granted_append, Nat.add_comm]
    refine Event.thrifty_after hs (fun kq hk => ?_) (fun hn => ?_) hj
    · rw [if_pos (Table.contains_iff.2 ⟨kq, hk⟩)]
      exact ih j kq hk
    · rw [Table.contains_eq_isSome, hn]
      rfl

theorem retry_budget {ids : IdSource} (hids : Function.Injective ids.nth)
    (settings : DispatcherSettings) (start : Instant) (commands : List (Instant × Command)) :
    let d := (new settings ids start).run commands
    let past := (new settings ids start).history commands
    (∀ j jq, d.queue.jobs.find? j = some jq →
      jq.state.finishedBuckets + jq.budget ≤ JobQueue.granted (scheduledBuckets j past) ∧
      ∀ p ∈ jq.openBuckets, p.remainingRetries ≤ p.behavior.numberOfRetries) ∧
    (∀ now request b retry,
      (d.perform now (.submit request)).1 = .ok (.submitted (.accepted b retry)) →
      ∃ j jq, d.queue.owners.find? b = some j ∧ d.queue.jobs.find? j = some jq ∧
        ((d.perform now (.submit request)).2.queue.budget? j).getD 0 + 1 ≤ jq.budget ∧
        ∀ k, k ≠ j → (d.perform now (.submit request)).2.queue.budget? k = d.queue.budget? k) ∧
    (∀ now request j,
      (d.perform now (.fetch request)).2.queue.budget? j = d.queue.budget? j) ∧
    ∀ j jq, d.queue.jobs.find? j = some jq → jq.deleted = false →
      (∀ now, (d.perform now .sweep).2.queue.budget? j = some jq.budget) ∧
      ∀ w, (d.queue.reclaim w).2.budget? j = some jq.budget := by
  intro d past
  have hs : d.Sound := sound_run hids settings start commands
  refine ⟨fun j jq hj => ?_, fun now request b retry ha => ?_, fun now request j => ?_,
    fun j jq hj hd => ⟨fun now => ?_, fun w => ?_⟩⟩
  · have h := thrifty_run hids settings start commands j jq hj
    exact ⟨h.within, h.retries⟩
  · exact Event.budget?_after_submit (e := ⟨d, now, .submit request⟩) hs rfl ha
  · exact Event.budget?_after_fetch (e := ⟨d, now, .fetch request⟩) hs rfl j
  · exact Event.budget?_after_sweep (e := ⟨d, now, .sweep⟩) hs rfl hj hd
  · exact BucketQueue.budget?_reclaimFrom hs.queue [w] hj hd

theorem retry_budget_lostBucket :
    let d := (new plainSettings numberedIds .epoch).run lostBucket
    let past := (new plainSettings numberedIds .epoch).history lostBucket
    Function.Injective numberedIds.nth ∧ ∃ jq, d.queue.jobs.find? ⟨"j"⟩ = some jq ∧
      jq.state.finishedBuckets = 1 ∧ jq.budget = 3 ∧
      JobQueue.granted (scheduledBuckets ⟨"j"⟩ past) = 4 ∧
      jq.state.finishedBuckets + jq.budget ≤ JobQueue.granted (scheduledBuckets ⟨"j"⟩ past) := by
  intro d past
  have hids : Function.Injective numberedIds.nth := IdSource.sequential_injective "id"
  obtain ⟨jq, hj⟩ : ∃ jq, d.queue.jobs.find? ⟨"j"⟩ = some jq := ⟨_, rfl⟩
  have h := ((retry_budget hids plainSettings .epoch lostBucket).1 ⟨"j"⟩ jq hj).1
  refine ⟨hids, jq, hj, ?_, ?_, by decide, h⟩
  · obtain rfl := Option.some.inj hj
    decide
  · obtain rfl := Option.some.inj hj
    decide

end Dispatcher

end TestQueue
