import TestQueue.Proofs.JobQueue.Summaries
import TestQueue.Proofs.Location

namespace TestQueue

open Time (Instant)

def Scheduled (past : List Event) (j : JobId) (t : TestEntry) : Prop :=
  ∃ e ∈ sinceCreated j past, ∃ request, e.Schedules j request ∧ t ∈ request.tests

lemma scheduled_cons {e : Event} {past : List Event} {j : JobId} {t : TestEntry} :
    Scheduled (e :: past) j t ↔ (∃ request, e.Schedules j request ∧ t ∈ request.tests) ∨
      e.server.queue.jobs.contains j = true ∧ Scheduled past j t := by
  unfold Scheduled
  rw [sinceCreated, List.exists_mem_cons_iff]
  cases hc : e.server.queue.jobs.contains j <;> simp

namespace Event

variable {e : Event} {j : JobId} {jq : JobQueue} {past : List Event}

lemma mentions_after (hs : e.server.Sound) (ih : ∀ kq, e.server.queue.jobs.find? j = some kq →
      kq.deleted = false → ∀ t, kq.Mentions t ↔ Scheduled past j t)
    (hj : e.after.queue.jobs.find? j = some jq) (hd : jq.deleted = false) (t : TestEntry) :
    jq.Mentions t ↔ Scheduled (e :: past) j t := by
  rw [scheduled_cons]
  have step {kq : JobQueue} (hb : e.server.queue.jobs.find? j = some kq)
      (hk : kq.deleted = false) (hsch : ∀ request, ¬ e.Schedules j request)
      (hm : jq.Mentions t ↔ kq.Mentions t) :
      jq.Mentions t ↔ (∃ request, e.Schedules j request ∧ t ∈ request.tests) ∨
        e.server.queue.jobs.contains j = true ∧ Scheduled past j t := by
    have hc : e.server.queue.jobs.contains j = true := Table.contains_iff.2 ⟨kq, hb⟩
    rw [hm, ih kq hb hk]
    simp [hsch, hc]
  cases e.jobEffect hs j with
  | kept hafter hsch _ _ => exact step (hafter ▸ hj) hd hsch Iff.rfl
  | @scheduled request buckets hsch hsp hk hafter _ =>
    obtain rfl := Option.some.inj (hj.symm.trans hafter)
    have hreq : (∃ r, e.Schedules j r ∧ t ∈ r.tests) ↔ t ∈ request.tests := by
      constructor
      · rintro ⟨r, ⟨_, hc, -⟩, ht⟩
        obtain ⟨_, hc', -⟩ := hsch
        rwa [Command.schedule.inj (hc'.symm.trans hc)]
      · exact fun ht => ⟨request, hsch, ht⟩
    rw [JobQueue.mentions_enqueue, splitIntoBuckets?_tests hsp, hreq, or_comm]
    apply or_congr_right
    cases hb : e.server.queue.jobs.find? j with
    | none =>
      rw [Table.contains_eq_isSome, hb, BucketQueue.jobOr, hb]
      simp [JobQueue.not_mentions_new]
    | some kq =>
      rw [BucketQueue.jobOr, hb] at hk ⊢
      rw [Table.contains_eq_isSome, hb]
      simpa using ih kq hb hk t
  | @handedOut kq h rest hh hb hp hafter =>
    obtain rfl := Option.some.inj (hj.symm.trans hafter)
    exact step hb hd (not_schedules_of_handsOut hh j) (JobQueue.mentions_of_perm
      (JobQueue.openBuckets_afterHandOut (hs.queue.jobs j kq hb) hp) rfl t)
  | @recorded kq h request residual hc _ hb hout _ hid ht hr hafter _ =>
    obtain rfl := of_leavesJob hafter hj
    refine step hb hd (fun _ => not_schedules (by simp [hc])) ?_
    rw [hr]
    exact JobQueue.mentions_afterRecord (hs.queue.jobs j kq hb) hout hid ht t
  | @reclaimed kq ws hc hb hafter =>
    obtain rfl := of_leavesJob hafter hj
    rw [JobQueue.deleted_reclaimFrom] at hd
    exact step hb hd (fun _ => not_schedules (by simp [hc])) (JobQueue.mentions_of_perm
      (JobQueue.openBuckets_reclaimFrom hd ws) (JobQueue.finished_reclaimFrom kq ws) t)
  | deleted _ _ hafter =>
    obtain rfl := of_leavesJob hafter hj
    cases hd

end Event

namespace Dispatcher

lemma mentions_run {ids : IdSource} (hids : Function.Injective ids.nth)
    (settings : DispatcherSettings) (start : Instant) (commands : List (Instant × Command)) :
    ∀ j jq, ((new settings ids start).run commands).queue.jobs.find? j = some jq →
      jq.deleted = false → ∀ t, jq.Mentions t ↔
        Scheduled ((new settings ids start).history commands) j t := by
  refine (run_induction (d := new settings ids start) (P := fun past d => d.Sound ∧
    ∀ j jq, d.queue.jobs.find? j = some jq → jq.deleted = false →
      ∀ t, jq.Mentions t ↔ Scheduled past j t)
    ⟨sound_new hids settings start, fun j jq h => ?_⟩ ?_ commands).2
  · cases h
  · rintro past e ⟨hs, ih⟩
    exact ⟨Event.sound_after hs, fun j jq hj hd => Event.mentions_after hs (ih j) hj hd⟩

theorem tests_conserved {ids : IdSource} (hids : Function.Injective ids.nth)
    (settings : DispatcherSettings) (start : Instant) (commands : List (Instant × Command))
    (j : JobId) :
    let d := (new settings ids start).run commands
    let past := (new settings ids start).history commands
    Opened past j →
      (∃ jq, d.queue.jobs.find? j = some jq ∧ ∀ t, Scheduled past j t ↔
        (∃ p ∈ jq.pending, t ∈ p.tests) ∨ (∃ h ∈ jq.handOuts, t ∈ h.bucket.tests) ∨
          ∃ result ∈ jq.finished, t ∈ result.tests) ∧
      ∃ state, d.jobState j = .ok state ∧ (state.isCompleted = true →
        ∃ results, d.jobResults j = .ok results ∧
          (results.tests.map TestSummary.test).Nodup ∧
          (∀ t, t ∈ results.tests.map TestSummary.test ↔ Scheduled past j t) ∧
          ∀ s ∈ results.tests, s.status = .passed ∨ s.status = .permanentlyFailed) := by
  intro d past hopen
  obtain ⟨jq, hj, hd⟩ := ((accounts_run hids settings start commands).opened j).1 hopen
  have hm := mentions_run hids settings start commands j jq hj hd
  have hjob : d.queue.job? j = .ok jq := by
    rw [BucketQueue.job?]
    simp only [d, hj]
  refine ⟨⟨jq, hj, fun t => (hm t).symm.trans JobQueue.mentions_iff⟩, jq.state, ?_, fun hc => ?_⟩
  · rw [jobState, BucketQueue.state, hjob]
    rfl
  · refine ⟨jq.results, ?_, jq.nodup_tests_summaries, fun t => ?_, fun s hs => ?_⟩
    · rw [jobResults, BucketQueue.results, hjob]
      rfl
    · obtain ⟨hp, hh⟩ := JobQueue.isDrained_iff.1 hc
      refine JobQueue.mem_tests_summaries.trans (Iff.trans ?_ (hm t))
      rw [JobQueue.mentions_iff, hp, hh]
      simp
    · have hst := JobQueue.status_summaries hc s hs
      cases h : s.status with
      | passed => exact Or.inl rfl
      | permanentlyFailed => exact Or.inr rfl
      | retrying => exact absurd h hst

theorem tests_conserved_finishedJob :
    let d := (new plainSettings numberedIds .epoch).run finishedJob
    let past := (new plainSettings numberedIds .epoch).history finishedJob
    Function.Injective numberedIds.nth ∧ Opened past ⟨"j"⟩ ∧
      ∃ results, d.jobResults ⟨"j"⟩ = .ok results ∧
        (results.tests.map fun s => (s.test.methodName, s.status)) =
          [("x", .permanentlyFailed), ("y", .passed)] ∧
        ∀ t, t ∈ results.tests.map TestSummary.test ↔ Scheduled past ⟨"j"⟩ t := by
  intro d past
  have hids : Function.Injective numberedIds.nth := IdSource.sequential_injective "id"
  have hopen : Opened past ⟨"j"⟩ :=
    ((accounts_run hids plainSettings .epoch finishedJob).opened ⟨"j"⟩).2 ⟨_, rfl, rfl⟩
  obtain ⟨-, state, hst, h⟩ :=
    tests_conserved hids plainSettings .epoch finishedJob ⟨"j"⟩ hopen
  obtain rfl := Except.ok.inj hst
  obtain ⟨results, hr, -, ht, -⟩ := h (by decide)
  refine ⟨hids, hopen, results, hr, ?_, ht⟩
  obtain rfl := Except.ok.inj hr
  decide

end Dispatcher

end TestQueue
