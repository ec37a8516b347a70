import TestQueue.Proofs.JobQueue.Attempts
import TestQueue.Proofs.Location

/-!
A test is tried again as often as its job allows and no more, however often its buckets split, are
taken back and are handed out again.
-/

namespace TestQueue

open Time (Instant)

/-- The job was created by this request. Since then nothing was scheduled for it, and it was not
deleted. -/
def CreatedBy (past : List Event) (j : JobId) (request : ScheduleRequest) : Prop :=
  Since (fun e => (∀ r, ¬ e.Schedules j r) ∧ ¬ e.Deletes j)
    (fun e => e.Schedules j request ∧ e.server.queue.jobs.find? j = none) past

lemma CreatedBy.opened {past : List Event} {j : JobId} {request : ScheduleRequest}
    (h : CreatedBy past j request) : Opened past j := by
  obtain ⟨later, e, earlier, rfl, ⟨hsch, -⟩, hkept⟩ := h
  exact ⟨later, e, earlier, rfl, ⟨request, hsch⟩, fun x hx => (hkept x hx).2⟩

lemma splitIntoBuckets?_remaining {tests : List TestEntry} {workers : UInt32}
    {strategy : SplitStrategy} {template : BucketTemplate} {ids ids' : IdSource}
    {buckets : List Bucket}
    (h : splitIntoBuckets? tests workers strategy template ids = some (buckets, ids')) {p : Bucket}
    (hp : p ∈ buckets) : p.remainingRetries = template.behavior.numberOfRetries := by
  obtain ⟨groups, -, rfl, -⟩ := splitIntoBuckets?_eq_map_zip h
  obtain ⟨g, -, rfl⟩ := List.mem_map.1 hp
  rfl

namespace Event

def ListsOnce (e : Event) : Prop := ∀ request b retry, e.command = .submit request →
  e.answer = .ok (.submitted (.accepted b retry)) → request.result.tests.Nodup

variable {e : Event} {j : JobId} {jq : JobQueue} {past : List Event} {request : ScheduleRequest}

lemma tried_of_created (hs : e.server.Sound) (hn : request.tests.Nodup)
    (hsch : e.Schedules j request) (hnew : e.server.queue.jobs.find? j = none)
    (hj : e.after.queue.jobs.find? j = some jq) :
    jq.Tried request.behavior.numberOfRetries.toNat := by
  have hc : e.command = .schedule request := by
    obtain ⟨_, hc, -⟩ := hsch
    exact hc
  cases e.jobEffect hs j with
  | kept _ hno _ _ => exact absurd hsch (hno request)
  | @scheduled request' buckets hsch' hsp _ hafter _ =>
    obtain ⟨_, hc', -⟩ := hsch'
    obtain rfl := Command.schedule.inj (hc.symm.trans hc')
    rw [BucketQueue.jobOr, hnew] at hafter
    obtain rfl := Option.some.inj (hj.symm.trans hafter)
    refine JobQueue.tried_enqueue _ ?_ fun p hp => ?_
    · rwa [splitIntoBuckets?_tests hsp]
    · rw [splitIntoBuckets?_remaining hsp hp]
      rfl
  | handedOut _ hb _ _ => cases hnew.symm.trans hb
  | recorded _ _ hb => cases hnew.symm.trans hb
  | reclaimed _ hb => cases hnew.symm.trans hb
  | deleted _ hb => cases hnew.symm.trans hb

lemma tried_of_kept {retries : ℕ} (hs : e.server.Sound) (honce : e.ListsOnce)
    (hsch : ∀ r, ¬ e.Schedules j r)
    (ih : ∀ kq, e.server.queue.jobs.find? j = some kq → kq.deleted = false → kq.Tried retries)
    (hj : e.after.queue.jobs.find? j = some jq) (hd : jq.deleted = false) : jq.Tried retries := by
  cases e.jobEffect hs j with
  | kept hafter _ _ _ => exact ih jq (hafter ▸ hj) hd
  | @scheduled request' _ h _ _ _ _ => exact absurd h (hsch request')
  | @handedOut kq h rest _ hb hp hafter =>
    obtain rfl := Option.some.inj (hj.symm.trans hafter)
    exact (ih kq hb hd).move rfl (JobQueue.openBuckets_afterHandOut (hs.queue.jobs j kq hb) hp)
  | @recorded kq h request residual hc ha hb hout _ hid ht hr hafter _ =>
    obtain rfl := of_leavesJob hafter hj
    subst hr
    exact (ih kq hb hd).afterRecord (hs.queue.jobs j kq hb) hout hid ht (honce _ _ _ hc ha) hd
  | @reclaimed kq ws _ hb hafter =>
    obtain rfl := of_leavesJob hafter hj
    rw [JobQueue.deleted_reclaimFrom] at hd
    exact (ih kq hb hd).move (JobQueue.finished_reclaimFrom kq ws)
      (JobQueue.openBuckets_reclaimFrom hd ws)
  | deleted _ _ hafter =>
    obtain rfl := of_leavesJob hafter hj
    cases hd

end Event

namespace Dispatcher

lemma tried_run {ids : IdSource} (hids : Function.Injective ids.nth)
    (settings : DispatcherSettings) (start : Instant) (commands : List (Instant × Command))
    {request : ScheduleRequest} (hn : request.tests.Nodup)
    (honce : ∀ e ∈ (new settings ids start).history commands, e.ListsOnce) (j : JobId) :
    CreatedBy ((new settings ids start).history commands) j request →
    ∀ jq, ((new settings ids start).run commands).queue.jobs.find? j = some jq →
      jq.deleted = false → jq.Tried request.behavior.numberOfRetries.toNat := by
  refine (run_induction (d := new settings ids start) (P := fun past d => d.Sound ∧
    ((∀ e ∈ past, e.ListsOnce) → CreatedBy past j request →
      ∀ jq, d.queue.jobs.find? j = some jq → jq.deleted = false →
        jq.Tried request.behavior.numberOfRetries.toNat))
    ⟨sound_new hids settings start, fun _ h => absurd h (not_since_nil _ _)⟩ ?_ commands).2 honce
  rintro past e ⟨hs, ih⟩
  refine ⟨Event.sound_after hs, fun honce hc jq hj hd => ?_⟩
  obtain ⟨he, hpast⟩ := List.forall_mem_cons.1 honce
  rcases since_cons.1 hc with ⟨hsch, hnew⟩ | ⟨⟨hsch, -⟩, hc⟩
  · exact Event.tried_of_created hs hn hsch hnew hj
  · exact Event.tried_of_kept hs he hsch (ih hpast hc) hj hd

theorem attempts_exact {ids : IdSource} (hids : Function.Injective ids.nth)
    (settings : DispatcherSettings) (start : Instant) (commands : List (Instant × Command))
    (j : JobId) (request : ScheduleRequest) (hn : request.tests.Nodup) :
    let d := (new settings ids start).run commands
    let past := (new settings ids start).history commands
    let retries := request.behavior.numberOfRetries.toNat
    (∀ e ∈ past, e.ListsOnce) → CreatedBy past j request →
      ∃ jq results, d.queue.jobs.find? j = some jq ∧ d.jobResults j = .ok results ∧
        ∀ s ∈ results.tests, 1 ≤ s.attempts ∧ s.attempts ≤ retries + 1 ∧
          (s.status = .permanentlyFailed → s.attempts = retries + 1) ∧
          (s.status = .retrying → s.attempts ≤ retries ∧
            ∃ p, (jq.pending ++ jq.handOuts.map HandOut.bucket).filter (s.test ∈ ·.tests) = [p] ∧
              p.remainingRetries.toNat = retries - s.attempts) ∧
          (s.status = .passed →
            ∀ p ∈ jq.pending ++ jq.handOuts.map HandOut.bucket, s.test ∉ p.tests) := by
  intro d past retries honce hc
  obtain ⟨jq, hj, hd⟩ := ((accounts_run hids settings start commands).opened j).1 hc.opened
  have hq : jq.Tried retries := tried_run hids settings start commands hn honce j hc jq hj hd
  refine ⟨jq, jq.results, hj, ?_, fun s hs => ⟨JobQueue.attempts_pos hs, hq.attempts_le hs,
    hq.attempts_of_permanentlyFailed hs, hq.bucket_of_retrying hs, hq.not_open_of_passed hs⟩⟩
  rw [jobResults, BucketQueue.results, BucketQueue.job?]
  simp only [d, hj]
  rfl

def threeTests : ScheduleRequest :=
  ⟨⟨"j"⟩, 1, [⟨"C", "x", none⟩, ⟨"C", "y", none⟩, ⟨"C", "z", none⟩], .individual, none, .empty,
    ⟨1, .empty⟩, .standard, .empty⟩

def lostTests : List (Instant × Command) :=
  [(.epoch, .register ⟨"w"⟩ none), (.epoch, .schedule threeTests),
    (.epoch, .fetch ⟨⟨"w"⟩, ⟨"r"⟩, ⟨"id-1"⟩⟩),
    (.epoch, .submit ⟨⟨"w"⟩, ⟨"r"⟩, ⟨"id-1"⟩, ⟨⟨"id-2"⟩, []⟩⟩),
    (.epoch, .fetch ⟨⟨"w"⟩, ⟨"s"⟩, ⟨"id-1"⟩⟩),
    (.epoch, .submit ⟨⟨"w"⟩, ⟨"s"⟩, ⟨"id-1"⟩, ⟨⟨"id-3"⟩,
      [⟨⟨"C", "y", none⟩, [⟨true, 0, [], "", .epoch⟩]⟩]⟩⟩),
    (.epoch, .fetch ⟨⟨"w"⟩, ⟨"t"⟩, ⟨"id-1"⟩⟩),
    (.epoch, .submit ⟨⟨"w"⟩, ⟨"t"⟩, ⟨"id-1"⟩, ⟨⟨"id-4"⟩, []⟩⟩),
    (.epoch, .fetch ⟨⟨"w"⟩, ⟨"u"⟩, ⟨"id-1"⟩⟩),
    (.epoch, .submit ⟨⟨"w"⟩, ⟨"u"⟩, ⟨"id-1"⟩, ⟨⟨"id-5"⟩, []⟩⟩)]

theorem attempts_exact_lostTests :
    let d := (new plainSettings numberedIds .epoch).run lostTests
    let past := (new plainSettings numberedIds .epoch).history lostTests
    Function.Injective numberedIds.nth ∧ threeTests.tests.Nodup ∧ (∀ e ∈ past, e.ListsOnce) ∧
      CreatedBy past ⟨"j"⟩ threeTests ∧ ∃ jq results, d.queue.jobs.find? ⟨"j"⟩ = some jq ∧
        d.jobResults ⟨"j"⟩ = .ok results ∧
        results.tests = [⟨⟨"C", "x", none⟩, .permanentlyFailed, 2⟩, ⟨⟨"C", "y", none⟩, .passed, 1⟩,
          ⟨⟨"C", "z", none⟩, .retrying, 1⟩] ∧
        ∃ p, (jq.pending ++ jq.handOuts.map HandOut.bucket).filter
          (⟨"C", "z", none⟩ ∈ ·.tests) = [p] ∧ p.remainingRetries.toNat = 0 := by
  intro d past
  have hids : Function.Injective numberedIds.nth := IdSource.sequential_injective "id"
  have hn : threeTests.tests.Nodup := by decide
  have honce : ∀ e ∈ past, e.ListsOnce := by
    have hall : ∀ c ∈ lostTests, ∀ request, c.2 = .submit request →
        request.result.tests.Nodup := by
      simp [lostTests, BucketResult.tests]
    exact fun e he request _ _ hc _ => hall _ (mem_of_mem_history he) request hc
  have hlater : ∀ c ∈ lostTests.drop 2, (∀ s, c.2 ≠ .schedule s) ∧ c.2 ≠ .deleteJob ⟨"j"⟩ := by
    simp [lostTests]
  have hc : CreatedBy past ⟨"j"⟩ threeTests := by
    refine ⟨((new plainSettings numberedIds .epoch).run (lostTests.take 2)).history
      (lostTests.drop 2), ⟨(new plainSettings numberedIds .epoch).run (lostTests.take 1), .epoch,
      .schedule threeTests⟩, (new plainSettings numberedIds .epoch).history (lostTests.take 1), rfl,
      ⟨⟨_, rfl, rfl, rfl⟩, rfl⟩, fun x hx => ?_⟩
    obtain ⟨hsch, hdel⟩ := hlater _ (mem_of_mem_history hx)
    exact ⟨fun _ => Event.not_schedules hsch, Event.not_deletes hdel⟩
  obtain ⟨jq, results, hj, hr, hall⟩ :=
    attempts_exact hids plainSettings .epoch lostTests ⟨"j"⟩ threeTests hn honce hc
  have hresults : results.tests = [⟨⟨"C", "x", none⟩, .permanentlyFailed, 2⟩,
      ⟨⟨"C", "y", none⟩, .passed, 1⟩, ⟨⟨"C", "z", none⟩, .retrying, 1⟩] := by
    obtain rfl := Except.ok.inj hr
    decide
  refine ⟨hids, hn, honce, hc, jq, results, hj, hr, hresults, ?_⟩
  exact ((hall ⟨⟨"C", "z", none⟩, .retrying, 1⟩ (by simp [hresults])).2.2.2.1 rfl).2

end Dispatcher

end TestQueue
