import TestQueue.Proofs.BucketQueue.Budget
import TestQueue.Proofs.Depletion
import TestQueue.Proofs.Heartbeat
import TestQueue.Proofs.LateResult

/-!
Whatever has happened to the workers, one sweep and one worker are enough to finish all jobs.
-/

namespace TestQueue

open Time (Instant)

def Roster.Overdue (t : Roster) (now : Instant) : Prop :=
  ∀ r ∈ t.workers.items, r.status = .alive → ∀ heartbeat ∈ r.lastHeartbeat,
    t.policy.toleranceWindow (r.interval t.policy) < heartbeat.elapsed now

namespace Dispatcher

variable {d : Dispatcher} {now : Instant} {w : WorkerId}

lemma mem_silentIn_of_overdue (hover : d.roster.Overdue now)
    (hheard : (d.roster.record w).Heard) (hst : (d.roster.record w).status = .alive) :
    w ∈ silentIn (d.roster.sweep now).1 := by
  obtain ⟨heartbeat, hb⟩ := Option.ne_none_iff_exists'.1 (hheard hst)
  have hfind : d.roster.find? w = some (d.roster.record w) := by
    cases hf : d.roster.find? w with
    | none =>
      rw [Roster.record, hf] at hst
      cases hst
    | some r => rw [Roster.record_of_find? hf]
  have hlate := hover _ (Roster.find?_eq_some_iff.1 hfind).1 hst heartbeat hb
  rw [← Roster.fallsSilent_iff, WorkerRecord.fallsSilent, hb, Option.any_some,
    WorkerRecord.goesSilent, hst]
  simpa using hlate

section

variable (hs : d.Sound) (ha : d.Agrees) (hheard : ∀ v, (d.roster.record v).Heard)
  (hover : d.roster.Overdue now)

include hs ha hheard hover

lemma handOuts_sweep_of_overdue : (d.sweep now).2.queue.handOuts = [] := by
  apply List.eq_nil_iff_forall_not_mem.2
  intro h hh
  change h ∈ (reclaimAll d.queue (d.roster.sweep now).1).handOuts at hh
  rw [reclaimAll_eq, BucketQueue.mem_handOuts_reclaimFrom hs.queue] at hh
  exact hh.2 (mem_silentIn_of_overdue hover (hheard _) (alive_of_mem_handOuts ha hh.1))

lemma waits_sweep_of_overdue {j : JobId} {jq : JobQueue} (hj : d.queue.jobs.find? j = some jq)
    (hd : jq.deleted = false) : ∃ jq', (d.sweep now).2.queue.jobs.find? j = some jq' ∧
      ∀ h ∈ jq.handOuts, h.bucket ∈ jq'.pending := by
  have hidle := handOuts_sweep_of_overdue hs ha hheard hover
  change (reclaimAll d.queue (d.roster.sweep now).1).handOuts = [] at hidle
  change ∃ jq', (reclaimAll d.queue (d.roster.sweep now).1).jobs.find? j = some jq' ∧ _
  rw [reclaimAll_eq] at hidle ⊢
  generalize silentIn (d.roster.sweep now).1 = ws at hidle ⊢
  have hj' := BucketQueue.find?_reclaimFrom_of_not_deleted hs.queue hj hd ws
  have hnone : (jq.reclaimFrom ws).handOuts = [] :=
    List.flatMap_eq_nil_iff.1 hidle _ (Table.mem_values_iff.2 ⟨j, hj'⟩)
  refine ⟨jq.reclaimFrom ws, hj', fun h hh => ?_⟩
  have hopen := (JobQueue.openBuckets_reclaimFrom hd ws).symm.subset
    (JobQueue.mem_openBuckets_of_handOut hh)
  rwa [JobQueue.openBuckets, hnone, List.map_nil, List.append_nil] at hopen

end

end Dispatcher

/-- A fetch, and then a result that names the bucket received and only tests of it. -/
structure Turn where
  requestId : RequestId
  fetchedAt : Instant
  submittedAt : Instant
  report : Bucket → BucketResult
  names : ∀ p, (report p).bucketId = p.bucketId
  within : ∀ p, ∀ t ∈ (report p).tests, t ∈ p.tests

def Turn.Succeeds (t : Turn) (w : WorkerId) (d d' : Dispatcher) : Prop :=
  ∃ p retry fetched,
    d.perform t.fetchedAt (.fetch ⟨w, t.requestId, d.signature⟩) =
      (.ok (.fetched (.bucket p)), fetched) ∧
    fetched.perform t.submittedAt (.submit ⟨w, t.requestId, d.signature, t.report p⟩) =
      (.ok (.submitted (.accepted p.bucketId retry)), d')

namespace Dispatcher

variable {d : Dispatcher} {w : WorkerId} {r : RequestId} {p : Bucket}

structure Ready (d : Dispatcher) (w : WorkerId) : Prop where
  sound : d.Sound
  ranked : d.queue.Ranked
  eligible : d.roster.eligibility w = .eligible
  idle : d.queue.handOuts = []

structure Working (d : Dispatcher) (w : WorkerId) (r : RequestId) (p : Bucket) : Prop where
  sound : d.Sound
  ranked : d.queue.Ranked
  eligible : d.roster.eligibility w = .eligible
  holds : d.queue.Holds p w r
  only : ∀ h ∈ d.queue.handOuts, h.bucket = p

lemma Ready.fetch (h : d.Ready w) (hn : d.isDepleted = false) (r : RequestId) (now : Instant) :
    ∃ p d', d.perform now (.fetch ⟨w, r, d.signature⟩) = (.ok (.fetched (.bucket p)), d') ∧
      d'.Working w r p ∧ d'.queue.budget = d.queue.budget ∧ d'.signature = d.signature := by
  have hd := h.ranked.decision w r now
  generalize hout : d.queue.dequeue w r now = out at hd
  cases hd with
  | again hm _ =>
    rw [h.idle] at hm
    cases hm
  | @front j jq p rest _ hf hp =>
    let e : Event := ⟨d, now, .fetch ⟨w, r, d.signature⟩⟩
    have hout' : (d.indicateActivity now).queue.dequeue w r now = _ := hout
    have hperf := perform_fetch ⟨w, r, d.signature⟩ rfl h.eligible now
    simp only [handOut, hout', answering, Except.map] at hperf
    have hans : e.answer = .ok (.fetched (.bucket p)) := by rw [Event.answer, hperf]
    have hqueue : e.after.queue = d.queue.put j (jq.afterHandOut rest ⟨p, w, r, now⟩) := by
      rw [Event.after, hperf]
    have hroster : e.after.roster = d.roster.didDequeue w p.bucketId := by
      rw [Event.after, hperf]
      rfl
    have hsig : e.after.signature = d.signature := by
      rw [Event.after, hperf]
      rfl
    refine ⟨p, e.after, Prod.ext hans rfl, ?_, ?_, hsig⟩
    · refine ⟨Event.sound_after h.sound, Event.ranked_after h.sound h.ranked, ?_,
        Event.holds_of_delivers h.sound ⟨_, rfl, rfl, rfl, hans⟩, fun k hk => ?_⟩
      · obtain ⟨hst, hb⟩ := Roster.eligibility_eq_eligible.1 h.eligible
        rw [Roster.eligibility_eq_eligible, hroster,
          Roster.record_didDequeue (Roster.isKnown_of_eligible h.eligible), if_pos rfl]
        exact ⟨hst, hb⟩
      · rw [hqueue, BucketQueue.mem_handOuts_put_handOut h.sound.queue.toRouted hf.present hp,
          h.idle] at hk
        rcases hk with rfl | hk
        · rfl
        · cases hk
    · rw [hqueue]
      exact BucketQueue.budget_congr
        (BucketQueue.budget?_put_handOut h.sound.queue.toRouted hf.present hp)
  | later _ _ ho => exact absurd h.idle ho
  | exhausted hi ho =>
    rw [isDepleted, ← Bool.not_eq_true, BucketQueue.isDepleted_iff] at hn
    exact absurd ⟨hi, ho⟩ hn

lemma Working.submit (h : d.Working w r p) {result : BucketResult}
    (hid : result.bucketId = p.bucketId) (ht : ∀ t ∈ result.tests, t ∈ p.tests) (now : Instant) :
    ∃ retry d', d.perform now (.submit ⟨w, r, d.signature, result⟩) =
        (.ok (.submitted (.accepted p.bucketId retry)), d') ∧
      d'.Ready w ∧ d'.queue.budget + 1 ≤ d.queue.budget := by
  obtain ⟨retry, queue, ids, ha⟩ :=
    BucketQueue.accept_of_holds h.sound.queue.toRouted h.holds hid ht
  have hk := Roster.isKnown_of_eligible h.eligible
  have hperf := perform_submit ⟨w, r, d.signature, result⟩ rfl hk ha now
  let e : Event := ⟨d, now, .submit ⟨w, r, d.signature, result⟩⟩
  have hqueue : e.after.queue = queue := by rw [Event.after, hperf]
  have hroster : e.after.roster = d.roster.didFinish w p.bucketId := by rw [Event.after, hperf]
  refine ⟨retry, e.after, Prod.ext (by rw [hperf]) rfl, ?_, ?_⟩
  · refine ⟨Event.sound_after h.sound, Event.ranked_after h.sound h.ranked, ?_, ?_⟩
    · obtain ⟨hst, hb⟩ := Roster.eligibility_eq_eligible.1 h.eligible
      rw [Roster.eligibility_eq_eligible, hroster, Roster.record_didFinish hk, if_pos rfl]
      exact ⟨hst, hb⟩
    · apply List.eq_nil_iff_forall_not_mem.2
      intro k hk'
      rw [hqueue, BucketQueue.mem_handOuts_accept h.sound.queue.toRouted ha] at hk'
      exact hk'.2 (by rw [h.only k hk'.1, hid])
  · obtain ⟨j, jq, -, hj, hle, hother⟩ := BucketQueue.budget?_accept h.sound.queue.toRouted ha
    have hsum := BucketQueue.budget_add_of_agree hother
    rw [BucketQueue.budget?, hj, Option.map_some, Option.getD_some] at hsum
    rw [hqueue]
    omega

lemma Ready.turn (h : d.Ready w) (hn : d.isDepleted = false) (t : Turn) :
    ∃ d', t.Succeeds w d d' ∧ d'.Ready w ∧ d'.queue.budget + 1 ≤ d.queue.budget := by
  obtain ⟨p, fetched, hf, hw, hb, hsig⟩ := h.fetch hn t.requestId t.fetchedAt
  obtain ⟨retry, d', ha, hr, hlt⟩ := hw.submit (t.names p) (t.within p) t.submittedAt
  rw [hsig] at ha
  exact ⟨d', ⟨p, retry, fetched, hf, ha⟩, hr, hb ▸ hlt⟩

lemma Ready.drain (h : d.Ready w) (turns : ℕ → Turn) : ∃ n ≤ d.queue.budget, ∃ s : ℕ → Dispatcher,
    s 0 = d ∧ (∀ i < n, (turns i).Succeeds w (s i) (s (i + 1))) ∧ (s n).isDepleted = true := by
  -- every turn lowers the budget, so there are no more turns than that
  induction hn : d.queue.budget using Nat.strong_induction_on generalizing d turns with
  | _ n ih =>
    subst hn
    cases hd : d.isDepleted with
    | true => exact ⟨0, Nat.zero_le _, fun _ => d, rfl, fun i hi => absurd hi (Nat.not_lt_zero i), hd⟩
    | false =>
      obtain ⟨d', ht, hr, hlt⟩ := h.turn hd (turns 0)
      obtain ⟨m, hm, s, h0, hs, he⟩ := ih _ hlt hr (fun i => turns (i + 1)) rfl
      refine ⟨m + 1, (Nat.succ_le_succ hm).trans hlt, fun i => Nat.casesOn i d s, rfl, ?_, he⟩
      rintro (_ | i) hi
      · change (turns 0).Succeeds w d (s 0)
        rw [h0]
        exact ht
      · exact hs i (Nat.lt_of_succ_lt_succ hi)

lemma perform_register {declared : Option WorkerConfiguration} {c : WorkerConfiguration}
    (hadm : d.admission w declared = .ok c) (now : Instant) :
    d.perform now (.register w declared) = (.ok (.registered c),
      { d.indicateActivity now with roster := d.roster.register w c now }) := by
  simp only [perform, answering, registerWorker, hadm, Except.map]
  rfl

lemma ready_of_register {declared : Option WorkerConfiguration} {c : WorkerConfiguration}
    (hs : d.Sound) (hq : d.queue.Ranked) (hidle : d.queue.handOuts = [])
    (hadm : d.admission w declared = .ok c) (hb : (d.roster.record w).blocked = false)
    (now : Instant) : (d.perform now (.register w declared)).2.Ready w := by
  let e : Event := ⟨d, now, .register w declared⟩
  have hperf := perform_register hadm now
  have hqueue : e.after.queue = d.queue := by
    rw [Event.after, hperf]
    rfl
  have hroster : e.after.roster = d.roster.register w c now := by rw [Event.after, hperf]
  refine ⟨Event.sound_after (e := e) hs, Event.ranked_after (e := e) hs hq, ?_, ?_⟩
  · change e.after.roster.eligibility w = .eligible
    rw [Roster.eligibility_eq_eligible, hroster, Roster.record_register, if_pos rfl]
    exact ⟨rfl, hb⟩
  · change e.after.queue.handOuts = []
    rw [hqueue, hidle]

theorem drained_after_silence {ids : IdSource} (hids : Function.Injective ids.nth)
    (settings : DispatcherSettings) (start : Instant) (commands : List (Instant × Command)) :
    let d := (new settings ids start).run commands
    ∀ now, d.roster.Overdue now →
      let swept := (d.perform now .sweep).2
      (∀ j jq, swept.queue.jobs.find? j = some jq → jq.handOuts = [] ∧ jq.deleted = false) ∧
      (∀ j jq, d.queue.jobs.find? j = some jq → jq.deleted = false →
        ∃ jq', swept.queue.jobs.find? j = some jq' ∧ ∀ h ∈ jq.handOuts, h.bucket ∈ jq'.pending) ∧
      ∀ later w declared c, swept.admission w declared = .ok c →
        (swept.roster.record w).blocked = false →
        ∃ registered, swept.perform later (.register w declared) = (.ok (.registered c), registered) ∧
          ∀ turns : ℕ → Turn,
            ∃ n ≤ ((swept.queue.jobs.values.flatMap JobQueue.pending).map Bucket.attempts).sum,
              ∃ s : ℕ → Dispatcher, s 0 = registered ∧
                (∀ i < n, (turns i).Succeeds w (s i) (s (i + 1))) ∧ (s n).isDepleted = true ∧
                ∀ j state, (s n).jobState j = .ok state → state.isCompleted = true := by
  intro d now hover swept
  have hs : d.Sound := sound_run hids settings start commands
  have ha : d.Agrees := agrees_run hids settings start commands
  have hheard := records_run WorkerRecord.kept_heard hids settings start commands
  have hidle : swept.queue.handOuts = [] := handOuts_sweep_of_overdue hs ha hheard hover
  have hs' : swept.Sound := Event.sound_after (e := ⟨d, now, .sweep⟩) hs
  have hq' : swept.queue.Ranked := Event.ranked_after (e := ⟨d, now, .sweep⟩) hs
    (ranked_run hids settings start commands)
  refine ⟨fun j jq hj => ?_, fun j jq hj hd => waits_sweep_of_overdue hs ha hheard hover hj hd,
    fun later w declared c hadm hb => ?_⟩
  · have hnone := List.flatMap_eq_nil_iff.1 hidle jq (Table.mem_values_iff.2 ⟨j, hj⟩)
    refine ⟨hnone, ?_⟩
    rw [← Bool.not_eq_true]
    exact fun hd => hs'.queue.out_of_deleted hj hd hnone
  · have hready := ready_of_register hs' hq' hidle hadm hb later
    refine ⟨_, Prod.ext (by rw [perform_register hadm]) rfl, fun turns => ?_⟩
    obtain ⟨n, hn, s, h0, hsucc, hdep⟩ := hready.drain turns
    rw [perform_register hadm] at hn
    refine ⟨n, ?_, s, h0, hsucc, hdep, fun j state => isCompleted_of_isDepleted hdep⟩
    rw [← BucketQueue.budget_of_idle hidle]
    exact hn

def losing (i : ℕ) : Turn where
  requestId := ⟨"t-" ++ toString i⟩
  fetchedAt := overdue
  submittedAt := overdue
  report p := ⟨p.bucketId, []⟩
  names _ := rfl
  within _ _ ht := by cases ht

theorem drained_after_silence_lostBucket :
    let d := (new plainSettings numberedIds .epoch).run lostBucket
    let swept := (d.perform overdue .sweep).2
    Function.Injective numberedIds.nth ∧ d.roster.Overdue overdue ∧
      (∃ c, swept.admission ⟨"w"⟩ none = .ok c) ∧ (swept.roster.record ⟨"w"⟩).blocked = false ∧
      ∃ n ≤ 3, ∃ s : ℕ → Dispatcher,
        s 0 = (swept.perform overdue (.register ⟨"w"⟩ none)).2 ∧
        (∀ i < n, (losing i).Succeeds ⟨"w"⟩ (s i) (s (i + 1))) ∧ (s n).isDepleted = true := by
  intro d swept
  have hids : Function.Injective numberedIds.nth := IdSource.sequential_injective "id"
  have hover : d.roster.Overdue overdue := by
    unfold Roster.Overdue
    decide +kernel
  obtain ⟨c, hadm⟩ : ∃ c, swept.admission ⟨"w"⟩ none = .ok c := ⟨_, rfl⟩
  have hb : (swept.roster.record ⟨"w"⟩).blocked = false := by decide +kernel
  obtain ⟨-, -, h⟩ := drained_after_silence hids plainSettings .epoch lostBucket overdue hover
  obtain ⟨registered, hreg, hturns⟩ := h overdue ⟨"w"⟩ none c hadm hb
  obtain ⟨n, hn, s, h0, hs, hd, -⟩ := hturns losing
  have hsum : ((swept.queue.jobs.values.flatMap JobQueue.pending).map Bucket.attempts).sum = 3 := by
    decide +kernel
  refine ⟨hids, hover, ⟨c, hadm⟩, hb, n, hsum ▸ hn, s, ?_, hs, hd⟩
  rw [h0, hreg]

end Dispatcher

end TestQueue
