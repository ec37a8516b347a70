import TestQueue.Proofs.Agreement
import TestQueue.Proofs.BucketQueue.Rearrangement
import TestQueue.Proofs.Delivery
import TestQueue.Proofs.JobQueue.Summaries
import TestQueue.Proofs.Refusal

/-!
When nothing is waiting or out, nothing comes back, until tests are scheduled that make a bucket.
-/

namespace TestQueue

open Time (Instant)

lemma JobQueue.isDrained_iff_open {q : JobQueue} : q.isDrained = true ↔ q.openBuckets = [] := by
  rw [isDrained_iff, openBuckets, List.append_eq_nil_iff, List.map_eq_nil_iff]

namespace BucketQueue

lemma isDepleted_iff_open {q : BucketQueue} : q.isDepleted = true ↔
    ∀ j jq, q.jobs.find? j = some jq → jq.openBuckets = [] := by
  simp only [isDepleted, List.all_eq_true, Table.mem_values_iff, JobQueue.isDrained_iff_open]
  constructor
  · exact fun h j jq hj => h jq ⟨j, hj⟩
  · rintro h jq ⟨j, hj⟩
    exact h j jq hj

end BucketQueue

namespace Event

variable {e : Event}

def addsBuckets (e : Event) : Bool :=
  match e.answer with
  | .ok (.scheduled answer) => answer.bucketCount ≠ 0
  | _ => false

lemma refused_of_not_accepts {request : SubmitRequest} (hc : e.command = .submit request)
    (h : ∀ b, ¬ e.Accepts b) : Refused e.answer := by
  have hans : e.answer = (e.server.submitResult request e.now).1.map .submitted := by
    rw [answer, hc]
    rfl
  cases hr : (e.server.submitResult request e.now).1 with
  | error err =>
    rw [hans, hr]
    trivial
  | ok a =>
    rw [hr] at hans
    cases a with
    | accepted b retry => exact absurd ⟨request, b, retry, hc, rfl, hans⟩ (h _)
    | ignored reason =>
      rw [hans]
      trivial

section

variable (hs : e.server.Sound) (hd : e.server.isDepleted = true)

include hs hd

lemma not_accepts_of_depleted (b : BucketId) : ¬ e.Accepts b := by
  intro ha
  obtain ⟨w, r, h, hh, -⟩ := out_of_accepts hs ha
  rw [(BucketQueue.isDepleted_iff.1 hd).2] at hh
  cases hh

lemma queue_after_submit_of_depleted {request : SubmitRequest} (hc : e.command = .submit request) :
    e.after.queue = e.server.queue :=
  (refused_effect hs.queue (refused_of_not_accepts hc (not_accepts_of_depleted hs hd))).1

theorem depleted_after (hadd : e.addsBuckets = false) : e.after.isDepleted = true := by
  obtain ⟨hwait, hout⟩ := BucketQueue.isDepleted_iff.1 hd
  have hopen := BucketQueue.isDepleted_iff_open.1 hd
  have same (hq : e.after.queue = e.server.queue) : e.after.isDepleted = true := by
    rw [Dispatcher.isDepleted, hq]
    exact hd
  cases e.effect hs.queue with
  | repeated _ _ hm _ _ _ _ _ =>
    rw [hout] at hm
    cases hm
  | handedOut _ _ hj hp _ _ _ _ _ =>
    rw [hwait _ _ hj] at hp
    cases hp
  | accepted hc _ _ ha _ =>
    exact absurd ((accepts_iff hc ha).2 rfl) (not_accepts_of_depleted hs hd _)
  | @scheduled request buckets job _ _ he ha _ =>
    -- a request without tests may make a job, but not a bucket
    obtain rfl : buckets = [] := by simpa [addsBuckets, ha] using hadd
    refine BucketQueue.isDepleted_iff_open.2 fun k kq hk => ?_
    rw [(BucketQueue.enqueue_eq_ok he).2.2.1] at hk
    split at hk
    · obtain rfl := Option.some.inj hk
      apply List.Perm.eq_nil
      refine (JobQueue.openBuckets_enqueue _ []).trans ?_
      rw [List.append_nil, BucketQueue.jobOr]
      cases hj : e.server.queue.jobs.find? request.jobId with
      | none => exact List.Perm.refl _
      | some jq => exact (hopen _ jq hj) ▸ List.Perm.refl _
    · exact hopen k kq hk
  | deleted _ h _ _ _ =>
    obtain ⟨jq, hj, -, hq⟩ := BucketQueue.delete_cases h
    refine BucketQueue.isDepleted_iff_open.2 fun k kq hk => ?_
    rw [hq] at hk
    have hk' := (BucketQueue.of_find?_finalize hk).1
    rw [BucketQueue.find?_put] at hk'
    split at hk'
    · obtain rfl := Option.some.inj hk'
      have hnone := hopen _ jq hj
      rw [JobQueue.openBuckets, List.append_eq_nil_iff] at hnone
      exact hnone.2
    · exact hopen k kq hk'
  | swept _ _ hq _ _ =>
    refine BucketQueue.isDepleted_iff_open.2 fun k kq hk => ?_
    rw [hq, Dispatcher.reclaimAll_eq, BucketQueue.find?_reclaimFrom hs.queue,
      Option.filter_eq_some_iff, Option.map_eq_some_iff] at hk
    obtain ⟨⟨jq, hj, rfl⟩, -⟩ := hk
    have hsub := JobQueue.openBuckets_reclaimFrom_subset jq
      (silentIn (e.server.roster.sweep e.now).1)
    rw [hopen k jq hj] at hsub
    exact List.subset_nil.1 hsub
  | registered _ _ hq _ _ => exact same hq
  | heard _ _ hq _ _ => exact same hq
  | blocked _ _ hq _ _ => exact same hq
  | none _ hq _ _ => exact same hq

end

end Event

namespace Dispatcher

variable {d : Dispatcher}

lemma isCompleted_of_isDepleted (h : d.isDepleted = true) {j : JobId} {state : JobState}
    (hj : d.jobState j = .ok state) : state.isCompleted = true := by
  unfold jobState BucketQueue.state BucketQueue.job? at hj
  cases hf : d.queue.jobs.find? j with
  | none =>
    rw [hf] at hj
    cases hj
  | some jq =>
    rw [hf] at hj
    obtain rfl := Except.ok.inj hj
    exact List.all_eq_true.1 h jq (Table.mem_values_iff.2 ⟨j, hf⟩)

lemma not_retrying_of_isDepleted (h : d.isDepleted = true) {j : JobId} {results : JobResults}
    (hj : d.jobResults j = .ok results) : ∀ s ∈ results.tests, s.status ≠ .retrying := by
  unfold jobResults BucketQueue.results BucketQueue.job? at hj
  cases hf : d.queue.jobs.find? j with
  | none =>
    rw [hf] at hj
    cases hj
  | some jq =>
    rw [hf] at hj
    obtain rfl := Except.ok.inj hj
    exact JobQueue.status_summaries
      (List.all_eq_true.1 h jq (Table.mem_values_iff.2 ⟨j, hf⟩))

lemma processing_of_idle (hs : d.Sound) (ha : d.Agrees) (hidle : d.queue.handOuts = []) :
    d.processing.workers = .empty := by
  have hnone : d.roster.processing = [] := by
    simp only [Roster.processing, List.map_eq_nil_iff, List.filter_eq_nil_iff,
      Bool.not_eq_true, Bool.not_eq_false', List.isEmpty_iff]
    intro r hr
    have hp := processing_perm hs ha r.workerId
    rw [Roster.record_of_find? (Roster.find?_eq_some_iff.2 ⟨hr, rfl⟩), BucketQueue.heldIds,
      hidle] at hp
    exact hp.eq_nil
  rw [processing, hnone]
  rfl

lemma fetch_of_depleted (hq : d.queue.Ranked) (h : d.isDepleted = true)
    (hp : d.settings.depletion = .terminateWhenDepleted) {request : FetchRequest}
    (hsig : request.signature = d.signature)
    (hel : d.roster.eligibility request.workerId = .eligible) (now : Instant) :
    (d.perform now (.fetch request)).1 = .ok (.fetched .queueDepleted) := by
  have hx : (d.queue.dequeue request.workerId request.requestId now).1 = .exhausted :=
    hq.exhausted_iff.2 h
  generalize hout : d.queue.dequeue request.workerId request.requestId now = out at hx
  obtain ⟨a, q⟩ := out
  obtain rfl : a = .exhausted := hx
  have hout' : (d.indicateActivity now).queue.dequeue request.workerId request.requestId now =
      (.exhausted, q) := hout
  have hp' : (d.indicateActivity now).settings.depletion = .terminateWhenDepleted := hp
  rw [perform_fetch request hsig hel]
  simp only [answering, handOut, hout', depletedAnswer, hp', Except.map]

lemma denial_ne_queueDepleted {w : WorkerId} {a : FetchAnswer} (h : d.denial w = some a) :
    a ≠ .queueDepleted := by
  rintro rfl
  unfold denial at h
  split at h <;> simp [checkAgain] at h

lemma depleted_of_fetch (hq : d.queue.Ranked) {request : FetchRequest} {now : Instant}
    (ha : (d.perform now (.fetch request)).1 = .ok (.fetched .queueDepleted)) :
    d.settings.depletion = .terminateWhenDepleted ∧ d.isDepleted = true := by
  simp only [perform, answering, fetchBucket] at ha
  split at ha
  · cases ha
  · split at ha
    · rename_i a hden
      obtain rfl : a = .queueDepleted := by simpa [Except.map] using ha
      exact absurd rfl (denial_ne_queueDepleted hden)
    · have hx : (d.queue.dequeue request.workerId request.requestId now).1 = .exhausted ↔
          d.queue.isDepleted = true := hq.exhausted_iff
      generalize hout : d.queue.dequeue request.workerId request.requestId now = out at hx
      obtain ⟨a, q⟩ := out
      have hout' : (d.indicateActivity now).queue.dequeue request.workerId request.requestId now =
          (a, q) := hout
      simp only [handOut, hout', Except.map] at ha
      cases a with
      | handedOut h => cases ha
      | checkAgainLater => cases ha
      | exhausted =>
        refine ⟨?_, hx.1 rfl⟩
        cases hp : d.settings.depletion with
        | terminateWhenDepleted => rfl
        | stayAlive =>
          have hp' : (d.indicateActivity now).settings.depletion = .stayAlive := hp
          simp only [depletedAnswer, hp'] at ha
          cases ha

structure ToldDepleted (d d' : Dispatcher) (past : List Event) : Prop where
  sound : d'.Sound
  ranked : d'.queue.Ranked
  settings : d'.settings = d.settings
  signature : d'.signature = d.signature
  depleted : (∀ e ∈ past, e.addsBuckets = false) → d'.isDepleted = true

lemma toldDepleted_after {past : List Event} {e : Event} (h : d.ToldDepleted e.server past) :
    d.ToldDepleted e.after (e :: past) where
  sound := Event.sound_after h.sound
  ranked := Event.ranked_after h.sound h.ranked
  settings := (continues_perform e.server e.now e.command).settings.trans h.settings
  signature := (continues_perform e.server e.now e.command).signature.trans h.signature
  depleted hadd := by
    obtain ⟨hadd, hpast⟩ := List.forall_mem_cons.1 hadd
    exact Event.depleted_after h.sound (h.depleted hpast) hadd

theorem depleted_for_good {ids : IdSource} (hids : Function.Injective ids.nth)
    (settings : DispatcherSettings) (start : Instant) (commands : List (Instant × Command)) :
    let d := (new settings ids start).run commands
    ∀ now request, (d.perform now (.fetch request)).1 = .ok (.fetched .queueDepleted) →
      let told := (d.perform now (.fetch request)).2
      (∀ j state, told.jobState j = .ok state → state.isCompleted = true) ∧
      (∀ j results, told.jobResults j = .ok results →
        ∀ s ∈ results.tests, s.status ≠ .retrying) ∧
      told.processing.workers = .empty ∧
      ∀ later, (∀ e ∈ told.history later, e.addsBuckets = false) →
        let d' := told.run later
        d'.isDepleted = true ∧
        (∀ now request, request.signature = d.signature →
          d'.roster.eligibility request.workerId = .eligible →
          (d'.perform now (.fetch request)).1 = .ok (.fetched .queueDepleted)) ∧
        ∀ now request j, (d'.perform now (.submit request)).2.jobResults j = d'.jobResults j := by
  intro d now request ha told
  have hs : d.Sound := sound_run hids settings start commands
  have hagree : d.Agrees := agrees_run hids settings start commands
  have hq : d.queue.Ranked := ranked_run hids settings start commands
  obtain ⟨hpolicy, hd⟩ := depleted_of_fetch hq ha
  let e : Event := ⟨d, now, .fetch request⟩
  have htold : d.ToldDepleted told [] := by
    have hcont := continues_perform d now (.fetch request)
    refine ⟨Event.sound_after (e := e) hs, Event.ranked_after (e := e) hs hq, hcont.settings,
      hcont.signature, fun _ => Event.depleted_after (e := e) hs hd ?_⟩
    have hans : e.answer = .ok (.fetched .queueDepleted) := ha
    rw [Event.addsBuckets, hans]
  have hdepleted : told.isDepleted = true := htold.depleted (by simp)
  refine ⟨fun j state => isCompleted_of_isDepleted hdepleted,
    fun j results => not_retrying_of_isDepleted hdepleted,
    processing_of_idle htold.sound (Event.agrees_after (e := e) hs hagree)
      (BucketQueue.isDepleted_iff.1 hdepleted).2, fun later hadd => ?_⟩
  intro d'
  have h : d.ToldDepleted d' (told.history later) := run_induction
    (P := fun past d' => d.ToldDepleted d' past) htold (fun _ _ => toldDepleted_after) later
  have hdep := h.depleted hadd
  refine ⟨hdep, fun now request hsig hel => ?_, fun now request j => ?_⟩
  · exact fetch_of_depleted h.ranked hdep (h.settings ▸ hpolicy) (h.signature ▸ hsig) hel now
  · have hsame : (d'.perform now (.submit request)).2.queue = d'.queue :=
      Event.queue_after_submit_of_depleted (e := ⟨d', now, .submit request⟩) h.sound hdep rfl
    rw [jobResults, hsame, jobResults]

def dismissive : DispatcherSettings := { plainSettings with depletion := .terminateWhenDepleted }

theorem depleted_for_good_finishedJob :
    let d := (new dismissive numberedIds .epoch).run finishedJob
    let request : FetchRequest := ⟨⟨"w"⟩, ⟨"u"⟩, ⟨"id-1"⟩⟩
    let told := (d.perform .epoch (.fetch request)).2
    let later : List (Instant × Command) :=
      [(.epoch, .submit ⟨⟨"w"⟩, ⟨"t"⟩, ⟨"id-1"⟩, ⟨⟨"id-4"⟩, []⟩⟩),
        (.epoch, .schedule ⟨⟨"k"⟩, 1, [], .individual, none, .empty, ⟨1, .empty⟩, .standard,
          .empty⟩)]
    Function.Injective numberedIds.nth ∧
      (d.perform .epoch (.fetch request)).1 = .ok (.fetched .queueDepleted) ∧
      (∀ e ∈ told.history later, e.addsBuckets = false) ∧
      ((told.run later).perform .epoch (.fetch request)).1 = .ok (.fetched .queueDepleted) := by
  intro d request told later
  have hids : Function.Injective numberedIds.nth := IdSource.sequential_injective "id"
  have ha : (d.perform .epoch (.fetch request)).1 = .ok (.fetched .queueDepleted) := by
    decide +kernel
  have hadd : ∀ e ∈ told.history later, e.addsBuckets = false := by
    decide +kernel
  have hel : (told.run later).roster.eligibility ⟨"w"⟩ = .eligible := by
    decide +kernel
  obtain ⟨-, -, -, h⟩ :=
    depleted_for_good hids dismissive .epoch finishedJob .epoch request ha
  exact ⟨hids, ha, hadd, (h later hadd).2.1 .epoch request rfl hel⟩

end Dispatcher

end TestQueue
