import TestQueue.Proofs.Labels

/-!
The answer to a result that comes late. By then the bucket may be in other hands or finished, and
its job may be deleted, or even removed from the queue.
-/

namespace TestQueue

open Time (Instant)

lemma Since.of_mem {keep start : Event → Prop} {e : Event} {past : List Event} (he : e ∈ past)
    (hs : start e) (hk : ∀ x ∈ past, keep x) : Since keep start past := by
  obtain ⟨later, earlier, rfl⟩ := List.append_of_mem he
  exact ⟨later, e, earlier, rfl, hs, fun x hx => hk x (List.mem_append_left _ hx)⟩

/-- A fetch of the worker was answered with the bucket, and the job of the bucket has been in the
queue ever since. -/
def JobStays (past : List Event) (p : Bucket) (w : WorkerId) : Prop :=
  Since (fun e => e.after.queue.jobs.contains p.jobId = true) (fun e => ∃ r, e.Delivers p w r) past

structure Dispatcher.Knows (past : List Event) (d : Dispatcher) (p : Bucket) : Prop where
  present : d.queue.jobs.contains p.jobId = true
  placed : p ∈ placed p.jobId (sinceCreated p.jobId past)

structure Dispatcher.Forgot (d : Dispatcher) (p : Bucket) : Prop where
  unindexed : d.queue.owners.find? p.bucketId = none
  drawn : d.ids.Drawn p.bucketId.text

namespace Event

variable {e : Event} {past : List Event} {p : Bucket} {w : WorkerId} {r : RequestId}

lemma knows_of_delivers (h : e.server.Accounts past) (hd : e.Delivers p w r) :
    e.after.Knows (e :: past) p := by
  obtain ⟨j, jq, hj, hp⟩ := (holds_of_delivers h.sound hd).exists_open
  have hplaced := ((Dispatcher.accounts_after h).accounted j jq hj).placed hp
  obtain rfl := jobId_of_placed hplaced
  exact ⟨Table.contains_iff.2 ⟨jq, hj⟩, hplaced⟩

lemma knows_after (h : e.server.Knows past p)
    (hstays : e.after.queue.jobs.contains p.jobId = true) : e.after.Knows (e :: past) p where
  present := hstays
  placed := by
    rw [placed_sinceCreated_cons, if_pos h.present]
    exact List.mem_append_left _ h.placed

lemma forgot_of_removed (ha : e.server.Accounts past) (h : e.server.Knows past p)
    (hgone : e.after.queue.jobs.contains p.jobId ≠ true) : e.after.Forgot p := by
  have hs := ha.sound
  obtain ⟨jq, hj⟩ := Table.contains_iff.1 h.present
  have howner := (ha.accounted _ jq hj).owned p h.placed
  have hdrawn := hs.queue.drawn _ _ howner
  obtain ⟨n, hn⟩ := ids_after hs.queue
  refine ⟨Option.eq_none_iff_forall_ne_some.2 fun k hk => hgone ?_, by rw [hn]; exact hdrawn.advance n⟩
  have hbefore := (of_owners_after hs hk).resolve_right fun hnew => hnew hdrawn
  obtain rfl := Option.some.inj (howner.symm.trans hbefore)
  exact Table.contains_iff.2 ((sound_after hs).queue.present _ _ hk)

lemma forgot_after (hs : e.server.Sound) (h : e.server.Forgot p) : e.after.Forgot p := by
  obtain ⟨n, hn⟩ := ids_after hs.queue
  refine ⟨Option.eq_none_iff_forall_ne_some.2 fun k hk => ?_, by rw [hn]; exact h.drawn.advance n⟩
  rcases of_owners_after hs hk with hbefore | hnew
  · rw [h.unindexed] at hbefore
    cases hbefore
  · exact hnew h.drawn

end Event

namespace Dispatcher

variable {past : List Event} {d : Dispatcher} {p : Bucket} {request : SubmitRequest}

lemma opened_of_knows (h : d.Knows past p) (hdel : ∀ e ∈ past, ¬ e.Deletes p.jobId) :
    Opened past p.jobId := by
  obtain ⟨e, he, request, hsch, -⟩ := stemsFrom_of_placed h.placed
  exact .of_mem (sinceCreated_subset _ _ he) ⟨request, hsch⟩ hdel

/-- What is left of a bucket that was handed out: while its job stays it is known, and then it is
forgotten. A job stays if it is not deleted. -/
structure Tracks (past : List Event) (d : Dispatcher) (p : Bucket) (w : WorkerId) : Prop where
  accounts : d.Accounts past
  knows : JobStays past p w → d.Knows past p
  forgot : (∃ e ∈ past, ∃ r, e.Delivers p w r) → ¬ JobStays past p w → d.Forgot p
  stays : (∃ e ∈ past, ∃ r, e.Delivers p w r) → (∀ e ∈ past, ¬ e.Deletes p.jobId) →
    JobStays past p w

lemma tracks_after {e : Event} {w : WorkerId} (h : e.server.Tracks past p w) :
    e.after.Tracks (e :: past) p w where
  accounts := accounts_after h.accounts
  knows hstays := by
    rcases since_cons.1 hstays with ⟨r, hd⟩ | ⟨hkeep, hpast⟩
    · exact Event.knows_of_delivers h.accounts hd
    · exact Event.knows_after (h.knows hpast) hkeep
  forgot := by
    rintro ⟨x, hx, hd⟩ hnot
    obtain ⟨hnew, hgone⟩ := not_or.1 (mt since_cons.2 hnot)
    rcases List.mem_cons.1 hx with rfl | hx
    · exact absurd hd hnew
    · by_cases hpast : JobStays past p w
      · exact Event.forgot_of_removed h.accounts (h.knows hpast) fun hc => hgone ⟨hc, hpast⟩
      · exact Event.forgot_after h.accounts.sound (h.forgot ⟨x, hx, hd⟩ hpast)
  stays := by
    rintro ⟨x, hx, hd⟩ hdel
    obtain ⟨hdel', hdel⟩ := List.forall_mem_cons.1 hdel
    rcases List.mem_cons.1 hx with rfl | hx
    · exact since_cons.2 (Or.inl hd)
    · have hpast := h.stays ⟨x, hx, hd⟩ hdel
      have hopen := opened_cons.2 (Or.inr ⟨hdel', opened_of_knows (h.knows hpast) hdel⟩)
      obtain ⟨jq, hj, -⟩ := ((accounts_after h.accounts).opened _).1 hopen
      exact since_cons.2 (Or.inr ⟨Table.contains_iff.2 ⟨jq, hj⟩, hpast⟩)

lemma submit_of_knows (ha : d.Accounts past) (h : d.Knows past p)
    (hsig : request.signature = d.signature) (hk : d.roster.isKnown request.workerId = true)
    (hid : request.result.bucketId = p.bucketId) (ht : ∀ t ∈ request.result.tests, t ∈ p.tests)
    (now : Instant) :
    (∃ retry, (d.perform now (.submit request)).1 = .ok (.submitted (.accepted p.bucketId retry))) ∨
      ∃ reason, (d.perform now (.submit request)).1 = .ok (.submitted (.ignored reason)) := by
  obtain ⟨jq, hj⟩ := Table.contains_iff.1 h.present
  rw [perform, submitResult_of_known hsig hk]
  by_cases hout : d.queue.Out p.bucketId request.workerId request.requestId
  · obtain ⟨retry, hr⟩ := settle_of_out ha hj h.placed hid ht hout now
    exact Or.inl ⟨retry, by simp only [answering, hr, Except.map]⟩
  · obtain ⟨reason, hr, -⟩ := settle_of_not_out ha hj h.placed hid hout now
    exact Or.inr ⟨reason, by simp only [answering, hr, Except.map]⟩

lemma submit_of_forgot (h : d.Forgot p) (hsig : request.signature = d.signature)
    (hk : d.roster.isKnown request.workerId = true)
    (hid : request.result.bucketId = p.bucketId) (now : Instant) :
    (d.perform now (.submit request)).1 = .error (.unknownBucket p.bucketId) := by
  have hacc : (d.indicateActivity now).queue.accept request.result request.workerId
      request.requestId (d.indicateActivity now).ids = .error (.unknownBucket p.bucketId) := by
    have hnone : (d.indicateActivity now).queue.owners.find? p.bucketId = none := h.unindexed
    simp only [BucketQueue.accept, hid, hnone]
  rw [perform, submitResult_of_known hsig hk]
  simp only [answering, settle, hacc, Except.map]

theorem late_result_answer {ids : IdSource} (hids : Function.Injective ids.nth)
    (settings : DispatcherSettings) (start : Instant) (commands : List (Instant × Command)) :
    let d := (new settings ids start).run commands
    let past := (new settings ids start).history commands
    ∀ p now request, (∃ e ∈ past, ∃ r, e.Delivers p request.workerId r) →
      request.signature = d.signature → d.roster.isKnown request.workerId = true →
      request.result.bucketId = p.bucketId → (∀ t ∈ request.result.tests, t ∈ p.tests) →
      (JobStays past p request.workerId →
        (∃ retry, (d.perform now (.submit request)).1 =
          .ok (.submitted (.accepted p.bucketId retry))) ∨
        ∃ reason, (d.perform now (.submit request)).1 = .ok (.submitted (.ignored reason))) ∧
      (¬ JobStays past p request.workerId →
        (d.perform now (.submit request)).1 = .error (.unknownBucket p.bucketId)) ∧
      ((∀ e ∈ past, ¬ e.Deletes p.jobId) → JobStays past p request.workerId) := by
  intro d past p now request hd hsig hk hid ht
  have h : d.Tracks past p request.workerId := run_induction
    (P := fun past d => d.Tracks past p request.workerId)
    ⟨accounts_new hids settings start, fun h => absurd h (not_since_nil _ _), by simp, by simp⟩
    (fun _ _ => tracks_after) commands
  exact ⟨fun hstays => submit_of_knows h.accounts (h.knows hstays) hsig hk hid ht now,
    fun hnot => submit_of_forgot (h.forgot hd hnot) hsig hk hid now, h.stays hd⟩

theorem late_result_answer_lostBucket :
    let d := (new plainSettings numberedIds .epoch).run lostBucket
    let past := (new plainSettings numberedIds .epoch).history lostBucket
    let p : Bucket :=
      ⟨⟨"id-2"⟩, ⟨"j"⟩, 1, [⟨"C", "x", none⟩], .empty, ⟨1, .empty⟩, .standard, .empty, 1⟩
    let request : SubmitRequest := ⟨⟨"w"⟩, ⟨"r"⟩, ⟨"id-1"⟩, ⟨⟨"id-2"⟩, []⟩⟩
    Function.Injective numberedIds.nth ∧ (∃ e ∈ past, ∃ r, e.Delivers p ⟨"w"⟩ r) ∧
      request.signature = d.signature ∧ d.roster.isKnown ⟨"w"⟩ = true ∧
      request.result.bucketId = p.bucketId ∧ (∀ t ∈ request.result.tests, t ∈ p.tests) ∧
      JobStays past p ⟨"w"⟩ ∧
      ((∃ retry, (d.perform .epoch (.submit request)).1 =
        .ok (.submitted (.accepted p.bucketId retry))) ∨
      ∃ reason, (d.perform .epoch (.submit request)).1 = .ok (.submitted (.ignored reason))) := by
  intro d past p request
  have hids : Function.Injective numberedIds.nth := IdSource.sequential_injective "id"
  have hd : ∃ e ∈ past, ∃ r, e.Delivers p ⟨"w"⟩ r :=
    ⟨_, List.mem_of_getElem? (i := 2) rfl, ⟨"r"⟩, _, rfl, rfl, rfl, rfl⟩
  have hk : d.roster.isKnown ⟨"w"⟩ = true := by decide
  have ht : ∀ t ∈ request.result.tests, t ∈ p.tests := by decide
  have hstays : JobStays past p ⟨"w"⟩ :=
    ⟨past.take 2, _, past.drop 3, rfl, ⟨⟨"r"⟩, _, rfl, rfl, rfl, rfl⟩, by decide⟩
  have h := late_result_answer hids plainSettings .epoch lostBucket p .epoch request hd rfl hk rfl ht
  exact ⟨hids, hd, rfl, hk, rfl, ht, hstays, h.1 hstays⟩

/-- More than three missing heartbeats after the epoch. -/
def overdue : Instant := ⟨91, 0, by decide, by decide, by decide⟩

/-- The job is deleted while its only bucket is out, and removed when the bucket is taken back from
the silent worker, which then is heard of again. -/
def removedMeanwhile : List (Instant × Command) :=
  [(.epoch, .register ⟨"w"⟩ none),
    (.epoch, .schedule ⟨⟨"j"⟩, 1, [⟨"C", "x", none⟩], .individual, none, .empty, ⟨1, .empty⟩,
      .standard, .empty⟩),
    (.epoch, .fetch ⟨⟨"w"⟩, ⟨"r"⟩, ⟨"id-1"⟩⟩),
    (.epoch, .deleteJob ⟨"j"⟩),
    (overdue, .sweep),
    (overdue, .reportAlive ⟨"w"⟩)]

theorem unknownBucket_removedMeanwhile :
    let d := (new plainSettings numberedIds .epoch).run removedMeanwhile
    let past := (new plainSettings numberedIds .epoch).history removedMeanwhile
    ¬ ∀ p now request, (∃ e ∈ past, ∃ r, e.Delivers p request.workerId r) →
      request.signature = d.signature → d.roster.isKnown request.workerId = true →
      request.result.bucketId = p.bucketId → (∀ t ∈ request.result.tests, t ∈ p.tests) →
      ∃ answer, (d.perform now (.submit request)).1 = .ok (.submitted answer) := by
  intro d past h
  let p : Bucket :=
    ⟨⟨"id-2"⟩, ⟨"j"⟩, 1, [⟨"C", "x", none⟩], .empty, ⟨1, .empty⟩, .standard, .empty, 1⟩
  let request : SubmitRequest := ⟨⟨"w"⟩, ⟨"r"⟩, ⟨"id-1"⟩, ⟨⟨"id-2"⟩, []⟩⟩
  have hd : ∃ e ∈ past, ∃ r, e.Delivers p ⟨"w"⟩ r :=
    ⟨_, List.mem_of_getElem? (i := 3) rfl, ⟨"r"⟩, _, rfl, rfl, rfl, rfl⟩
  have hk : d.roster.isKnown ⟨"w"⟩ = true := by decide +kernel
  obtain ⟨answer, ha⟩ := h p overdue request hd rfl hk rfl (by decide)
  have herr : (d.perform overdue (.submit request)).1 = .error (.unknownBucket ⟨"id-2"⟩) := by
    decide +kernel
  cases herr.symm.trans ha

end Dispatcher

end TestQueue
