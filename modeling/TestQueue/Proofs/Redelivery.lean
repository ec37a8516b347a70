import TestQueue.Proofs.Delivery

/-!
A fetch that is made again under the same request: it is answered with the same bucket as long as
this bucket is out, and with another one after a result for it was accepted.
-/

namespace TestQueue

open Time (Instant)

namespace Dispatcher

variable {d : Dispatcher} {p : Bucket} {request : FetchRequest}

lemma fetch_of_holds (hq : d.queue.Ranked)
    (hh : d.queue.Holds p request.workerId request.requestId)
    (hsig : request.signature = d.signature)
    (hel : d.roster.eligibility request.workerId = .eligible) (now : Instant) :
    (d.perform now (.fetch request)).1 = .ok (.fetched (.bucket p)) := by
  obtain ⟨h, hm, rfl, hf⟩ := hh
  have hdeq : d.queue.dequeue request.workerId request.requestId now = (.handedOut h, d.queue) :=
    hq.dequeue_eq_iff.2 (.again hm hf)
  simp [perform, answering, fetchBucket, hsig, indicateActivity, denial, hel, handOut, hdeq,
    Except.map]

lemma fetch_ne_of_spent (hs : d.Sound) {b : BucketId} (hb : d.Spent b) {now : Instant}
    (ha : (d.perform now (.fetch request)).1 = .ok (.fetched (.bucket p))) : p.bucketId ≠ b := by
  have hh := Event.holds_of_delivers (e := ⟨d, now, .fetch request⟩) hs
    ⟨request, rfl, rfl, rfl, ha⟩
  obtain ⟨j, jq, hj, hp⟩ := hh.exists_open
  exact (Event.spent_after (e := ⟨d, now, .fetch request⟩) hs hb).2 j jq hj p hp

theorem fetched_again {ids : IdSource} (hids : Function.Injective ids.nth)
    (settings : DispatcherSettings) (start : Instant) (commands : List (Instant × Command)) :
    let d := (new settings ids start).run commands
    let past := (new settings ids start).history commands
    ∀ p now request,
      (StillOut past p request.workerId request.requestId →
        (request.signature = d.signature → d.roster.eligibility request.workerId = .eligible →
          (d.perform now (.fetch request)).1 = .ok (.fetched (.bucket p))) ∧
        ∀ p', (d.perform now (.fetch request)).1 = .ok (.fetched (.bucket p')) → p' = p) ∧
      ((∃ e ∈ past, e.Accepts p.bucketId) →
        ∀ p', (d.perform now (.fetch request)).1 = .ok (.fetched (.bucket p')) →
          p'.bucketId ≠ p.bucketId) := by
  intro d past p now request
  have hs : d.Sound := sound_run hids settings start commands
  have hq : d.queue.Ranked := ranked_run hids settings start commands
  refine ⟨fun hout => ?_, ?_⟩
  · have hh := holds_run hids settings start commands hout
    refine ⟨fun hsig hel => fetch_of_holds hq hh hsig hel now, fun p' ha => ?_⟩
    obtain ⟨hsig, hel⟩ := Event.may_fetch ha
    simpa [fetch_of_holds hq hh hsig hel now] using ha.symm
  · rintro ⟨e, he, hacc⟩ p' ha
    exact fetch_ne_of_spent hs ((accepts_run hids settings start commands).1 e he _ hacc) ha

theorem fetched_again_lostBucket :
    let d := (new plainSettings numberedIds .epoch).run lostBucket
    let past := (new plainSettings numberedIds .epoch).history lostBucket
    let lost : Bucket :=
      ⟨⟨"id-2"⟩, ⟨"j"⟩, 1, [⟨"C", "x", none⟩], .empty, ⟨1, .empty⟩, .standard, .empty, 1⟩
    let held : Bucket :=
      ⟨⟨"id-3"⟩, ⟨"j"⟩, 1, [⟨"C", "y", none⟩], .empty, ⟨1, .empty⟩, .standard, .empty, 1⟩
    Function.Injective numberedIds.nth ∧ StillOut past held ⟨"w"⟩ ⟨"s"⟩ ∧
      d.roster.eligibility ⟨"w"⟩ = .eligible ∧ (∃ e ∈ past, e.Accepts lost.bucketId) ∧
      (d.perform .epoch (.fetch ⟨⟨"w"⟩, ⟨"s"⟩, ⟨"id-1"⟩⟩)).1 = .ok (.fetched (.bucket held)) ∧
      ∀ p, (d.perform .epoch (.fetch ⟨⟨"w"⟩, ⟨"r"⟩, ⟨"id-1"⟩⟩)).1 = .ok (.fetched (.bucket p)) →
        p.bucketId ≠ lost.bucketId := by
  intro d past lost held
  have hids : Function.Injective numberedIds.nth := IdSource.sequential_injective "id"
  have hout : StillOut past held ⟨"w"⟩ ⟨"s"⟩ :=
    ⟨[], _, _, rfl, ⟨_, rfl, rfl, rfl, rfl⟩, by simp⟩
  have hel : d.roster.eligibility ⟨"w"⟩ = .eligible := by decide
  have hacc : ∃ e ∈ past, e.Accepts lost.bucketId :=
    ⟨_, List.mem_of_getElem? (i := 1) rfl, ⟨_, _, _, rfl, rfl, rfl⟩⟩
  have h := fetched_again hids plainSettings .epoch lostBucket
  exact ⟨hids, hout, hel, hacc,
    ((h held .epoch ⟨⟨"w"⟩, ⟨"s"⟩, ⟨"id-1"⟩⟩).1 hout).1 rfl hel,
    (h lost .epoch ⟨⟨"w"⟩, ⟨"r"⟩, ⟨"id-1"⟩⟩).2 hacc⟩

/-- The test of the first bucket passes, and the worker asks again under the request that this
bucket was handed out for. -/
def askedAgain : List (Instant × Command) :=
  lostBucket.take 3 ++
    [(.epoch, .submit ⟨⟨"w"⟩, ⟨"r"⟩, ⟨"id-1"⟩, ⟨⟨"id-2"⟩,
        [⟨⟨"C", "x", none⟩, [⟨true, 0, [], "", .epoch⟩]⟩]⟩⟩),
      (.epoch, .fetch ⟨⟨"w"⟩, ⟨"r"⟩, ⟨"id-1"⟩⟩)]

theorem second_bucket_askedAgain :
    ¬ ∀ w r p p', (∃ e ∈ (new plainSettings numberedIds .epoch).history askedAgain,
        e.Delivers p w r) →
      (∃ e ∈ (new plainSettings numberedIds .epoch).history askedAgain, e.Delivers p' w r) →
        p = p' := by
  intro h
  have hfirst := h ⟨"w"⟩ ⟨"r"⟩
    ⟨⟨"id-2"⟩, ⟨"j"⟩, 1, [⟨"C", "x", none⟩], .empty, ⟨1, .empty⟩, .standard, .empty, 1⟩
    ⟨⟨"id-3"⟩, ⟨"j"⟩, 1, [⟨"C", "y", none⟩], .empty, ⟨1, .empty⟩, .standard, .empty, 1⟩
    ⟨_, List.mem_of_getElem? (i := 2) rfl, ⟨_, rfl, rfl, rfl, rfl⟩⟩
    ⟨_, List.mem_of_getElem? (i := 0) rfl, ⟨_, rfl, rfl, rfl, rfl⟩⟩
  exact absurd hfirst (by decide)

end Dispatcher

end TestQueue
