import TestQueue.Proofs.Acceptance
import TestQueue.Proofs.BucketQueue.Run

namespace TestQueue

open Time (Instant)

def BucketQueue.Holds (q : BucketQueue) (p : Bucket) (w : WorkerId) (r : RequestId) : Prop :=
  ∃ h ∈ q.handOuts, h.bucket = p ∧ h.isFor w r = true

lemma BucketQueue.Holds.exists_open {q : BucketQueue} {p : Bucket} {w : WorkerId} {r : RequestId}
    (h : q.Holds p w r) : ∃ j jq, q.jobs.find? j = some jq ∧ p ∈ jq.openBuckets := by
  obtain ⟨h, hm, rfl, -⟩ := h
  obtain ⟨j, jq, hj, hh⟩ := mem_handOuts_iff.1 hm
  exact ⟨j, jq, hj, JobQueue.mem_openBuckets_of_handOut hh⟩

lemma BucketQueue.Routed.open_unique {q : BucketQueue} {ids : IdSource} (hs : q.Routed ids)
    {j k : JobId} {jq kq : JobQueue} {p p' : Bucket} (hj : q.jobs.find? j = some jq)
    (hk : q.jobs.find? k = some kq) (hp : p ∈ jq.openBuckets) (hp' : p' ∈ kq.openBuckets)
    (he : p.bucketId = p'.bucketId) : p = p' := by
  obtain rfl := hs.job_unique hj hk (JobQueue.mem_bucketIds_of_open hp)
    (he ▸ JobQueue.mem_bucketIds_of_open hp')
  obtain rfl := Option.some.inj (hj.symm.trans hk)
  have hn := (hs.jobs j jq hj).nodup
  rw [JobQueue.bucketIds_eq] at hn
  exact List.inj_on_of_nodup_map (List.nodup_append.1 hn).1 hp hp' he

lemma BucketQueue.accept_of_holds {q : BucketQueue} {ids : IdSource} {p : Bucket} {w : WorkerId}
    {r : RequestId} {result : BucketResult} (hs : q.Routed ids) (hh : q.Holds p w r)
    (hid : result.bucketId = p.bucketId) (ht : ∀ t ∈ result.tests, t ∈ p.tests) :
    ∃ retry q' ids', q.accept result w r ids = .ok (.accepted p.bucketId retry, q', ids') := by
  obtain ⟨h, hm, rfl, hf⟩ := hh
  obtain ⟨j, jq, hj, hm⟩ := mem_handOuts_iff.1 hm
  have ho := hs.routed j jq _ hj (JobQueue.mem_bucketIds_of_handOut hm)
  obtain ⟨n, hn⟩ := (hs.jobs j jq hj).find?_of_mem hm
  obtain ⟨m, hrec, -⟩ := jq.record_eq h result ids
  have hacc : jq.accept result w r ids = .ok (jq.record h result ids) :=
    JobQueue.accept_of_owner (hid ▸ hn) hf ht ids
  rw [hrec, hid] at hacc
  simp only [accept, hid, ho, hj, hacc, bind, Except.bind]
  exact ⟨_, _, _, rfl⟩

namespace Event

variable {e : Event} {p : Bucket} {w : WorkerId} {r : RequestId}

def Delivers (e : Event) (p : Bucket) (w : WorkerId) (r : RequestId) : Prop :=
  ∃ request, e.command = .fetch request ∧ request.workerId = w ∧ request.requestId = r ∧
    e.answer = .ok (.fetched (.bucket p))

lemma Delivers.handsOut (h : e.Delivers p w r) : e.HandsOut p.bucketId w r := by
  obtain ⟨request, hc, hw, hr, ha⟩ := h
  exact ⟨request, p, hc, hw, hr, ha, rfl⟩

lemma holds_of_delivers (hs : e.server.Sound) (h : e.Delivers p w r) :
    e.after.queue.Holds p w r := by
  have hh := h.handsOut
  obtain ⟨request, hc, rfl, rfl, ha⟩ := h
  cases e.effect hs.queue with
  | @repeated request' k hc' _ hm hf ha' hq _ _ =>
    obtain rfl := Command.fetch.inj (hc'.symm.trans hc)
    obtain rfl : k.bucket = p := by simpa using ha'.symm.trans ha
    exact ⟨k, by rw [hq]; exact hm, rfl, hf⟩
  | @handedOut request' j jq bucket rest hc' _ hj hp _ ha' hq _ _ =>
    obtain rfl := Command.fetch.inj (hc'.symm.trans hc)
    obtain rfl : bucket = p := by simpa using ha'.symm.trans ha
    refine ⟨⟨bucket, request'.workerId, request'.requestId, e.now⟩, ?_, rfl,
      HandOut.isFor_iff.2 ⟨rfl, rfl⟩⟩
    rw [hq, BucketQueue.mem_handOuts_put_handOut hs.queue.toRouted hj hp]
    exact Or.inl rfl
  | accepted hc' _ _ _ _ => cases hc'.symm.trans hc
  | scheduled hc' _ _ _ _ => cases hc'.symm.trans hc
  | deleted hc' _ _ _ _ => cases hc'.symm.trans hc
  | swept hc' _ _ _ _ => cases hc'.symm.trans hc
  | registered hc' _ _ _ => cases hc'.symm.trans hc
  | heard hc' _ _ _ => cases hc'.symm.trans hc
  | blocked hc' _ _ _ => cases hc'.symm.trans hc
  | none quiet _ _ _ => exact absurd hh (quiet.handsOut _ _ _)

lemma holds_after (hs : e.server.Sound) (h : e.server.queue.Holds p w r)
    (hacc : ¬ e.Accepts p.bucketId) (hsil : ¬ e.Silences w) : e.after.queue.Holds p w r := by
  obtain ⟨i, iq, hi, hp⟩ := h.exists_open
  obtain ⟨h, hm, rfl, hf⟩ := h
  obtain ⟨hw, hr⟩ := HandOut.isFor_iff.1 hf
  obtain ⟨k, hk, hid, hw', hr'⟩ := (out_after (r := r) hs.queue).2
    (Or.inr ⟨⟨h, hm, rfl, hw, hr⟩, hacc, hsil⟩)
  obtain ⟨j, jq, hj, hkj⟩ := BucketQueue.mem_handOuts_iff.1 hk
  refine ⟨k, hk, ?_, HandOut.isFor_iff.2 ⟨hw', hr'⟩⟩
  rcases open_after hs hj (JobQueue.mem_openBuckets_of_handOut hkj) with ⟨kq, hkq, hpk⟩ | hnew
  · exact hs.queue.open_unique hkq hi hpk hp hid
  · -- the name is drawn already, as the index knows it
    have howner := hs.queue.routed i iq _ hi (JobQueue.mem_bucketIds_of_open hp)
    exact absurd (hs.queue.drawn _ i howner) (hid ▸ hnew)

lemma ranked_after (hs : e.server.Sound) (hq : e.server.queue.Ranked) : e.after.queue.Ranked := by
  cases e.effect hs.queue with
  | repeated _ _ _ _ _ h _ _ => rwa [h]
  | handedOut _ _ hj _ hn _ h _ _ =>
    rw [h]
    exact hq.put_handOut hj hn
  | accepted _ _ h _ _ => exact hq.accept h
  | scheduled _ _ h _ _ => exact hq.enqueue h
  | deleted _ h _ _ _ => exact hq.delete h
  | swept _ _ h _ _ =>
    rw [h, Dispatcher.reclaimAll_eq]
    exact hq.reclaimFrom _
  | registered _ _ h _ => rwa [h]
  | heard _ _ h _ => rwa [h]
  | blocked _ _ h _ => rwa [h]
  | none _ h _ _ => rwa [h]

end Event

namespace Dispatcher

variable {d : Dispatcher}

lemma perform_fetch (request : FetchRequest) (hsig : request.signature = d.signature)
    (hel : d.roster.eligibility request.workerId = .eligible) (now : Instant) :
    d.perform now (.fetch request) = answering .fetched
      (.ok ((d.indicateActivity now).handOut request.workerId request.requestId now).1,
        ((d.indicateActivity now).handOut request.workerId request.requestId now).2) := by
  simp [perform, fetchBucket, hsig, indicateActivity, denial, hel]

lemma perform_submit (request : SubmitRequest) {b : BucketId} {retry : Option BucketId}
    {queue : BucketQueue} {ids : IdSource} (hsig : request.signature = d.signature)
    (hk : d.roster.isKnown request.workerId = true)
    (ha : d.queue.accept request.result request.workerId request.requestId d.ids =
      .ok (.accepted b retry, queue, ids)) (now : Instant) :
    d.perform now (.submit request) = (.ok (.submitted (.accepted b retry)),
      { d.indicateActivity now with
        queue, ids, roster := d.roster.didFinish request.workerId b }) := by
  have ha' : (d.indicateActivity now).queue.accept request.result request.workerId
      request.requestId (d.indicateActivity now).ids = .ok (.accepted b retry, queue, ids) := ha
  rw [perform, submitResult_of_known hsig hk]
  simp only [answering, settle, ha', Except.map]
  rfl

end Dispatcher

/-- A fetch of the worker under the request was answered with the bucket. Since then no result for
the bucket was accepted, and the worker was not found silent. -/
def StillOut (past : List Event) (p : Bucket) (w : WorkerId) (r : RequestId) : Prop :=
  Since (fun e => ¬ e.Accepts p.bucketId ∧ ¬ e.Silences w) (fun e => e.Delivers p w r) past

namespace Dispatcher

variable {ids : IdSource} (hids : Function.Injective ids.nth) (settings : DispatcherSettings)
  (start : Instant) (commands : List (Instant × Command))

include hids

lemma ranked_run : ((new settings ids start).run commands).queue.Ranked :=
  (run_induction (d := new settings ids start) (P := fun _ d => d.Sound ∧ d.queue.Ranked)
    ⟨sound_new hids settings start, BucketQueue.ranked_empty⟩
    (fun _ _ h => ⟨Event.sound_after h.1, Event.ranked_after h.1 h.2⟩) commands).2

lemma holds_run {p : Bucket} {w : WorkerId} {r : RequestId}
    (h : StillOut ((new settings ids start).history commands) p w r) :
    ((new settings ids start).run commands).queue.Holds p w r := by
  refine (run_induction (d := new settings ids start)
    (P := fun past d => d.Sound ∧ (StillOut past p w r → d.queue.Holds p w r))
    ⟨sound_new hids settings start, fun h => absurd h (not_since_nil _ _)⟩ ?_ commands).2 h
  rintro past e ⟨hs, ih⟩
  refine ⟨Event.sound_after hs, fun h => ?_⟩
  rcases since_cons.1 h with hd | ⟨⟨ha, hw⟩, hpast⟩
  · exact Event.holds_of_delivers hs hd
  · exact Event.holds_after hs (ih hpast) ha hw

end Dispatcher

end TestQueue
