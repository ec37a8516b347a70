import TestQueue.Proofs.Location

/-!
The result of a bucket counts if it comes from the one who holds it, and only once.
-/

namespace TestQueue

open Time (Instant)

namespace BucketQueue

variable {q : BucketQueue} {ids : IdSource} {j : JobId} {jq : JobQueue} {b : BucketId}
  {w : WorkerId} {r : RequestId}

lemma Routed.out_iff (hs : q.Routed ids) (ho : q.owners.find? b = some j)
    (hj : q.jobs.find? j = some jq) :
    q.Out b w r ↔ ∃ o, jq.outstanding.find? b = some o ∧ o.handOut.isFor w r = true := by
  have hq := hs.jobs j jq hj
  simp only [HandOut.isFor_iff]
  constructor
  · rintro ⟨h, hh, rfl, hw⟩
    obtain ⟨k, kq, hk, hh⟩ := mem_handOuts_iff.1 hh
    have hr := hs.routed k kq _ hk (JobQueue.mem_bucketIds_of_handOut hh)
    obtain rfl := Option.some.inj (ho.symm.trans hr)
    obtain rfl := Option.some.inj (hj.symm.trans hk)
    obtain ⟨n, hn⟩ := hq.find?_of_mem hh
    exact ⟨⟨n, h⟩, hn, hw⟩
  · rintro ⟨o, hf, hw⟩
    exact ⟨o.handOut, mem_handOuts_iff.2 ⟨j, jq, hj, JobQueue.mem_handOuts_iff.2 ⟨_, _, hf⟩⟩,
      hq.keyed _ _ hf, hw⟩

lemma accept_of_out {buckets : List Bucket} {bucket : Bucket}
    {result : BucketResult} (hs : q.Routed ids) (hj : q.jobs.find? j = some jq)
    (ha : jq.Accounted q.owners j buckets) (hb : bucket ∈ buckets)
    (hid : result.bucketId = bucket.bucketId) (ht : ∀ t ∈ result.tests, t ∈ bucket.tests)
    (hout : q.Out bucket.bucketId w r) :
    ∃ retry q' ids', q.accept result w r ids = .ok (.accepted bucket.bucketId retry, q', ids') := by
  have ho := ha.owned bucket hb
  obtain ⟨o, hf, hw⟩ := (hs.out_iff ho hj).1 hout
  have hm : o.handOut.bucket ∈ jq.openBuckets :=
    JobQueue.mem_openBuckets_of_handOut (JobQueue.mem_handOuts_iff.2 ⟨_, o.order, hf⟩)
  have hbucket : o.handOut.bucket = bucket := List.inj_on_of_nodup_map ha.nodup (ha.placed hm) hb
    ((hs.jobs j jq hj).keyed _ _ hf)
  obtain ⟨n, hrec, -⟩ := jq.record_eq o.handOut result ids
  have hacc : jq.accept result w r ids = .ok (jq.record o.handOut result ids) :=
    JobQueue.accept_of_owner (hid ▸ hf) hw (hbucket ▸ ht) ids
  rw [hrec, hid] at hacc
  simp only [accept, hid, ho, hj, hacc, bind, Except.bind]
  exact ⟨_, _, _, rfl⟩

lemma accept_of_not_out {result : BucketResult} (hs : q.Sound ids) (hj : q.jobs.find? j = some jq)
    (ho : q.owners.find? result.bucketId = some j) (hout : ¬ q.Out result.bucketId w r) :
    ∃ why, q.accept result w r ids = .ok (.stale why, q, ids) := by
  have hother : ∀ o, jq.outstanding.find? result.bucketId = some o →
      o.handOut.isFor w r = false := by
    intro o hf
    rw [← Bool.not_eq_true]
    exact fun hw => hout ((hs.out_iff ho hj).2 ⟨o, hf, hw⟩)
  obtain ⟨why, hacc⟩ := JobQueue.accept_of_other hother ids
  refine ⟨why, ?_⟩
  have hput : q.put j jq = q := put_eq_self hj
  have hfin : q.finalize j = q := finalize_eq_self fun kq hk => hs.settled j kq hk
  simp only [accept, ho, hj, hacc, bind, Except.bind, hput, hfin]

end BucketQueue

namespace Dispatcher

variable {past : List Event} {d : Dispatcher} {request : SubmitRequest} {j : JobId} {jq : JobQueue}
  {bucket : Bucket}

lemma submitResult_of_known (hsig : request.signature = d.signature)
    (hk : d.roster.isKnown request.workerId = true) (now : Instant) :
    d.submitResult request now = (d.indicateActivity now).settle request := by
  simp [submitResult, hsig, indicateActivity, hk]

section

variable (h : d.Accounts past) (hj : d.queue.jobs.find? j = some jq)
  (hb : bucket ∈ placed j (sinceCreated j past)) (hid : request.result.bucketId = bucket.bucketId)

include h hj hb hid

lemma settle_of_out (ht : ∀ t ∈ request.result.tests, t ∈ bucket.tests)
    (hout : d.queue.Out bucket.bucketId request.workerId request.requestId) (now : Instant) :
    ∃ retry, ((d.indicateActivity now).settle request).1 =
      .ok (.accepted bucket.bucketId retry) := by
  obtain ⟨retry, q', ids', hacc⟩ := BucketQueue.accept_of_out h.sound.queue.toRouted hj
    (h.accounted j jq hj) hb hid ht hout
  have hacc' : (d.indicateActivity now).queue.accept request.result request.workerId
      request.requestId (d.indicateActivity now).ids =
        .ok (.accepted bucket.bucketId retry, q', ids') := hacc
  exact ⟨retry, by simp only [settle, hacc']⟩

lemma settle_of_not_out
    (hout : ¬ d.queue.Out bucket.bucketId request.workerId request.requestId) (now : Instant) :
    ∃ reason, ((d.indicateActivity now).settle request).1 = .ok (.ignored reason) ∧
      ((d.indicateActivity now).settle request).2.queue = d.queue ∧
      ((d.indicateActivity now).settle request).2.roster = d.roster := by
  have ho := (h.accounted j jq hj).owned bucket hb
  rw [← hid] at ho hout
  obtain ⟨why, hacc⟩ := BucketQueue.accept_of_not_out h.sound.queue hj ho hout
  have hacc' : (d.indicateActivity now).queue.accept request.result request.workerId
      request.requestId (d.indicateActivity now).ids = .ok (.stale why, d.queue, d.ids) := hacc
  have hset : (d.indicateActivity now).settle request = (.ok (.ignored why.reason),
      { d.indicateActivity now with queue := d.queue, ids := d.ids }) := by
    simp only [settle, hacc']
  rw [hset]
  exact ⟨why.reason, rfl, rfl, rfl⟩

end

end Dispatcher

namespace Event

variable {e : Event} {b : BucketId} {j : JobId} {jq : JobQueue} {p : Bucket}

lemma out_of_accepts (hs : e.server.Sound) (ha : e.Accepts b) :
    ∃ w r, e.server.queue.Out b w r := by
  cases e.effect hs.queue with
  | accepted hc _ hacc hans _ =>
    rw [← (accepts_iff hc hans).1 ha]
    exact ⟨_, _, hs.queue.out_of_accept hacc⟩
  | repeated hc _ _ _ _ _ _ _ => exact absurd ha (not_accepts (by simp [hc]))
  | handedOut hc _ _ _ _ _ _ _ _ => exact absurd ha (not_accepts (by simp [hc]))
  | scheduled hc _ _ _ _ => exact absurd ha (not_accepts (by simp [hc]))
  | deleted hc _ _ _ _ => exact absurd ha (not_accepts (by simp [hc]))
  | swept hc _ _ _ _ => exact absurd ha (not_accepts (by simp [hc]))
  | registered hc _ _ _ => exact absurd ha (not_accepts (by simp [hc]))
  | heard hc _ _ _ => exact absurd ha (not_accepts (by simp [hc]))
  | blocked hc _ _ _ => exact absurd ha (not_accepts (by simp [hc]))
  | none quiet _ _ _ => exact absurd ha (quiet.accepts b)

lemma open_after (hs : e.server.Sound) (hj : e.after.queue.jobs.find? j = some jq)
    (hp : p ∈ jq.openBuckets) :
    (∃ kq, e.server.queue.jobs.find? j = some kq ∧ p ∈ kq.openBuckets) ∨
      ¬ e.server.ids.Drawn p.bucketId.text := by
  cases e.jobEffect hs j with
  | kept hafter _ _ _ => exact Or.inl ⟨jq, hafter ▸ hj, hp⟩
  | @scheduled request buckets _ hsp _ hafter _ =>
    obtain rfl := Option.some.inj (hj.symm.trans hafter)
    rcases List.mem_append.1 ((JobQueue.openBuckets_enqueue _ buckets).subset hp) with hp | hp
    · rw [BucketQueue.jobOr] at hp
      cases hk : e.server.queue.jobs.find? j with
      | none =>
        rw [hk] at hp
        cases hp
      | some kq =>
        rw [hk] at hp
        exact Or.inl ⟨kq, rfl, hp⟩
    · exact Or.inr (splitIntoBuckets?_not_drawn hsp hs.injective hp)
  | @handedOut kq h rest _ hb hpend hafter =>
    obtain rfl := Option.some.inj (hj.symm.trans hafter)
    have hq := hs.queue.jobs j kq hb
    exact Or.inl ⟨kq, hb, (JobQueue.openBuckets_afterHandOut hq hpend).subset hp⟩
  | @recorded kq h request residual _ _ hb hout _ hid _ hr hafter _ =>
    obtain rfl := of_leavesJob hafter hj
    have hmoved := JobQueue.openBuckets_afterRecord (hs.queue.jobs j kq hb) residual hout hid
    rcases List.mem_append.1 (hmoved.subset (List.mem_append_left _ hp)) with hp | hp
    · exact Or.inl ⟨kq, hb, hp⟩
    · rw [Option.mem_toList, hr] at hp
      rw [JobQueue.bucketId_of_residual? hp]
      exact Or.inr (IdSource.next_not_drawn hs.injective)
  | @reclaimed kq ws _ hb hafter =>
    obtain rfl := of_leavesJob hafter hj
    exact Or.inl ⟨kq, hb, JobQueue.openBuckets_reclaimFrom_subset kq ws hp⟩
  | @deleted kq _ hb hafter =>
    obtain rfl := of_leavesJob hafter hj
    exact Or.inl ⟨kq, hb, List.subset_append_right _ _ hp⟩

end Event

def Dispatcher.Spent (d : Dispatcher) (b : BucketId) : Prop :=
  d.ids.Drawn b.text ∧
    ∀ j jq, d.queue.jobs.find? j = some jq → ∀ p ∈ jq.openBuckets, p.bucketId ≠ b

namespace Event

variable {e : Event} {b : BucketId}

lemma spent_after (hs : e.server.Sound) (h : e.server.Spent b) : e.after.Spent b := by
  obtain ⟨n, hn⟩ := ids_after hs.queue
  refine ⟨by rw [hn]; exact h.1.advance n, fun j jq hj p hp => ?_⟩
  rcases open_after hs hj hp with ⟨kq, hk, hp⟩ | hnew
  · exact h.2 j kq hk p hp
  · rintro rfl
    exact hnew h.1

lemma not_accepts_of_spent (hs : e.server.Sound) (h : e.server.Spent b) : ¬ e.Accepts b := by
  intro ha
  obtain ⟨w, r, k, hk, hid, -⟩ := out_of_accepts hs ha
  obtain ⟨j, jq, hj, hk⟩ := BucketQueue.mem_handOuts_iff.1 hk
  exact h.2 j jq hj k.bucket (JobQueue.mem_openBuckets_of_handOut hk) hid

lemma spent_of_accepts (hs : e.server.Sound) (ha : e.Accepts b) : e.after.Spent b := by
  obtain ⟨n, hn⟩ := ids_after hs.queue
  obtain ⟨w, r, k, hk, hid, -⟩ := out_of_accepts hs ha
  obtain ⟨i, iq, hi, hk⟩ := BucketQueue.mem_handOuts_iff.1 hk
  have howner := hs.queue.routed i iq b hi (hid ▸ JobQueue.mem_bucketIds_of_handOut hk)
  refine ⟨by rw [hn]; exact (hs.queue.drawn b i howner).advance n, ?_⟩
  rintro j jq hj p hp rfl
  have ⟨request, _, _, hc, hreq, _⟩ := ha
  -- the job of the bucket has it among its results now, and no other job had it before
  cases e.jobEffect hs j with
  | kept hafter _ _ hacc =>
    exact hacc _ ha (hs.queue.routed j jq _ (hafter ▸ hj) (JobQueue.mem_bucketIds_of_open hp))
  | @recorded kq h _ residual hc' _ _ _ _ _ _ _ hafter _ =>
    obtain rfl := Command.submit.inj (hc.symm.trans hc')
    have hn := ((sound_after hs).queue.jobs j jq hj).nodup
    obtain rfl := of_leavesJob hafter hj
    rw [JobQueue.bucketIds_eq, List.nodup_append] at hn
    refine hn.2.2 _ (List.mem_map_of_mem hp) _ ?_ rfl
    exact List.mem_map.2 ⟨_, List.mem_append_right _ (List.mem_singleton_self _), hreq⟩
  | scheduled hsch _ _ _ _ =>
    obtain ⟨_, hc', -⟩ := hsch
    cases hc.symm.trans hc'
  | handedOut hh _ _ _ => exact not_accepts_of_handsOut hh _ ha
  | reclaimed hc' _ _ => cases hc.symm.trans hc'
  | deleted hdel _ _ =>
    obtain ⟨_, hc', -⟩ := hdel
    cases hc.symm.trans hc'

end Event

namespace Dispatcher

lemma accepts_run {ids : IdSource} (hids : Function.Injective ids.nth)
    (settings : DispatcherSettings) (start : Instant) (commands : List (Instant × Command)) :
    let past := (new settings ids start).history commands
    (∀ x ∈ past, ∀ b, x.Accepts b → ((new settings ids start).run commands).Spent b) ∧
      past.Pairwise fun x y => ∀ b, x.Accepts b → ¬ y.Accepts b := by
  refine (run_induction (d := new settings ids start) (P := fun past d => d.Sound ∧
    (∀ x ∈ past, ∀ b, x.Accepts b → d.Spent b) ∧
      past.Pairwise fun x y => ∀ b, x.Accepts b → ¬ y.Accepts b)
    ⟨sound_new hids settings start, by simp, List.Pairwise.nil⟩ ?_ commands).2
  rintro past e ⟨hs, hspent, hpair⟩
  refine ⟨Event.sound_after hs, List.forall_mem_cons.2 ⟨fun b => Event.spent_of_accepts hs, ?_⟩,
    List.pairwise_cons.2 ⟨fun y hy b hx hb => ?_, hpair⟩⟩
  · exact fun x hx b hb => Event.spent_after hs (hspent x hx b hb)
  · exact Event.not_accepts_of_spent hs (hspent y hy b hb) hx

theorem accepted_iff_currentOwner {ids : IdSource} (hids : Function.Injective ids.nth)
    (settings : DispatcherSettings) (start : Instant) (commands : List (Instant × Command)) :
    let d := (new settings ids start).run commands
    let past := (new settings ids start).history commands
    (∀ now request j bucket, request.signature = d.signature →
      d.roster.isKnown request.workerId = true → d.queue.jobs.contains j = true →
      bucket ∈ placed j (sinceCreated j past) → request.result.bucketId = bucket.bucketId →
      (∀ t ∈ request.result.tests, t ∈ bucket.tests) →
      ((∃ retry, (d.perform now (.submit request)).1 =
          .ok (.submitted (.accepted bucket.bucketId retry))) ↔
        CurrentOwner past bucket.bucketId request.workerId request.requestId) ∧
      (¬ CurrentOwner past bucket.bucketId request.workerId request.requestId →
        ∃ reason, (d.perform now (.submit request)).1 = .ok (.submitted (.ignored reason)) ∧
          (d.perform now (.submit request)).2.queue = d.queue ∧
          (d.perform now (.submit request)).2.roster = d.roster)) ∧
    past.Pairwise fun x y => ∀ b, x.Accepts b → ¬ y.Accepts b := by
  intro d past
  have h : d.Accounts past := accounts_run hids settings start commands
  refine ⟨fun now request j bucket hsig hk hj hb hid ht => ?_,
    (accepts_run hids settings start commands).2⟩
  obtain ⟨jq, hj⟩ := Table.contains_iff.1 hj
  have hanswer : d.perform now (.submit request) =
      answering .submitted ((d.indicateActivity now).settle request) := by
    rw [perform, submitResult_of_known hsig hk]
  rw [hanswer, ← out_iff_currentOwner hids settings start commands]
  have hignored (hout : ¬ d.queue.Out bucket.bucketId request.workerId request.requestId) :=
    settle_of_not_out h hj hb hid hout now
  refine ⟨⟨?_, fun hout => ?_⟩, fun hout => ?_⟩
  · rintro ⟨retry, hr⟩
    by_contra hout
    obtain ⟨reason, hi, -⟩ := hignored hout
    simp [answering, hi, Except.map] at hr
  · obtain ⟨retry, hr⟩ := settle_of_out h hj hb hid ht hout now
    exact ⟨retry, by simp only [answering, hr, Except.map]⟩
  · obtain ⟨reason, hi, hq, ht⟩ := hignored hout
    exact ⟨reason, by simp only [answering, hi, Except.map], hq, ht⟩

theorem accepted_iff_currentOwner_lostBucket :
    let d := (new plainSettings numberedIds .epoch).run lostBucket
    let past := (new plainSettings numberedIds .epoch).history lostBucket
    let bucket : Bucket := ⟨⟨"id-3"⟩, ⟨"j"⟩, 1, [⟨"C", "y", none⟩], .empty, ⟨1, .empty⟩, .standard,
      .empty, 1⟩
    let request : SubmitRequest := ⟨⟨"w"⟩, ⟨"s"⟩, ⟨"id-1"⟩, ⟨⟨"id-3"⟩, []⟩⟩
    Function.Injective numberedIds.nth ∧ request.signature = d.signature ∧
      d.roster.isKnown ⟨"w"⟩ = true ∧ d.queue.jobs.contains ⟨"j"⟩ = true ∧
      bucket ∈ placed ⟨"j"⟩ (sinceCreated ⟨"j"⟩ past) ∧
      (∀ t ∈ request.result.tests, t ∈ bucket.tests) ∧
      CurrentOwner past ⟨"id-3"⟩ ⟨"w"⟩ ⟨"s"⟩ ∧ ¬ CurrentOwner past ⟨"id-3"⟩ ⟨"w"⟩ ⟨"r"⟩ := by
  intro d past bucket request
  have hids : Function.Injective numberedIds.nth := IdSource.sequential_injective "id"
  have hknown : d.roster.isKnown ⟨"w"⟩ = true := by decide
  have hjob : d.queue.jobs.contains ⟨"j"⟩ = true := by decide
  have hplaced : bucket ∈ placed ⟨"j"⟩ (sinceCreated ⟨"j"⟩ past) := by decide
  have htests : ∀ t ∈ request.result.tests, t ∈ bucket.tests := by decide
  have h := (accepted_iff_currentOwner hids plainSettings .epoch lostBucket).1
  have howner := (h .epoch request ⟨"j"⟩ bucket rfl hknown hjob hplaced rfl htests).1
  have hother := (h .epoch ⟨⟨"w"⟩, ⟨"r"⟩, ⟨"id-1"⟩, ⟨⟨"id-3"⟩, []⟩⟩ ⟨"j"⟩ bucket rfl hknown hjob
    hplaced rfl htests).1
  refine ⟨hids, rfl, hknown, hjob, hplaced, htests, howner.1 ⟨some ⟨"id-5"⟩, rfl⟩, fun hc => ?_⟩
  obtain ⟨retry, hr⟩ := hother.2 hc
  cases hr

end Dispatcher

end TestQueue
