import TestQueue.Proofs.Ownership

/-!
The roster and the queue agree on who holds which bucket.
-/

namespace TestQueue

open Time (Instant)

namespace Dispatcher

/-- What a worker is said to be processing is what the queue has out for it, and only workers that
are alive hold something. -/
structure Agrees (d : Dispatcher) : Prop where
  held : ∀ w b, b ∈ (d.roster.record w).processing.items ↔ ∃ r, d.queue.Out b w r
  idle : ∀ w, (d.roster.record w).status ≠ .alive → (d.roster.record w).processing.items = []

lemma agrees_new (settings : DispatcherSettings) (ids : IdSource) (start : Instant) :
    (new settings ids start).Agrees where
  held w b := by
    constructor
    · intro h
      cases h
    · rintro ⟨r, h, hh, -⟩
      cases hh
  idle w _ := rfl

end Dispatcher

namespace WorkerRecord

variable {r r' : WorkerRecord}

lemma reportAlive_eq_ok {now : Instant} (h : r.reportAlive now = .ok r') :
    r'.status = .alive ∧ r'.processing = r.processing := by
  unfold reportAlive at h
  split at h
  · cases h
  · cases h
  · cases h
    exact ⟨rfl, rfl⟩
  · cases h
    exact ⟨‹_›, rfl⟩

lemma processing_sweep (p : AlivenessPolicy) (now : Instant) (r : WorkerRecord)
    (hidle : r.status ≠ .alive → r.processing.items = []) :
    (r.fallsSilent p now = true ∧ (r.sweep p now).1.processing.items = []) ∨
    (r.fallsSilent p now = false ∧
      (r.sweep p now).1.processing.items = r.processing.items ∧
      ((r.sweep p now).1.status ≠ .alive → r.processing.items = [])) := by
  have hout := sweep_swept p now r
  generalize r.sweep p now = out at *
  cases hout with
  | kept hf => exact Or.inr ⟨hf, rfl, hidle⟩
  | silenced hf => exact Or.inl ⟨hf, rfl⟩
  | silencedAndLost hf => exact Or.inl ⟨hf, rfl⟩
  | lost hf hst =>
    have hnil := hidle (by simp [hst])
    exact Or.inr ⟨hf, hnil.symm, fun _ => hnil⟩

end WorkerRecord

lemma Roster.fallsSilent_iff {t : Roster} {now : Instant} {w : WorkerId} :
    (t.record w).fallsSilent t.policy now = true ↔ w ∈ silentIn (t.sweep now).1 := by
  rw [mem_silentIn_iff]
  constructor
  · exact exists_silent_of_fallsSilent
  · rintro ⟨x, hx, rfl, hs⟩
    exact (reclaimed_of_mem_sweep hx hs).1

namespace Event

variable {e : Event}

lemma held_after (hs : e.server.Sound) (ha : e.server.Agrees) (w : WorkerId) (b : BucketId) :
    (∃ r, e.after.queue.Out b w r) ↔ (∃ r, e.HandsOut b w r) ∨
      b ∈ (e.server.roster.record w).processing.items ∧ ¬ e.Accepts b ∧ ¬ e.Silences w := by
  simp only [out_after hs.queue, exists_or, exists_and_right, ha.held w b]

lemma agrees_after_fetch {request : FetchRequest} {bucket : Bucket} (hs : e.server.Sound)
    (ha : e.server.Agrees) (hc : e.command = .fetch request)
    (hel : e.server.roster.eligibility request.workerId = .eligible)
    (hans : e.answer = .ok (.fetched (.bucket bucket)))
    (hr : e.after.roster = e.server.roster.didDequeue request.workerId bucket.bucketId) :
    e.after.Agrees := by
  have hrec := Roster.record_didDequeue (Roster.isKnown_of_eligible hel) bucket.bucketId
  refine ⟨fun w b => ?_, fun w hst => ?_⟩
  · have hacc : ¬ e.Accepts b := not_accepts (by simp [hc])
    have hsil : ¬ e.Silences w := not_silences (by simp [hc])
    rw [held_after hs ha, hr, hrec]
    simp only [handsOut_iff hc hans, hacc, hsil, not_false_eq_true, and_true, exists_and_left,
      exists_eq']
    split
    · rename_i hw
      subst hw
      rw [WorkerRecord.mem_insert_processing, and_iff_left rfl]
      exact or_congr_left eq_comm
    · rename_i hw
      simp only [Ne.symm hw, and_false, false_or]
  · rw [hr, hrec] at hst ⊢
    split at hst
    · exact absurd (Roster.eligibility_eq_eligible.1 hel).1 hst
    · rename_i hw
      rw [if_neg hw]
      exact ha.idle w hst

lemma agrees_after_submit {request : SubmitRequest} {retry : Option BucketId}
    (hs : e.server.Sound) (ha : e.server.Agrees) (hc : e.command = .submit request)
    (hk : e.server.roster.isKnown request.workerId = true)
    (hout : e.server.queue.Out request.result.bucketId request.workerId request.requestId)
    (hans : e.answer = .ok (.submitted (.accepted request.result.bucketId retry)))
    (hr : e.after.roster =
      e.server.roster.didFinish request.workerId request.result.bucketId) : e.after.Agrees := by
  have hrec := Roster.record_didFinish hk request.result.bucketId
  refine ⟨fun w b => ?_, fun w hst => ?_⟩
  · have hsil : ¬ e.Silences w := not_silences (by simp [hc])
    have hnot : ∀ r, ¬ e.HandsOut b w r := fun r => not_handsOut (by simp [hc])
    rw [held_after hs ha, hr, hrec, accepts_iff hc hans]
    simp only [hnot, hsil, exists_false, false_or, not_false_eq_true, and_true]
    split
    · rename_i hw
      subst hw
      rw [WorkerRecord.mem_erase_processing, ne_comm]
    · rename_i hw
      refine ⟨fun hb => ⟨hb, ?_⟩, And.left⟩
      -- the bucket was in the hands of the sender, not in those of `w`
      rintro rfl
      obtain ⟨r, ho⟩ := (ha.held w _).1 hb
      exact hw (hs.queue.owner_unique ho hout).1
  · rw [hr, hrec] at hst ⊢
    split
    · rename_i hw
      rw [if_pos hw] at hst
      have hnil := ha.idle request.workerId hst
      simp [Ordered.erase, Ordered.filter, hnil]
    · rename_i hw
      rw [if_neg hw] at hst
      exact ha.idle w hst

lemma agrees_after_sweep (hs : e.server.Sound) (ha : e.server.Agrees) (hc : e.command = .sweep)
    (hans : e.answer = .ok (.swept (e.server.roster.sweep e.now).1))
    (hr : e.after.roster = (e.server.roster.sweep e.now).2) : e.after.Agrees := by
  have hcase (w : WorkerId) := WorkerRecord.processing_sweep e.server.roster.policy e.now
    (e.server.roster.record w) (ha.idle w)
  refine ⟨fun w b => ?_, fun w hst => ?_⟩
  · have hacc : ¬ e.Accepts b := not_accepts (by simp [hc])
    have hnot : ∀ r, ¬ e.HandsOut b w r := fun r => not_handsOut (by simp [hc])
    rw [held_after hs ha, hr, Roster.record_sweep, silences_iff hc hans, ← Roster.fallsSilent_iff]
    rcases hcase w with ⟨hf, hn⟩ | ⟨hf, hn, -⟩
    · simp [hf, hn, hnot]
    · simp [hf, hn, hnot, hacc]
  · rw [hr, Roster.record_sweep] at hst ⊢
    rcases hcase w with ⟨-, hn⟩ | ⟨-, hn, hi⟩
    · exact hn
    · rw [hn]
      exact hi hst

lemma agrees_of_kept (hs : e.server.Sound) (ha : e.server.Agrees)
    (hnot : ∀ b w r, ¬ e.HandsOut b w r) (hacc : ∀ b, ¬ e.Accepts b) (hsil : ∀ w, ¬ e.Silences w)
    (hp : ∀ w, (e.after.roster.record w).processing = (e.server.roster.record w).processing)
    (hst : ∀ w, (e.after.roster.record w).status ≠ .alive →
      (e.server.roster.record w).status ≠ .alive) : e.after.Agrees where
  held w b := by
    rw [held_after hs ha, hp]
    simp [hnot, hacc, hsil]
  idle w h := by
    rw [hp]
    exact ha.idle w (hst w h)

lemma agrees_of_record {w : WorkerId} {r : WorkerRecord} (hs : e.server.Sound)
    (ha : e.server.Agrees) (hf : ∀ request, e.command ≠ .fetch request)
    (hsub : ∀ request, e.command ≠ .submit request) (hsw : e.command ≠ .sweep)
    (hrec : ∀ v, e.after.roster.record v = if v = w then r else e.server.roster.record v)
    (hp : r.processing = (e.server.roster.record w).processing)
    (hst : r.status ≠ .alive → (e.server.roster.record w).status ≠ .alive) : e.after.Agrees := by
  refine agrees_of_kept hs ha (fun _ _ _ => not_handsOut hf) (fun _ => not_accepts hsub)
    (fun _ => not_silences hsw) (fun v => ?_) fun v hv => ?_
  · rw [hrec]
    split
    · rename_i he
      rw [he, hp]
    · rfl
  · rw [hrec] at hv
    split at hv
    · rename_i he
      exact he ▸ hst hv
    · exact hv

theorem agrees_after (hs : e.server.Sound) (ha : e.server.Agrees) : e.after.Agrees := by
  have same (hf : ∀ request, e.command ≠ .fetch request)
      (hsub : ∀ request, e.command ≠ .submit request) (hsw : e.command ≠ .sweep)
      (hr : e.after.roster = e.server.roster) : e.after.Agrees :=
    agrees_of_kept hs ha (fun _ _ _ => not_handsOut hf) (fun _ => not_accepts hsub)
      (fun _ => not_silences hsw) (by simp [hr]) (by simp [hr])
  cases e.effect hs.queue with
  | repeated hc hel _ _ hans _ hr _ => exact agrees_after_fetch hs ha hc hel hans hr
  | handedOut hc hel _ _ _ hans _ hr _ => exact agrees_after_fetch hs ha hc hel hans hr
  | accepted hc hk hacc hans hr =>
    exact agrees_after_submit hs ha hc hk (hs.queue.out_of_accept hacc) hans hr
  | swept hc hans _ hr _ => exact agrees_after_sweep hs ha hc hans hr
  | scheduled hc _ _ _ hr => exact same (by simp [hc]) (by simp [hc]) (by simp [hc]) hr
  | deleted hc _ _ hr _ => exact same (by simp [hc]) (by simp [hc]) (by simp [hc]) hr
  | @registered w _ c hc hr _ _ =>
    have hrec (v : WorkerId) : e.after.roster.record v =
        if v = w then (e.server.roster.record w).register c e.now
        else e.server.roster.record v := by
      rw [hr, Roster.record_register]
    exact agrees_of_record hs ha (by simp [hc]) (by simp [hc]) (by simp [hc]) hrec rfl
      fun h => absurd rfl h
  | heard hc hrep _ _ =>
    obtain ⟨r, hr, hrec⟩ := Roster.reportAlive_eq_ok hrep
    obtain ⟨hst, hp⟩ := WorkerRecord.reportAlive_eq_ok hr
    exact agrees_of_record hs ha (by simp [hc]) (by simp [hc]) (by simp [hc]) hrec hp
      fun h => absurd hst h
  | blocked hc hb _ _ =>
    exact agrees_of_record hs ha (by simp [hc]) (by simp [hc]) (by simp [hc])
      (Roster.setBlocked_eq_ok hb) rfl id
  | none quiet _ hr _ =>
    exact agrees_of_kept hs ha quiet.handsOut quiet.accepts quiet.silences (by simp [hr])
      (by simp [hr])

lemma eligible_of_out_after (hs : e.server.Sound) {b : BucketId} {w : WorkerId} {r : RequestId}
    (hout : e.after.queue.Out b w r) (hnew : ¬ e.server.queue.Out b w r) :
    ∃ request, e.command = .fetch request ∧ request.workerId = w ∧ request.requestId = r ∧
      e.server.roster.eligibility w = .eligible := by
  have hh : e.HandsOut b w r :=
    ((out_after hs.queue).1 hout).resolve_right fun h => hnew h.1
  obtain ⟨request, bucket, hc, rfl, hr, hans, -⟩ := hh
  rw [answer, hc] at hans
  exact ⟨request, hc, rfl, hr, (may_fetch hans).2⟩

end Event

namespace Dispatcher

section

variable {d : Dispatcher} (hs : d.Sound) (ha : d.Agrees)

include hs ha

lemma processing_perm (w : WorkerId) :
    (d.roster.record w).processing.items.Perm (d.queue.heldIds w) := by
  refine (List.perm_ext_iff_of_nodup (Ordered.nodup_items _) (hs.queue.nodup_heldIds w)).2
    fun b => ?_
  rw [ha.held, BucketQueue.mem_heldIds_iff]

omit hs in
lemma alive_of_mem_handOuts {h : HandOut} (hh : h ∈ d.queue.handOuts) :
    (d.roster.record h.workerId).status = .alive := by
  by_contra hst
  have hb := (ha.held h.workerId h.bucket.bucketId).2 ⟨h.requestId, h, hh, rfl, rfl, rfl⟩
  rw [ha.idle _ hst] at hb
  cases hb

omit hs in
lemma heldIds_eq_nil {w : WorkerId} (hst : (d.roster.record w).status ≠ .alive) :
    d.queue.heldIds w = [] := by
  apply List.eq_nil_iff_forall_not_mem.2
  intro b hb
  have hb' := (ha.held w b).2 (BucketQueue.mem_heldIds_iff.1 hb)
  rw [ha.idle w hst] at hb'
  cases hb'

open scoped List in
lemma reclaimed_perm {now : Instant} {before later : List Transition} {t : Transition}
    (he : (d.roster.sweep now).1 = before ++ t :: later) (ht : t.status = .silent) :
    t.reclaimed.Perm ((reclaimAll d.queue before).reclaim t.workerId).1 := by
  have hmem : t ∈ (d.roster.sweep now).1 := by simp [he]
  have hnot : t.workerId ∉ silentIn before := by
    rw [mem_silentIn_iff]
    rintro ⟨x, hx, hid, hst⟩
    have hpair := d.roster.pairwise_sweep now
    rw [he, List.pairwise_append] at hpair
    exact hpair.2.2 x hx t List.mem_cons_self hst ht hid
  rw [(Roster.reclaimed_of_mem_sweep hmem ht).2, reclaimAll_eq]
  calc (d.roster.record t.workerId).processing.items
    _ ~ d.queue.heldIds t.workerId := processing_perm hs ha _
    _ ~ (d.queue.reclaimFrom (silentIn before)).heldIds t.workerId :=
      (BucketQueue.heldIds_reclaimFrom hs.queue hnot).symm
    _ ~ ((d.queue.reclaimFrom (silentIn before)).reclaim t.workerId).1 :=
      (BucketQueue.reclaim_perm _ _).symm

end

lemma agrees_run {ids : IdSource} (hids : Function.Injective ids.nth)
    (settings : DispatcherSettings) (start : Instant) (commands : List (Instant × Command)) :
    ((new settings ids start).run commands).Agrees := by
  refine (run_induction (d := new settings ids start) (P := fun _ d => d.Sound ∧ d.Agrees)
    ⟨sound_new hids settings start, agrees_new settings ids start⟩ ?_ commands).2
  exact fun _ _ h => ⟨Event.sound_after h.1, Event.agrees_after h.1 h.2⟩

theorem processing_eq_held {ids : IdSource} (hids : Function.Injective ids.nth)
    (settings : DispatcherSettings) (start : Instant) (commands : List (Instant × Command)) :
    let d := (new settings ids start).run commands
    (∀ w, (d.roster.record w).processing.items.Perm (d.queue.heldIds w)) ∧
    (∀ h ∈ d.queue.handOuts, (d.roster.record h.workerId).status = .alive) ∧
    (∀ w, (d.roster.record w).status = .silent ∨ (d.roster.record w).status = .lost →
      d.queue.heldIds w = []) ∧
    (∀ now transitions before t later,
      (d.perform now .sweep).1 = .ok (.swept transitions) →
      transitions = before ++ t :: later → t.status = .silent →
      t.reclaimed.Perm ((reclaimAll d.queue before).reclaim t.workerId).1) ∧
    ∀ now c b w r, (d.perform now c).2.queue.Out b w r → ¬ d.queue.Out b w r →
      ∃ request, c = .fetch request ∧ request.workerId = w ∧ request.requestId = r ∧
        (d.roster.record w).status = .alive ∧ (d.roster.record w).blocked = false := by
  obtain ⟨hs, ha⟩ := run_induction (d := new settings ids start)
    (P := fun _ d => d.Sound ∧ d.Agrees)
    ⟨sound_new hids settings start, agrees_new settings ids start⟩
    (fun _ _ h => ⟨Event.sound_after h.1, Event.agrees_after h.1 h.2⟩) commands
  refine ⟨processing_perm hs ha, fun h hh => alive_of_mem_handOuts ha hh, fun w hw => ?_, ?_, ?_⟩
  · apply heldIds_eq_nil ha
    rcases hw with hw | hw <;> rw [hw] <;> decide
  · intro now transitions before t later hans he ht
    obtain rfl : _ = transitions := by simpa [perform, sweep] using hans
    exact reclaimed_perm hs ha he ht
  · intro now c b w r hout hnew
    obtain ⟨request, hc, hw, hr, hel⟩ := Event.eligible_of_out_after
      (e := ⟨(new settings ids start).run commands, now, c⟩) hs hout hnew
    obtain ⟨hst, hb⟩ := Roster.eligibility_eq_eligible.1 hel
    exact ⟨request, hc, hw, hr, hst, hb⟩

theorem processing_eq_held_lostBucket : Function.Injective numberedIds.nth ∧
    (((new plainSettings numberedIds .epoch).run lostBucket).roster.record
      ⟨"w"⟩).processing.items.Perm [⟨"id-3"⟩] := by
  have hids : Function.Injective numberedIds.nth := IdSource.sequential_injective "id"
  have h := (processing_eq_held hids plainSettings .epoch lostBucket).1 ⟨"w"⟩
  have hheld : ((new plainSettings numberedIds .epoch).run lostBucket).queue.heldIds ⟨"w"⟩ =
      [⟨"id-3"⟩] := by decide
  exact ⟨hids, hheld ▸ h⟩

end Dispatcher

end TestQueue
