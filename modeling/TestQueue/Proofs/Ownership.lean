import TestQueue.Proofs.Reachable

namespace TestQueue

open Time (Instant)

namespace Event

variable {e : Event} {b : BucketId} {w : WorkerId} {r : RequestId}

lemma silences_iff {transitions : List Transition} (hc : e.command = .sweep)
    (ha : e.answer = .ok (.swept transitions)) : e.Silences w ↔ w ∈ silentIn transitions := by
  rw [mem_silentIn_iff]
  constructor
  · rintro ⟨_, -, ha', ht⟩
    rw [ha] at ha'
    obtain rfl : transitions = _ := by simpa using ha'
    exact ht
  · intro ht
    exact ⟨transitions, hc, ha, ht⟩

lemma out_after_of_same (hq : e.after.queue.Out b w r ↔ e.server.queue.Out b w r)
    (hout : ¬ e.HandsOut b w r) (hacc : ¬ e.Accepts b) (hsil : ¬ e.Silences w) :
    e.after.queue.Out b w r ↔
      e.HandsOut b w r ∨ e.server.queue.Out b w r ∧ ¬ e.Accepts b ∧ ¬ e.Silences w := by
  rw [hq]
  tauto

lemma out_after_of_command (hq : e.after.queue.Out b w r ↔ e.server.queue.Out b w r)
    (hf : ∀ request, e.command ≠ .fetch request) (hsub : ∀ request, e.command ≠ .submit request)
    (hsw : e.command ≠ .sweep) : e.after.queue.Out b w r ↔
      e.HandsOut b w r ∨ e.server.queue.Out b w r ∧ ¬ e.Accepts b ∧ ¬ e.Silences w :=
  out_after_of_same hq (not_handsOut hf) (not_accepts hsub) (not_silences hsw)

/-- A bucket is held after an event if the event hands it out, or if it was held before and the
event neither accepts a result for it nor finds the worker silent. -/
theorem out_after (hs : e.server.queue.Sound e.server.ids) : e.after.queue.Out b w r ↔
    e.HandsOut b w r ∨ e.server.queue.Out b w r ∧ ¬ e.Accepts b ∧ ¬ e.Silences w := by
  cases e.effect hs with
  | @repeated request h hc _ hm hf ha hq _ _ =>
    have hacc : ¬ e.Accepts b := not_accepts (by simp [hc])
    have hsil : ¬ e.Silences w := not_silences (by simp [hc])
    rw [hq, handsOut_iff hc ha]
    refine ⟨fun ho => Or.inr ⟨ho, hacc, hsil⟩, ?_⟩
    rintro (⟨rfl, rfl, rfl⟩ | ⟨ho, -⟩)
    · obtain ⟨hw, hr⟩ := HandOut.isFor_iff.1 hf
      exact ⟨h, hm, rfl, hw, hr⟩
    · exact ho
  | @handedOut request j jq bucket rest hc _ hj hp _ ha hq _ _ =>
    have hacc : ¬ e.Accepts b := not_accepts (by simp [hc])
    have hsil : ¬ e.Silences w := not_silences (by simp [hc])
    have hm (h : HandOut) : h ∈ (e.server.queue.put j (jq.afterHandOut rest
        ⟨bucket, request.workerId, request.requestId, e.now⟩)).handOuts ↔
          h = ⟨bucket, request.workerId, request.requestId, e.now⟩ ∨ h ∈ e.server.queue.handOuts :=
      BucketQueue.mem_handOuts_put_handOut hs.toRouted hj hp
    rw [hq, handsOut_iff hc ha]
    simp only [BucketQueue.Out, hm, exists_eq_or_imp, hacc, hsil, not_false_eq_true, and_true]
  | @accepted request retry hc _ hacc ha _ =>
    have hsil : ¬ e.Silences w := not_silences (by simp [hc])
    have hout : ¬ e.HandsOut b w r := not_handsOut (by simp [hc])
    have hm (h : HandOut) := BucketQueue.mem_handOuts_accept (h := h) hs.toRouted hacc
    rw [accepts_iff hc ha]
    simp only [BucketQueue.Out, hm, hsil, hout, false_or, not_false_eq_true, and_true]
    constructor
    · rintro ⟨h, ⟨hh, hne⟩, rfl, hw⟩
      exact ⟨⟨h, hh, rfl, hw⟩, fun he => hne he.symm⟩
    · rintro ⟨⟨h, hh, rfl, hw⟩, hne⟩
      exact ⟨h, ⟨hh, fun he => hne he.symm⟩, rfl, hw⟩
  | scheduled hc _ he _ _ =>
    have hm (h : HandOut) := BucketQueue.mem_handOuts_enqueue (h := h) he
    exact out_after_of_command (by simp only [BucketQueue.Out, hm]) (by simp [hc]) (by simp [hc])
      (by simp [hc])
  | deleted hc hd _ _ _ =>
    have hm (h : HandOut) := BucketQueue.mem_handOuts_delete (h := h) hd
    exact out_after_of_command (by simp only [BucketQueue.Out, hm]) (by simp [hc]) (by simp [hc])
      (by simp [hc])
  | swept hc ha hq _ _ =>
    have hout : ¬ e.HandsOut b w r := not_handsOut (by simp [hc])
    have hacc : ¬ e.Accepts b := not_accepts (by simp [hc])
    have hm (h : HandOut) := BucketQueue.mem_handOuts_reclaimFrom (h := h) hs
      (silentIn (e.server.roster.sweep e.now).1)
    rw [hq, Dispatcher.reclaimAll_eq, silences_iff hc ha]
    simp only [BucketQueue.Out, hm, hout, hacc, false_or, not_false_eq_true, true_and]
    constructor
    · rintro ⟨h, ⟨hh, hne⟩, hb, rfl, hr⟩
      exact ⟨⟨h, hh, hb, rfl, hr⟩, hne⟩
    · rintro ⟨⟨h, hh, hb, rfl, hr⟩, hne⟩
      exact ⟨h, ⟨hh, hne⟩, hb, rfl, hr⟩
  | registered hc _ hq _ =>
    exact out_after_of_command (by rw [hq]) (by simp [hc]) (by simp [hc]) (by simp [hc])
  | heard hc _ hq _ =>
    exact out_after_of_command (by rw [hq]) (by simp [hc]) (by simp [hc]) (by simp [hc])
  | blocked hc _ hq _ =>
    exact out_after_of_command (by rw [hq]) (by simp [hc]) (by simp [hc]) (by simp [hc])
  | none quiet hq _ _ =>
    exact out_after_of_same (by rw [hq]) (quiet.handsOut b w r) (quiet.accepts b)
      (quiet.silences w)

lemma not_accepts_of_handsOut (h : e.HandsOut b w r) (c : BucketId) : ¬ e.Accepts c := by
  obtain ⟨_, _, hc, -⟩ := h
  exact not_accepts (by simp [hc])

lemma not_schedules_of_handsOut (h : e.HandsOut b w r) (j : JobId) (request : ScheduleRequest) :
    ¬ e.Schedules j request := by
  obtain ⟨_, _, hc, -⟩ := h
  exact not_schedules (by simp [hc])

lemma not_silences_of_handsOut (h : e.HandsOut b w r) (v : WorkerId) : ¬ e.Silences v := by
  obtain ⟨_, _, hc, -⟩ := h
  exact not_silences (by simp [hc])

end Event

lemma BucketQueue.Routed.owner_unique {q : BucketQueue} {ids : IdSource} (hs : q.Routed ids)
    {b : BucketId} {v w : WorkerId} {r s : RequestId} (hv : q.Out b v s) (hw : q.Out b w r) :
    v = w ∧ s = r := by
  obtain ⟨h, hh, rfl, rfl, rfl⟩ := hv
  obtain ⟨k, hk, he, rfl, rfl⟩ := hw
  obtain rfl := hs.out_unique hh hk he.symm
  exact ⟨rfl, rfl⟩

lemma Event.owner_of_handsOut {e : Event} (hs : e.server.Sound) {b : BucketId} {v w : WorkerId}
    {r s : RequestId} (hh : e.HandsOut b v s) (ho : e.server.queue.Out b w r) :
    v = w ∧ s = r := by
  have hv := (out_after hs.queue).2 (Or.inl hh)
  have hw := (out_after (w := w) (r := r) hs.queue).2
    (Or.inr ⟨ho, not_accepts_of_handsOut hh b, not_silences_of_handsOut hh w⟩)
  exact (sound_after hs).queue.owner_unique hv hw

lemma Event.out_iff_currentOwner {e : Event} {past : List Event} (hs : e.server.Sound)
    (ih : ∀ b w r, e.server.queue.Out b w r ↔ CurrentOwner past b w r) (b : BucketId)
    (w : WorkerId) (r : RequestId) :
    e.after.queue.Out b w r ↔ CurrentOwner (e :: past) b w r := by
  rw [out_after hs.queue, ih, currentOwner_cons]
  -- without a hand-out to this pair there is none at all, as the bucket is in its hands
  apply or_congr_right'
  intro hn
  constructor
  · rintro ⟨ho, ha, hw⟩
    refine ⟨⟨fun v s hh => ?_, ha, hw⟩, ho⟩
    obtain ⟨rfl, rfl⟩ := owner_of_handsOut hs hh ((ih b w r).2 ho)
    exact hn hh
  · rintro ⟨⟨-, ha, hw⟩, ho⟩
    exact ⟨ho, ha, hw⟩

namespace Dispatcher

variable {ids : IdSource} (hids : Function.Injective ids.nth) (settings : DispatcherSettings)
  (start : Instant) (commands : List (Instant × Command))

include hids

theorem out_iff_currentOwner (b : BucketId) (w : WorkerId) (r : RequestId) :
    ((new settings ids start).run commands).queue.Out b w r ↔
      CurrentOwner ((new settings ids start).history commands) b w r := by
  have hrun := run_induction (d := new settings ids start)
    (P := fun past d => d.Sound ∧ ∀ b w r, d.queue.Out b w r ↔ CurrentOwner past b w r)
    ⟨sound_new hids settings start, ?_⟩ ?_ commands
  · exact hrun.2 b w r
  · intro b w r
    refine ⟨?_, fun h => absurd h (not_currentOwner_nil b w r)⟩
    rintro ⟨h, hh, -⟩
    cases hh
  · rintro past e ⟨hs, ih⟩
    exact ⟨Event.sound_after hs, Event.out_iff_currentOwner hs ih⟩

end Dispatcher

end TestQueue
