import TestQueue.Proofs.BucketQueue.Index
import TestQueue.Proofs.Effect

namespace TestQueue

open Time (Instant)

def silentIn (transitions : List Transition) : List WorkerId :=
  (transitions.filter fun t => t.status = .silent).map Transition.workerId

lemma mem_silentIn_iff {transitions : List Transition} {w : WorkerId} :
    w ∈ silentIn transitions ↔ ∃ t ∈ transitions, t.workerId = w ∧ t.status = .silent := by
  simp only [silentIn, List.mem_map, List.mem_filter, decide_eq_true_eq]
  constructor
  · rintro ⟨t, ⟨ht, hs⟩, rfl⟩
    exact ⟨t, ht, rfl, hs⟩
  · rintro ⟨t, ht, rfl, hs⟩
    exact ⟨t, ⟨ht, hs⟩, rfl⟩

namespace Dispatcher

lemma reclaimAll_eq (q : BucketQueue) (transitions : List Transition) :
    reclaimAll q transitions = q.reclaimFrom (silentIn transitions) := by
  rw [reclaimAll, BucketQueue.reclaimFrom, silentIn, List.foldl_map]

structure Sound (d : Dispatcher) : Prop where
  injective : Function.Injective d.ids.nth
  queue : d.queue.Sound d.ids

lemma sound_new {ids : IdSource} (hids : Function.Injective ids.nth)
    (settings : DispatcherSettings) (start : Instant) : (new settings ids start).Sound where
  injective := hids
  queue := BucketQueue.sound_empty _

end Dispatcher

namespace Event

variable {e : Event}

lemma ids_after (hs : e.server.queue.Sound e.server.ids) :
    ∃ n, e.after.ids = e.server.ids.advance n := by
  cases e.effect hs with
  | repeated _ _ _ _ _ _ _ hids => exact ⟨0, hids⟩
  | handedOut _ _ _ _ _ _ _ _ hids => exact ⟨0, hids⟩
  | accepted _ _ ha _ _ =>
    obtain ⟨_, _, -, -, ⟨_, n, -, -, -, -, hids, -⟩ | ⟨_, hc, -⟩⟩ := BucketQueue.accept_cases ha
    · exact ⟨n, hids⟩
    · cases hc
  | scheduled _ hsp _ _ _ => exact ⟨_, (splitIntoBuckets?_ids hsp).2⟩
  | deleted _ _ _ _ hids => exact ⟨0, hids⟩
  | swept _ _ _ _ hids => exact ⟨0, hids⟩
  | registered _ _ _ hids => exact ⟨0, hids⟩
  | heard _ _ _ hids => exact ⟨0, hids⟩
  | blocked _ _ _ hids => exact ⟨0, hids⟩
  | none _ _ _ hids => exact ⟨_, hids⟩

theorem sound_after (hs : e.server.Sound) : e.after.Sound := by
  obtain ⟨n, hn⟩ := ids_after hs.queue
  refine ⟨by rw [hn]; exact hs.injective, ?_⟩
  cases e.effect hs.queue with
  | repeated _ _ _ _ _ hq _ hids =>
    rw [hq, hids]
    exact hs.queue
  | handedOut _ _ hj hp _ _ hq _ hids =>
    rw [hq, hids]
    exact hs.queue.put_handOut hj hp
  | accepted _ _ ha _ _ => exact hs.queue.accept hs.injective ha
  | scheduled _ hsp he _ _ =>
    obtain ⟨hb, hids⟩ := splitIntoBuckets?_ids hsp
    rw [hids]
    exact hs.queue.enqueue hs.injective he hb
  | deleted _ hd _ _ hids =>
    rw [hids]
    exact hs.queue.delete hd
  | swept _ _ hq _ hids =>
    rw [hq, hids, Dispatcher.reclaimAll_eq]
    exact hs.queue.reclaimFrom _
  | registered _ _ hq hids =>
    rw [hq, hids]
    exact hs.queue
  | heard _ _ hq hids =>
    rw [hq, hids]
    exact hs.queue
  | blocked _ _ hq hids =>
    rw [hq, hids]
    exact hs.queue
  | none _ hq _ hids =>
    rw [hq, hids]
    exact hs.queue.advance _

lemma owners_after (hs : e.server.Sound) {b : BucketId} {k : JobId} {kq : JobQueue}
    (hb : e.server.queue.owners.find? b = some k) (hk : e.after.queue.jobs.find? k = some kq) :
    e.after.queue.owners.find? b = some k := by
  cases e.effect hs.queue with
  | repeated _ _ _ _ _ hq _ _ => rw [hq, hb]
  | handedOut _ _ _ _ _ _ hq _ _ =>
    rw [hq]
    exact hb
  | accepted _ _ ha _ _ => exact BucketQueue.owners_accept hs.injective hs.queue ha hb hk
  | scheduled _ hsp he _ _ =>
    exact BucketQueue.owners_enqueue hs.injective hs.queue he (splitIntoBuckets?_ids hsp).1 hb
  | deleted _ hd _ _ _ => exact BucketQueue.owners_delete hd hb hk
  | swept _ _ hq _ _ =>
    rw [hq, Dispatcher.reclaimAll_eq] at hk ⊢
    exact BucketQueue.owners_reclaimFrom hs.queue _ hb hk
  | registered _ _ hq _ => rw [hq, hb]
  | heard _ _ hq _ => rw [hq, hb]
  | blocked _ _ hq _ => rw [hq, hb]
  | none _ hq _ _ => rw [hq, hb]

lemma of_owners_after (hs : e.server.Sound) {b : BucketId} {k : JobId}
    (hb : e.after.queue.owners.find? b = some k) :
    e.server.queue.owners.find? b = some k ∨ ¬ e.server.ids.Drawn b.text := by
  cases e.effect hs.queue with
  | repeated _ _ _ _ _ hq _ _ => exact Or.inl (hq ▸ hb)
  | handedOut _ _ _ _ _ _ hq _ _ =>
    rw [hq] at hb
    exact Or.inl hb
  | accepted _ _ ha _ _ =>
    refine (BucketQueue.of_owners_accept ha hb).imp_right fun he => ?_
    rw [he]
    exact IdSource.next_not_drawn hs.injective
  | scheduled _ hsp he _ _ =>
    refine (BucketQueue.of_owners_enqueue he hb).imp_right fun hm => ?_
    obtain ⟨p, hp, rfl⟩ := List.mem_map.1 hm
    exact splitIntoBuckets?_not_drawn hsp hs.injective hp
  | deleted _ hd _ _ _ => exact Or.inl (BucketQueue.of_owners_delete hd hb)
  | swept _ _ hq _ _ =>
    rw [hq, Dispatcher.reclaimAll_eq] at hb
    exact Or.inl (BucketQueue.of_owners_reclaimFrom _ hb)
  | registered _ _ hq _ => exact Or.inl (hq ▸ hb)
  | heard _ _ hq _ => exact Or.inl (hq ▸ hb)
  | blocked _ _ hq _ => exact Or.inl (hq ▸ hb)
  | none _ hq _ _ => exact Or.inl (hq ▸ hb)

end Event

namespace Dispatcher

theorem sound_run {ids : IdSource} (hids : Function.Injective ids.nth)
    (settings : DispatcherSettings) (start : Instant) (commands : List (Instant × Command)) :
    ((new settings ids start).run commands).Sound :=
  run_induction (P := fun _ d => d.Sound) (sound_new hids settings start)
    (fun _ _ hs => Event.sound_after hs) commands

end Dispatcher

end TestQueue
