import TestQueue.Proofs.Ledger

namespace TestQueue

open Time (Instant)

lemma placed_sinceCreated_cons (j : JobId) (e : Event) (past : List Event) :
    placed j (sinceCreated j (e :: past)) =
      (if e.server.queue.jobs.contains j then placed j (sinceCreated j past) else []) ++
        e.placing j
          (if e.server.queue.jobs.contains j then placed j (sinceCreated j past) else []) := by
  cases hc : e.server.queue.jobs.contains j <;> simp [sinceCreated, placed, hc]

namespace Event

variable {e : Event} {j : JobId} {jq : JobQueue}

lemma exists_open_iff {kq : JobQueue} (h : e.LeavesJob j kq) :
    (∃ jq, e.after.queue.jobs.find? j = some jq ∧ jq.deleted = false) ↔ kq.deleted = false := by
  constructor
  · rintro ⟨jq, hj, hd⟩
    obtain rfl := of_leavesJob h hj
    exact hd
  · intro hd
    have hc : (!kq.isClosed) = true := by simp [JobQueue.isClosed, hd]
    exact ⟨kq, by rw [h, Option.filter_some, if_pos hc], hd⟩

lemma opened_after {past : List Event} (hs : e.server.Sound)
    (ih : Opened past j ↔ ∃ jq, e.server.queue.jobs.find? j = some jq ∧ jq.deleted = false) :
    Opened (e :: past) j ↔ ∃ jq, e.after.queue.jobs.find? j = some jq ∧ jq.deleted = false := by
  rw [opened_cons, ih]
  have step {kq lq : JobQueue} (hsch : ∀ request, ¬ e.Schedules j request) (hdel : ¬ e.Deletes j)
      (hb : e.server.queue.jobs.find? j = some kq) (hafter : e.LeavesJob j lq)
      (hd : lq.deleted = kq.deleted) :
      ((∃ request, e.Schedules j request) ∨ ¬ e.Deletes j ∧
        ∃ jq, e.server.queue.jobs.find? j = some jq ∧ jq.deleted = false) ↔
      ∃ jq, e.after.queue.jobs.find? j = some jq ∧ jq.deleted = false := by
    rw [exists_open_iff hafter, hd]
    simp [hsch, hdel, hb]
  cases e.jobEffect hs j with
  | kept hafter hsch hdel _ =>
    rw [hafter]
    simp [hsch, hdel]
  | @scheduled request _ hsch _ hd hafter _ =>
    exact ⟨fun _ => ⟨_, hafter, hd⟩, fun _ => Or.inl ⟨request, hsch⟩⟩
  | @handedOut kq h rest hh hb hp hafter =>
    obtain ⟨_, _, hc, -⟩ := hh
    have hsch (request) : ¬ e.Schedules j request := not_schedules (by simp [hc])
    have hdel : ¬ e.Deletes j := not_deletes (by simp [hc])
    rw [hafter, hb]
    simp [hsch, hdel, JobQueue.afterHandOut]
  | recorded hc _ hb _ _ _ _ _ hafter _ =>
    exact step (fun _ => not_schedules (by simp [hc])) (not_deletes (by simp [hc])) hb hafter rfl
  | reclaimed hc hb hafter =>
    exact step (fun _ => not_schedules (by simp [hc])) (not_deletes (by simp [hc])) hb hafter
      (JobQueue.deleted_reclaimFrom _ _)
  | @deleted kq hdel hb hafter =>
    have hsch (request) : ¬ e.Schedules j request := by
      obtain ⟨_, hc, -⟩ := hdel
      exact not_schedules (by simp [hc])
    rw [exists_open_iff hafter]
    simp [hsch, hdel, JobQueue.markDeleted]

end Event

namespace Dispatcher

structure Accounts (past : List Event) (d : Dispatcher) : Prop where
  sound : d.Sound
  opened : ∀ j, Opened past j ↔ ∃ jq, d.queue.jobs.find? j = some jq ∧ jq.deleted = false
  accounted : ∀ j jq, d.queue.jobs.find? j = some jq →
    jq.Accounted d.queue.owners j (placed j (sinceCreated j past))

lemma accounts_new {ids : IdSource} (hids : Function.Injective ids.nth)
    (settings : DispatcherSettings) (start : Instant) :
    (new settings ids start).Accounts [] where
  sound := sound_new hids settings start
  opened j := by
    refine ⟨fun h => absurd h (not_opened_nil j), ?_⟩
    rintro ⟨jq, h, -⟩
    cases h
  accounted j jq h := by cases h

lemma accounts_after {past : List Event} {e : Event} (h : e.server.Accounts past) :
    e.after.Accounts (e :: past) where
  sound := Event.sound_after h.sound
  opened j := Event.opened_after h.sound (h.opened j)
  accounted j jq hj := by
    rw [placed_sinceCreated_cons]
    refine Event.accounted_after h.sound (fun kq hk => ?_) (fun hn => ?_) hj
    · rw [if_pos (Table.contains_iff.2 ⟨kq, hk⟩)]
      exact h.accounted j kq hk
    · rw [Table.contains_eq_isSome, hn]
      rfl

theorem accounts_run {ids : IdSource} (hids : Function.Injective ids.nth)
    (settings : DispatcherSettings) (start : Instant) (commands : List (Instant × Command)) :
    ((new settings ids start).run commands).Accounts
      ((new settings ids start).history commands) :=
  run_induction (P := fun past d => d.Accounts past) (accounts_new hids settings start)
    (fun _ _ h => accounts_after h) commands

theorem located_once {ids : IdSource} (hids : Function.Injective ids.nth)
    (settings : DispatcherSettings) (start : Instant) (commands : List (Instant × Command)) :
    let d := (new settings ids start).run commands
    let past := (new settings ids start).history commands
    (d.queue.jobs.values.flatMap JobQueue.bucketIds).Nodup ∧
    (∀ jq ∈ d.queue.jobs.values,
      (∀ b o, jq.outstanding.find? b = some o → o.handOut.bucket.bucketId = b) ∧
      ∀ b, b ∈ jq.finishedIds ↔ ∃ result ∈ jq.finished, result.bucketId = b) ∧
    ∀ j, Opened past j → ∃ jq, d.queue.jobs.find? j = some jq ∧
      ∀ bucket ∈ placed j (sinceCreated j past), jq.bucketIds.count bucket.bucketId = 1 ∧
        (bucket ∈ jq.pending ∨ (∃ h ∈ jq.handOuts, h.bucket = bucket) ∨
          ∃ result ∈ jq.finished, result.bucketId = bucket.bucketId) := by
  have h := accounts_run hids settings start commands
  refine ⟨h.sound.queue.nodup_flatMap fun jq => List.Sublist.refl _, fun jq hm => ?_,
    fun j hj => ?_⟩
  · obtain ⟨j, hj⟩ := Table.mem_values_iff.1 hm
    have hq := h.sound.queue.jobs j jq hj
    exact ⟨hq.keyed, fun b => by rw [hq.recorded]; exact List.mem_map⟩
  · obtain ⟨jq, hjq, hd⟩ := (h.opened j).1 hj
    have ha := h.accounted j jq hjq
    refine ⟨jq, hjq, fun bucket hb => ?_⟩
    have hid : bucket.bucketId ∈ jq.bucketIds :=
      (ha.whole hd).mem_iff.2 (List.mem_map_of_mem hb)
    refine ⟨List.count_eq_one_of_mem (h.sound.queue.jobs j jq hjq).nodup hid, ?_⟩
    rw [JobQueue.bucketIds_eq, List.mem_append] at hid
    rcases hid with hid | hid
    · obtain ⟨p, hp, he⟩ := List.mem_map.1 hid
      obtain rfl := List.inj_on_of_nodup_map ha.nodup (ha.placed hp) hb he
      rcases List.mem_append.1 hp with hp | hp
      · exact Or.inl hp
      · exact Or.inr (Or.inl (List.mem_map.1 hp))
    · exact Or.inr (Or.inr (List.mem_map.1 hid))

theorem located_once_lostBucket : Function.Injective numberedIds.nth ∧
    ∃ jq, ((new plainSettings numberedIds .epoch).run lostBucket).queue.jobs.find? ⟨"j"⟩ =
        some jq ∧ jq.bucketIds = [⟨"id-4"⟩, ⟨"id-3"⟩, ⟨"id-2"⟩] ∧
      ∀ bucket ∈ placed ⟨"j"⟩ (sinceCreated ⟨"j"⟩
          ((new plainSettings numberedIds .epoch).history lostBucket)),
        jq.bucketIds.count bucket.bucketId = 1 := by
  have hids : Function.Injective numberedIds.nth := IdSource.sequential_injective "id"
  have hopen := ((accounts_run hids plainSettings .epoch lostBucket).opened ⟨"j"⟩).2 ⟨_, rfl, rfl⟩
  obtain ⟨-, -, h⟩ := located_once hids plainSettings .epoch lostBucket
  obtain ⟨jq, hjq, hb⟩ := h ⟨"j"⟩ hopen
  refine ⟨hids, jq, hjq, ?_, fun bucket hm => (hb bucket hm).1⟩
  obtain rfl := Option.some.inj hjq
  decide

end Dispatcher

end TestQueue
