import TestQueue.Proofs.BucketQueue.Index
import TestQueue.Proofs.BucketQueue.Run

/-!
Runs of a queue in which no bucket gets an identifier that another one has had.
-/

namespace TestQueue

open Time (Instant)

def Acceptance.retry? : Acceptance → Option BucketId
  | .accepted _ retry => retry
  | .stale _ => none

namespace JobQueue

variable {q q' : JobQueue} {h : HandOut} {result : BucketResult} {w : WorkerId} {r : RequestId}
  {ids ids' left : IdSource} {a : Acceptance}

lemma residual?_of_next
    (hn : ∀ bucket, q.residual? h result ids = some bucket → bucket.bucketId = ⟨ids'.next⟩) :
    q.residual? h result ids' = q.residual? h result ids := by
  cases hr : q.residual? h result ids with
  | none =>
    unfold residual? retry Bucket.residual? at hr ⊢
    split at hr
    · rw [if_pos ‹_›]
    · dsimp only at hr
      rw [if_neg ‹_›]
      split at hr
      · exact if_pos ‹_›
      · cases hr
  | some bucket =>
    have hid := (bucketId_of_residual? hr).symm.trans (hn bucket hr)
    unfold residual? retry at hr ⊢
    rw [← hid]
    split at hr
    · cases hr
    · rw [if_neg ‹_›]
      exact hr

lemma accept_of_retry (hn : ∀ b, a.retry? = some b → b = ⟨ids'.next⟩)
    (hacc : q.accept result w r ids = .ok (a, q', left)) :
    ∃ n, left = ids.advance n ∧ q.accept result w r ids' = .ok (a, q', ids'.advance n) := by
  unfold accept at hacc ⊢
  dsimp only at hacc ⊢
  cases ho : q.outstanding.find? result.bucketId with
  | none =>
    simp only [ho, Except.ok.injEq, Prod.mk.injEq] at hacc ⊢
    exact ⟨0, hacc.2.2.symm, hacc.1, hacc.2.1, rfl⟩
  | some o =>
    simp only [ho] at hacc ⊢
    split at hacc
    · split at hacc
      · cases hacc
      · obtain ⟨n, hrec⟩ := q.exists_record_eq o.handOut result
        simp only [(hrec ids).1, Except.ok.injEq, Prod.mk.injEq] at hacc
        obtain ⟨rfl, rfl, rfl⟩ := hacc
        have hsame := residual?_of_next fun bucket hb =>
          hn _ (by rw [Acceptance.retry?, hb, Option.map_some])
        rw [if_pos ‹_›, (hrec ids').1, hsame]
        exact ⟨n, rfl, rfl⟩
    · simp only [Except.ok.injEq, Prod.mk.injEq] at hacc
      rw [if_neg ‹_›]
      exact ⟨0, hacc.2.2.symm, by rw [hacc.1, hacc.2.1]; rfl⟩

end JobQueue

namespace BucketQueue

variable {q q' : BucketQueue} {ids ids' ids'' : IdSource} {j k : JobId} {jq : JobQueue}
  {b : BucketId} {result : BucketResult} {w : WorkerId} {r : RequestId} {a : Acceptance}

lemma accept_of_retry (hn : ∀ b, a.retry? = some b → b = ⟨ids''.next⟩)
    (h : q.accept result w r ids = .ok (a, q', ids')) :
    ∃ left, q.accept result w r ids'' = .ok (a, q', left) := by
  unfold accept at h ⊢
  split at h
  · cases h
  · split at h
    · cases h
    · rename_i jq _
      cases hjob : jq.accept result w r ids with
      | error e =>
        rw [hjob] at h
        cases h
      | ok x =>
        obtain ⟨a', jq', ids₁⟩ := x
        rw [hjob] at h
        simp only [bind, Except.bind, Except.ok.injEq, Prod.mk.injEq] at h
        obtain ⟨rfl, rfl, -⟩ := h
        obtain ⟨n, -, hleft⟩ := JobQueue.accept_of_retry hn hjob
        simp only [hleft]
        exact ⟨_, rfl⟩

lemma of_owners_accept_retry (h : q.accept result w r ids = .ok (a, q', ids'))
    (hb : q'.owners.find? b = some k) : q.owners.find? b = some k ∨ a.retry? = some b := by
  obtain ⟨j, jq, -, -, ⟨o, n, -, -, -, rfl, -, -, rfl⟩ | ⟨why, -, -, rfl, -⟩⟩ := accept_cases h
  · have hb' := of_owners_finalize hb
    rw [find?_assign] at hb'
    split at hb'
    · rename_i hm
      obtain ⟨bucket, hr, rfl⟩ := List.mem_map.1 hm
      exact Or.inr (by rw [Acceptance.retry?, Option.mem_toList.1 hr, Option.map_some])
    · exact Or.inl hb'
  · exact Or.inl (of_owners_finalize hb)

lemma Sound.renew (hs : q.Sound ids)
    (h : ∀ b j, q.owners.find? b = some j → ids'.Drawn b.text) : q.Sound ids' :=
  { hs with drawn := h }

lemma Sound.dequeue (hs : q.Sound ids) (w : WorkerId) (r : RequestId) (now : Instant) :
    (q.dequeue w r now).2.Sound ids := by
  rcases dequeue_cases hs.toRouted w r now with
    ⟨h, -, -, hd⟩ | ⟨j, jq, bucket, rest, hj, hp, -, hd⟩ | ⟨a, -, hd⟩
  · rw [hd]
    exact hs
  · rw [hd]
    exact hs.put_handOut hj hp
  · rw [hd]
    exact hs

lemma job_of_put {kq jq' : JobQueue} (hk : q.jobs.find? k = some kq)
    (hj : (q.put k jq).jobs.find? j = some jq') (hjob : jq.job = kq.job)
    (hdel : kq.deleted = true → jq.deleted = true) :
    ∃ lq, q.jobs.find? j = some lq ∧ jq'.job = lq.job ∧
      (lq.deleted = true → jq'.deleted = true) := by
  rw [find?_put] at hj
  split at hj
  · rename_i he
    obtain rfl := Option.some.inj hj
    exact ⟨kq, he ▸ hk, hjob, hdel⟩
  · exact ⟨jq', hj, rfl, id⟩

lemma owners_dequeue (q : BucketQueue) (w : WorkerId) (r : RequestId) (now : Instant) :
    (q.dequeue w r now).2.owners = q.owners := by
  unfold BucketQueue.dequeue
  split
  · rfl
  · split <;> rfl

lemma nextSequence_dequeue (q : BucketQueue) (w : WorkerId) (r : RequestId) (now : Instant) :
    (q.dequeue w r now).2.nextSequence = q.nextSequence := by
  unfold BucketQueue.dequeue
  split
  · rfl
  · split <;> rfl

/-- A queue, and all identifiers that its buckets have had. -/
structure Stage where
  queue : BucketQueue
  used : List BucketId

namespace Stage

def start : Stage := ⟨.empty, []⟩

inductive Move (s : Stage) : Stage → Prop
  | enqueue {j : JobId} {priority : Priority} {buckets : List Bucket} {job : PrioritizedJob}
      {q' : BucketQueue} (fresh : (s.used ++ buckets.map Bucket.bucketId).Nodup)
      (done : s.queue.enqueue j priority buckets = .ok (job, q')) :
      Move s ⟨q', s.used ++ buckets.map Bucket.bucketId⟩
  | dequeue (w : WorkerId) (r : RequestId) (now : Instant) :
      Move s ⟨(s.queue.dequeue w r now).2, s.used⟩
  | accept {result : BucketResult} {w : WorkerId} {r : RequestId} {ids ids' : IdSource}
      {a : Acceptance} {q' : BucketQueue} (fresh : (s.used ++ a.retry?.toList).Nodup)
      (done : s.queue.accept result w r ids = .ok (a, q', ids')) :
      Move s ⟨q', s.used ++ a.retry?.toList⟩
  | reclaim (w : WorkerId) : Move s ⟨(s.queue.reclaim w).2, s.used⟩
  | delete {j : JobId} {state : JobState} {q' : BucketQueue}
      (done : s.queue.delete j = .ok (state, q')) : Move s ⟨q', s.used⟩

def Leads : Stage → Stage → Prop := Relation.ReflTransGen Move

structure Sound (s : Stage) : Prop where
  nodup : s.used.Nodup
  queue : ∀ ids, (∀ b ∈ s.used, ids.Drawn b.text) → s.queue.Sound ids

lemma sound_start : start.Sound where
  nodup := List.nodup_nil
  queue ids _ := sound_empty ids

namespace Sound

variable {s s' : Stage} (hs : s.Sound)

include hs

lemma exists_source {new : List BucketId} (h : (s.used ++ new).Nodup) :
    ∃ ids, Function.Injective ids.nth ∧ s.queue.Sound ids ∧
      (∀ b : BucketId, ids.Drawn b.text ↔ b ∈ s.used) ∧
      (ids.upcoming new.length).map BucketId.mk = new := by
  obtain ⟨ids, hinj, hdrawn, hnew⟩ := IdSource.exists_source h
  exact ⟨ids, hinj, hs.queue ids fun b hb => (hdrawn b).2 hb, hdrawn, hnew⟩

lemma exists_sound : ∃ ids, s.queue.Sound ids ∧ ∀ b : BucketId, ids.Drawn b.text ↔ b ∈ s.used := by
  have hnil : (s.used ++ []).Nodup := by simpa using hs.nodup
  obtain ⟨ids, -, hq, hdrawn, -⟩ := hs.exists_source hnil
  exact ⟨ids, hq, hdrawn⟩

lemma used_of_owner {b : BucketId} {j : JobId} (hb : s.queue.owners.find? b = some j) :
    b ∈ s.used := by
  obtain ⟨ids, hq, hdrawn⟩ := hs.exists_sound
  exact (hdrawn b).1 (hq.drawn b j hb)

lemma enqueue {j : JobId} {priority : Priority} {buckets : List Bucket} {job : PrioritizedJob}
    {q' : BucketQueue} (fresh : (s.used ++ buckets.map Bucket.bucketId).Nodup)
    (done : s.queue.enqueue j priority buckets = .ok (job, q')) :
    Sound ⟨q', s.used ++ buckets.map Bucket.bucketId⟩ where
  nodup := fresh
  queue ids hids := by
    -- the identifiers come from anywhere, so a source is chosen that would draw just these
    obtain ⟨src, hinj, hq, -, hnew⟩ := hs.exists_source fresh
    refine (hq.enqueue hinj done hnew.symm).renew fun b k hb => hids b (List.mem_append.2 ?_)
    exact (of_owners_enqueue done hb).imp_left hs.used_of_owner

lemma accept {result : BucketResult} {w : WorkerId} {r : RequestId} {ids ids' : IdSource}
    {a : Acceptance} {q' : BucketQueue} (fresh : (s.used ++ a.retry?.toList).Nodup)
    (done : s.queue.accept result w r ids = .ok (a, q', ids')) :
    Sound ⟨q', s.used ++ a.retry?.toList⟩ where
  nodup := fresh
  queue other hother := by
    obtain ⟨src, hinj, hq, -, hnew⟩ := hs.exists_source fresh
    have hnext (b : BucketId) (hb : a.retry? = some b) : b = ⟨src.next⟩ := by
      rw [hb] at hnew
      exact (List.head_eq_of_cons_eq hnew).symm
    obtain ⟨left, hleft⟩ := accept_of_retry hnext done
    refine (hq.accept hinj hleft).renew fun b k hb => hother b (List.mem_append.2 ?_)
    exact (of_owners_accept_retry done hb).imp hs.used_of_owner Option.mem_toList.2

theorem move (m : s.Move s') : s'.Sound := by
  cases m with
  | enqueue fresh done => exact hs.enqueue fresh done
  | dequeue w r now => exact ⟨hs.nodup, fun ids hids => (hs.queue ids hids).dequeue w r now⟩
  | accept fresh done => exact hs.accept fresh done
  | reclaim w => exact ⟨hs.nodup, fun ids hids => (hs.queue ids hids).reclaim w⟩
  | delete done => exact ⟨hs.nodup, fun ids hids => (hs.queue ids hids).delete done⟩

omit hs in
lemma leads (hs : s.Sound) (h : s.Leads s') : s'.Sound := by
  induction h with
  | refl => exact hs
  | tail _ m ih => exact ih.move m

end Sound

section

variable {s s' : Stage} {j k : JobId} {b : BucketId}

lemma used_subset_of_move (m : s.Move s') : s.used ⊆ s'.used := by
  cases m with
  | enqueue => exact List.subset_append_left _ _
  | dequeue => exact List.Subset.refl _
  | accept => exact List.subset_append_left _ _
  | reclaim => exact List.Subset.refl _
  | delete => exact List.Subset.refl _

lemma of_owners_move (m : s.Move s') (hb : b ∈ s.used) (h : s'.queue.owners.find? b = some k) :
    s.queue.owners.find? b = some k := by
  cases m with
  | enqueue fresh done =>
    refine (of_owners_enqueue done h).resolve_right fun hm => ?_
    exact (List.nodup_append.1 fresh).2.2 b hb b hm rfl
  | dequeue w r now => rwa [owners_dequeue] at h
  | accept fresh done =>
    refine (of_owners_accept_retry done h).resolve_right fun hr => ?_
    exact (List.nodup_append.1 fresh).2.2 b hb b (Option.mem_toList.2 hr) rfl
  | reclaim w => exact of_owners_reclaim h
  | delete done => exact of_owners_delete done h

lemma job_of_move (hs : s.Sound) (m : s.Move s') {jq' : JobQueue}
    (hj : s'.queue.jobs.find? j = some jq') :
    (∃ jq, s.queue.jobs.find? j = some jq ∧ jq'.job = jq.job ∧
      (jq.deleted = true → jq'.deleted = true)) ∨
    s.queue.jobs.find? j = none ∧ jq'.job.sequence = s.queue.nextSequence := by
  obtain ⟨ids, hq, -⟩ := hs.exists_sound
  cases m with
  | @enqueue k priority buckets job q' fresh done =>
    have hj' : q'.jobs.find? j = some jq' := hj
    rw [(enqueue_eq_ok done).2.2.1] at hj'
    split at hj'
    · rename_i he
      subst he
      obtain rfl := Option.some.inj hj'
      cases hf : s.queue.jobs.find? j with
      | none => exact Or.inr ⟨rfl, by rw [jobOr, hf]; rfl⟩
      | some jq =>
        refine Or.inl ⟨jq, rfl, ?_⟩
        rw [jobOr, hf]
        exact ⟨rfl, id⟩
    · exact Or.inl ⟨jq', hj', rfl, id⟩
  | dequeue w r now =>
    change (s.queue.dequeue w r now).2.jobs.find? j = some jq' at hj
    rcases dequeue_cases hq.toRouted w r now with
      ⟨h, -, -, hd⟩ | ⟨k, kq, bucket, rest, hk, hp, -, hd⟩ | ⟨a, -, hd⟩
    · rw [hd] at hj
      exact Or.inl ⟨jq', hj, rfl, id⟩
    · rw [hd] at hj
      exact Or.inl (job_of_put hk hj rfl id)
    · rw [hd] at hj
      exact Or.inl ⟨jq', hj, rfl, id⟩
  | accept fresh done =>
    obtain ⟨k, kq, -, hk, ⟨o, n, -, -, -, -, -, -, rfl⟩ | ⟨why, -, -, rfl, -⟩⟩ := accept_cases done
    · exact Or.inl (job_of_put hk (of_find?_finalize hj).1 rfl id)
    · exact Or.inl ⟨jq', (of_find?_finalize hj).1, rfl, id⟩
  | reclaim w =>
    change (s.queue.reclaim w).2.jobs.find? j = some jq' at hj
    rw [find?_reclaim hq.settled, Option.filter_eq_some_iff, Option.map_eq_some_iff] at hj
    obtain ⟨⟨jq, hj, rfl⟩, -⟩ := hj
    exact Or.inl ⟨jq, hj, rfl, id⟩
  | delete done =>
    obtain ⟨kq, hk, -, rfl⟩ := delete_cases done
    exact Or.inl (job_of_put hk (of_find?_finalize hj).1 rfl fun _ => rfl)

lemma nextSequence_le_of_move (m : s.Move s') : s.queue.nextSequence ≤ s'.queue.nextSequence := by
  have finalized (q : BucketQueue) (k : JobId) (hq : q.nextSequence = s.queue.nextSequence) :
      s.queue.nextSequence ≤ (q.finalize k).nextSequence := by
    rw [nextSequence_finalize, hq]
  cases m with
  | @enqueue k priority buckets job q' fresh done =>
    simp only [BucketQueue.enqueue, job?_withJob, bind, Except.bind] at done
    split at done
    · cases done
    · obtain ⟨-, rfl⟩ : _ = job ∧ _ = q' := by simpa using done
      change s.queue.nextSequence ≤ (s.queue.withJob k priority).nextSequence
      unfold withJob
      split
      · exact Nat.le_refl _
      · exact Nat.le_succ _
  | dequeue w r now => exact (nextSequence_dequeue s.queue w r now).ge
  | accept fresh done =>
    obtain ⟨k, kq, -, -, ⟨o, n, -, -, -, -, -, -, rfl⟩ | ⟨why, -, -, rfl, -⟩⟩ := accept_cases done
    · exact finalized _ k rfl
    · exact finalized _ k rfl
  | reclaim w => exact (within_reclaim s.queue w).numbers.ge
  | delete done =>
    obtain ⟨kq, -, -, rfl⟩ := delete_cases done
    exact finalized _ _ rfl

lemma step_of_move (m : s.Move s') : s.queue.Step s'.queue := by
  cases m with
  | enqueue _ done => exact .enqueue done
  | dequeue w r now => exact .dequeue w r now
  | accept _ done => exact .accept done
  | reclaim w => exact .reclaim w
  | delete done => exact .delete done

lemma ranked_of_leads (h : start.Leads s) : s.queue.Ranked := by
  induction h with
  | refl => exact ranked_empty
  | tail _ m ih => exact ih.step (step_of_move m)

end

end Stage

end BucketQueue

end TestQueue
