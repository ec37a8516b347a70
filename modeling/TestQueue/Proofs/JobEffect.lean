import TestQueue.Proofs.Ownership

namespace TestQueue

open Time (Instant)

namespace Event

def LeavesJob (e : Event) (j : JobId) (jq : JobQueue) : Prop :=
  e.after.queue.jobs.find? j = (some jq).filter fun jq => !jq.isClosed

inductive JobEffect (e : Event) (j : JobId) : Prop
  | kept (after : e.after.queue.jobs.find? j = e.server.queue.jobs.find? j)
      (schedules : ∀ request, ¬ e.Schedules j request) (deletes : ¬ e.Deletes j)
      (accepts : ∀ b, e.Accepts b → e.server.queue.owners.find? b ≠ some j)
  | scheduled {request : ScheduleRequest} {buckets : List Bucket}
      (schedules : e.Schedules j request)
      (split : splitIntoBuckets? request.tests
        (request.workerCount.getD e.server.defaultWorkerCount) request.strategy request.template
        e.server.ids = some (buckets, e.after.ids))
      (kept : (e.server.queue.jobOr j request.priority).deleted = false)
      (after : e.after.queue.jobs.find? j =
        some ((e.server.queue.jobOr j request.priority).enqueue buckets))
      (owners : ∀ p ∈ buckets, e.after.queue.owners.find? p.bucketId = some j)
  | handedOut {jq : JobQueue} {h : HandOut} {rest : List Bucket}
      (handsOut : e.HandsOut h.bucket.bucketId h.workerId h.requestId)
      (before : e.server.queue.jobs.find? j = some jq) (pending : jq.pending = h.bucket :: rest)
      (after : e.after.queue.jobs.find? j = some (jq.afterHandOut rest h))
  | recorded {jq : JobQueue} {h : HandOut} {request : SubmitRequest} {residual : Option Bucket}
      (command : e.command = .submit request)
      (answer : e.answer = .ok (.submitted (.accepted request.result.bucketId
        (residual.map Bucket.bucketId))))
      (before : e.server.queue.jobs.find? j = some jq) (out : h ∈ jq.handOuts)
      (isFor : h.isFor request.workerId request.requestId = true)
      (bucketId : request.result.bucketId = h.bucket.bucketId)
      (tests : ∀ t ∈ request.result.tests, t ∈ h.bucket.tests)
      (retry : residual = jq.residual? h request.result e.server.ids)
      (after : e.LeavesJob j (jq.afterRecord h request.result residual))
      (owners : ∀ p ∈ residual, e.after.queue.jobs.find? j ≠ none →
        e.after.queue.owners.find? p.bucketId = some j)
  | reclaimed {jq : JobQueue} {ws : List WorkerId} (command : e.command = .sweep)
      (before : e.server.queue.jobs.find? j = some jq) (after : e.LeavesJob j (jq.reclaimFrom ws))
  | deleted {jq : JobQueue} (deletes : e.Deletes j)
      (before : e.server.queue.jobs.find? j = some jq) (after : e.LeavesJob j jq.markDeleted)

variable {e : Event} {j : JobId}

lemma jobEffect_of_same (hj : e.after.queue.jobs.find? j = e.server.queue.jobs.find? j)
    (hsch : ∀ request, e.command ≠ .schedule request) (hdel : e.command ≠ .deleteJob j)
    (hsub : ∀ request, e.command ≠ .submit request) : e.JobEffect j :=
  .kept hj (fun _ => not_schedules hsch) (not_deletes hdel)
    (fun _ h => absurd h (not_accepts hsub))

lemma jobEffect_of_accept {request : SubmitRequest} {retry : Option BucketId} (hs : e.server.Sound)
    (hc : e.command = .submit request)
    (ha : e.server.queue.accept request.result request.workerId request.requestId
      e.server.ids = .ok (.accepted request.result.bucketId retry, e.after.queue, e.after.ids))
    (hans : e.answer = .ok (.submitted (.accepted request.result.bucketId retry))) :
    e.JobEffect j := by
  obtain ⟨k, kq, ho, hk, ⟨o, n, hf, hw, ht, hr, -, -, hq⟩ | ⟨_, hr, -⟩⟩ :=
    BucketQueue.accept_cases ha
  · have hid := (hs.queue.jobs k kq hk).keyed _ _ hf
    have hretry : retry =
        (kq.residual? o.handOut request.result e.server.ids).map Bucket.bucketId := by
      simpa using hr
    have hfind : e.after.queue.jobs.find? j = if j = k then
        (some (kq.afterRecord o.handOut request.result
          (kq.residual? o.handOut request.result e.server.ids))).filter fun jq => !jq.isClosed
        else e.server.queue.jobs.find? j := by
      rw [hq, BucketQueue.find?_finalize]
      simp only [BucketQueue.find?_put]
      split <;> rfl
    by_cases hj : j = k
    · subst hj
      rw [if_pos rfl] at hfind
      refine .recorded hc (hretry ▸ hans) hk (JobQueue.mem_handOuts_iff.2 ⟨_, _, hf⟩) hw hid.symm
        ht rfl hfind fun p hp hne => ?_
      obtain ⟨jq, hjq⟩ := Option.ne_none_iff_exists'.1 hne
      rw [hq] at hjq ⊢
      refine BucketQueue.owners_finalize ?_ hjq
      rw [BucketQueue.find?_assign, if_pos]
      exact List.mem_map_of_mem (Option.mem_toList.2 hp)
    · rw [if_neg hj] at hfind
      refine .kept hfind (fun _ => not_schedules (by simp [hc])) (not_deletes (by simp [hc])) ?_
      intro b hb he
      rw [← (accepts_iff hc hans).1 hb, ho] at he
      exact hj (Option.some.inj he).symm
  · cases hr

theorem jobEffect (hs : e.server.Sound) (j : JobId) : e.JobEffect j := by
  cases e.effect hs.queue with
  | repeated hc _ _ _ _ hq _ _ =>
    exact jobEffect_of_same (by rw [hq]) (by simp [hc]) (by simp [hc]) (by simp [hc])
  | @handedOut request k kq bucket rest hc _ hk hp _ hans hq _ _ =>
    have hfind : e.after.queue.jobs.find? j = if j = k then
        some (kq.afterHandOut rest ⟨bucket, request.workerId, request.requestId, e.now⟩)
        else e.server.queue.jobs.find? j := by
      rw [hq, BucketQueue.find?_put]
    by_cases hj : j = k
    · subst hj
      rw [if_pos rfl] at hfind
      exact .handedOut ((handsOut_iff hc hans).2 ⟨rfl, rfl, rfl⟩) hk hp hfind
    · rw [if_neg hj] at hfind
      exact jobEffect_of_same hfind (by simp [hc]) (by simp [hc]) (by simp [hc])
  | accepted hc _ ha hans _ => exact jobEffect_of_accept hs hc ha hans
  | @scheduled request buckets job hc hsp he hans _ =>
    obtain ⟨hd, -, hfind, hown⟩ := BucketQueue.enqueue_eq_ok he
    by_cases hj : j = request.jobId
    · subst hj
      refine .scheduled ⟨_, hc, rfl, hans⟩ hsp hd (by rw [hfind, if_pos rfl]) fun p hp => ?_
      rw [hown, if_pos (List.mem_map_of_mem hp)]
    · refine .kept (by rw [hfind, if_neg hj]) ?_ (not_deletes (by simp [hc]))
        (fun _ h => absurd h (not_accepts (by simp [hc])))
      rintro r ⟨_, hc', hid, -⟩
      rw [Command.schedule.inj (hc.symm.trans hc')] at hj
      exact hj hid.symm
  | @deleted k state hc hd hans _ _ =>
    obtain ⟨kq, hk, -, hq⟩ := BucketQueue.delete_cases hd
    have hfind : e.after.queue.jobs.find? j = if j = k then
        (some kq.markDeleted).filter fun jq => !jq.isClosed
        else e.server.queue.jobs.find? j := by
      rw [hq, BucketQueue.find?_finalize]
      simp only [BucketQueue.find?_put]
      split <;> rfl
    by_cases hj : j = k
    · subst hj
      rw [if_pos rfl] at hfind
      exact .deleted ⟨state, hc, hans⟩ hk hfind
    · rw [if_neg hj] at hfind
      refine jobEffect_of_same hfind (by simp [hc]) ?_ (by simp [hc])
      rw [hc]
      exact fun h => hj (Command.deleteJob.inj h).symm
  | swept hc _ hq _ _ =>
    have hfind := BucketQueue.find?_reclaimFrom hs.queue
      (silentIn (e.server.roster.sweep e.now).1) j
    rw [← Dispatcher.reclaimAll_eq, ← hq] at hfind
    cases hj : e.server.queue.jobs.find? j with
    | none =>
      rw [hj] at hfind
      exact jobEffect_of_same (hfind.trans hj.symm) (by simp [hc]) (by simp [hc]) (by simp [hc])
    | some jq =>
      rw [hj] at hfind
      exact .reclaimed hc hj hfind
  | registered hc _ hq _ =>
    exact jobEffect_of_same (by rw [hq]) (by simp [hc]) (by simp [hc]) (by simp [hc])
  | heard hc _ hq _ =>
    exact jobEffect_of_same (by rw [hq]) (by simp [hc]) (by simp [hc]) (by simp [hc])
  | blocked hc _ hq _ =>
    exact jobEffect_of_same (by rw [hq]) (by simp [hc]) (by simp [hc]) (by simp [hc])
  | none quiet hq _ _ =>
    exact .kept (by rw [hq]) (quiet.schedules j) (quiet.deletes j)
      (fun b h => absurd h (quiet.accepts b))

end Event

end TestQueue
