import TestQueue.Proofs.BucketQueue.HandOuts
import TestQueue.Proofs.History
import TestQueue.Proofs.Split
import TestQueue.Proofs.Sweep

namespace TestQueue

open Time (Instant)

namespace Event

structure Quiet (e : Event) : Prop where
  handsOut : ∀ b w r, ¬ e.HandsOut b w r
  accepts : ∀ b, ¬ e.Accepts b
  silences : ∀ w, ¬ e.Silences w
  schedules : ∀ j request, ¬ e.Schedules j request
  deletes : ∀ j, ¬ e.Deletes j

inductive Effect (e : Event) : Prop
  | repeated {request : FetchRequest} {h : HandOut} (command : e.command = .fetch request)
      (eligible : e.server.roster.eligibility request.workerId = .eligible)
      (out : h ∈ e.server.queue.handOuts)
      (isFor : h.isFor request.workerId request.requestId = true)
      (answer : e.answer = .ok (.fetched (.bucket h.bucket)))
      (queue : e.after.queue = e.server.queue)
      (roster : e.after.roster =
        e.server.roster.didDequeue request.workerId h.bucket.bucketId)
      (ids : e.after.ids = e.server.ids)
  | handedOut {request : FetchRequest} {j : JobId} {jq : JobQueue} {bucket : Bucket}
      {rest : List Bucket} (command : e.command = .fetch request)
      (eligible : e.server.roster.eligibility request.workerId = .eligible)
      (job : e.server.queue.jobs.find? j = some jq) (pending : jq.pending = bucket :: rest)
      (first : ∀ h ∈ e.server.queue.handOuts,
        h.isFor request.workerId request.requestId = false)
      (answer : e.answer = .ok (.fetched (.bucket bucket)))
      (queue : e.after.queue = e.server.queue.put j
        (jq.afterHandOut rest ⟨bucket, request.workerId, request.requestId, e.now⟩))
      (roster : e.after.roster = e.server.roster.didDequeue request.workerId bucket.bucketId)
      (ids : e.after.ids = e.server.ids)
  | accepted {request : SubmitRequest} {retry : Option BucketId}
      (command : e.command = .submit request)
      (known : e.server.roster.isKnown request.workerId = true)
      (accept : e.server.queue.accept request.result request.workerId request.requestId
        e.server.ids = .ok (.accepted request.result.bucketId retry, e.after.queue, e.after.ids))
      (answer : e.answer = .ok (.submitted (.accepted request.result.bucketId retry)))
      (roster : e.after.roster =
        e.server.roster.didFinish request.workerId request.result.bucketId)
  | scheduled {request : ScheduleRequest} {buckets : List Bucket} {job : PrioritizedJob}
      (command : e.command = .schedule request)
      (split : splitIntoBuckets? request.tests
        (request.workerCount.getD e.server.defaultWorkerCount) request.strategy request.template
        e.server.ids = some (buckets, e.after.ids))
      (enqueue : e.server.queue.enqueue request.jobId request.priority buckets =
        .ok (job, e.after.queue))
      (answer : e.answer = .ok (.scheduled ⟨job.jobId, buckets.length⟩))
      (roster : e.after.roster = e.server.roster)
  | deleted {j : JobId} {state : JobState} (command : e.command = .deleteJob j)
      (delete : e.server.queue.delete j = .ok (state, e.after.queue))
      (answer : e.answer = .ok (.jobState state))
      (roster : e.after.roster = e.server.roster) (ids : e.after.ids = e.server.ids)
  | swept (command : e.command = .sweep)
      (answer : e.answer = .ok (.swept (e.server.roster.sweep e.now).1))
      (queue : e.after.queue =
        Dispatcher.reclaimAll e.server.queue (e.server.roster.sweep e.now).1)
      (roster : e.after.roster = (e.server.roster.sweep e.now).2)
      (ids : e.after.ids = e.server.ids)
  | registered {w : WorkerId} {declared : Option WorkerConfiguration} {c : WorkerConfiguration}
      (command : e.command = .register w declared)
      (roster : e.after.roster = e.server.roster.register w c e.now)
      (queue : e.after.queue = e.server.queue) (ids : e.after.ids = e.server.ids)
      (answer : e.answer = .ok (.registered c))
  | heard {w : WorkerId} {status : Liveness} (command : e.command = .reportAlive w)
      (report : e.server.roster.reportAlive w e.now = .ok (status, e.after.roster))
      (queue : e.after.queue = e.server.queue) (ids : e.after.ids = e.server.ids)
      (answer : e.answer = .ok (.alive status))
  | blocked {w : WorkerId} {flag : Bool} {r : WorkerRecord}
      (command : e.command = .setBlocked w flag)
      (block : e.server.roster.setBlocked w flag = .ok (r, e.after.roster))
      (queue : e.after.queue = e.server.queue) (ids : e.after.ids = e.server.ids)
      (answer : e.answer = .ok (.worker r))
  | none {n : ℕ} (quiet : e.Quiet) (queue : e.after.queue = e.server.queue)
      (roster : e.after.roster = e.server.roster) (ids : e.after.ids = e.server.ids.advance n)

def isQuery : Command → Bool
  | .version | .listWorkers | .workersByStatus | .worker _ | .processing | .jobState _
  | .jobResults _ => true
  | _ => false

lemma quiet_of_error {e : Event} {err : QueueError} (h : e.answer = .error err) : e.Quiet where
  handsOut b w r := by simp [HandsOut, h]
  accepts b := by simp [Accepts, h]
  silences w := by simp [Silences, h]
  schedules j request := by simp [Schedules, h]
  deletes j := by simp [Deletes, h]

lemma effect_of_query {e : Event} (h : isQuery e.command = true) : e.Effect := by
  have hd : e.after = e.server := by
    unfold after
    revert h
    cases e.command <;> simp [isQuery, Dispatcher.perform]
  refine .none (n := 0) ?_ (by rw [hd]) (by rw [hd]) (by rw [hd]; rfl)
  revert h
  cases hc : e.command <;> simp only [isQuery, Bool.false_eq_true, false_implies] <;>
    exact fun _ => ⟨by simp [HandsOut, hc], by simp [Accepts, hc], by simp [Silences, hc],
      by simp [Schedules, hc], by simp [Deletes, hc]⟩

lemma quiet_of_refused {d : Dispatcher} {now : Instant} {request : FetchRequest} {a : FetchAnswer}
    (h : (Event.mk d now (.fetch request)).answer = .ok (.fetched a))
    (ha : ∀ bucket, a ≠ .bucket bucket) : (Event.mk d now (.fetch request)).Quiet where
  handsOut b w r := by
    rintro ⟨_, bucket, -, -, -, hb, -⟩
    rw [h] at hb
    exact ha bucket (by simpa using hb)
  accepts b := by simp [Accepts]
  silences w := by simp [Silences]
  schedules j request := by simp [Schedules]
  deletes j := by simp [Deletes]

lemma denial_ne_bucket {d : Dispatcher} {w : WorkerId} {a : FetchAnswer}
    (h : d.denial w = some a) (bucket : Bucket) : a ≠ .bucket bucket := by
  rintro rfl
  unfold Dispatcher.denial at h
  split at h <;> simp [Dispatcher.checkAgain] at h

lemma eligible_of_denial {d : Dispatcher} {w : WorkerId} (h : d.denial w = none) :
    d.roster.eligibility w = .eligible := by
  unfold Dispatcher.denial at h
  split at h
  · assumption
  all_goals cases h

lemma may_fetch {d : Dispatcher} {request : FetchRequest} {p : Bucket} {now : Instant}
    (ha : (d.perform now (.fetch request)).1 = .ok (.fetched (.bucket p))) :
    request.signature = d.signature ∧ d.roster.eligibility request.workerId = .eligible := by
  simp only [Dispatcher.perform, Dispatcher.answering, Dispatcher.fetchBucket] at ha
  split at ha
  · cases ha
  · rename_i hsig
    refine ⟨not_not.1 hsig, ?_⟩
    split at ha
    · rename_i a hden
      obtain rfl : a = .bucket p := by simpa [Except.map] using ha
      exact absurd rfl (denial_ne_bucket hden p)
    · rename_i hden
      exact eligible_of_denial hden

lemma handOut_of_not_handedOut {d : Dispatcher} {w : WorkerId} {r : RequestId} {now : Instant}
    {a : Dequeued} (ha : ∀ h, a ≠ .handedOut h) (hd : d.queue.dequeue w r now = (a, d.queue)) :
    ∃ answer, (∀ bucket, answer ≠ .bucket bucket) ∧ d.handOut w r now = (answer, d) := by
  simp only [Dispatcher.handOut, hd]
  cases a with
  | handedOut h => exact absurd rfl (ha h)
  | checkAgainLater => exact ⟨_, by simp [Dispatcher.checkAgain], rfl⟩
  | exhausted =>
    refine ⟨_, fun bucket => ?_, rfl⟩
    unfold Dispatcher.depletedAnswer
    split <;> simp [Dispatcher.checkAgain]

lemma effect_of_fetch {d : Dispatcher} (hs : d.queue.Sound d.ids) (now : Instant)
    (request : FetchRequest) : (Event.mk d now (.fetch request)).Effect := by
  have hans : (Event.mk d now (.fetch request)).answer =
      (d.fetchBucket request now).1.map .fetched := rfl
  have haft : (Event.mk d now (.fetch request)).after = (d.fetchBucket request now).2 := rfl
  by_cases hsig : request.signature = d.signature
  · cases hden : (d.indicateActivity now).denial request.workerId with
    | some a =>
      have hf : d.fetchBucket request now = (.ok a, d.indicateActivity now) := by
        simp [Dispatcher.fetchBucket, hsig, hden]
      rw [hf] at hans haft
      exact .none (n := 0) (quiet_of_refused hans (denial_ne_bucket hden)) (by rw [haft]; rfl)
        (by rw [haft]; rfl) (by rw [haft]; rfl)
    | none =>
      have hel : d.roster.eligibility request.workerId = .eligible := eligible_of_denial hden
      have hf : d.fetchBucket request now =
          (.ok ((d.indicateActivity now).handOut request.workerId request.requestId now).1,
            ((d.indicateActivity now).handOut request.workerId request.requestId now).2) := by
        simp [Dispatcher.fetchBucket, hsig, hden]
      rw [hf] at hans haft
      -- the queue is the one before the time of the last activity was set
      have hqueue : (d.indicateActivity now).queue = d.queue := rfl
      rcases BucketQueue.dequeue_cases hs.toRouted request.workerId request.requestId now with
        ⟨h, hh, hf, hd⟩ | ⟨j, jq, bucket, rest, hj, hp, hn, hd⟩ | ⟨a, ha, hd⟩
      · rw [← hqueue] at hd
        simp only [Dispatcher.handOut, hd] at hans haft
        exact .repeated rfl hel hh hf hans (by rw [haft]; rfl) (by rw [haft]; rfl)
          (by rw [haft]; rfl)
      · rw [← hqueue] at hd
        simp only [Dispatcher.handOut, hd] at hans haft
        exact .handedOut rfl hel hj hp hn hans (by rw [haft]; rfl) (by rw [haft]; rfl)
          (by rw [haft]; rfl)
      · rw [← hqueue] at hd
        obtain ⟨answer, hb, hq⟩ := handOut_of_not_handedOut ha hd
        rw [hq] at hans haft
        exact .none (n := 0) (quiet_of_refused hans hb) (by rw [haft]; rfl) (by rw [haft]; rfl)
          (by rw [haft]; rfl)
  · have hf : d.fetchBucket request now = (.error .signatureMismatch, d) := by
      simp [Dispatcher.fetchBucket, hsig]
    rw [hf] at hans haft
    exact .none (n := 0) (quiet_of_error hans) (by rw [haft]) (by rw [haft]) (by rw [haft]; rfl)

lemma effect_of_submit {d : Dispatcher} (hs : d.queue.Sound d.ids) (now : Instant)
    (request : SubmitRequest) : (Event.mk d now (.submit request)).Effect := by
  have hans : (Event.mk d now (.submit request)).answer =
      (d.submitResult request now).1.map .submitted := rfl
  have haft : (Event.mk d now (.submit request)).after = (d.submitResult request now).2 := rfl
  by_cases hsig : request.signature = d.signature
  · cases hk : d.roster.isKnown request.workerId with
    | false =>
      have hf : d.submitResult request now =
          (.error (.unknownWorker request.workerId), d.indicateActivity now) := by
        simp [Dispatcher.submitResult, hsig, Dispatcher.indicateActivity, hk]
      rw [hf] at hans haft
      exact .none (n := 0) (quiet_of_error hans) (by rw [haft]; rfl) (by rw [haft]; rfl)
        (by rw [haft]; rfl)
    | true =>
      have hf : d.submitResult request now = (d.indicateActivity now).settle request := by
        simp [Dispatcher.submitResult, hsig, Dispatcher.indicateActivity, hk]
      rw [hf] at hans haft
      unfold Dispatcher.settle at hans haft
      cases ha : d.queue.accept request.result request.workerId request.requestId d.ids with
      | error err =>
        have ha' : (d.indicateActivity now).queue.accept request.result request.workerId
          request.requestId (d.indicateActivity now).ids = .error err := ha
        simp only [ha'] at hans haft
        exact .none (n := 0) (quiet_of_error hans) (by rw [haft]; rfl) (by rw [haft]; rfl)
          (by rw [haft]; rfl)
      | ok x =>
        obtain ⟨a, queue, ids⟩ := x
        have ha' : (d.indicateActivity now).queue.accept request.result request.workerId
          request.requestId (d.indicateActivity now).ids = .ok (a, queue, ids) := ha
        simp only [ha'] at hans haft
        obtain ⟨j, jq, -, hj, ⟨o, n, -, -, -, rfl, -⟩ | ⟨why, rfl, rfl, rfl, -⟩⟩ :=
          BucketQueue.accept_cases ha
        · exact .accepted rfl hk (by rw [haft]; exact ha) hans (by rw [haft]; rfl)
        · have hq : d.queue.finalize j = d.queue :=
            BucketQueue.finalize_eq_self fun jq hj => hs.settled j jq hj
          refine .none (n := 0) ?_ (by rw [haft]; exact hq) (by rw [haft]; rfl)
            (by rw [haft]; rfl)
          exact ⟨by simp [HandsOut], by simp [Accepts, hans, Except.map], by simp [Silences],
            by simp [Schedules], by simp [Deletes]⟩
  · have hf : d.submitResult request now = (.error .signatureMismatch, d) := by
      simp [Dispatcher.submitResult, hsig]
    rw [hf] at hans haft
    exact .none (n := 0) (quiet_of_error hans) (by rw [haft]) (by rw [haft]) (by rw [haft]; rfl)

lemma effect_of_schedule (d : Dispatcher) (now : Instant) (request : ScheduleRequest) :
    (Event.mk d now (.schedule request)).Effect := by
  have hans : (Event.mk d now (.schedule request)).answer =
      (((d.lock.indicateActivity now).enqueueTests request).1).map .scheduled := rfl
  have haft : (Event.mk d now (.schedule request)).after =
      ((d.lock.indicateActivity now).enqueueTests request).2.unlock := rfl
  unfold Dispatcher.enqueueTests at hans haft
  cases hsp : splitIntoBuckets? request.tests
      (request.workerCount.getD d.defaultWorkerCount) request.strategy request.template d.ids with
  | none =>
    have hsp' : splitIntoBuckets? request.tests (request.workerCount.getD
      (d.lock.indicateActivity now).defaultWorkerCount) request.strategy request.template
      (d.lock.indicateActivity now).ids = none := hsp
    simp only [hsp'] at hans haft
    exact .none (n := 0) (quiet_of_error hans) (by rw [haft]; rfl) (by rw [haft]; rfl)
      (by rw [haft]; rfl)
  | some x =>
    obtain ⟨buckets, ids⟩ := x
    have hsp' : splitIntoBuckets? request.tests (request.workerCount.getD
      (d.lock.indicateActivity now).defaultWorkerCount) request.strategy request.template
      (d.lock.indicateActivity now).ids = some (buckets, ids) := hsp
    simp only [hsp'] at hans haft
    cases he : d.queue.enqueue request.jobId request.priority buckets with
    | error err =>
      have he' : (d.lock.indicateActivity now).queue.enqueue request.jobId request.priority
        buckets = .error err := he
      simp only [he'] at hans haft
      refine .none (n := buckets.length) (quiet_of_error hans) (by rw [haft]; rfl)
        (by rw [haft]; rfl) ?_
      rw [haft]
      exact (splitIntoBuckets?_ids hsp).2
    | ok y =>
      obtain ⟨job, queue⟩ := y
      have he' : (d.lock.indicateActivity now).queue.enqueue request.jobId request.priority
        buckets = .ok (job, queue) := he
      simp only [he'] at hans haft
      exact .scheduled rfl (by rw [haft]; exact hsp) (by rw [haft]; exact he) hans
        (by rw [haft]; rfl)

lemma effect_of_delete (d : Dispatcher) (now : Instant) (j : JobId) :
    (Event.mk d now (.deleteJob j)).Effect := by
  have hans : (Event.mk d now (.deleteJob j)).answer = (d.deleteJob j).1.map .jobState := rfl
  have haft : (Event.mk d now (.deleteJob j)).after = (d.deleteJob j).2 := rfl
  unfold Dispatcher.deleteJob at hans haft
  cases hd : d.queue.delete j with
  | error err =>
    rw [hd] at hans haft
    exact .none (n := 0) (quiet_of_error hans) (by rw [haft]) (by rw [haft]) (by rw [haft]; rfl)
  | ok x =>
    rw [hd] at hans haft
    exact .deleted rfl (by rw [haft]; exact hd) hans (by rw [haft]) (by rw [haft])

theorem effect (e : Event) (hs : e.server.queue.Sound e.server.ids) : e.Effect := by
  obtain ⟨d, now, c⟩ := e
  cases c with
  | register w declared =>
    have hans : (Event.mk d now (.register w declared)).answer =
      (d.registerWorker w declared now).1.map .registered := rfl
    have haft : (Event.mk d now (.register w declared)).after =
      (d.registerWorker w declared now).2 := rfl
    unfold Dispatcher.registerWorker at hans haft
    cases ha : d.admission w declared with
    | error err =>
      rw [ha] at hans haft
      exact .none (n := 0) (quiet_of_error hans) (by rw [haft]) (by rw [haft]) (by rw [haft]; rfl)
    | ok c =>
      rw [ha] at hans haft
      exact .registered rfl (by rw [haft]; rfl) (by rw [haft]; rfl) (by rw [haft]; rfl) hans
  | reportAlive w =>
    have hans : (Event.mk d now (.reportAlive w)).answer = (d.reportAlive w now).1.map .alive := rfl
    have haft : (Event.mk d now (.reportAlive w)).after = (d.reportAlive w now).2 := rfl
    unfold Dispatcher.reportAlive at hans haft
    cases ha : d.roster.reportAlive w now with
    | error err =>
      rw [ha] at hans haft
      exact .none (n := 0) (quiet_of_error hans) (by rw [haft]) (by rw [haft]) (by rw [haft]; rfl)
    | ok x =>
      rw [ha] at hans haft
      exact .heard rfl (by rw [haft]; exact ha) (by rw [haft]) (by rw [haft]) hans
  | setBlocked w flag =>
    have hans : (Event.mk d now (.setBlocked w flag)).answer =
      (d.setWorkerBlocked w flag).1.map .worker := rfl
    have haft : (Event.mk d now (.setBlocked w flag)).after = (d.setWorkerBlocked w flag).2 := rfl
    unfold Dispatcher.setWorkerBlocked at hans haft
    cases ha : d.roster.setBlocked w flag with
    | error err =>
      rw [ha] at hans haft
      exact .none (n := 0) (quiet_of_error hans) (by rw [haft]) (by rw [haft]) (by rw [haft]; rfl)
    | ok x =>
      rw [ha] at hans haft
      exact .blocked rfl (by rw [haft]; exact ha) (by rw [haft]) (by rw [haft]) hans
  | fetch request => exact effect_of_fetch hs now request
  | submit request => exact effect_of_submit hs now request
  | schedule request => exact effect_of_schedule d now request
  | deleteJob j => exact effect_of_delete d now j
  | sweep => exact .swept rfl rfl rfl rfl rfl
  | version | listWorkers | workersByStatus | worker | processing | jobState | jobResults =>
    exact effect_of_query rfl

end Event

end TestQueue
