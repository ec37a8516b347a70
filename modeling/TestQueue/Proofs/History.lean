import Mathlib
import TestQueue.Server.Command

/-!
The past of a server as the list of its events, the latest first, and what can be told from it.
-/

namespace TestQueue

open Time (Instant)

structure Event where
  server : Dispatcher
  now : Instant
  command : Command

namespace Event

def answer (e : Event) : Except QueueError Answer := (e.server.perform e.now e.command).1

def after (e : Event) : Dispatcher := (e.server.perform e.now e.command).2

def inKind : Command → Answer → Bool
  | .version, .version _ | .register _ _, .registered _ | .reportAlive _, .alive _
  | .setBlocked _ _, .worker _ | .listWorkers, .workers _ | .workersByStatus, .byStatus _
  | .worker _, .worker _ | .fetch _, .fetched _ | .submit _, .submitted _
  | .processing, .processing _ | .schedule _, .scheduled _ | .jobState _, .jobState _
  | .jobResults _, .jobResults _ | .deleteJob _, .jobState _ | .sweep, .swept _ => true
  | _, _ => false

lemma answer_inKind {e : Event} {a : Answer} (h : e.answer = .ok a) :
    inKind e.command a = true := by
  obtain ⟨d, now, c⟩ := e
  have hmap {α : Type} {f : α → Answer} {x : Except QueueError α}
      (hx : x.map f = .ok a) : ∃ y, a = f y := by
    cases x with
    | error err => cases hx
    | ok y => exact ⟨y, (Except.ok.inj hx).symm⟩
  cases c with
  | version | listWorkers | workersByStatus | worker | processing | sweep =>
    obtain rfl := Except.ok.inj h
    rfl
  | register | reportAlive | setBlocked | fetch | submit | schedule | jobState | jobResults
  | deleteJob =>
    obtain ⟨y, rfl⟩ := hmap h
    rfl

def HandsOut (e : Event) (b : BucketId) (w : WorkerId) (r : RequestId) : Prop :=
  ∃ request bucket, e.command = .fetch request ∧ request.workerId = w ∧ request.requestId = r ∧
    e.answer = .ok (.fetched (.bucket bucket)) ∧ bucket.bucketId = b

def Accepts (e : Event) (b : BucketId) : Prop :=
  ∃ request c retry, e.command = .submit request ∧ request.result.bucketId = b ∧
    e.answer = .ok (.submitted (.accepted c retry))

def Silences (e : Event) (w : WorkerId) : Prop :=
  ∃ transitions, e.command = .sweep ∧ e.answer = .ok (.swept transitions) ∧
    ∃ t ∈ transitions, t.workerId = w ∧ t.status = .silent

def Schedules (e : Event) (j : JobId) (request : ScheduleRequest) : Prop :=
  ∃ answer, e.command = .schedule request ∧ request.jobId = j ∧ e.answer = .ok (.scheduled answer)

def Deletes (e : Event) (j : JobId) : Prop :=
  ∃ state, e.command = .deleteJob j ∧ e.answer = .ok (.jobState state)

section

variable {e : Event} {b : BucketId} {w : WorkerId} {r : RequestId}

lemma handsOut_iff {request : FetchRequest} {bucket : Bucket} (hc : e.command = .fetch request)
    (ha : e.answer = .ok (.fetched (.bucket bucket))) : e.HandsOut b w r ↔
      bucket.bucketId = b ∧ request.workerId = w ∧ request.requestId = r := by
  constructor
  · rintro ⟨_, _, hc', rfl, rfl, ha', rfl⟩
    rw [hc] at hc'
    rw [ha] at ha'
    obtain rfl := Command.fetch.inj hc'
    obtain rfl : bucket = _ := by simpa using ha'
    exact ⟨rfl, rfl, rfl⟩
  · rintro ⟨rfl, rfl, rfl⟩
    exact ⟨request, bucket, hc, rfl, rfl, ha, rfl⟩

lemma accepts_iff {request : SubmitRequest} {c : BucketId} {retry : Option BucketId}
    (hc : e.command = .submit request) (ha : e.answer = .ok (.submitted (.accepted c retry))) :
    e.Accepts b ↔ request.result.bucketId = b := by
  constructor
  · rintro ⟨_, _, _, hc', rfl, -⟩
    rw [hc] at hc'
    rw [Command.submit.inj hc']
  · rintro rfl
    exact ⟨request, c, retry, hc, rfl, ha⟩

lemma not_handsOut (hc : ∀ request, e.command ≠ .fetch request) : ¬ e.HandsOut b w r := by
  rintro ⟨request, _, h, -⟩
  exact hc request h

lemma not_accepts (hc : ∀ request, e.command ≠ .submit request) : ¬ e.Accepts b := by
  rintro ⟨request, _, _, h, -⟩
  exact hc request h

lemma not_silences (hc : e.command ≠ .sweep) : ¬ e.Silences w := by
  rintro ⟨_, h, -⟩
  exact hc h

lemma not_schedules {j : JobId} {request : ScheduleRequest} (hc : ∀ s, e.command ≠ .schedule s) :
    ¬ e.Schedules j request := by
  rintro ⟨_, h, -⟩
  exact hc request h

lemma not_deletes {j : JobId} (hc : e.command ≠ .deleteJob j) : ¬ e.Deletes j := by
  rintro ⟨_, h, -⟩
  exact hc h

end

end Event

namespace Dispatcher

def events (d : Dispatcher) : List (Instant × Command) → List Event
  | [] => []
  | c :: rest => ⟨d, c.1, c.2⟩ :: (d.perform c.1 c.2).2.events rest

/-- The events of a run, the latest first. -/
def history (d : Dispatcher) (commands : List (Instant × Command)) : List Event :=
  (d.events commands).reverse

lemma run_concat (d : Dispatcher) (commands : List (Instant × Command)) (c : Instant × Command) :
    d.run (commands ++ [c]) = ((d.run commands).perform c.1 c.2).2 := by
  simp [run]

lemma events_append (d : Dispatcher) (before later : List (Instant × Command)) :
    d.events (before ++ later) = d.events before ++ (d.run before).events later := by
  induction before generalizing d with
  | nil => rfl
  | cons c before ih => rw [List.cons_append, events, ih, events, List.cons_append]; rfl

lemma history_concat (d : Dispatcher) (commands : List (Instant × Command))
    (c : Instant × Command) : d.history (commands ++ [c]) =
      ⟨d.run commands, c.1, c.2⟩ :: d.history commands := by
  simp [history, events_append, events]

lemma mem_of_mem_history {d : Dispatcher} {commands : List (Instant × Command)} {e : Event}
    (h : e ∈ d.history commands) : (e.now, e.command) ∈ commands := by
  rw [history, List.mem_reverse] at h
  induction commands generalizing d with
  | nil => cases h
  | cons c commands ih =>
    rcases List.mem_cons.1 h with rfl | h
    · exact List.mem_cons_self
    · exact List.mem_cons_of_mem _ (ih h)

theorem run_induction {d : Dispatcher} {P : List Event → Dispatcher → Prop} (start : P [] d)
    (step : ∀ past e, P past e.server → P (e :: past) e.after)
    (commands : List (Instant × Command)) : P (d.history commands) (d.run commands) := by
  -- the last command of the run is the first event of its history
  induction commands using List.reverseRecOn with
  | nil => exact start
  | append_singleton commands c ih =>
    rw [run_concat, history_concat]
    exact step _ ⟨d.run commands, c.1, c.2⟩ ih

end Dispatcher

/-- An event of the kind `start` has happened, and only events of the kind `keep` after it. -/
def Since (keep start : Event → Prop) (past : List Event) : Prop :=
  ∃ later e earlier, past = later ++ e :: earlier ∧ start e ∧ ∀ x ∈ later, keep x

lemma not_since_nil (keep start : Event → Prop) : ¬ Since keep start [] := by
  rintro ⟨later, e, earlier, h, -⟩
  cases later <;> cases h

lemma since_cons {keep start : Event → Prop} {e : Event} {past : List Event} :
    Since keep start (e :: past) ↔ start e ∨ keep e ∧ Since keep start past := by
  constructor
  · rintro ⟨_ | ⟨x, later⟩, y, earlier, h, hs, hk⟩
    · obtain ⟨rfl, rfl⟩ := List.cons.inj h
      exact Or.inl hs
    · obtain ⟨rfl, rfl⟩ := List.cons.inj h
      exact Or.inr ⟨hk e List.mem_cons_self, later, y, earlier, rfl, hs,
        fun x hx => hk x (List.mem_cons_of_mem _ hx)⟩
  · rintro (hs | ⟨he, later, y, earlier, rfl, hs, hk⟩)
    · exact ⟨[], e, past, rfl, hs, by simp⟩
    · exact ⟨e :: later, y, earlier, rfl, hs, List.forall_mem_cons.2 ⟨he, hk⟩⟩

/-- The most recent fetch answered with the bucket was one of this worker under this request, and
since then no result for the bucket was accepted and the worker was not found silent. -/
def CurrentOwner (past : List Event) (b : BucketId) (w : WorkerId) (r : RequestId) : Prop :=
  Since (fun e => (∀ v s, ¬ e.HandsOut b v s) ∧ ¬ e.Accepts b ∧ ¬ e.Silences w)
    (fun e => e.HandsOut b w r) past

lemma not_currentOwner_nil (b : BucketId) (w : WorkerId) (r : RequestId) :
    ¬ CurrentOwner [] b w r := not_since_nil _ _

lemma currentOwner_cons {e : Event} {past : List Event} {b : BucketId} {w : WorkerId}
    {r : RequestId} : CurrentOwner (e :: past) b w r ↔ e.HandsOut b w r ∨
      ((∀ v s, ¬ e.HandsOut b v s) ∧ ¬ e.Accepts b ∧ ¬ e.Silences w) ∧
        CurrentOwner past b w r := since_cons

/-- Tests were scheduled for the job, and it has not been deleted since. -/
def Opened (past : List Event) (j : JobId) : Prop :=
  Since (fun e => ¬ e.Deletes j) (fun e => ∃ request, e.Schedules j request) past

lemma not_opened_nil (j : JobId) : ¬ Opened [] j := not_since_nil _ _

lemma opened_cons {e : Event} {past : List Event} {j : JobId} : Opened (e :: past) j ↔
    (∃ request, e.Schedules j request) ∨ ¬ e.Deletes j ∧ Opened past j := since_cons

def sinceCreated (j : JobId) : List Event → List Event
  | [] => []
  | e :: past => e :: if e.server.queue.jobs.contains j then sinceCreated j past else []

def Dispatcher.cut (d : Dispatcher) (request : ScheduleRequest) : List Bucket :=
  match splitIntoBuckets? request.tests (request.workerCount.getD d.defaultWorkerCount)
    request.strategy request.template d.ids with
  | some (buckets, _) => buckets
  | none => []

/-- The buckets that an event adds to a job with these buckets: those of new tests, and the one for
another try at the failing tests of a bucket. -/
def Event.placing (e : Event) (j : JobId) (buckets : List Bucket) : List Bucket :=
  match e.command, e.answer with
  | .schedule request, .ok (.scheduled _) =>
    if request.jobId = j then e.server.cut request else []
  | .submit request, .ok (.submitted (.accepted _ (some retry))) =>
    (buckets.filter fun p => p.bucketId = request.result.bucketId).filterMap fun p =>
      p.residual? retry (request.result.withLost p.tests).failing
  | _, _ => []

def placed (j : JobId) : List Event → List Bucket
  | [] => []
  | e :: past => placed j past ++ e.placing j (placed j past)

def plainSettings : DispatcherSettings :=
  ⟨"", 30, .stayAlive, .standard, .stayAlive, .empty⟩

def numberedIds : IdSource := .sequential "id"

/-- A job of two tests in two buckets. The first bucket is lost and put back, the second is out. -/
def lostBucket : List (Instant × Command) :=
  [(.epoch, .register ⟨"w"⟩ none),
    (.epoch, .schedule ⟨⟨"j"⟩, 1, [⟨"C", "x", none⟩, ⟨"C", "y", none⟩], .individual, none, .empty,
      ⟨1, .empty⟩, .standard, .empty⟩),
    (.epoch, .fetch ⟨⟨"w"⟩, ⟨"r"⟩, ⟨"id-1"⟩⟩),
    (.epoch, .submit ⟨⟨"w"⟩, ⟨"r"⟩, ⟨"id-1"⟩, ⟨⟨"id-2"⟩, []⟩⟩),
    (.epoch, .fetch ⟨⟨"w"⟩, ⟨"s"⟩, ⟨"id-1"⟩⟩)]

def finishedJob : List (Instant × Command) :=
  lostBucket ++
    [(.epoch, .submit ⟨⟨"w"⟩, ⟨"s"⟩, ⟨"id-1"⟩, ⟨⟨"id-3"⟩,
        [⟨⟨"C", "y", none⟩, [⟨true, 0, [], "", .epoch⟩]⟩]⟩⟩),
      (.epoch, .fetch ⟨⟨"w"⟩, ⟨"t"⟩, ⟨"id-1"⟩⟩),
      (.epoch, .submit ⟨⟨"w"⟩, ⟨"t"⟩, ⟨"id-1"⟩, ⟨⟨"id-4"⟩, []⟩⟩)]

end TestQueue
