import TestQueue.Client.WorkerRun
import TestQueue.Http.Service
import TestQueue.Proofs.Finished
import TestQueue.Proofs.Replies

/-!
Workers at their errands and the server that they work for. The steps of all of them alternate in
any order, and answers to fetches can get lost on the way.
-/

namespace TestQueue

open Time (Instant)

/-! ### A worker and its requests -/

def Command.requestId? : Command → Option RequestId
  | .fetch request => some request.requestId
  | .submit request => some request.requestId
  | _ => none

def WorkerRun.command? (w : WorkerRun) : Option Command :=
  match w.errand with
  | .askVersion _ => some .version
  | .register => some (.register w.worker w.options.configuration)
  | .fetch session request => some (.fetch ⟨w.worker, request, session.signature⟩)
  | .execute _ _ _ => none
  | .submit session request result =>
    some (.submit ⟨w.worker, request, session.signature, result⟩)

def Errand.ending? : (e : Errand) → Except QueueError Answer → Option e.Ending
  | .askVersion _, .ok (.version answer) => some (.ok answer.version)
  | .askVersion _, .error e => some (.error (.api e.status e.message))
  | .register, .ok (.registered c) => some (.ok c)
  | .register, .error e => some (.error (.api e.status e.message))
  | .fetch _ _, .ok (.fetched answer) => some (.ok answer)
  | .fetch _ _, .error e => some (.error (.api e.status e.message))
  | .submit _ _ _, .ok (.submitted answer) => some (.ok answer)
  | .submit _ _ _, .error e => some (.error (.api e.status e.message))
  | _, _ => none

inductive Stage where
  | ready
  | waiting
  | answered (answer : Except QueueError Answer)
  | stopped

structure Member where
  run : WorkerRun
  stage : Stage
  underway : List Command
  /-- What the last fetch or submission was sent under. -/
  lastSent : Option RequestId

namespace Member

def starting (worker : WorkerId) (options : WorkerOptions) (ids : IdSource) : Member :=
  ⟨.starting worker options ids, .ready, [], none⟩

def send (m : Member) (c : Command) : Member :=
  { m with stage := .waiting, underway := m.underway ++ [c], lastSent := c.requestId?.or m.lastSent }

/-- The server has answered the oldest request. The answer is of use if the worker waits for it. -/
def arrive (m : Member) (rest : List Command) (answer : Except QueueError Answer) : Member :=
  match m.stage, rest with
  | .waiting, [] => { m with stage := .answered answer, underway := [] }
  | _, _ => { m with underway := rest }

def goOn (m : Member) : Progress → Member
  | .running run => { m with run, stage := .ready }
  | .stopped (.ok summary) ids => { m with run := { m.run with ids, summary }, stage := .stopped }
  | .stopped (.error _) ids => { m with run := { m.run with ids }, stage := .stopped }

end Member

structure Fleet (ι : Type) where
  server : Dispatcher
  members : ι → Member

/-- What others ask of the server: anything but buckets, results and the end of a job. -/
def Command.isOutside : Command → Bool
  | .fetch _ | .submit _ | .deleteJob _ => false
  | _ => true

namespace Fleet

variable {ι : Type} [DecidableEq ι]

def starting (d : Dispatcher) (members : ι → Member) : Fleet ι := ⟨d, members⟩

def set (f : Fleet ι) (i : ι) (m : Member) : Fleet ι :=
  { f with members := Function.update f.members i m }

inductive Step (f : Fleet ι) : Fleet ι → Prop
  | outside (now : Instant) (c : Command) (h : c.isOutside = true) :
      Step f { f with server := (f.server.perform now c).2 }
  | send (i : ι) {c : Command} (ready : (f.members i).stage = .ready)
      (command : (f.members i).run.command? = some c) :
      Step f (f.set i ((f.members i).send c))
  | process (i : ι) (now : Instant) {c : Command} {rest : List Command}
      (underway : (f.members i).underway = c :: rest) :
      Step f { f.set i ((f.members i).arrive rest (f.server.perform now c).1) with
        server := (f.server.perform now c).2 }
  | read (i : ι) (cancelled : Bool) {answer : Except QueueError Answer}
      {ending : (f.members i).run.errand.Ending} (answered : (f.members i).stage = .answered answer)
      (hending : (f.members i).run.errand.ending? answer = some ending) :
      Step f (f.set i ((f.members i).goOn ((f.members i).run.step cancelled ending)))
  | lose (i : ι) (cancelled : Bool) {session : Session} {request : RequestId} {e : ClientError}
      (fetching : (f.members i).run.errand = .fetch session request)
      (sent : (f.members i).stage = .waiting ∨ ∃ answer, (f.members i).stage = .answered answer)
      (other : e.status? ≠ some 401) :
      Step f (f.set i ((f.members i).goOn
        ((f.members i).run.afterErrand cancelled (.fetch session request) (.error e))))
  | execute (i : ι) {session : Session} {request : RequestId} {p : Bucket}
      (result : Option BucketResult)
      (executing : (f.members i).run.errand = .execute session request p)
      (ready : (f.members i).stage = .ready) (own : ∀ x ∈ result, x.bucketId = p.bucketId) :
      Step f (f.set i ((f.members i).goOn
        ((f.members i).run.afterErrand false (.execute session request p) result)))

def Reachable (start f : Fleet ι) : Prop := Relation.ReflTransGen Step start f

end Fleet

/-! ### What a worker may hold -/

def Errand.mayHold (b : BucketId) (r : RequestId) : Errand → Prop
  | .askVersion _ | .register => False
  | .fetch _ request => r = request
  | .execute _ request p => r = request ∧ b = p.bucketId
  | .submit _ request result => r = request ∧ b = result.bucketId

def Errand.mayKeep (b : BucketId) (r : RequestId) (e : Errand) : Except QueueError Answer → Prop
  | .ok (.fetched (.bucket p)) => e.mayHold b r ∧ b = p.bucketId
  | .ok (.fetched (.refused _)) => e.mayHold b r
  | .ok (.fetched _) => False
  | .ok (.submitted _) => False
  | _ => e.mayHold b r

lemma Errand.mayHold_of_mayKeep {b : BucketId} {r : RequestId} {e : Errand}
    {a : Except QueueError Answer} (h : e.mayKeep b r a) : e.mayHold b r := by
  unfold mayKeep at h
  split at h
  · exact h.1
  · exact h
  · exact h.elim
  · exact h.elim
  · exact h

def Errand.session? : Errand → Option Session
  | .askVersion _ | .register => none
  | .fetch session _ | .execute session _ _ | .submit session _ _ => some session

def Errand.Suits (signature : PayloadSignature) (a : Except QueueError Answer) : Errand → Prop
  | .fetch _ _ => ∃ x, a = .ok (.fetched x)
  | .submit _ _ _ => True
  | .register => (∀ c, a = .ok (.registered c) → c.signature = some signature) ∧
      ∀ x, a ≠ .ok (.submitted x)
  | _ => ∀ x, a ≠ .ok (.submitted x)

namespace Member

def mayHold (m : Member) (b : BucketId) (r : RequestId) : Prop :=
  m.lastSent = some r ∧
    match m.stage with
    | .stopped => True
    | .answered a => m.run.errand.mayKeep b r a
    | _ => m.run.errand.mayHold b r

def Refetches (m : Member) (c : Command) : Prop :=
  ∃ session request, m.run.errand = .fetch session request ∧
    c = .fetch ⟨m.run.worker, request, session.signature⟩ ∧ m.lastSent = some request

/-- Only fetches that nobody waits for any more are under way besides the request at hand. -/
def Queued (m : Member) (signature : PayloadSignature) : Prop :=
  match m.stage with
  | .ready => ∀ c ∈ m.underway, m.Refetches c
  | .waiting => ∃ c before, m.run.command? = some c ∧ m.underway = before ++ [c] ∧
      (∀ r ∈ c.requestId?, m.lastSent = some r) ∧ ∀ x ∈ before, x = c ∧ m.Refetches c
  | .answered a => m.underway = [] ∧ m.run.errand.Suits signature a
  | .stopped => ∀ c ∈ m.underway, ∃ request, c = .fetch request ∧
      request.workerId = m.run.worker ∧ m.lastSent = some request.requestId

structure Fits (m : Member) (w : WorkerId) (signature : PayloadSignature) : Prop where
  worker : m.run.worker = w
  session : ∀ session ∈ m.run.errand.session?, session.signature = signature
  counted : m.run.summary.ignored ≤ m.run.summary.executed
  queued : m.Queued signature

def unread (m : Member) : ℕ :=
  match m.stage with
  | .answered (.ok (.submitted (.accepted _ _))) => 1
  | _ => 0

lemma unread_of_read {m : Member} (h : ∀ answer, m.stage ≠ .answered (.ok (.submitted answer))) :
    m.unread = 0 := by
  unfold unread
  split
  · next heq => exact absurd heq (h _)
  · rfl

def credit (m : Member) : ℕ := m.run.summary.executed - m.run.summary.ignored + m.unread

structure Follows (m m' : Member) (w : WorkerId) (signature : PayloadSignature) : Prop where
  fits : m'.Fits w signature
  hold : ∀ b r, m.mayHold b r → m'.mayHold b r
  credit : m'.credit = m.credit

variable {m : Member} {w : WorkerId} {signature : PayloadSignature}

/-! ### Moves of one worker -/

lemma Fits.follows_stop (h : m.Fits w signature) (hunread : m.unread = 0)
    (hunder : ∀ c ∈ m.underway, ∃ request, c = .fetch request ∧
      request.workerId = m.run.worker ∧ m.lastSent = some request.requestId)
    {outcome : Except ClientError WorkerSummary} (ho : ∀ s, outcome = .ok s → s = m.run.summary) :
    m.Follows (m.goOn (m.run.stop outcome)) w signature := by
  cases outcome with
  | error e =>
    refine ⟨⟨h.worker, h.session, h.counted, hunder⟩, fun b r hm => ⟨hm.1, trivial⟩, ?_⟩
    rw [credit, credit, hunread]
    rfl
  | ok s =>
    obtain rfl := ho s rfl
    refine ⟨⟨h.worker, h.session, h.counted, hunder⟩, fun b r hm => ⟨hm.1, trivial⟩, ?_⟩
    rw [credit, credit, hunread]
    rfl

lemma Fits.follows_fetchNew (h : m.Fits w signature) (hunder : m.underway = [])
    (hnone : ∀ b r, ¬ m.mayHold b r) {session : Session} (hsession : session.signature = signature)
    {s : WorkerSummary} (hs : s.ignored ≤ s.executed) (hcredit : s.executed - s.ignored = m.credit)
    (cancelled : Bool) :
    m.Follows (m.goOn ({ m.run with summary := s }.fetchNew cancelled session)) w signature := by
  cases cancelled with
  | false =>
    refine ⟨⟨h.worker, ?_, hs, ?_⟩, fun b r hm => absurd hm (hnone b r), hcredit⟩
    · intro x hx
      obtain rfl := Option.some.inj hx
      exact hsession
    · intro c hc
      change c ∈ m.underway at hc
      rw [hunder] at hc
      cases hc
  | true =>
    refine ⟨⟨h.worker, h.session, hs, ?_⟩, fun b r hm => absurd hm (hnone b r), hcredit⟩
    intro c hc
    change c ∈ m.underway at hc
    rw [hunder] at hc
    cases hc

lemma Fits.follows_send (h : m.Fits w signature) (hready : m.stage = .ready) {c : Command}
    (hc : m.run.command? = some c) : m.Follows (m.send c) w signature := by
  have hqueued := h.queued
  rw [Queued, hready] at hqueued
  have hsent : ∀ r ∈ c.requestId?, (m.send c).lastSent = some r := by
    intro r hr
    rw [send, Option.mem_def.1 hr]
    rfl
  refine ⟨⟨h.worker, h.session, h.counted, c, m.underway, hc, rfl, hsent, fun x hx => ?_⟩, ?_, ?_⟩
  · obtain ⟨session, request, he, rfl, -⟩ := hqueued x hx
    simp only [WorkerRun.command?, he, Option.some.injEq] at hc
    exact ⟨hc, session, request, he, hc.symm, hsent request (by rw [← hc]; rfl)⟩
  · rintro b r ⟨hl, hm⟩
    rw [hready] at hm
    refine ⟨?_, hm⟩
    cases he : m.run.errand with
    | askVersion | register => simp [he, Errand.mayHold] at hm
    | execute session request p => simp [WorkerRun.command?, he] at hc
    | fetch session request =>
      simp only [WorkerRun.command?, he, Option.some.injEq] at hc
      simp only [he, Errand.mayHold] at hm
      rw [hm]
      exact hsent request (by rw [← hc]; rfl)
    | submit session request result =>
      simp only [WorkerRun.command?, he, Option.some.injEq] at hc
      simp only [he, Errand.mayHold] at hm
      rw [hm.1]
      exact hsent request (by rw [← hc]; rfl)
  · simp [credit, unread, send, hready]

lemma Fits.follows_lose (h : m.Fits w signature) {session : Session} {request : RequestId}
    {e : ClientError} (hf : m.run.errand = .fetch session request)
    (hsent : m.stage = .waiting ∨ ∃ a, m.stage = .answered a) (he : e.status? ≠ some 401)
    (cancelled : Bool) :
    m.Follows (m.goOn (m.run.afterErrand cancelled (.fetch session request) (.error e))) w
      signature := by
  have hqueued := h.queued
  -- whatever is under way is this fetch, which nobody waits for any more
  have hunder : ∀ c ∈ m.underway, m.Refetches c := by
    rw [Queued] at hqueued
    rcases hsent with hst | ⟨a, hst⟩
    · rw [hst] at hqueued
      obtain ⟨c, before, hc, hu, hl, hall⟩ := hqueued
      have hfetch : m.Refetches c := by
        simp only [WorkerRun.command?, hf, Option.some.injEq] at hc
        exact ⟨session, request, hf, hc.symm, hl request (by rw [← hc]; rfl)⟩
      intro x hx
      rw [hu] at hx
      rcases List.mem_append.1 hx with hx | hx
      · rw [(hall x hx).1]
        exact hfetch
      · rw [List.mem_singleton.1 hx]
        exact hfetch
    · rw [hst] at hqueued
      rw [hqueued.1]
      exact fun c hc => by cases hc
  have hunread : m.unread = 0 := by
    rcases hsent with hst | ⟨a, hst⟩
    · rw [unread, hst]
    · rw [Queued, hst, hf] at hqueued
      obtain ⟨-, x, rfl⟩ := hqueued
      rw [unread, hst]
  have hhold (b : BucketId) (r : RequestId) (hm : m.mayHold b r) :
      m.lastSent = some r ∧ r = request := by
    refine ⟨hm.1, ?_⟩
    have hm := hm.2
    rcases hsent with hst | ⟨a, hst⟩
    · simpa [hst, hf, Errand.mayHold] using hm
    · rw [hst, hf] at hm
      exact Errand.mayHold_of_mayKeep hm
  have hgo : m.run.afterErrand cancelled (.fetch session request) (.error e) =
      m.run.fetchAgain cancelled session request := by
    simp [WorkerRun.afterErrand, WorkerRun.afterFetch, he]
  rw [hgo]
  cases cancelled with
  | false =>
    refine ⟨⟨h.worker, ?_, h.counted, ?_⟩, ?_, ?_⟩
    · intro x hx
      obtain rfl := Option.some.inj hx
      exact h.session session (by rw [hf]; rfl)
    · intro c hc
      obtain ⟨session', request', hf', hc', hl⟩ := hunder c hc
      rw [hf] at hf'
      cases hf'
      exact ⟨session, request, rfl, hc', hl⟩
    · exact fun b r hm => ⟨(hhold b r hm).1, (hhold b r hm).2⟩
    · rw [credit, credit, hunread]
      rfl
  | true =>
    apply h.follows_stop hunread
    · intro c hc
      obtain ⟨session', request', hf', rfl, hl⟩ := hunder c hc
      exact ⟨_, rfl, rfl, hl⟩
    · rintro s hs
      exact (Except.ok.inj hs).symm

lemma Fits.follows_execute (h : m.Fits w signature) {session : Session} {request : RequestId}
    {p : Bucket} (hx : m.run.errand = .execute session request p) (hready : m.stage = .ready)
    {result : Option BucketResult} (hown : ∀ x ∈ result, x.bucketId = p.bucketId) :
    m.Follows (m.goOn (m.run.afterErrand false (.execute session request p) result)) w
      signature := by
  have hqueued := h.queued
  rw [Queued, hready] at hqueued
  have hid : (result.getD (BucketResult.lost p)).bucketId = p.bucketId := by
    cases result with
    | none => rfl
    | some x => exact hown x rfl
  refine ⟨⟨h.worker, ?_, h.counted, ?_⟩, ?_, ?_⟩
  · intro x hs
    obtain rfl := Option.some.inj hs
    exact h.session session (by rw [hx]; rfl)
  · intro c hc
    obtain ⟨_, _, hf, -⟩ := hqueued c hc
    rw [hx] at hf
    cases hf
  · rintro b r ⟨hl, hm⟩
    rw [hready, hx] at hm
    exact ⟨hl, hm.1, hm.2.trans hid.symm⟩
  · simp [credit, hready, goOn, WorkerRun.afterErrand, WorkerRun.afterExecution, unread]

/-! ### Answers that are read -/

section

variable {a : Except QueueError Answer} (h : m.Fits w signature) (ha : m.stage = .answered a)

include ha in
lemma mayKeep_of_answered {b : BucketId} {r : RequestId} (hm : m.mayHold b r) :
    m.run.errand.mayKeep b r a := by
  have hm := hm.2
  rwa [ha] at hm

include h ha

lemma Fits.of_answered : m.underway = [] ∧ m.run.errand.Suits signature a := by
  have hqueued := h.queued
  rwa [Queued, ha] at hqueued

lemma Fits.not_mem_underway (c : Command) : c ∉ m.underway := by
  rw [(h.of_answered ha).1]
  exact List.not_mem_nil

lemma Fits.follows_end (hunread : m.unread = 0) {outcome : Except ClientError WorkerSummary}
    (ho : ∀ s, outcome = .ok s → s = m.run.summary) :
    m.Follows (m.goOn (m.run.stop outcome)) w signature :=
  h.follows_stop hunread (fun c hc => absurd hc (h.not_mem_underway ha c)) ho

lemma Fits.of_no_session (hs : m.run.errand.session? = none) :
    m.unread = 0 ∧ ∀ b r, ¬ m.mayHold b r := by
  have hsuits := (h.of_answered ha).2
  refine ⟨unread_of_read fun answer hst => ?_, fun b r hm => ?_⟩
  · obtain rfl := Stage.answered.inj (ha.symm.trans hst)
    cases he : m.run.errand with
    | askVersion expected =>
      rw [he] at hsuits
      exact hsuits answer rfl
    | register =>
      rw [he] at hsuits
      exact hsuits.2 answer rfl
    | fetch | execute | submit => simp [he, Errand.session?] at hs
  · have hm := Errand.mayHold_of_mayKeep (mayKeep_of_answered ha hm)
    cases he : m.run.errand with
    | askVersion | register =>
      rw [he] at hm
      exact hm
    | fetch | execute | submit => simp [he, Errand.session?] at hs

lemma Fits.follows_version {expected : String} (he : m.run.errand = .askVersion expected)
    (ending : Except ClientError String) (cancelled : Bool) :
    m.Follows (m.goOn (m.run.afterErrand cancelled (.askVersion expected) ending)) w signature := by
  obtain ⟨hunread, hnone⟩ := h.of_no_session ha (by rw [he]; rfl)
  cases ending with
  | error e => exact h.follows_end ha hunread fun s hs => by cases hs
  | ok v =>
    by_cases hv : v = expected
    · simp only [WorkerRun.afterErrand, hv, if_true]
      refine ⟨⟨h.worker, fun x hx => (by cases hx), h.counted, fun c hc => ?_⟩,
        fun b r hm => absurd hm (hnone b r), ?_⟩
      · exact absurd hc (h.not_mem_underway ha c)
      · rw [credit, credit, hunread]
        rfl
    · simp only [WorkerRun.afterErrand, hv, if_false]
      exact h.follows_end ha hunread fun s hs => by cases hs

lemma Fits.follows_registration (he : m.run.errand = .register)
    {ending : Except ClientError WorkerConfiguration}
    (hsig : ∀ c, ending = .ok c → c.signature = some signature) (cancelled : Bool) :
    m.Follows (m.goOn (m.run.afterErrand cancelled .register ending)) w signature := by
  obtain ⟨hunread, hnone⟩ := h.of_no_session ha (by rw [he]; rfl)
  cases ending with
  | error e => exact h.follows_end ha hunread fun s hs => by cases hs
  | ok c =>
    have hnext : m.run.afterErrand cancelled .register (.ok c) =
        m.run.fetchNew cancelled ⟨c, signature⟩ := by
      simp [WorkerRun.afterErrand, WorkerRun.afterRegistration, hsig c rfl]
    rw [hnext]
    refine h.follows_fetchNew (h.of_answered ha).1 hnone rfl h.counted ?_ cancelled
    rw [credit, hunread]
    rfl

lemma Fits.follows_fetched {session : Session} {request : RequestId}
    (he : m.run.errand = .fetch session request) {x : FetchAnswer} (hx : a = .ok (.fetched x))
    (cancelled : Bool) :
    m.Follows (m.goOn (m.run.afterErrand cancelled (.fetch session request) (.ok x))) w
      signature := by
  subst hx
  have hsession : session.signature = signature := h.session session (by rw [he]; rfl)
  have hkeep {b : BucketId} {r : RequestId} (hm : m.mayHold b r) :
      (Errand.fetch session request).mayKeep b r (.ok (.fetched x)) := by
    rw [← he]
    exact mayKeep_of_answered ha hm
  have hunread : m.unread = 0 := by rw [unread, ha]
  cases x with
  | bucket p =>
    refine ⟨⟨h.worker, ?_, h.counted, fun c hc => ?_⟩, fun b r hm => ⟨hm.1, hkeep hm⟩, ?_⟩
    · intro x hx
      obtain rfl := Option.some.inj hx
      exact hsession
    · exact absurd hc (h.not_mem_underway ha c)
    · rw [credit, credit, hunread]
      rfl
  | checkAgainLater seconds =>
    refine h.follows_fetchNew (h.of_answered ha).1 (fun b r hm => hkeep hm) hsession h.counted ?_
      cancelled
    rw [credit, hunread]
    rfl
  | queueDepleted => exact h.follows_end ha hunread fun s hs => (Except.ok.inj hs).symm
  | refused reason => exact h.follows_end ha hunread fun s hs => by cases hs

lemma Fits.follows_submitted {session : Session} {request : RequestId} {result : BucketResult}
    (he : m.run.errand = .submit session request result) {x : SubmitAnswer}
    (hx : a = .ok (.submitted x)) (cancelled : Bool) :
    m.Follows (m.goOn (m.run.afterErrand cancelled (.submit session request result) (.ok x))) w
      signature := by
  subst hx
  have hsession : session.signature = signature := h.session session (by rw [he]; rfl)
  have hnone (b : BucketId) (r : RequestId) (hm : m.mayHold b r) : False := by
    have hkeep := mayKeep_of_answered ha hm
    rwa [he] at hkeep
  have hcounted := h.counted
  cases x with
  | accepted b retry =>
    refine h.follows_fetchNew (s := ⟨m.run.summary.executed + 1, m.run.summary.ignored⟩)
      (h.of_answered ha).1 hnone hsession (hcounted.trans (Nat.le_succ _)) ?_ cancelled
    rw [credit, unread, ha]
    dsimp only
    omega
  | ignored reason =>
    refine h.follows_fetchNew (s := ⟨m.run.summary.executed + 1, m.run.summary.ignored + 1⟩)
      (h.of_answered ha).1 hnone hsession (Nat.succ_le_succ hcounted) ?_ cancelled
    rw [credit, unread, ha]
    dsimp only
    omega

theorem Fits.follows_read {ending : m.run.errand.Ending}
    (he : m.run.errand.ending? a = some ending) (cancelled : Bool) :
    m.Follows (m.goOn (m.run.step cancelled ending)) w signature := by
  obtain ⟨-, hsuits⟩ := h.of_answered ha
  obtain ⟨⟨worker, options, ids, summary, errand⟩, stage, underway, lastSent⟩ := m
  cases errand with
  | askVersion expected => exact h.follows_version ha rfl ending cancelled
  | register =>
    refine h.follows_registration ha rfl (fun c hc => ?_) cancelled
    cases a with
    | error err =>
      obtain rfl := Option.some.inj he
      cases hc
    | ok x =>
      cases x with
      | registered c' =>
        obtain rfl := Option.some.inj he
        rw [← Except.ok.inj hc]
        exact hsuits.1 c' rfl
      | _ => cases he
  | fetch session request =>
    obtain ⟨x, rfl⟩ := hsuits
    obtain rfl := Option.some.inj he
    exact h.follows_fetched ha rfl rfl cancelled
  | execute session request p =>
    cases a with
    | error err => cases he
    | ok x => cases x <;> cases he
  | submit session request result =>
    cases a with
    | error err =>
      obtain rfl := Option.some.inj he
      exact h.follows_end ha (by rw [unread, ha]) fun s hs => by cases hs
    | ok x =>
      cases x with
      | submitted answer =>
        obtain rfl := Option.some.inj he
        exact h.follows_submitted ha rfl rfl cancelled
      | _ => cases he

end

/-! ### Requests that reach the server -/

section

variable {e : Event} {rest : List Command}

open scoped Classical in
lemma unread_answered (e : Event) (run : WorkerRun) (lastSent : Option RequestId) :
    unread ⟨run, .answered e.answer, [], lastSent⟩ = if ∃ b, e.Accepts b then 1 else 0 := by
  by_cases hacc : ∃ b, e.Accepts b
  · obtain ⟨b, request, c, retry, hc, hb, ha⟩ := hacc
    rw [if_pos ⟨b, request, c, retry, hc, hb, ha⟩, unread, ha]
  · rw [if_neg hacc, unread]
    split
    · next h =>
      have ha := Stage.answered.inj h
      have hkind := Event.answer_inKind ha
      cases hc : e.command <;> simp [Event.inKind, hc] at hkind
      exact absurd ⟨_, _, _, _, hc, rfl, ha⟩ hacc
    · rfl

structure Arrives (m m' : Member) (e : Event) (w : WorkerId) : Prop where
  fits : m'.Fits w e.server.signature
  hold : ∀ b r, e.after.queue.Out b w r → m'.mayHold b r
  accepted : ∀ b, e.Accepts b → m'.credit = m.credit + 1
  credit : (∀ b, ¬ e.Accepts b) → m'.credit = m.credit

variable (h : m.Fits w e.server.signature) (hs : e.server.Sound)
  (hheld : ∀ b r, e.server.queue.Out b w r → m.mayHold b r)

include h hs hheld

lemma Fits.arrives_abandoned {request : FetchRequest} (hc : e.command = .fetch request)
    (hqueued : { m with underway := rest }.Queued e.server.signature)
    (hhold : ∀ b, m.mayHold b request.requestId) :
    m.Arrives { m with underway := rest } e w where
  fits := ⟨h.worker, h.session, h.counted, hqueued⟩
  hold b r hout := by
    rcases (Event.out_after hs.queue).1 hout with ⟨request', _, hc', -, rfl, -⟩ | ⟨hout, -⟩
    · obtain rfl := Command.fetch.inj (hc.symm.trans hc')
      exact hhold b
    · exact hheld b r hout
  accepted b hb := absurd hb (Event.not_accepts (by simp [hc]))
  credit _ := rfl

omit hs hheld in
lemma Fits.suits_answer (hc : m.run.command? = some e.command) :
    m.run.errand.Suits e.server.signature e.answer := by
  have hkind {x : Answer} (ha : e.answer = .ok x) := Event.answer_inKind ha
  cases hx : m.run.errand with
  | askVersion expected =>
    simp only [WorkerRun.command?, hx, Option.some.injEq] at hc
    intro x ha
    simpa [← hc, Event.inKind] using hkind ha
  | register =>
    simp only [WorkerRun.command?, hx, Option.some.injEq] at hc
    refine ⟨fun c ha => Event.signature_of_registered ha, fun x ha => ?_⟩
    simpa [← hc, Event.inKind] using hkind ha
  | fetch session request =>
    simp only [WorkerRun.command?, hx, Option.some.injEq] at hc
    exact Event.fetched_of_signature hc.symm (h.session session (by rw [hx]; rfl))
  | execute session request p => simp [WorkerRun.command?, hx] at hc
  | submit session request result => trivial

lemma Fits.held_after_fetch (hq : e.server.queue.Ranked) (hagree : e.server.Agrees)
    (hstage : m.stage = .waiting) {session : Session} {request : RequestId}
    (hx : m.run.errand = .fetch session request)
    (hc : e.command = .fetch ⟨m.run.worker, request, session.signature⟩)
    (hl : m.lastSent = some request) {b : BucketId} {r : RequestId}
    (hout : e.after.queue.Out b w r) :
    m.lastSent = some r ∧ (Errand.fetch session request).mayKeep b r e.answer := by
  obtain rfl : r = request := by
    rcases (Event.out_after hs.queue).1 hout with ⟨_, _, hc', -, rfl, -⟩ | ⟨hout, -⟩
    · rw [← Command.fetch.inj (hc.symm.trans hc')]
    · have hm := (hheld b r hout).2
      rwa [hstage, hx] at hm
  rw [← h.worker] at hout
  obtain ⟨x, ha⟩ := Event.fetched_of_signature hc (h.session session (by rw [hx]; rfl))
  rw [ha]
  refine ⟨hl, ?_⟩
  cases x with
  | bucket p => exact ⟨rfl, Event.bucket_of_out hc hs hq ha hout⟩
  | refused reason => rfl
  | checkAgainLater seconds =>
    exact Event.not_out_of_declined hc hs hq hagree ha (by simp) (by simp) b hout
  | queueDepleted =>
    exact Event.not_out_of_declined hc hs hq hagree ha (by simp) (by simp) b hout

lemma Fits.held_after_submission (hstage : m.stage = .waiting) {session : Session}
    {request : RequestId} {result : BucketResult}
    (hx : m.run.errand = .submit session request result)
    (hc : e.command = .submit ⟨m.run.worker, request, session.signature, result⟩) {b : BucketId}
    {r : RequestId} (hout : e.after.queue.Out b w r) :
    m.lastSent = some r ∧ (Errand.submit session request result).mayKeep b r e.answer := by
  obtain ⟨hl, rfl, rfl⟩ : m.lastSent = some r ∧ r = request ∧ b = result.bucketId := by
    rcases (Event.out_after hs.queue).1 hout with hhand | ⟨hout, -⟩
    · exact absurd hhand (Event.not_handsOut (by simp [hc]))
    · have hm := hheld b r hout
      rwa [mayHold, hstage, hx] at hm
  refine ⟨hl, ?_⟩
  cases ha : e.answer with
  | error err => exact ⟨rfl, rfl⟩
  | ok x =>
    have hkind := Event.answer_inKind ha
    cases x <;> simp [hc, Event.inKind] at hkind
    rw [← h.worker] at hout
    exact Event.not_out_of_submitted hc hs ha hout

lemma Fits.arrives_awaited (hq : e.server.queue.Ranked) (hagree : e.server.Agrees)
    (hstage : m.stage = .waiting) (hc : m.run.command? = some e.command)
    (hlast : ∀ r ∈ e.command.requestId?, m.lastSent = some r) :
    m.Arrives { m with stage := .answered e.answer, underway := [] } e w := by
  have hunread : m.unread = 0 := by rw [unread, hstage]
  refine ⟨⟨h.worker, h.session, h.counted, rfl, h.suits_answer hc⟩, fun b r hout => ?_,
    fun b hb => ?_, fun hn => ?_⟩
  · change m.lastSent = some r ∧ m.run.errand.mayKeep b r e.answer
    cases hx : m.run.errand with
    | askVersion | register =>
      simp only [WorkerRun.command?, hx, Option.some.injEq] at hc
      rcases (Event.out_after hs.queue).1 hout with hhand | ⟨hout, -⟩
      · exact absurd hhand (Event.not_handsOut (by simp [← hc]))
      · have hm := (hheld b r hout).2
        rw [hstage, hx] at hm
        exact hm.elim
    | fetch session request =>
      simp only [WorkerRun.command?, hx, Option.some.injEq] at hc
      exact h.held_after_fetch hs hheld hq hagree hstage hx hc.symm
        (hlast request (by rw [← hc]; rfl)) hout
    | execute session request p => simp [WorkerRun.command?, hx] at hc
    | submit session request result =>
      simp only [WorkerRun.command?, hx, Option.some.injEq] at hc
      exact h.held_after_submission hs hheld hstage hx hc.symm hout
  · rw [credit, credit, hunread, unread_answered, if_pos ⟨b, hb⟩]
  · rw [credit, credit, hunread, unread_answered, if_neg fun ⟨b, hb⟩ => hn b hb]

theorem Fits.arrives (hq : e.server.queue.Ranked) (hagree : e.server.Agrees)
    (hunder : m.underway = e.command :: rest) : m.Arrives (m.arrive rest e.answer) e w := by
  have hqueued := h.queued
  rw [Queued] at hqueued
  cases hstage : m.stage with
  | ready =>
    rw [hstage, hunder] at hqueued
    obtain ⟨session, request, hx, hc, hl⟩ := hqueued _ List.mem_cons_self
    have harrive : m.arrive rest e.answer = { m with underway := rest } := by
      simp [arrive, hstage]
    rw [harrive]
    apply h.arrives_abandoned hs hheld hc
    · rw [Queued]
      simp only [hstage]
      exact fun c hm => hqueued c (List.mem_cons_of_mem _ hm)
    · intro b
      rw [mayHold, hstage, hx]
      exact ⟨hl, rfl⟩
  | waiting =>
    rw [hstage] at hqueued
    obtain ⟨c, before, hc, hu, hlast, hall⟩ := hqueued
    cases before with
    | nil =>
      rw [hunder] at hu
      obtain ⟨rfl, rfl⟩ := List.cons.inj hu
      have harrive : m.arrive [] e.answer = { m with stage := .answered e.answer, underway := [] } := by
        simp [arrive, hstage]
      rw [harrive]
      exact h.arrives_awaited hs hheld hq hagree hstage hc hlast
    | cons x before =>
      rw [hunder] at hu
      obtain ⟨rfl, rfl⟩ := List.cons.inj hu
      obtain ⟨hsame, session, request, hx, hfetch, hl⟩ := hall _ List.mem_cons_self
      have harrive : m.arrive (before ++ [c]) e.answer = { m with underway := before ++ [c] } := by
        simp [arrive, hstage]
      change m.Arrives (m.arrive (before ++ [c]) e.answer) e w
      rw [harrive]
      apply h.arrives_abandoned hs hheld (hsame.trans hfetch)
      · rw [Queued]
        simp only [hstage]
        exact ⟨c, before, hc, rfl, hlast, fun y hy => hall y (List.mem_cons_of_mem _ hy)⟩
      · intro b
        rw [mayHold, hstage, hx]
        exact ⟨hl, rfl⟩
  | answered a =>
    rw [hstage, hunder] at hqueued
    cases hqueued.1
  | stopped =>
    rw [hstage, hunder] at hqueued
    obtain ⟨request, hc, -, hl⟩ := hqueued _ List.mem_cons_self
    have harrive : m.arrive rest e.answer = { m with underway := rest } := by
      simp [arrive, hstage]
    rw [harrive]
    apply h.arrives_abandoned hs hheld hc
    · rw [Queued]
      simp only [hstage]
      exact fun c hm => hqueued c (List.mem_cons_of_mem _ hm)
    · intro b
      rw [mayHold, hstage]
      exact ⟨hl, trivial⟩

end

end Member

end TestQueue
