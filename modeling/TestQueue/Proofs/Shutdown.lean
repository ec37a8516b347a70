import TestQueue.Proofs.Depletion

/-!
Requests to schedule tests and checks whether the server may stop are made of several steps, and the
steps of different calls can alternate in any order. A check reads the queue before it reads the
locks, so that a whole request can end between the two.
-/

namespace TestQueue

open Time (Instant Span)

/-! ### Calls and their steps -/

inductive CallStep where
  | lock
  | recordActivity (now : Instant)
  | enqueue (request : ScheduleRequest)
  | unlock
  | readQueue
  | readTermination (now : Instant)
  | perform (now : Instant) (command : Command)
  deriving DecidableEq

inductive ServerCall where
  | schedule (request : ScheduleRequest) (now : Instant)
  | mayTerminate (now : Instant)
  | other (now : Instant) (command : Command) (h : ∀ request, command ≠ .schedule request)

def ServerCall.steps : ServerCall → List CallStep
  | schedule request now => [.lock, .recordActivity now, .enqueue request, .unlock]
  | mayTerminate now => [.readQueue, .readTermination now]
  | other now command _ => [.perform now command]

/-- A server, and what each of the checks has read of the queue and has answered. -/
structure Shared (ι : Type) where
  server : Dispatcher
  sawDepleted : ι → Bool
  answer : ι → Option Bool

structure Concurrent (ι : Type) extends Shared ι where
  remaining : ι → List CallStep

section

variable {ι : Type} [DecidableEq ι]

def Shared.take (m : Shared ι) (c : ι) : CallStep → Shared ι
  | .lock => { m with server := m.server.lock }
  | .recordActivity now => { m with server := m.server.indicateActivity now }
  | .enqueue request => { m with server := (m.server.enqueueTests request).2 }
  | .unlock => { m with server := m.server.unlock }
  | .readQueue => { m with sawDepleted := Function.update m.sawDepleted c m.server.isDepleted }
  | .readTermination now =>
    let answer := m.server.termination.mayTerminate (m.sawDepleted c) now
    { m with answer := Function.update m.answer c (some answer) }
  | .perform now command => { m with server := (m.server.perform now command).2 }

namespace Concurrent

def starting (d : Dispatcher) (calls : ι → ServerCall) : Concurrent ι :=
  { server := d, sawDepleted := fun _ => false, answer := fun _ => none,
    remaining := fun c => (calls c).steps }

def turn (m : Concurrent ι) (c : ι) : Concurrent ι :=
  match m.remaining c with
  | [] => m
  | s :: rest => ⟨m.toShared.take c s, Function.update m.remaining c rest⟩

def run (m : Concurrent ι) (order : List ι) : Concurrent ι := order.foldl turn m

variable {m m₀ : Concurrent ι} {c k : ι} {s : CallStep} {rest : List CallStep}

lemma turn_of_remaining (h : m.remaining c = s :: rest) :
    m.turn c = ⟨m.toShared.take c s, Function.update m.remaining c rest⟩ := by
  rw [turn, h]

lemma turn_of_finished (h : m.remaining c = []) : m.turn c = m := by
  rw [turn, h]

lemma run_induction {P : Concurrent ι → Prop} (start : P m) (order : List ι)
    (step : ∀ m, ∀ c ∈ order, P m → P (m.turn c)) : P (m.run order) := by
  induction order generalizing m with
  | nil => exact start
  | cons c order ih =>
    apply ih (step m c List.mem_cons_self start)
    intro m k hk
    exact step m k (List.mem_cons_of_mem _ hk)

lemma remaining_turn (m : Concurrent ι) (c : ι) :
    (m.turn c).remaining = Function.update m.remaining c (m.remaining c).tail := by
  cases h : m.remaining c with
  | nil => rw [turn_of_finished h, List.tail_nil, ← h, Function.update_eq_self]
  | cons s rest => rw [turn_of_remaining h, List.tail_cons]

lemma remaining_suffix_turn (m : Concurrent ι) (c k : ι) :
    (m.turn c).remaining k <:+ m.remaining k := by
  rw [remaining_turn]
  by_cases h : k = c
  · subst h
    rw [Function.update_self]
    exact List.tail_suffix _
  · rw [Function.update_of_ne h]

lemma run_alone (m : Concurrent ι) (c : ι) :
    (m.run (List.replicate (m.remaining c).length c)).toShared =
      (m.remaining c).foldl (fun x s => x.take c s) m.toShared := by
  induction h : m.remaining c generalizing m with
  | nil => rfl
  | cons s rest ih =>
    have hrest : (m.turn c).remaining c = rest := by simp [remaining_turn, h]
    have hshared : (m.turn c).toShared = m.toShared.take c s := by rw [turn_of_remaining h]
    rw [List.foldl_cons, ← hshared, ← ih _ hrest]
    rfl

lemma server_run_schedule {request : ScheduleRequest} {now : Instant}
    (h : m.remaining c = (ServerCall.schedule request now).steps) :
    (m.run [c, c, c, c]).server = (m.server.scheduleTests request now).2 := by
  have halone := congrArg Shared.server (m.run_alone c)
  rw [h] at halone
  exact halone

lemma answer_run_mayTerminate {now : Instant}
    (h : m.remaining c = (ServerCall.mayTerminate now).steps) :
    (m.run [c, c]).answer c = some (m.server.mayTerminate now) := by
  have halone := congrArg (fun x => x.answer c) (m.run_alone c)
  rw [h] at halone
  simpa [ServerCall.steps, Shared.take] using! halone

/-! ### Any order of turns -/

lemma run_suffix (m : Concurrent ι) (order : List ι) (k : ι) :
    (m.run order).remaining k <:+ m.remaining k := by
  induction order generalizing m with
  | nil => exact List.suffix_rfl
  | cons c order ih => exact (ih (m.turn c)).trans (remaining_suffix_turn m c k)

lemma run_of_not_mem {p : ι} {order : List ι} (h : p ∉ order) (m : Concurrent ι) :
    (m.run order).remaining p = m.remaining p ∧ (m.run order).sawDepleted p = m.sawDepleted p := by
  induction order generalizing m with
  | nil => exact ⟨rfl, rfl⟩
  | cons c order ih =>
    obtain ⟨hc, ho⟩ := List.ne_and_not_mem_of_not_mem_cons h
    obtain ⟨hr, hd⟩ := ih ho (m.turn c)
    constructor
    · exact hr.trans (by rw [remaining_turn, Function.update_of_ne hc])
    · refine hd.trans ?_
      cases hs : m.remaining c with
      | nil => rw [turn_of_finished hs]
      | cons s rest =>
        rw [turn_of_remaining hs]
        cases s with
        | readQueue => exact Function.update_of_ne hc _ _
        | _ => rfl

lemma suffix_schedule {l : List CallStep} {request : ScheduleRequest} {now : Instant}
    (h : l <:+ (ServerCall.schedule request now).steps) :
    l = (ServerCall.schedule request now).steps ∨ l = [.recordActivity now, .enqueue request, .unlock] ∨
      l = [.enqueue request, .unlock] ∨ l = [.unlock] ∨ l = [] := by
  simpa [ServerCall.steps, List.suffix_cons_iff] using h

lemma count_lock_le {l : List CallStep} {call : ServerCall} (h : l <:+ call.steps) :
    l.count .lock ≤ l.count .unlock := by
  cases call with
  | schedule request now =>
    rcases suffix_schedule h with rfl | rfl | rfl | rfl | rfl <;> simp [ServerCall.steps]
  | mayTerminate now =>
    apply le_of_eq_of_le _ (Nat.zero_le _)
    rw [List.count_eq_zero]
    intro hm
    simpa [ServerCall.steps] using h.subset hm
  | other now command _ =>
    apply le_of_eq_of_le _ (Nat.zero_le _)
    rw [List.count_eq_zero]
    intro hm
    simpa [ServerCall.steps] using h.subset hm

lemma schedule_of_enqueue {request : ScheduleRequest} {call : ServerCall}
    (h : .enqueue request :: rest <:+ call.steps) :
    ∃ now, call = .schedule request now ∧ rest = [.unlock] := by
  cases call with
  | schedule request' now =>
    have hl := suffix_schedule h
    simp only [ServerCall.steps, List.cons.injEq, reduceCtorEq, false_and, false_or, or_false,
      CallStep.enqueue.injEq] at hl
    obtain ⟨rfl, hrest⟩ := hl
    exact ⟨now, rfl, hrest⟩
  | mayTerminate now => simpa [ServerCall.steps] using h.subset List.mem_cons_self
  | other now command _ => simpa [ServerCall.steps] using h.subset List.mem_cons_self

end Concurrent

/-! ### One step -/

lemma Event.not_addsBuckets {e : Event} (hc : ∀ request, e.command ≠ .schedule request) :
    e.addsBuckets = false := by
  unfold addsBuckets
  split
  · next ha =>
    have hkind := answer_inKind ha
    cases hcmd : e.command <;> simp [inKind, hcmd] at hkind hc
  · rfl

lemma Dispatcher.sound_enqueueTests {d : Dispatcher} (h : d.Sound) (request : ScheduleRequest) :
    (d.enqueueTests request).2.Sound := by
  have hs : (d.scheduleTests request .epoch).2.Sound :=
    Event.sound_after (e := ⟨d, .epoch, .schedule request⟩) h
  have heq : (d.scheduleTests request .epoch).2.queue = (d.enqueueTests request).2.queue ∧
      (d.scheduleTests request .epoch).2.ids = (d.enqueueTests request).2.ids := by
    unfold scheduleTests enqueueTests lock indicateActivity unlock
    unfold defaultWorkerCount
    dsimp only
    split
    · exact ⟨rfl, rfl⟩
    · split <;> exact ⟨rfl, rfl⟩
  exact ⟨heq.2 ▸ hs.injective, heq.1 ▸ heq.2 ▸ hs.queue⟩

namespace Shared

variable {x : Shared ι} {c : ι} {s : CallStep}

lemma sound_take (h : x.server.Sound) (c : ι) (s : CallStep) : (x.take c s).server.Sound := by
  cases s with
  | enqueue request => exact Dispatcher.sound_enqueueTests h request
  | perform now command => exact Event.sound_after (e := ⟨x.server, now, command⟩) h
  | lock | recordActivity | unlock | readQueue | readTermination => exact ⟨h.injective, h.queue⟩

lemma termination_take (x : Shared ι) (c : ι) (s : CallStep) :
    ∃ t, x.server.termination.lastActivity ≤ t ∧ (x.take c s).server.termination =
      ⟨x.server.termination.policy, t,
        x.server.termination.locks + [s].count .lock - [s].count .unlock⟩ := by
  cases s with
  | recordActivity now => exact ⟨_, le_max_left _ _, rfl⟩
  | enqueue request =>
    refine ⟨_, le_rfl, ?_⟩
    exact (Dispatcher.continues_enqueueTests x.server request).2
  | perform now command =>
    obtain ⟨-, -, t, hle, ht⟩ := Dispatcher.continues_perform x.server now command
    exact ⟨t, hle, ht⟩
  | lock | unlock | readQueue | readTermination => exact ⟨_, le_rfl, rfl⟩

lemma isDepleted_take (hs : x.server.Sound) (h : x.server.isDepleted = true)
    (hs : ∀ request, s ≠ .enqueue request)
    (hp : ∀ now request, s ≠ .perform now (.schedule request)) :
    (x.take c s).server.isDepleted = true := by
  cases s with
  | enqueue request => exact absurd rfl (hs request)
  | perform now command =>
    apply Event.depleted_after (e := ⟨x.server, now, command⟩) ‹_› h
    apply Event.not_addsBuckets
    rintro request rfl
    exact hp now request rfl
  | lock | recordActivity | unlock | readQueue | readTermination => exact h

end Shared

namespace Concurrent

variable {m m₀ : Concurrent ι} {c k : ι} {s : CallStep} {rest : List CallStep}
  {calls : ι → ServerCall} {policy : TerminationPolicy}

def ahead [Fintype ι] (m : Concurrent ι) (s : CallStep) : ℕ := ∑ c, (m.remaining c).count s

variable [Fintype ι]

lemma ahead_turn (h : m.remaining c = s :: rest) (x : CallStep) :
    (m.turn c).ahead x + [s].count x = m.ahead x := by
  unfold ahead
  rw [← Finset.add_sum_erase _ _ (Finset.mem_univ c),
    ← Finset.add_sum_erase _ (fun k => (m.remaining k).count x) (Finset.mem_univ c)]
  have hothers : ∑ k ∈ Finset.univ.erase c, ((m.turn c).remaining k).count x =
      ∑ k ∈ Finset.univ.erase c, (m.remaining k).count x := by
    apply Finset.sum_congr rfl
    intro k hk
    rw [remaining_turn, Function.update_of_ne (Finset.ne_of_mem_erase hk)]
  have hown : (m.turn c).remaining c = rest := by simp [remaining_turn, h]
  have hcount : (m.remaining c).count x = [s].count x + rest.count x := by
    rw [h, ← List.singleton_append, List.count_append]
  rw [hothers, hown, hcount]
  omega

omit [DecidableEq ι] in
lemma ahead_lock_le (h : ∀ c, m.remaining c <:+ (calls c).steps) : m.ahead .lock ≤ m.ahead .unlock :=
  Finset.sum_le_sum fun c _ => count_lock_le (h c)

/-! The locks that are held are those that requests under way have still to give back. -/

omit [DecidableEq ι] in
lemma locks_starting {d : Dispatcher} (hl : d.termination.locks = 0) (calls : ι → ServerCall) :
    (starting d calls).server.termination.locks + (starting d calls).ahead .lock =
      (starting d calls).ahead .unlock := by
  change d.termination.locks + _ = _
  rw [hl, Nat.zero_add]
  apply Finset.sum_congr rfl
  intro c _
  cases hc : calls c <;> simp [starting, ServerCall.steps, hc]

lemma locks_turn (hr : ∀ c, m.remaining c <:+ (calls c).steps)
    (hl : m.server.termination.locks + m.ahead .lock = m.ahead .unlock) (c : ι) :
    (m.turn c).server.termination.locks + (m.turn c).ahead .lock = (m.turn c).ahead .unlock := by
  cases hrem : m.remaining c with
  | nil => rwa [turn_of_finished hrem]
  | cons s rest =>
    have hlock := ahead_turn hrem .lock
    have hunlock := ahead_turn hrem .unlock
    have hfew := ahead_lock_le fun k => (remaining_suffix_turn m c k).trans (hr k)
    obtain ⟨t, -, ht⟩ := m.toShared.termination_take c s
    have hlocks : (m.turn c).server.termination.locks =
        m.server.termination.locks + [s].count .lock - [s].count .unlock := by
      rw [turn_of_remaining hrem]
      exact congrArg Termination.locks ht
    rw [hlocks]
    by_cases hu : s = .unlock
    · subst hu
      simp only [List.count_singleton, beq_iff_eq, reduceCtorEq, if_false, if_true] at hlock hunlock ⊢
      omega
    · have hzero : [s].count .unlock = 0 := by simpa [List.count_singleton] using hu
      omega

structure Follows (calls : ι → ServerCall) (policy : TerminationPolicy) (m : Concurrent ι) : Prop where
  sound : m.server.Sound
  policy : m.server.termination.policy = policy
  remaining : ∀ c, m.remaining c <:+ (calls c).steps
  locks : m.server.termination.locks + m.ahead .lock = m.ahead .unlock
  activity : ∀ c request t, calls c = .schedule request t → .recordActivity t ∉ m.remaining c →
    t.millis ≤ m.server.termination.lastActivity

omit [DecidableEq ι] in
lemma follows_starting {d : Dispatcher} (hs : d.Sound) (hl : d.termination.locks = 0)
    (calls : ι → ServerCall) : (starting d calls).Follows calls d.termination.policy where
  sound := hs
  policy := rfl
  remaining _ := List.suffix_rfl
  locks := locks_starting hl calls
  activity c request t hc hn := by simp [starting, ServerCall.steps, hc] at hn

lemma Follows.turn (h : m.Follows calls policy) (c : ι) : (m.turn c).Follows calls policy := by
  cases hrem : m.remaining c with
  | nil => rwa [turn_of_finished hrem]
  | cons s rest =>
    have hturn := turn_of_remaining hrem
    have hsuffix (k : ι) : (m.turn c).remaining k <:+ (calls k).steps :=
      (remaining_suffix_turn m c k).trans (h.remaining k)
    obtain ⟨t, hle, ht⟩ := m.toShared.termination_take c s
    have hterm : (m.turn c).server.termination = _ := (congrArg (·.server.termination) hturn).trans ht
    refine ⟨?_, ?_, hsuffix, ?_, ?_⟩
    · rw [hturn]
      exact Shared.sound_take h.sound c s
    · rw [hterm]
      exact h.policy
    · exact locks_turn h.remaining h.locks c
    · intro k request time hk hn
      by_cases hm : .recordActivity time ∈ m.remaining k
      · -- the step is the one that records it
        obtain ⟨rfl, hs⟩ : k = c ∧ s = .recordActivity time := by
          rw [remaining_turn] at hn
          by_cases hkc : k = c
          · subst hkc
            rw [Function.update_self, hrem, List.tail_cons] at hn
            rw [hrem] at hm
            exact ⟨rfl, ((List.mem_cons.1 hm).resolve_right hn).symm⟩
          · rw [Function.update_of_ne hkc] at hn
            exact absurd hm hn
        rw [hturn, hs]
        exact le_max_right _ _
      · rw [hterm]
        exact (h.activity k request time hk hm).trans hle

lemma Follows.run (h : m.Follows calls policy) (order : List ι) :
    (m.run order).Follows calls policy :=
  run_induction h order fun _ c _ hm => hm.turn c

def Added (calls : ι → ServerCall) (m₀ m : Concurrent ι) : Prop :=
  ∃ c request t, calls c = .schedule request t ∧ .enqueue request ∈ m₀.remaining c ∧
    .enqueue request ∉ m.remaining c

omit [DecidableEq ι] [Fintype ι] in
lemma Added.mono {m' m₀' : Concurrent ι} (h : Added calls m₀ m)
    (hbefore : ∀ c, m₀.remaining c <:+ m₀'.remaining c)
    (hafter : ∀ c, m'.remaining c <:+ m.remaining c) : Added calls m₀' m' := by
  obtain ⟨c, request, t, hc, hm, hn⟩ := h
  exact ⟨c, request, t, hc, (hbefore c).subset hm, fun hm' => hn ((hafter c).subset hm')⟩

lemma Follows.depleted_turn (h : m.Follows calls policy) (hd : m.server.isDepleted = true) (c : ι) :
    (m.turn c).server.isDepleted = true ∨ Added calls m (m.turn c) := by
  cases hrem : m.remaining c with
  | nil =>
    rw [turn_of_finished hrem]
    exact Or.inl hd
  | cons s rest =>
    have hown := h.remaining c
    rw [hrem] at hown
    by_cases hs : ∃ request, s = .enqueue request
    · obtain ⟨request, rfl⟩ := hs
      obtain ⟨t, hc, hrest⟩ := schedule_of_enqueue hown
      refine Or.inr ⟨c, request, t, hc, hrem ▸ List.mem_cons_self, ?_⟩
      simp [remaining_turn, hrem, hrest]
    · left
      rw [turn_of_remaining hrem]
      apply Shared.isDepleted_take h.sound hd
      · exact fun request he => hs ⟨request, he⟩
      · rintro now request rfl
        have hm := hown.subset List.mem_cons_self
        cases hc : calls c with
        | other now' command hother =>
          simp only [ServerCall.steps, hc, List.mem_singleton, CallStep.perform.injEq] at hm
          exact hother request hm.2.symm
        | schedule | mayTerminate => simp [ServerCall.steps, hc] at hm

lemma Follows.depleted_run (h : m.Follows calls policy) (hd : m.server.isDepleted = true)
    (order : List ι) : (m.run order).server.isDepleted = true ∨ Added calls m (m.run order) := by
  induction order generalizing m with
  | nil => exact Or.inl hd
  | cons c order ih =>
    rcases h.depleted_turn hd c with hd' | hadd
    · exact (ih (h.turn c) hd').imp_right fun hadd =>
        hadd.mono (remaining_suffix_turn m c) fun _ => List.suffix_rfl
    · exact Or.inr (hadd.mono (fun _ => List.suffix_rfl) (run_suffix (m.turn c) order))

omit [DecidableEq ι] in
lemma Follows.idle_of_unlocked (h : m.Follows calls policy)
    (hl : m.server.termination.locks = 0) {request : ScheduleRequest} {t : Instant}
    (hc : calls c = .schedule request t) :
    m.remaining c = [] ∨ m.remaining c = (calls c).steps := by
  have hall : ∀ k ∈ Finset.univ, (m.remaining k).count .lock = (m.remaining k).count .unlock := by
    apply (Finset.sum_eq_sum_iff_of_le fun k _ => count_lock_le (h.remaining k)).1
    have hlocks := h.locks
    rw [hl, Nat.zero_add] at hlocks
    exact hlocks
  have hcount := hall c (Finset.mem_univ c)
  have hsuffix := h.remaining c
  rw [hc] at hsuffix ⊢
  rcases suffix_schedule hsuffix with hr | hr | hr | hr | hr <;> rw [hr] at hcount ⊢
  · exact Or.inr rfl
  · simp at hcount
  · simp at hcount
  · simp at hcount
  · exact Or.inl rfl

omit [DecidableEq ι] in
/-- A request that was overtaken by the check was made an idle period before it. -/
lemma Follows.overtaken (h : m.Follows calls policy) (hl : m.server.termination.locks = 0)
    (hadd : Added calls m₀ m) {now : Instant} {seconds : UInt64}
    (hidle : Span.ofSeconds seconds ≤ m.server.termination.idleFor now) :
    ∃ c request t, calls c = .schedule request t ∧ .enqueue request ∈ m₀.remaining c ∧
      m.remaining c = [] ∧ Span.ofSeconds seconds ≤ .ofMillis (now.millis - t.millis).toNat := by
  obtain ⟨c, request, t, hc, hbefore, hafter⟩ := hadd
  have hdone : m.remaining c = [] := by
    apply (h.idle_of_unlocked hl hc).resolve_right
    intro hr
    apply hafter
    rw [hr, hc]
    simp [ServerCall.steps]
  refine ⟨c, request, t, hc, hbefore, hdone, ?_⟩
  have hact := h.activity c request t hc (by rw [hdone]; exact List.not_mem_nil)
  have hmillis : (now.millis - m.server.termination.lastActivity).toNat ≤
      (now.millis - t.millis).toNat := Int.toNat_le_toNat (by omega)
  exact le_trans (α := ℕ) hidle (Nat.mul_le_mul_right _ hmillis)

omit [Fintype ι] in
lemma mayTerminate_of_answer {p : ι} {now : Instant} {first second : Concurrent ι}
    {between : List ι} (hrem : first.remaining p = [.readQueue, .readTermination now])
    (hsecond : second = (first.turn p).run between) (hn : p ∉ between)
    (ha : (second.turn p).answer p = some true) :
    second.server.termination.mayTerminate first.server.isDepleted now = true := by
  obtain ⟨hrem', hsaw⟩ := run_of_not_mem hn (first.turn p)
  rw [← hsecond] at hrem' hsaw
  have hsecondrem : second.remaining p = [.readTermination now] := by
    rw [hrem', turn_of_remaining hrem]
    exact Function.update_self ..
  have hsaw' : second.sawDepleted p = first.server.isDepleted := by
    rw [hsaw, turn_of_remaining hrem]
    exact Function.update_self ..
  rw [turn_of_remaining hsecondrem] at ha
  rw [← hsaw']
  simpa [Shared.take] using! ha

theorem may_terminate_cases {ids : IdSource} (hids : Function.Injective ids.nth)
    (settings : DispatcherSettings) (start : Instant) (calls : ι → ServerCall) {p : ι} {now : Instant}
    (hp : calls p = .mayTerminate now) {before between : List ι} (hb : p ∉ before)
    (hn : p ∉ between) :
    let first := (starting (Dispatcher.new settings ids start) calls).run before
    let second := (first.turn p).run between
    (second.turn p).answer p = some true →
      first.server.isDepleted = true ∧
      (∀ c request t, calls c = .schedule request t →
        second.remaining c = [] ∨ second.remaining c = (calls c).steps) ∧
      ∃ seconds, settings.termination = .afterBeingIdle seconds ∧
        (second.server.isDepleted = true ∨
          ∃ c request t, calls c = .schedule request t ∧ .enqueue request ∈ first.remaining c ∧
            second.remaining c = [] ∧
            Span.ofSeconds seconds ≤ .ofMillis (now.millis - t.millis).toNat) := by
  intro first second ha
  have hfirst : first.Follows calls settings.termination :=
    (follows_starting (Dispatcher.sound_new hids settings start) rfl calls).run before
  have hsecond : second.Follows calls settings.termination := (hfirst.turn p).run between
  have hrem : first.remaining p = [.readQueue, .readTermination now] := by
    rw [(run_of_not_mem hb _).1]
    exact congrArg ServerCall.steps hp
  have hmay := mayTerminate_of_answer hrem rfl hn ha
  rw [Termination.mayTerminate, hsecond.policy] at hmay
  cases hpol : settings.termination with
  | stayAlive => simp [hpol] at hmay
  | afterBeingIdle seconds =>
    simp only [hpol, Bool.and_eq_true, Bool.not_eq_true', decide_eq_true_eq, Termination.isLocked,
      decide_eq_false_iff_not, Nat.pos_iff_ne_zero, not_not] at hmay
    obtain ⟨⟨hdep, hlocks⟩, hidle⟩ := hmay
    refine ⟨hdep, fun c request t hc => hsecond.idle_of_unlocked hlocks hc, seconds, rfl, ?_⟩
    have hturn : (first.turn p).server.isDepleted = true := by
      rw [turn_of_remaining hrem]
      exact hdep
    refine ((hfirst.turn p).depleted_run hturn between).imp_right fun hadd => ?_
    exact hsecond.overtaken hlocks
      (hadd.mono (remaining_suffix_turn first p) fun _ => List.suffix_rfl) hidle

end Concurrent

end

/-! ### A check that is overtaken -/

def impatient : DispatcherSettings := { plainSettings with termination := .afterBeingIdle 0 }

def scheduleAndCheck : Bool → ServerCall
  | false => .schedule ⟨⟨"j"⟩, 1, [⟨"C", "x", none⟩], .individual, none, .empty, ⟨1, .empty⟩,
      .standard, .empty⟩ .epoch
  | true => .mayTerminate .epoch

namespace Concurrent

theorem may_terminate_cases_scheduleAndCheck :
    let first := starting (Dispatcher.new impatient numberedIds .epoch) scheduleAndCheck
    let second := (first.turn true).run [false, false, false, false]
    Function.Injective numberedIds.nth ∧ scheduleAndCheck true = .mayTerminate .epoch ∧
      true ∉ ([] : List Bool) ∧ true ∉ [false, false, false, false] ∧
      (second.turn true).answer true = some true ∧ second.server.isDepleted = false ∧
      second.remaining false = [] := by
  intro first second
  have hids : Function.Injective numberedIds.nth := IdSource.sequential_injective "id"
  have hn : true ∉ [false, false, false, false] := by decide
  have ha : (second.turn true).answer true = some true := by decide +kernel
  have hd : second.server.isDepleted = false := by decide +kernel
  obtain ⟨-, -, _, -, hcase⟩ := may_terminate_cases hids impatient .epoch scheduleAndCheck
    (p := true) rfl (List.not_mem_nil) hn ha
  refine ⟨hids, rfl, List.not_mem_nil, hn, ha, hd, ?_⟩
  rcases hcase with hd' | ⟨c, _, _, hc, -, hdone, -⟩
  · exact absurd (hd.symm.trans hd') (by decide)
  · cases c with
    | false => exact hdone
    | true => cases hc

theorem pending_when_stopped :
    ¬ ∀ (order : List Bool) (p : Bool),
      let m := (starting (Dispatcher.new impatient numberedIds .epoch) scheduleAndCheck).run order
      m.answer p = none → (m.turn p).answer p = some true → m.server.isDepleted = true := by
  intro h
  have hd := h [true, false, false, false, false] true (by decide +kernel) (by decide +kernel)
  have hn : ((starting (Dispatcher.new impatient numberedIds .epoch) scheduleAndCheck).run
      [true, false, false, false, false]).server.isDepleted = false := by decide +kernel
  exact absurd (hn.symm.trans hd) (by decide)

end Concurrent

end TestQueue
