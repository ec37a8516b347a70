import TestQueue.Proofs.Registration
import TestQueue.Proofs.Shutdown

/-!
How long the server has been idle after any turns of any calls, whose clocks need not agree, and
what else decides whether it may stop. Commands that are carried out one after the other are calls
that take all their turns in a row.
-/

namespace TestQueue

open Time (Instant Span)

/-! ### One command -/

/-- The commands that put off the end of the server, those that fail later on included. -/
def Command.IsActivity (d : Dispatcher) : Command → Prop
  | .schedule _ => True
  | .register w declared => ∃ c, d.registration w declared = .ok c ∧
      1 ≤ c.aliveInterval ∧ c.aliveInterval ≤ maxAliveInterval
  | .fetch request => request.signature = d.signature
  | .submit request => request.signature = d.signature
  | _ => False

namespace Dispatcher

variable {d d' : Dispatcher} {command : Command} {now later : Instant}

lemma isActivity_congr (hs : d'.settings = d.settings) (hp : d'.signature = d.signature) :
    command.IsActivity d' ↔ command.IsActivity d := by
  cases command <;> simp [Command.IsActivity, registration, hs, hp]

lemma termination_handOut (d : Dispatcher) (w : WorkerId) (r : RequestId) (now : Instant) :
    (d.handOut w r now).2.termination = d.termination := by
  unfold handOut
  split <;> rfl

lemma termination_settle (d : Dispatcher) (request : SubmitRequest) :
    (d.settle request).2.termination = d.termination := by
  unfold settle
  split <;> rfl

lemma termination_scheduleTests (d : Dispatcher) (request : ScheduleRequest) (now : Instant) :
    (d.scheduleTests request now).2.termination = d.termination.indicateActivity now := by
  change ((d.lock.indicateActivity now).enqueueTests request).2.termination.unlock = _
  rw [(continues_enqueueTests _ request).2]
  rfl

lemma termination_of_isActivity (h : command.IsActivity d) (now : Instant) :
    (d.perform now command).2.termination = d.termination.indicateActivity now := by
  cases command with
  | schedule request => exact termination_scheduleTests d request now
  | register w declared =>
    obtain ⟨c, hc, hpos, hle⟩ := h
    have hadm := admission_eq_ok_iff.2 ⟨c, hc, hpos, hle, rfl⟩
    change (d.registerWorker w declared now).2.termination = _
    rw [registerWorker, hadm]
    rfl
  | fetch request =>
    change (d.fetchBucket request now).2.termination = _
    have hsig : ¬ request.signature ≠ d.signature := not_not.2 h
    rw [fetchBucket, if_neg hsig]
    dsimp only
    split
    · rfl
    · exact termination_handOut _ _ _ now
  | submit request =>
    change (d.submitResult request now).2.termination = _
    have hsig : ¬ request.signature ≠ d.signature := not_not.2 h
    rw [submitResult, if_neg hsig]
    dsimp only
    split
    · exact termination_settle _ request
    · rfl
  | _ => exact h.elim

lemma termination_of_not_isActivity (h : ¬ command.IsActivity d) (now : Instant) :
    (d.perform now command).2.termination = d.termination := by
  cases command with
  | schedule request => exact absurd trivial h
  | register w declared =>
    change (d.registerWorker w declared now).2.termination = _
    unfold registerWorker
    split
    · rfl
    · next hadm =>
      obtain ⟨c, hc, hpos, hle, -⟩ := admission_eq_ok_iff.1 hadm
      exact absurd ⟨c, hc, hpos, hle⟩ h
  | fetch request =>
    change (d.fetchBucket request now).2.termination = _
    have hsig : request.signature ≠ d.signature := h
    rw [fetchBucket, if_pos hsig]
  | submit request =>
    change (d.submitResult request now).2.termination = _
    have hsig : request.signature ≠ d.signature := h
    rw [submitResult, if_pos hsig]
  | reportAlive w =>
    change (d.reportAlive w now).2.termination = _
    unfold reportAlive
    split <;> rfl
  | setBlocked w blocked =>
    change (d.setWorkerBlocked w blocked).2.termination = _
    unfold setWorkerBlocked
    split <;> rfl
  | deleteJob j =>
    change (d.deleteJob j).2.termination = _
    unfold deleteJob
    split <;> rfl
  | version | listWorkers | workersByStatus | worker | processing | jobState | jobResults | sweep =>
    rfl

/-! ### The decision to stop -/

lemma mayTerminate_iff : d.mayTerminate now = true ↔
    ∃ seconds, d.termination.policy = .afterBeingIdle seconds ∧
      (∀ j jq, d.queue.jobs.find? j = some jq → jq.isDrained = true) ∧
      d.termination.locks = 0 ∧ Span.ofSeconds seconds ≤ d.idleFor now := by
  have hdrained : d.isDepleted = true ↔
      ∀ j jq, d.queue.jobs.find? j = some jq → jq.isDrained = true := by
    simp only [isDepleted, BucketQueue.isDepleted, List.all_eq_true, Table.mem_values_iff]
    constructor
    · exact fun h j jq hj => h jq ⟨j, hj⟩
    · rintro h jq ⟨j, hj⟩
      exact h j jq hj
  rw [mayTerminate, Termination.mayTerminate, ← hdrained]
  cases d.termination.policy with
  | stayAlive => simp
  | afterBeingIdle seconds =>
    simp [Termination.isLocked, idleFor, and_assoc]

lemma idleFor_le_idleFor (d : Dispatcher) (h : now.millis ≤ later.millis) :
    d.idleFor now ≤ d.idleFor later :=
  Nat.mul_le_mul_right _ (Int.toNat_le_toNat (Int.sub_le_sub_right h _))

lemma mayTerminate_later (h : now.millis ≤ later.millis) (hn : d.mayTerminate now = true) :
    d.mayTerminate later = true := by
  obtain ⟨seconds, hp, hd, hl, hi⟩ := mayTerminate_iff.1 hn
  exact mayTerminate_iff.2
    ⟨seconds, hp, hd, hl, le_trans (α := ℕ) hi (d.idleFor_le_idleFor h)⟩

end Dispatcher

section

variable {ι : Type} [DecidableEq ι]

/-! ### One step of a call -/

def CallStep.IsActivity (d : Dispatcher) (now : Instant) : CallStep → Prop
  | .recordActivity time => time = now
  | .perform time command => time = now ∧ command.IsActivity d
  | _ => False

lemma CallStep.isActivity_congr {d d' : Dispatcher} {now : Instant} {s : CallStep}
    (hs : d'.settings = d.settings) (hp : d'.signature = d.signature) :
    s.IsActivity d' now ↔ s.IsActivity d now := by
  cases s <;> simp [IsActivity, Dispatcher.isActivity_congr hs hp]

lemma CallStep.IsActivity.unique {d : Dispatcher} {now now' : Instant} {s : CallStep}
    (h : s.IsActivity d now) (h' : s.IsActivity d now') : now' = now := by
  cases s with
  | recordActivity time => exact h'.symm.trans h
  | perform time command => exact h'.1.symm.trans h.1
  | _ => exact h.elim

lemma ServerCall.nodup_steps (call : ServerCall) : call.steps.Nodup := by
  cases call <;> simp [steps]

namespace Shared

variable {x : Shared ι} {s : CallStep} {now : Instant}

lemma settings_take (x : Shared ι) (c : ι) (s : CallStep) :
    (x.take c s).server.settings = x.server.settings ∧
      (x.take c s).server.signature = x.server.signature := by
  cases s with
  | enqueue request =>
    have hcont := (Dispatcher.continues_enqueueTests x.server request).1
    exact ⟨hcont.settings, hcont.signature⟩
  | perform now command =>
    have hcont := Dispatcher.continues_perform x.server now command
    exact ⟨hcont.settings, hcont.signature⟩
  | lock | recordActivity | unlock | readQueue | readTermination => exact ⟨rfl, rfl⟩

lemma lastActivity_of_isActivity (h : s.IsActivity x.server now) (c : ι) :
    (x.take c s).server.termination.lastActivity =
      max x.server.termination.lastActivity now.millis := by
  cases s with
  | recordActivity time =>
    obtain rfl : time = now := h
    rfl
  | perform time command =>
    obtain ⟨rfl, hact⟩ := h
    exact congrArg Termination.lastActivity (Dispatcher.termination_of_isActivity hact time)
  | _ => exact h.elim

lemma lastActivity_of_not_isActivity (h : ∀ now, ¬ s.IsActivity x.server now) (c : ι) :
    (x.take c s).server.termination.lastActivity = x.server.termination.lastActivity := by
  cases s with
  | recordActivity time => exact absurd rfl (h time)
  | perform time command =>
    have hact : ¬ command.IsActivity x.server := fun hact => h time ⟨rfl, hact⟩
    exact congrArg Termination.lastActivity (Dispatcher.termination_of_not_isActivity hact time)
  | enqueue request =>
    exact congrArg Termination.lastActivity (Dispatcher.continues_enqueueTests x.server request).2
  | lock | unlock | readQueue | readTermination => rfl

end Shared

/-! ### Any order of turns -/

namespace Concurrent

variable {calls : ι → ServerCall} {m : Concurrent ι} {c k : ι} {s x : CallStep}
  {rest : List CallStep} {d : Dispatcher} {now : Instant}

def HasTaken (calls : ι → ServerCall) (m : Concurrent ι) (c : ι) (s : CallStep) : Prop :=
  s ∈ (calls c).steps ∧ s ∉ m.remaining c

omit [DecidableEq ι] in
instance : Decidable (HasTaken calls m c s) := inferInstanceAs (Decidable (_ ∧ _))

lemma hasTaken_turn (hr : m.remaining c <:+ (calls c).steps) (hrem : m.remaining c = s :: rest) :
    HasTaken calls (m.turn c) k x ↔ HasTaken calls m k x ∨ k = c ∧ x = s := by
  rw [HasTaken, HasTaken, remaining_turn]
  by_cases hk : k = c
  · subst hk
    rw [Function.update_self, hrem, List.tail_cons]
    rw [hrem] at hr
    -- a call takes no step twice
    have hnodup : (s :: rest).Nodup := (calls k).nodup_steps.sublist hr.sublist
    have hnew : s ∉ rest := (List.nodup_cons.1 hnodup).1
    by_cases hx : x = s
    · subst hx
      simp [hnew, hr.subset List.mem_cons_self]
    · simp [hx]
  · rw [Function.update_of_ne hk]
    simp [hk]

def activityTimes (d : Dispatcher) (calls : ι → ServerCall) (m : Concurrent ι) : Set Instant :=
  {now | ∃ c s, HasTaken calls m c s ∧ s.IsActivity d now}

omit [DecidableEq ι] in
lemma activityTimes_starting (d₀ d : Dispatcher) (calls : ι → ServerCall) :
    (starting d calls).activityTimes d₀ calls = ∅ := by
  apply Set.eq_empty_of_forall_notMem
  rintro now ⟨c, s, ⟨hmem, hnot⟩, -⟩
  exact hnot hmem

lemma mem_activityTimes_turn (hr : m.remaining c <:+ (calls c).steps)
    (hrem : m.remaining c = s :: rest) : now ∈ (m.turn c).activityTimes d calls ↔
      now ∈ m.activityTimes d calls ∨ s.IsActivity d now := by
  simp only [activityTimes, Set.mem_ofPred_eq, hasTaken_turn hr hrem]
  constructor
  · rintro ⟨k, x, htaken | ⟨rfl, rfl⟩, hx⟩
    · exact Or.inl ⟨k, x, htaken, hx⟩
    · exact Or.inr hx
  · rintro (⟨k, x, htaken, hx⟩ | hs)
    · exact ⟨k, x, Or.inl htaken, hx⟩
    · exact ⟨c, s, Or.inr ⟨rfl, rfl⟩, hs⟩

lemma activity_turn {start : ℤ} (hs : m.server.settings = d.settings)
    (hp : m.server.signature = d.signature) (hr : m.remaining c <:+ (calls c).steps)
    (hrem : m.remaining c = s :: rest)
    (h : IsGreatest (insert start (Instant.millis '' m.activityTimes d calls))
      m.server.termination.lastActivity) :
    IsGreatest (insert start (Instant.millis '' (m.turn c).activityTimes d calls))
      (m.turn c).server.termination.lastActivity := by
  have hserver : (m.turn c).server = (m.toShared.take c s).server :=
    congrArg (fun m => m.server) (turn_of_remaining hrem)
  have hcongr (now : Instant) : s.IsActivity m.server now ↔ s.IsActivity d now :=
    CallStep.isActivity_congr hs hp
  rw [hserver]
  by_cases hact : ∃ now, s.IsActivity d now
  · obtain ⟨now, hact⟩ := hact
    have htimes : (m.turn c).activityTimes d calls = insert now (m.activityTimes d calls) := by
      ext now'
      rw [mem_activityTimes_turn hr hrem, Set.mem_insert_iff, or_comm]
      exact or_congr_left ⟨hact.unique, fun heq => heq ▸ hact⟩
    rw [htimes, Set.image_insert_eq, Set.insert_comm,
      Shared.lastActivity_of_isActivity ((hcongr now).2 hact), max_comm]
    exact h.insert _
  · rw [not_exists] at hact
    have htimes : (m.turn c).activityTimes d calls = m.activityTimes d calls := by
      ext now
      rw [mem_activityTimes_turn hr hrem]
      exact or_iff_left (hact now)
    rw [htimes, Shared.lastActivity_of_not_isActivity fun now => mt (hcongr now).1 (hact now)]
    exact h

variable [Fintype ι]

omit [DecidableEq ι] in
lemma card_hasTaken_add_ahead (hr : ∀ c, m.remaining c <:+ (calls c).steps) (s : CallStep) :
    (Finset.univ.filter fun c => HasTaken calls m c s).card + m.ahead s =
      ∑ c, (calls c).steps.count s := by
  rw [Finset.card_filter, ahead, ← Finset.sum_add_distrib]
  apply Finset.sum_congr rfl
  intro c _
  have hsteps := (calls c).nodup_steps
  have hrem := hsteps.sublist (hr c).sublist
  rw [hsteps.count, hrem.count]
  by_cases hahead : s ∈ m.remaining c
  · simp [HasTaken, hahead, (hr c).subset hahead]
  · simp [HasTaken, hahead]

structure Recorded (d : Dispatcher) (calls : ι → ServerCall) (m : Concurrent ι) : Prop where
  settings : m.server.settings = d.settings
  signature : m.server.signature = d.signature
  policy : m.server.termination.policy = d.termination.policy
  remaining : ∀ c, m.remaining c <:+ (calls c).steps
  locks : m.server.termination.locks + m.ahead .lock = m.ahead .unlock
  activity : IsGreatest
    (insert d.termination.lastActivity (Instant.millis '' m.activityTimes d calls))
    m.server.termination.lastActivity

omit [DecidableEq ι] in
lemma recorded_starting (hl : d.termination.locks = 0) (calls : ι → ServerCall) :
    (starting d calls).Recorded d calls where
  settings := rfl
  signature := rfl
  policy := rfl
  remaining _ := List.suffix_rfl
  locks := locks_starting hl calls
  activity := by
    rw [activityTimes_starting, Set.image_empty, insert_empty_eq]
    exact isGreatest_singleton

lemma Recorded.turn (h : m.Recorded d calls) (c : ι) : (m.turn c).Recorded d calls := by
  cases hrem : m.remaining c with
  | nil => rwa [turn_of_finished hrem]
  | cons s rest =>
    have hturn := turn_of_remaining hrem
    have hserver : (m.turn c).server = (m.toShared.take c s).server :=
      congrArg (fun m => m.server) hturn
    obtain ⟨hsettings, hsignature⟩ := m.toShared.settings_take c s
    obtain ⟨t, -, ht⟩ := m.toShared.termination_take c s
    refine ⟨?_, ?_, ?_, fun k => (remaining_suffix_turn m c k).trans (h.remaining k),
      locks_turn h.remaining h.locks c, ?_⟩
    · rw [hserver, hsettings, h.settings]
    · rw [hserver, hsignature, h.signature]
    · rw [hserver, ht]
      exact h.policy
    · exact activity_turn h.settings h.signature (h.remaining c) hrem h.activity

lemma Recorded.run (h : m.Recorded d calls) (order : List ι) : (m.run order).Recorded d calls :=
  run_induction h order fun _ c _ hm => hm.turn c

omit [DecidableEq ι] in
lemma Recorded.locks_eq_zero_iff (h : m.Recorded d calls) : m.server.termination.locks = 0 ↔
    (Finset.univ.filter fun c => HasTaken calls m c .lock).card =
      (Finset.univ.filter fun c => HasTaken calls m c .unlock).card := by
  have hlock := card_hasTaken_add_ahead h.remaining .lock
  have hunlock := card_hasTaken_add_ahead h.remaining .unlock
  have hsame : ∑ c, (calls c).steps.count .lock = ∑ c, (calls c).steps.count .unlock := by
    apply Finset.sum_congr rfl
    intro c _
    cases calls c <;> simp [ServerCall.steps]
  have hlocks := h.locks
  omega

theorem idle_and_may_terminate (settings : DispatcherSettings) (ids : IdSource) (start : Instant)
    (calls : ι → ServerCall) (order : List ι) :
    let d := Dispatcher.new settings ids start
    let m := (starting d calls).run order
    ∃ latest,
      IsGreatest (insert start.millis (Instant.millis '' m.activityTimes d calls)) latest ∧
      (∀ now, m.server.idleFor now = .ofMillis (max 0 (now.millis - latest)).toNat) ∧
      (∀ now command,
        (command.IsActivity d → (m.server.perform now command).2.termination =
          m.server.termination.indicateActivity now) ∧
        (¬ command.IsActivity d → (m.server.perform now command).2.termination =
          m.server.termination)) ∧
      (∀ now, m.server.mayTerminate now = true ↔
        ∃ seconds, settings.termination = .afterBeingIdle seconds ∧
          (∀ j jq, m.server.queue.jobs.find? j = some jq → jq.isDrained = true) ∧
          (Finset.univ.filter fun c => HasTaken calls m c .unlock).card =
            (Finset.univ.filter fun c => HasTaken calls m c .lock).card ∧
          Span.ofSeconds seconds ≤ m.server.idleFor now) ∧
      ∀ now later, now.millis ≤ later.millis → m.server.mayTerminate now = true →
        m.server.mayTerminate later = true := by
  intro d m
  have hm : m.Recorded d calls := (recorded_starting rfl calls).run order
  refine ⟨_, hm.activity, fun now => ?_, fun now command => ⟨fun hact => ?_, fun hact => ?_⟩,
    fun now => ?_, fun now later => Dispatcher.mayTerminate_later⟩
  · rw [Dispatcher.idleFor, Termination.idleFor]
    congr 1
    omega
  · apply Dispatcher.termination_of_isActivity
    exact (Dispatcher.isActivity_congr hm.settings hm.signature).2 hact
  · apply Dispatcher.termination_of_not_isActivity
    exact mt (Dispatcher.isActivity_congr hm.settings hm.signature).1 hact
  · rw [Dispatcher.mayTerminate_iff, hm.policy, hm.locks_eq_zero_iff, eq_comm (a := Finset.card _)]
    rfl

end Concurrent

end

def patient : DispatcherSettings := { plainSettings with termination := .afterBeingIdle 30 }

/-- A request to schedule tests that fails, a fetch with a wrong signature, and a fetch of a worker
that is not registered and whose clock is behind. -/
def failingCalls : Fin 3 → ServerCall
  | 0 => .schedule ⟨⟨"j"⟩, 1, [⟨"C", "x", none⟩], .individual, some 0, .empty, ⟨1, .empty⟩,
      .standard, .empty⟩ Dispatcher.overdue
  | 1 => .other Dispatcher.longOverdue (.fetch ⟨⟨"w"⟩, ⟨"r"⟩, ⟨"id-0"⟩⟩) (by simp)
  | 2 => .other .epoch (.fetch ⟨⟨"w"⟩, ⟨"r"⟩, ⟨"id-1"⟩⟩) (by simp)

namespace Concurrent

theorem idle_and_may_terminate_failingCalls :
    let d := Dispatcher.new patient numberedIds .epoch
    let locked := (starting d failingCalls).run [0, 1, 2]
    let m := (starting d failingCalls).run [0, 1, 2, 0, 0, 0]
    (∀ now, locked.server.mayTerminate now = false) ∧
      m.server.idleFor Dispatcher.longOverdue = .ofSeconds 510 ∧
      IsGreatest (insert 0 (Instant.millis '' m.activityTimes d failingCalls)) 91000 ∧
      ∀ later, Dispatcher.longOverdue.millis ≤ later.millis →
        m.server.mayTerminate later = true := by
  intro d locked m
  obtain ⟨latest, hlatest, hidle, -, -, hlater⟩ :=
    idle_and_may_terminate patient numberedIds .epoch failingCalls [0, 1, 2, 0, 0, 0]
  obtain ⟨-, -, -, -, hlocked, -⟩ :=
    idle_and_may_terminate patient numberedIds .epoch failingCalls [0, 1, 2]
  have hfor : m.server.idleFor Dispatcher.longOverdue = .ofSeconds 510 := by decide +kernel
  have hmay : m.server.mayTerminate Dispatcher.longOverdue = true := by decide +kernel
  refine ⟨fun now => ?_, hfor, ?_, fun later hle => hlater _ later hle hmay⟩
  · rw [← Bool.not_eq_true]
    intro hnow
    obtain ⟨-, -, -, hcard, -⟩ := (hlocked now).1 hnow
    exact absurd hcard (by decide +kernel)
  · have hnanos := congrArg Span.nanos (hfor.symm.trans (hidle Dispatcher.longOverdue))
    have hmillis : Dispatcher.longOverdue.millis = 601000 := rfl
    have hseconds : (Span.ofSeconds 510).nanos = 510000000000 := rfl
    rw [hmillis, hseconds] at hnanos
    change 510000000000 = (max 0 (601000 - latest)).toNat * 1000000 at hnanos
    obtain rfl : latest = 91000 := by omega
    exact hlatest

end Concurrent

end TestQueue
