import TestQueue.Client.WorkerRun
import TestQueue.Proofs.Addressing
import TestQueue.Proofs.Identifier

/-!
What a worker does from its start to its end, whatever it is answered. Each bucket is executed and
reported once, under the identifier of the fetch that brought it, and a fetch has a new identifier
unless the one before it stayed without an answer.
-/

namespace TestQueue

variable {σ : Type}

inductive Deed where
  | askedVersion (outcome : Except ClientError String)
  | registered (outcome : Except ClientError WorkerConfiguration)
  | fetched (request : FetchRequest) (outcome : Except ClientError FetchAnswer)
  | executed (bucket : Bucket) (configuration : WorkerConfiguration) (result : Option BucketResult)
  | submitted (request : SubmitRequest) (outcome : Except ClientError SubmitAnswer)

def Errand.deed (worker : WorkerId) : (e : Errand) → e.Ending → Deed
  | .askVersion _, ending => .askedVersion ending
  | .register, ending => .registered ending
  | .fetch session r, ending => .fetched ⟨worker, r, session.signature⟩ ending
  | .execute session _ b, ending => .executed b session.configuration ending
  | .submit session r result, ending => .submitted ⟨worker, r, session.signature, result⟩ ending

namespace Deed

def Happens (env : Surroundings σ) (worker : WorkerId) (options : WorkerOptions) (s : σ) :
    Deed → Prop
  | askedVersion outcome => (env.client.perform env.network s .version).1 = outcome
  | registered outcome =>
    (env.client.perform env.network s (.register worker options.configuration)).1 = outcome
  | fetched request outcome => (env.client.perform env.network s (.fetch request)).1 = outcome
  | executed bucket configuration result => env.execute bucket configuration = result
  | submitted request outcome => (env.client.perform env.network s (.submit request)).1 = outcome

def IsFetch (d : Deed) : Prop := ∃ request outcome, d = .fetched request outcome

def isAnswered : Deed → Bool
  | submitted _ (.ok _) => true
  | _ => false

def isIgnored : Deed → Bool
  | submitted _ (.ok (.ignored _)) => true
  | _ => false

end Deed

/-! ### What can be told from the past

The latest deed of a past is its first. -/

def latestRegistration? (past : List Deed) : Option WorkerConfiguration :=
  past.findSome? fun
    | .registered (.ok c) => some c
    | _ => none

def latestFetch? (past : List Deed) : Option (FetchRequest × Except ClientError FetchAnswer) :=
  past.findSome? fun
    | .fetched request outcome => some (request, outcome)
    | _ => none

/-- Whether no fetch waits to be repeated: there was none yet, or the last one got an answer, or its
signature was not accepted. -/
def startsAnew (past : List Deed) : Bool :=
  match latestFetch? past with
  | some (_, .error e) => e.status? = some 401
  | _ => true

def drawnBy : List Deed → ℕ
  | [] => 0
  | .fetched _ _ :: past => drawnBy past + if startsAnew past then 1 else 0
  | _ :: past => drawnBy past

def tallyOf (past : List Deed) : WorkerSummary :=
  ⟨past.countP Deed.isAnswered, past.countP Deed.isIgnored⟩

def Session.IsLatest (session : Session) (past : List Deed) : Prop :=
  latestRegistration? past = some session.configuration ∧
    session.configuration.signature = some session.signature

/-! ### One errand after the other -/

namespace Errand

def draws (past : List Deed) : Errand → ℕ
  | fetch _ _ => if startsAnew past then 1 else 0
  | _ => 0

def Follows (worker : WorkerId) (ids : IdSource) (past : List Deed) : Errand → Prop
  | askVersion _ => past = []
  | register => startsAnew past = true ∧ (latestRegistration? past = none ∨
      ∃ request e earlier, past = .fetched request (.error e) :: earlier ∧ e.status? = some 401)
  | fetch session r => session.IsLatest past ∧
      (startsAnew past = true → r = ⟨(ids.advance (drawnBy past)).next⟩) ∧
      ∀ previous e, latestFetch? past = some (previous, .error e) → e.status? ≠ some 401 →
        r = previous.requestId
  | execute session r b => session.IsLatest past ∧
      ∃ earlier, past = .fetched ⟨worker, r, session.signature⟩ (.ok (.bucket b)) :: earlier
  | submit session r result => session.IsLatest past ∧ ∃ b executed earlier,
      past = .executed b session.configuration executed ::
        .fetched ⟨worker, r, session.signature⟩ (.ok (.bucket b)) :: earlier ∧
      result = executed.getD (.lost b)

lemma drawnBy_deed (worker : WorkerId) (e : Errand) (ending : e.Ending) (past : List Deed) :
    drawnBy (e.deed worker ending :: past) = drawnBy past + e.draws past := by
  cases e <;> rfl

end Errand

namespace WorkerRun

structure Settled (w : WorkerRun) (worker : WorkerId) (options : WorkerOptions) (ids : IdSource)
    (past : List Deed) : Prop where
  own : w.worker = worker
  chosen : w.options = options
  counted : w.summary = tallyOf past
  drawn : w.ids = ids.advance (drawnBy past)

structure Fits (w : WorkerRun) (worker : WorkerId) (options : WorkerOptions) (ids : IdSource)
    (past : List Deed) : Prop where
  own : w.worker = worker
  chosen : w.options = options
  counted : w.summary = tallyOf past
  drawn : w.ids = ids.advance (drawnBy past + w.errand.draws past)
  follows : w.errand.Follows worker ids past

end WorkerRun

def Progress.Fits (worker : WorkerId) (options : WorkerOptions) (ids : IdSource)
    (past : List Deed) : Progress → Prop
  | .running w => w.Fits worker options ids past
  | .stopped outcome left => left = ids.advance (drawnBy past) ∧
      ∀ summary, outcome = .ok summary → summary = tallyOf past

namespace WorkerRun

variable {w : WorkerRun} {worker : WorkerId} {options : WorkerOptions} {ids : IdSource}
  {past : List Deed} {session : Session} {cancelled : Bool}

lemma tallyOf_answered (request : SubmitRequest) (answer : SubmitAnswer) (past : List Deed) :
    tallyOf (.submitted request (.ok answer) :: past) = counting (tallyOf past) answer := by
  cases answer <;>
    simp [tallyOf, counting, List.countP_cons, Deed.isAnswered, Deed.isIgnored]

lemma fits_starting (worker : WorkerId) (options : WorkerOptions) (ids : IdSource) :
    (starting worker options ids).Fits worker options ids [] := by
  unfold starting
  cases options.expectedVersion with
  | some expected => exact ⟨rfl, rfl, rfl, rfl, rfl⟩
  | none => exact ⟨rfl, rfl, rfl, rfl, rfl, Or.inl rfl⟩

namespace Settled

variable (h : w.Settled worker options ids past)

include h

lemma fits_errand {e : Errand} (hd : e.draws past = 0) (he : e.Follows worker ids past) :
    ({ w with errand := e } : WorkerRun).Fits worker options ids past :=
  ⟨h.own, h.chosen, h.counted, by rw [hd]; exact h.drawn, he⟩

lemma fits_fail (e : ClientError) : (w.fail e).Fits worker options ids past :=
  ⟨h.drawn, fun _ he => by cases he⟩

lemma fits_done : (w.stop (.ok w.summary)).Fits worker options ids past :=
  ⟨h.drawn, fun _ he => (Except.ok.inj he).symm.trans h.counted⟩

lemma fits_fetchNew (hnew : startsAnew past = true) (hs : session.IsLatest past) :
    (w.fetchNew cancelled session).Fits worker options ids past := by
  unfold fetchNew
  split
  · exact h.fits_done
  · refine ⟨h.own, h.chosen, h.counted, ?_, hs, fun _ => by rw [h.drawn],
      fun previous e hf he => ?_⟩
    · simp only [Errand.draws, hnew, if_true, h.drawn, IdSource.advance, Nat.add_assoc]
    · rw [startsAnew, hf, decide_eq_true_eq] at hnew
      exact absurd hnew he

lemma fits_fetchAgain (previous : FetchRequest) {e : ClientError}
    (hf : latestFetch? past = some (previous, .error e)) (he : e.status? ≠ some 401)
    (hs : session.IsLatest past) :
    (w.fetchAgain cancelled session previous.requestId).Fits worker options ids past := by
  have hold : startsAnew past = false := by
    rw [startsAnew, hf]
    exact decide_eq_false he
  unfold fetchAgain
  split
  · exact h.fits_done
  · refine h.fits_errand (by rw [Errand.draws, hold]; rfl)
      ⟨hs, fun hnew => ?_, fun p e' hf' _ => ?_⟩
    · rw [hold] at hnew
      cases hnew
    · rw [hf] at hf'
      cases hf'
      rfl

end Settled

namespace Fits

lemma settled (h : w.Fits worker options ids past) (ending : w.errand.Ending)
    (hd : tallyOf (w.errand.deed worker ending :: past) = tallyOf past) :
    w.Settled worker options ids (w.errand.deed worker ending :: past) :=
  ⟨h.own, h.chosen, by rw [hd, h.counted], by rw [Errand.drawnBy_deed, h.drawn]⟩

theorem step (h : w.Fits worker options ids past) (cancelled : Bool) (ending : w.errand.Ending) :
    (w.step cancelled ending).Fits worker options ids (w.errand.deed worker ending :: past) := by
  obtain ⟨_, _, source, summary, errand⟩ := w
  cases errand with
  | askVersion expected =>
    have hw := h.settled ending rfl
    obtain rfl : past = [] := h.follows
    cases ending with
    | error e => exact hw.fits_fail e
    | ok actual =>
      simp only [WorkerRun.step, afterErrand]
      split
      · exact hw.fits_errand rfl ⟨rfl, Or.inl rfl⟩
      · exact hw.fits_fail _
  | register =>
    have hw := h.settled ending rfl
    obtain ⟨hnew, -⟩ := h.follows
    cases ending with
    | error e => exact hw.fits_fail e
    | ok c =>
      simp only [WorkerRun.step, afterErrand, afterRegistration]
      cases hc : c.signature with
      | none => exact hw.fits_fail _
      | some signature => exact hw.fits_fetchNew hnew ⟨rfl, hc⟩
  | fetch session r =>
    have hw := h.settled ending rfl
    obtain ⟨hs, -⟩ := h.follows
    simp only [WorkerRun.step, afterErrand]
    cases ending with
    | error e =>
      simp only [afterFetch]
      split
      · rename_i he
        exact hw.fits_errand rfl ⟨decide_eq_true he, Or.inr ⟨_, _, _, rfl, he⟩⟩
      · rename_i he
        exact hw.fits_fetchAgain ⟨worker, r, session.signature⟩ rfl he hs
    | ok answer =>
      cases answer with
      | bucket b => exact hw.fits_errand rfl ⟨hs, past, rfl⟩
      | checkAgainLater seconds => exact hw.fits_fetchNew rfl hs
      | queueDepleted => exact hw.fits_done
      | refused reason => exact hw.fits_fail _
  | execute session r b =>
    have hw := h.settled ending rfl
    obtain ⟨hs, earlier, rfl⟩ := h.follows
    exact hw.fits_errand rfl ⟨hs, b, ending, earlier, rfl, rfl⟩
  | submit session r result =>
    obtain ⟨hs, b, executed, earlier, hpast, -⟩ := h.follows
    cases ending with
    | error e => exact (h.settled (.error e) rfl).fits_fail e
    | ok answer =>
      have hnew : startsAnew past = true := by rw [hpast]; rfl
      have hw : WorkerRun.Settled ⟨_, _, source, counting summary answer, .register⟩ worker options
          ids (.submitted ⟨worker, r, session.signature, result⟩ (.ok answer) :: past) :=
        ⟨h.own, h.chosen, by rw [tallyOf_answered, ← h.counted], h.drawn⟩
      exact hw.fits_fetchNew hnew hs

end Fits

/-! ### What follows the last errand for a bucket -/

lemma errand_of_fetchNew {w' : WorkerRun} (h : w.fetchNew cancelled session = .running w') :
    ∃ r, w'.errand = .fetch session r := by
  unfold fetchNew at h
  split at h
  · cases h
  · obtain rfl := Progress.running.inj h
    exact ⟨_, rfl⟩

lemma errand_of_afterSubmission {answer : Except ClientError SubmitAnswer} {w' : WorkerRun}
    (h : w.afterSubmission cancelled session answer = .running w') :
    ∃ r, w'.errand = .fetch session r := by
  cases answer with
  | error e => cases h
  | ok answer => exact errand_of_fetchNew h

lemma errand_of_afterRegistration {outcome : Except ClientError WorkerConfiguration}
    {w' : WorkerRun} (h : w.afterRegistration cancelled outcome = .running w') :
    ∃ session r, w'.errand = .fetch session r := by
  cases outcome with
  | error e => cases h
  | ok c =>
    unfold afterRegistration at h
    dsimp only at h
    split at h
    · exact ⟨_, errand_of_fetchNew h⟩
    · cases h

end WorkerRun

def Progress.ids : Progress → IdSource
  | .running w => w.ids
  | .stopped _ ids => ids

/-! ### The course of a worker -/

/-- A worker at its start, and what surrounds it during each of its errands. -/
structure Course (σ : Type) where
  worker : WorkerId
  options : WorkerOptions
  ids : IdSource
  surroundings : ℕ → Surroundings σ
  state : σ

namespace Course

def after (c : Course σ) : ℕ → Progress × σ
  | 0 => (.running (.starting c.worker c.options c.ids), c.state)
  | n + 1 =>
    match c.after n with
    | (.running w, s) => w.run (c.surroundings n) 1 s
    | stopped => stopped

def deed? (c : Course σ) (n : ℕ) : Option Deed :=
  match c.after n with
  | (.running w, s) => some (w.errand.deed w.worker
      (WorkerRun.doErrand (c.surroundings n) w.worker w.options s w.errand).1)
  | _ => none

def past (c : Course σ) : ℕ → List Deed
  | 0 => []
  | n + 1 => (c.deed? n).toList ++ c.past n

end Course

namespace WorkerRun

lemma exists_run_one (env : Surroundings σ) (w : WorkerRun) (s : σ) : ∃ cancelled,
    (w.run env 1 s).1 = w.step cancelled (doErrand env w.worker w.options s w.errand).1 := by
  refine ⟨env.cancelled (doErrand env w.worker w.options s w.errand).2, ?_⟩
  rw [run]
  dsimp only
  cases w.step (env.cancelled (doErrand env w.worker w.options s w.errand).2)
    (doErrand env w.worker w.options s w.errand).1 <;> rfl

lemma run_succ (env : Surroundings σ) (n : ℕ) (w : WorkerRun) (s : σ) : w.run env (n + 1) s =
    match w.run env n s with
    | (.running w, s) => w.run env 1 s
    | stopped => stopped := by
  induction n generalizing w s with
  | zero => rfl
  | succ n ih =>
    rw [run]
    conv_rhs => rw [run]
    dsimp only
    cases w.step (env.cancelled (doErrand env w.worker w.options s w.errand).2)
      (doErrand env w.worker w.options s w.errand).1 with
    | running w => exact ih w _
    | stopped outcome left => rfl

end WorkerRun

namespace Course

variable (c : Course σ) {n : ℕ}

lemma after_eq_run {env : Surroundings σ} (h : ∀ n, c.surroundings n = env) (n : ℕ) :
    c.after n = (WorkerRun.starting c.worker c.options c.ids).run env n c.state := by
  induction n with
  | zero => rfl
  | succ n ih => rw [after, ih, WorkerRun.run_succ, h]

variable {c}

lemma after_succ {w : WorkerRun} {s : σ} (h : c.after n = (.running w, s)) :
    c.after (n + 1) = w.run (c.surroundings n) 1 s := by
  rw [after, h]

lemma step_of_running {w : WorkerRun} (h : (c.after n).1 = .running w) : ∃ ending cancelled,
    ending = (WorkerRun.doErrand (c.surroundings n) w.worker w.options (c.after n).2 w.errand).1 ∧
      c.deed? n = some (w.errand.deed w.worker ending) ∧
      (c.after (n + 1)).1 = w.step cancelled ending := by
  obtain ⟨s, hs⟩ : ∃ s, c.after n = (.running w, s) := ⟨_, Prod.ext h rfl⟩
  obtain ⟨cancelled, hrun⟩ := w.exists_run_one (c.surroundings n) s
  refine ⟨_, cancelled, rfl, ?_, ?_⟩
  · simp only [deed?, hs]
  · rw [after_succ hs, hrun]
    simp only [hs]

lemma of_stopped {outcome : Except ClientError WorkerSummary} {left : IdSource}
    (h : (c.after n).1 = .stopped outcome left) :
    c.deed? n = none ∧ (c.after (n + 1)).1 = .stopped outcome left := by
  obtain ⟨s, hs⟩ : ∃ s, c.after n = (.stopped outcome left, s) := ⟨_, Prod.ext h rfl⟩
  simp only [deed?, after, hs, and_self]

lemma exists_step {d : Deed} (h : c.deed? n = some d) : ∃ w ending cancelled,
    (c.after n).1 = .running w ∧
      ending = (WorkerRun.doErrand (c.surroundings n) w.worker w.options (c.after n).2 w.errand).1 ∧
      d = w.errand.deed w.worker ending ∧ (c.after (n + 1)).1 = w.step cancelled ending := by
  cases hn : (c.after n).1 with
  | running w =>
    obtain ⟨ending, cancelled, he, hd, hstep⟩ := step_of_running hn
    exact ⟨w, ending, cancelled, rfl, he, Option.some.inj (h.symm.trans hd), hstep⟩
  | stopped outcome left => cases (of_stopped hn).1.symm.trans h

lemma fits (c : Course σ) (n : ℕ) : (c.after n).1.Fits c.worker c.options c.ids (c.past n) := by
  induction n with
  | zero => exact WorkerRun.fits_starting c.worker c.options c.ids
  | succ n ih =>
    cases hn : (c.after n).1 with
    | running w =>
      rw [hn] at ih
      obtain ⟨ending, cancelled, -, hd, hstep⟩ := step_of_running hn
      rw [past, hstep, hd, WorkerRun.Fits.own ih]
      exact WorkerRun.Fits.step ih cancelled ending
    | stopped outcome left =>
      obtain ⟨hd, hstep⟩ := of_stopped hn
      rw [past, hstep, hd, ← hn]
      exact ih

lemma fits_of_running {w : WorkerRun} (h : (c.after n).1 = .running w) :
    w.Fits c.worker c.options c.ids (c.past n) := by
  have hfits := c.fits n
  rwa [h] at hfits

lemma of_past_eq_cons {w : WorkerRun} (hw : (c.after n).1 = .running w) {d : Deed}
    {earlier : List Deed} (h : c.past n = d :: earlier) :
    ∃ m, n = m + 1 ∧ c.deed? m = some d ∧ c.past m = earlier := by
  cases n with
  | zero => cases h
  | succ m =>
    cases hm : (c.after m).1 with
    | running w' =>
      obtain ⟨ending, -, -, hd, -⟩ := step_of_running hm
      rw [past, hd] at h
      obtain ⟨rfl, rfl⟩ := List.cons.inj h
      exact ⟨m, rfl, hd, rfl⟩
    | stopped outcome left => cases hw.symm.trans (of_stopped hm).2

lemma happens {d : Deed} (h : c.deed? n = some d) :
    d.Happens (c.surroundings n) c.worker c.options (c.after n).2 := by
  obtain ⟨w, ending, -, hw, rfl, rfl, -⟩ := exists_step h
  have hfits := fits_of_running hw
  rw [← hfits.own, ← hfits.chosen]
  cases w.errand <;> rfl

lemma isFetch_of_errand {w : WorkerRun} {session : Session} {r : RequestId}
    (hw : (c.after n).1 = .running w) (he : w.errand = .fetch session r) {d : Deed}
    (h : c.deed? n = some d) : d.IsFetch := by
  obtain ⟨ending, -, -, hd, -⟩ := step_of_running hw
  obtain ⟨_, _, _, _, errand⟩ := w
  subst he
  exact ⟨_, _, Option.some.inj (h.symm.trans hd)⟩

lemma of_fetched {request : FetchRequest} {outcome : Except ClientError FetchAnswer}
    (h : c.deed? n = some (.fetched request outcome)) : ∃ w session cancelled,
      (c.after n).1 = .running w ∧ w.errand = .fetch session request.requestId ∧
      request.workerId = c.worker ∧ session.signature = request.signature ∧
      (c.after (n + 1)).1 = w.afterFetch cancelled session request.requestId outcome := by
  obtain ⟨w, ending, cancelled, hw, -, hd, hstep⟩ := exists_step h
  have hown := (fits_of_running hw).own
  obtain ⟨worker, _, _, _, errand⟩ := w
  cases errand with
  | fetch session r =>
    obtain ⟨rfl, rfl⟩ := Deed.fetched.inj hd
    exact ⟨_, session, cancelled, hw, rfl, hown, rfl, hstep⟩
  | askVersion | register | execute | submit => cases hd

lemma exists_errand {d : Deed} (h : c.deed? n = some d) : ∃ w, ∃ e : Errand, ∃ ending : e.Ending,
    (c.after n).1 = .running w ∧ d = e.deed c.worker ending ∧
      e.Follows c.worker c.ids (c.past n) := by
  obtain ⟨w, ending, -, hw, -, hd, -⟩ := exists_step h
  have hfits := fits_of_running hw
  exact ⟨w, w.errand, ending, hw, hfits.own ▸ hd, hfits.follows⟩

/-! ### What comes before a deed -/

lemma fetched_of_executed {b : Bucket} {configuration : WorkerConfiguration}
    {result : Option BucketResult} (h : c.deed? n = some (.executed b configuration result)) :
    ∃ m request, n = m + 1 ∧ c.deed? m = some (.fetched request (.ok (.bucket b))) := by
  obtain ⟨w, e, ending, hw, hd, hfollows⟩ := exists_errand h
  cases e with
  | execute session r bucket =>
    obtain ⟨rfl, -⟩ := Deed.executed.inj hd
    obtain ⟨-, earlier, hpast⟩ := hfollows
    obtain ⟨m, hn, hm, -⟩ := of_past_eq_cons hw hpast
    exact ⟨m, _, hn, hm⟩
  | askVersion | register | fetch | submit => cases hd

lemma fetched_of_submitted {request : SubmitRequest} {outcome : Except ClientError SubmitAnswer}
    (h : c.deed? n = some (.submitted request outcome)) :
    ∃ m fetch b, n = m + 2 ∧ c.deed? m = some (.fetched fetch (.ok (.bucket b))) := by
  obtain ⟨w, e, ending, hw, hd, hfollows⟩ := exists_errand h
  cases e with
  | submit session r result =>
    obtain ⟨-, b, executed, earlier, hpast, -⟩ := hfollows
    obtain ⟨k, rfl, hk, -⟩ := of_past_eq_cons hw hpast
    obtain ⟨m, fetch, rfl, hm⟩ := fetched_of_executed hk
    exact ⟨m, fetch, b, rfl, hm⟩
  | askVersion | register | fetch | execute => cases hd

lemma refused_of_registered {outcome : Except ClientError WorkerConfiguration}
    (h : c.deed? n = some (.registered outcome)) : latestRegistration? (c.past n) = none ∨
      ∃ m request e, n = m + 1 ∧ c.deed? m = some (.fetched request (.error e)) ∧
        e.status? = some 401 := by
  obtain ⟨w, e, ending, hw, hd, hfollows⟩ := exists_errand h
  cases e with
  | register =>
    refine hfollows.2.imp_right ?_
    rintro ⟨request, e, earlier, hpast, he⟩
    obtain ⟨m, hn, hm, -⟩ := of_past_eq_cons hw hpast
    exact ⟨m, request, e, hn, hm, he⟩
  | askVersion | fetch | execute | submit => cases hd

/-! ### What comes after a fetch -/

lemma reported_of_fetched {request : FetchRequest} {b : Bucket}
    (h : c.deed? n = some (.fetched request (.ok (.bucket b)))) :
    ∃ configuration result outcome, latestRegistration? (c.past (n + 2)) = some configuration ∧
      configuration.signature = some request.signature ∧
      c.deed? (n + 1) = some (.executed b configuration result) ∧
      c.deed? (n + 2) = some (.submitted ⟨c.worker, request.requestId, request.signature,
        result.getD (.lost b)⟩ outcome) ∧
      ∀ d, c.deed? (n + 3) = some d → d.IsFetch := by
  obtain ⟨w, session, cancelled, hw, -, -, hsig, hexecute⟩ := of_fetched h
  have hown := (fits_of_running hw).own
  -- the two errands for the bucket
  obtain ⟨result, cancelled₁, -, hexecuted, hsubmit⟩ := step_of_running hexecute
  obtain ⟨outcome, cancelled₂, -, hsubmitted, hlast⟩ := step_of_running hsubmit
  have hlatest := (fits_of_running hsubmit).follows.1
  refine ⟨session.configuration, result, outcome, hlatest.1, hsig ▸ hlatest.2, hexecuted, ?_,
    fun d hd => ?_⟩
  · rw [hsubmitted, ← hown, ← hsig]
    rfl
  · obtain ⟨w', e, ending, hw', rfl, -⟩ := exists_errand hd
    obtain ⟨r, he⟩ := WorkerRun.errand_of_afterSubmission (hlast.symm.trans hw')
    exact isFetch_of_errand hw' he hd

lemma registered_of_fetched {request : FetchRequest} {e : ClientError}
    (h : c.deed? n = some (.fetched request (.error e))) (he : e.status? = some 401) :
    (∃ outcome, c.deed? (n + 1) = some (.registered outcome)) ∧
      ∀ d, c.deed? (n + 2) = some d → d.IsFetch := by
  obtain ⟨w, session, cancelled, hw, -, -, -, hstep⟩ := of_fetched h
  rw [WorkerRun.afterFetch, if_pos he] at hstep
  obtain ⟨outcome, cancelled', -, hregistered, hlast⟩ := step_of_running hstep
  refine ⟨⟨outcome, hregistered⟩, fun d hd => ?_⟩
  obtain ⟨w', -, -, hw', -⟩ := exists_errand hd
  obtain ⟨session, r, he⟩ := WorkerRun.errand_of_afterRegistration (hlast.symm.trans hw')
  exact isFetch_of_errand hw' he hd

lemma follows_of_fetched {request : FetchRequest} {outcome : Except ClientError FetchAnswer}
    (h : c.deed? n = some (.fetched request outcome)) : request.workerId = c.worker ∧
      ∃ session : Session, session.signature = request.signature ∧
        (Errand.fetch session request.requestId).Follows c.worker c.ids (c.past n) := by
  obtain ⟨w, session, -, hw, he, hworker, hsig, -⟩ := of_fetched h
  exact ⟨hworker, session, hsig, he ▸ (fits_of_running hw).follows⟩

lemma ids_after (c : Course σ) (n : ℕ) :
    (c.after n).1.ids = c.ids.advance (drawnBy (c.past (n + 1))) := by
  cases hn : (c.after n).1 with
  | running w =>
    obtain ⟨ending, -, -, hd, -⟩ := step_of_running hn
    rw [past, hd]
    exact (fits_of_running hn).drawn.trans (by rw [← Errand.drawnBy_deed]; rfl)
  | stopped outcome left =>
    have hfits := c.fits n
    rw [hn] at hfits
    rw [past, (of_stopped hn).1]
    exact hfits.1

theorem request_discipline (c : Course σ) :
    (∀ env, (∀ n, c.surroundings n = env) → ∀ n,
      c.after n = (WorkerRun.starting c.worker c.options c.ids).run env n c.state) ∧
    (∀ n d, c.deed? n = some d →
      d.Happens (c.surroundings n) c.worker c.options (c.after n).2) ∧
    (∀ n request b, c.deed? n = some (.fetched request (.ok (.bucket b))) →
      ∃ configuration result outcome, latestRegistration? (c.past (n + 2)) = some configuration ∧
        configuration.signature = some request.signature ∧
        c.deed? (n + 1) = some (.executed b configuration result) ∧
        c.deed? (n + 2) = some (.submitted ⟨c.worker, request.requestId, request.signature,
          result.getD ⟨b.bucketId, b.tests.map fun t => ⟨t, []⟩⟩⟩ outcome) ∧
        ∀ d, c.deed? (n + 3) = some d → d.IsFetch) ∧
    (∀ n b configuration result, c.deed? n = some (.executed b configuration result) →
      ∃ m request, n = m + 1 ∧ c.deed? m = some (.fetched request (.ok (.bucket b)))) ∧
    (∀ n request outcome, c.deed? n = some (.submitted request outcome) →
      ∃ m fetch b, n = m + 2 ∧ c.deed? m = some (.fetched fetch (.ok (.bucket b)))) ∧
    (∀ n request outcome, c.deed? n = some (.fetched request outcome) →
      request.workerId = c.worker ∧
      (∃ configuration, latestRegistration? (c.past n) = some configuration ∧
        configuration.signature = some request.signature) ∧
      (startsAnew (c.past n) = true →
        request.requestId = ⟨(c.ids.advance (drawnBy (c.past n))).next⟩) ∧
      ∀ previous e, latestFetch? (c.past n) = some (previous, .error e) → e.status? ≠ some 401 →
        request.requestId = previous.requestId) ∧
    (∀ n, (c.after n).1.ids = c.ids.advance (drawnBy (c.past (n + 1)))) ∧
    (∀ n request e, c.deed? n = some (.fetched request (.error e)) → e.status? = some 401 →
      (∃ outcome, c.deed? (n + 1) = some (.registered outcome)) ∧
        ∀ d, c.deed? (n + 2) = some d → d.IsFetch) ∧
    (∀ n outcome, c.deed? n = some (.registered outcome) →
      latestRegistration? (c.past n) = none ∨ ∃ m request e, n = m + 1 ∧
        c.deed? m = some (.fetched request (.error e)) ∧ e.status? = some 401) ∧
    ∀ n summary left, (c.after n).1 = .stopped (.ok summary) left →
      summary.executed = (c.past n).countP Deed.isAnswered ∧
        summary.ignored = (c.past n).countP Deed.isIgnored := by
  refine ⟨fun env h n => c.after_eq_run h n, fun n d => happens,
    fun n request b => reported_of_fetched, fun n b configuration result => fetched_of_executed,
    fun n request outcome => fetched_of_submitted, fun n request outcome h => ?_, c.ids_after,
    fun n request e => registered_of_fetched, fun n outcome => refused_of_registered,
    fun n summary left h => ?_⟩
  · obtain ⟨hworker, session, hsig, hlatest, hids⟩ := follows_of_fetched h
    exact ⟨hworker, ⟨session.configuration, hlatest.1, hsig ▸ hlatest.2⟩, hids⟩
  · have hfits := c.fits n
    rw [h] at hfits
    obtain rfl := hfits.2 summary rfl
    exact ⟨rfl, rfl⟩

/-! ### A fetch without an answer -/

lemma eq_ok_of_toOption {ε α : Type} {x : Except ε α} {a : α} (h : x.toOption = some a) :
    x = .ok a := by
  cases x with
  | error e => cases h
  | ok b => rw [Option.some.inj h]

def registration : Http.Reply := ⟨200, "[[0],[180],30,\"s\"]"⟩

def delivery : Http.Reply := ⟨200, "\x7b\"type\":\"bucket\",\"bucket\":" ++
  "[\"b\",\"j\",0,[[\"C\",\"x\"]],[\"\"],[0],[180],[\"\",\"\"],0]\x7d"⟩

def replyAt : ℕ → Option Http.Reply
  | 0 => some registration
  | 2 => some delivery
  | _ => none

/-- The registration and the second fetch are answered, and no bucket can be executed. -/
def unanswered : Course Unit where
  worker := ⟨"w"⟩
  options := ⟨none, none⟩
  ids := .sequential "id"
  surroundings n := ⟨.ofLoopback, ⟨fun s _ => (replyAt n, s)⟩, fun _ _ => none, fun _ => false⟩
  state := ()

theorem request_discipline_unanswered :
    let b : Bucket :=
      ⟨⟨"b"⟩, ⟨"j"⟩, 0, [⟨"C", "x", none⟩], .empty, .empty, .standard, .empty, 0⟩
    unanswered.deed? 1 = some (.fetched ⟨⟨"w"⟩, ⟨"id-1"⟩, ⟨"s"⟩⟩ (.error .request)) ∧
    unanswered.deed? 2 = some (.fetched ⟨⟨"w"⟩, ⟨"id-1"⟩, ⟨"s"⟩⟩ (.ok (.bucket b))) ∧
    ∃ outcome, unanswered.deed? 4 = some (.submitted
      ⟨⟨"w"⟩, ⟨"id-1"⟩, ⟨"s"⟩, ⟨⟨"b"⟩, [⟨⟨"C", "x", none⟩, []⟩]⟩⟩ outcome) := by
  intro b
  let conf : WorkerConfiguration := ⟨.empty, .standard, 30, some ⟨"s"⟩⟩
  let fetching : WorkerRun := ⟨⟨"w"⟩, ⟨none, none⟩, (IdSource.sequential "id").advance 1, ⟨0, 0⟩,
    .fetch ⟨conf, ⟨"s"⟩⟩ ⟨"id-1"⟩⟩
  have hconf : registration.value = .ok conf := eq_ok_of_toOption (by decide +kernel)
  have hbucket : delivery.value = .ok (FetchAnswer.bucket b) :=
    eq_ok_of_toOption (by decide +kernel)
  obtain ⟨register, hregister⟩ :
      ∃ r, Client.ofLoopback.request (.register ⟨"w"⟩ none) = .ok r := ⟨_, rfl⟩
  obtain ⟨fetch, hfetch⟩ :
      ∃ r, Client.ofLoopback.request (.fetch ⟨⟨"w"⟩, ⟨"id-1"⟩, ⟨"s"⟩⟩) = .ok r := ⟨_, rfl⟩
  have h₀ : unanswered.after 0 =
      (.running ⟨⟨"w"⟩, ⟨none, none⟩, .sequential "id", ⟨0, 0⟩, .register⟩, ()) := rfl
  have h₁ : unanswered.after 1 = (.running fetching, ()) := by
    rw [after_succ h₀]
    simp only [WorkerRun.run, WorkerRun.doErrand, unanswered, Client.perform, hregister,
      Client.outcome, replyAt, Call.value, hconf]
    rfl
  have h₂ : unanswered.after 2 = (.running fetching, ()) := by
    rw [after_succ h₁]
    simp only [WorkerRun.run, fetching, WorkerRun.doErrand, unanswered, Client.perform, hfetch,
      Client.outcome, replyAt]
    rfl
  have hfirst : unanswered.deed? 1 =
      some (.fetched ⟨⟨"w"⟩, ⟨"id-1"⟩, ⟨"s"⟩⟩ (.error .request)) := by
    rw [deed?, h₁]
    simp only [fetching, WorkerRun.doErrand, unanswered, Client.perform, hfetch, Client.outcome,
      replyAt, Errand.deed]
  have hsecond : unanswered.deed? 2 =
      some (.fetched ⟨⟨"w"⟩, ⟨"id-1"⟩, ⟨"s"⟩⟩ (.ok (.bucket b))) := by
    rw [deed?, h₂]
    simp only [fetching, WorkerRun.doErrand, unanswered, Client.perform, hfetch, Client.outcome,
      replyAt, Call.value, hbucket, Errand.deed]
  obtain ⟨-, hhappens, hreported, -⟩ := request_discipline unanswered
  obtain ⟨configuration, result, outcome, -, -, hexecuted, hsubmitted, -⟩ := hreported 2 _ b hsecond
  obtain rfl : none = result := hhappens 3 _ hexecuted
  exact ⟨hfirst, hsecond, outcome, hsubmitted⟩

end Course

end TestQueue
