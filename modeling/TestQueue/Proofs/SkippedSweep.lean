import TestQueue.Proofs.Liveness
import TestQueue.Time.Clock

/-!
A sweep does what all the sweeps before it would have done, so that it does not matter if some of
them are left out. Leap seconds are the exception, which no clock shows.
-/

namespace TestQueue

open Time (Instant)

namespace Time

namespace Instant

variable {since now t₁ t₂ : Instant}

lemma nanos_le_nanos (h : t₁ ≤ t₂) (h₁ : ¬ t₁.InLeapSecond) : t₁.nanos ≤ t₂.nanos := by
  unfold InLeapSecond at h₁
  rcases h with hlt | ⟨heq, hle⟩ <;> simp only [nanos] <;> omega

lemma leapSeconds_eq_zero (hs : ¬ since.InLeapSecond) (hn : ¬ now.InLeapSecond) :
    since.leapSeconds now = 0 := by
  rw [leapSeconds, if_neg fun h => hs h.2, if_neg fun h => hn h.2]

lemma elapsed_le_elapsed (h : t₁ ≤ t₂) (hs : ¬ since.InLeapSecond) (h₁ : ¬ t₁.InLeapSecond)
    (h₂ : ¬ t₂.InLeapSecond) : since.elapsed t₁ ≤ since.elapsed t₂ := by
  change (since.elapsed t₁).nanos ≤ (since.elapsed t₂).nanos
  simp only [elapsed, leapSeconds_eq_zero hs h₁, leapSeconds_eq_zero hs h₂, Int.zero_mul,
    Int.add_zero]
  exact Int.toNat_le_toNat (Int.sub_le_sub_right (nanos_le_nanos h h₁) _)

lemma not_inLeapSecond_of_ofMillis? {millis : Int} {t : Instant} (h : ofMillis? millis = some t) :
    ¬ t.InLeapSecond := by
  unfold ofMillis? of? at h
  split at h
  · obtain rfl := Option.some.inj h
    change ¬ 1000000000 ≤ (millis % 1000).toNat * 1000000
    omega
  · cases h

end Instant

theorem Clock.not_inLeapSecond_now (c : Clock) : ¬ c.now.InLeapSecond := by
  unfold now
  cases h : Instant.ofMillis? c.count.toInt with
  | none => decide
  | some t => exact Instant.not_inLeapSecond_of_ofMillis? h

end Time

lemma Ordered.map_eq_self {α : Type} {key : α → String} {s : Ordered α key} {f : α → α}
    (hf : ∀ a, key (f a) = key a) (h : ∀ a ∈ s.items, f a = a) : s.map f hf = s := by
  have hitems : s.items.map f = s.items := (List.map_congr_left h).trans s.items.map_id
  cases s
  simpa only [Ordered.map, Ordered.mk.injEq] using hitems

namespace WorkerRecord

variable (p : AlivenessPolicy) (now : Instant) (r : WorkerRecord)

def givenUp : Bool := r.lastHeartbeat.any fun heartbeat => p.giveUpSpan < heartbeat.elapsed now

def withoutSilentSince : WorkerRecord := { r with silentSince := none }

def unswept : WorkerRecord :=
  { r with status := .notRegistered, silentSince := none, processing := .empty }

/-- The time since the last heartbeat, if there was one, is no shorter at `t₂` than at `t₁`. -/
def Ages (t₁ t₂ : Instant) : Prop :=
  ∀ heartbeat, r.lastHeartbeat = some heartbeat → heartbeat.elapsed t₁ ≤ heartbeat.elapsed t₂

variable {p now r} {t₁ t₂ : Instant}

lemma ages_of_le (h : t₁ ≤ t₂) (h₁ : ¬ t₁.InLeapSecond) (h₂ : ¬ t₂.InLeapSecond)
    (hr : ∀ heartbeat, r.lastHeartbeat = some heartbeat → ¬ heartbeat.InLeapSecond) :
    r.Ages t₁ t₂ :=
  fun heartbeat hb => Instant.elapsed_le_elapsed h (hr heartbeat hb) h₁ h₂

lemma unswept_sweep (p : AlivenessPolicy) (now : Instant) (r : WorkerRecord) :
    (r.sweep p now).1.unswept = r.unswept := by
  have hout := sweep_swept p now r
  generalize r.sweep p now = out at hout
  cases hout <;> rfl

lemma goesLost_eq {heartbeat : Instant} (hs : r.status = .silent)
    (hb : r.lastHeartbeat = some heartbeat) : r.goesLost p now heartbeat = r.givenUp p now := by
  rw [goesLost, givenUp, hb, Option.any_some, decide_eq_true hs, Bool.true_and]

lemma sweep_of_fallsSilent (h : r.fallsSilent p now = true) : r.sweep p now =
    if r.givenUp p now then ((r.silence now).lose,
      [⟨r.workerId, .silent, r.processing.items⟩, ⟨r.workerId, .lost, []⟩])
    else (r.silence now, [⟨r.workerId, .silent, r.processing.items⟩]) := by
  obtain ⟨heartbeat, hb, hs⟩ := (Option.any_eq_true _ _).1 h
  have hlost : (r.silence now).goesLost p now heartbeat = r.givenUp p now := goesLost_eq rfl hb
  simp only [sweep, hb, hs, if_true, hlost]
  cases r.givenUp p now <;> rfl

lemma sweep_of_silent (h : r.status = .silent) : r.sweep p now =
    if r.givenUp p now then (r.lose, [⟨r.workerId, .lost, []⟩]) else (r, []) := by
  cases hb : r.lastHeartbeat with
  | none => simp [sweep, givenUp, hb]
  | some heartbeat =>
    have hs : r.goesSilent p now heartbeat = false := by simp [goesSilent, h]
    simp only [sweep, hb, hs, Bool.false_eq_true, if_false, goesLost_eq h hb]
    cases r.givenUp p now <;> rfl

lemma sweep_of_kept (h : r.fallsSilent p now = false) (hs : r.status ≠ .silent) :
    r.sweep p now = (r, []) := by
  have hout := sweep_swept p now r
  generalize r.sweep p now = out at hout
  cases hout with
  | kept _ => rfl
  | silenced hf => exact absurd (hf.symm.trans h) (by simp)
  | silencedAndLost hf => exact absurd (hf.symm.trans h) (by simp)
  | lost _ hst => exact absurd hst hs

lemma fallsSilent_eq_false (h : r.status ≠ .alive) : r.fallsSilent p now = false :=
  Bool.eq_false_iff.2 fun hf => h (alive_of_fallsSilent hf)

lemma fallsSilent_later (h : r.Ages t₁ t₂) (hf : r.fallsSilent p t₁ = true) :
    r.fallsSilent p t₂ = true := by
  obtain ⟨heartbeat, hb, hs⟩ := (Option.any_eq_true _ _).1 hf
  simp only [goesSilent, Bool.and_eq_true, decide_eq_true_eq] at hs
  refine (Option.any_eq_true _ _).2 ⟨heartbeat, hb, ?_⟩
  simp only [goesSilent, Bool.and_eq_true, decide_eq_true_eq]
  exact ⟨hs.1, Nat.lt_of_lt_of_le hs.2 (h heartbeat hb)⟩

lemma givenUp_later (h : r.Ages t₁ t₂) (ho : r.givenUp p t₁ = true) : r.givenUp p t₂ = true := by
  obtain ⟨heartbeat, hb, hs⟩ := (Option.any_eq_true _ _).1 ho
  refine (Option.any_eq_true _ _).2 ⟨heartbeat, hb, ?_⟩
  rw [decide_eq_true_eq] at hs ⊢
  exact Nat.lt_of_lt_of_le hs (h heartbeat hb)

lemma sweep_lose (p : AlivenessPolicy) (now : Instant) (r : WorkerRecord) :
    r.lose.sweep p now = (r.lose, []) :=
  sweep_of_kept (fallsSilent_eq_false (by simp [lose])) (by simp [lose])

lemma sweep_silence (p : AlivenessPolicy) (since now : Instant) (r : WorkerRecord) :
    (r.silence since).sweep p now = if r.givenUp p now then
      ((r.silence since).lose, [⟨r.workerId, .lost, []⟩]) else (r.silence since, []) :=
  sweep_of_silent rfl

lemma sweep_sweep (p : AlivenessPolicy) (h : r.Ages t₁ t₂) :
    ((r.sweep p t₁).1.sweep p t₂).1.withoutSilentSince = (r.sweep p t₂).1.withoutSilentSince ∧
      (r.sweep p t₁).2 ++ ((r.sweep p t₁).1.sweep p t₂).2 = (r.sweep p t₂).2 := by
  by_cases hsilent : r.status = .silent
  · rw [sweep_of_silent hsilent, sweep_of_silent hsilent]
    cases ho : r.givenUp p t₁ with
    | true =>
      rw [givenUp_later h ho, if_pos rfl, sweep_lose]
      exact ⟨rfl, rfl⟩
    | false =>
      rw [if_neg Bool.false_ne_true, sweep_of_silent hsilent]
      exact ⟨rfl, rfl⟩
  · cases hf : r.fallsSilent p t₁ with
    | false =>
      rw [sweep_of_kept hf hsilent]
      exact ⟨rfl, rfl⟩
    | true =>
      rw [sweep_of_fallsSilent hf, sweep_of_fallsSilent (fallsSilent_later h hf)]
      cases ho : r.givenUp p t₁ with
      | true =>
        rw [givenUp_later h ho, if_pos rfl, if_pos rfl, sweep_lose]
        exact ⟨rfl, rfl⟩
      | false =>
        -- silent after the first sweep, and perhaps lost in the second one
        rw [if_neg Bool.false_ne_true, sweep_silence]
        cases r.givenUp p t₂ <;> exact ⟨rfl, rfl⟩

lemma sweep_eq_self (h : (r.sweep p now).2 = []) : r.sweep p now = (r, []) := by
  have hout := sweep_swept p now r
  generalize r.sweep p now = out at h hout
  cases hout with
  | kept _ => rfl
  | silenced _ | silencedAndLost _ | lost _ _ => cases h

lemma sweep_again (p : AlivenessPolicy) (now : Instant) (r : WorkerRecord) :
    (r.sweep p now).1.sweep p now = ((r.sweep p now).1, []) :=
  sweep_eq_self (List.append_right_eq_self.1 (sweep_sweep p fun _ _ => Nat.le_refl _).2)

end WorkerRecord

namespace Roster

variable {t : Roster} {t₁ t₂ : Instant} {w : WorkerId}

lemma items_sweep (t : Roster) (now : Instant) : (t.sweep now).2.workers.items =
    t.workers.items.map fun r => (r.sweep t.policy now).1 := rfl

lemma sweep_again (t : Roster) (now : Instant) :
    (t.sweep now).2.sweep now = ([], (t.sweep now).2) := by
  have hself (r : WorkerRecord) (hr : r ∈ (t.sweep now).2.workers.items) :
      r.sweep t.policy now = (r, []) := by
    rw [items_sweep] at hr
    obtain ⟨r, -, rfl⟩ := List.mem_map.1 hr
    exact WorkerRecord.sweep_again t.policy now r
  apply Prod.ext
  · exact List.flatMap_eq_nil_iff.2 fun r hr => congrArg Prod.snd (hself r hr)
  · exact congrArg (Roster.mk t.policy)
      (Ordered.map_eq_self _ fun r hr => congrArg Prod.fst (hself r hr))

lemma sweep_sweep (h : (t.record w).Ages t₁ t₂) :
    (((t.sweep t₁).2.sweep t₂).2.find? w).map WorkerRecord.withoutSilentSince =
        ((t.sweep t₂).2.find? w).map WorkerRecord.withoutSilentSince ∧
      (((t.sweep t₁).1 ++ ((t.sweep t₁).2.sweep t₂).1).filter fun x => x.workerId = w) =
        (t.sweep t₂).1.filter fun x => x.workerId = w := by
  simp only [List.filter_append, filter_sweep, find?_sweep]
  cases hf : t.find? w with
  | none => exact ⟨rfl, rfl⟩
  | some r =>
    rw [record_of_find? hf] at h
    exact (WorkerRecord.sweep_sweep t.policy h).imp_left (congrArg some)

theorem skipped_sweep (t : Roster) (t₁ t₂ : Instant) :
    let first := t.sweep t₁
    let second := first.2.sweep t₂
    let single := t.sweep t₂
    second.2.policy = single.2.policy ∧
      second.2.workers.items.map WorkerRecord.unswept =
        single.2.workers.items.map WorkerRecord.unswept ∧
      (∀ w, (t.record w).Ages t₁ t₂ →
        (second.2.find? w).map WorkerRecord.withoutSilentSince =
            (single.2.find? w).map WorkerRecord.withoutSilentSince ∧
          ((first.1 ++ second.1).filter fun x => x.workerId = w) =
            single.1.filter fun x => x.workerId = w) ∧
      (t₁ ≤ t₂ → ¬ t₁.InLeapSecond → ¬ t₂.InLeapSecond → ∀ r : WorkerRecord,
        (∀ heartbeat, r.lastHeartbeat = some heartbeat → ¬ heartbeat.InLeapSecond) →
          r.Ages t₁ t₂) ∧
      single.2.sweep t₂ = ([], single.2) := by
  intro first second single
  refine ⟨rfl, ?_, fun w => sweep_sweep, fun h h₁ h₂ r => WorkerRecord.ages_of_le h h₁ h₂,
    sweep_again t t₂⟩
  simp only [second, first, single, items_sweep, List.map_map]
  exact List.map_congr_left fun r _ => by simp only [Function.comp, WorkerRecord.unswept_sweep]

/-- A worker goes silent at the sweep that is left out, and then since the later time. -/
theorem skipped_sweep_lostBucket :
    let t := ((Dispatcher.new plainSettings numberedIds .epoch).run lostBucket).roster
    let first := t.sweep Dispatcher.overdue
    let second := first.2.sweep Dispatcher.longOverdue
    let single := t.sweep Dispatcher.longOverdue
    Dispatcher.overdue ≤ Dispatcher.longOverdue ∧
      (t.record ⟨"w"⟩).Ages Dispatcher.overdue Dispatcher.longOverdue ∧
      first.1 = [⟨⟨"w"⟩, .silent, [⟨"id-3"⟩]⟩] ∧ second.1 = [⟨⟨"w"⟩, .lost, []⟩] ∧
      (single.1.filter fun x => x.workerId = ⟨"w"⟩) =
        [⟨⟨"w"⟩, .silent, [⟨"id-3"⟩]⟩, ⟨⟨"w"⟩, .lost, []⟩] ∧
      (second.2.find? ⟨"w"⟩).map WorkerRecord.withoutSilentSince =
        (single.2.find? ⟨"w"⟩).map WorkerRecord.withoutSilentSince ∧ second.2 ≠ single.2 := by
  intro t first second single
  have hle : Dispatcher.overdue ≤ Dispatcher.longOverdue := by decide
  obtain ⟨-, -, hsame, hages, -⟩ := skipped_sweep t Dispatcher.overdue Dispatcher.longOverdue
  have hheard : (t.record ⟨"w"⟩).lastHeartbeat = some .epoch := by decide
  have ha : (t.record ⟨"w"⟩).Ages Dispatcher.overdue Dispatcher.longOverdue :=
    hages hle (by decide) (by decide) _ fun heartbeat hb => by
      obtain rfl := Option.some.inj (hb.symm.trans hheard)
      decide
  obtain ⟨hrecords, hreports⟩ := hsame ⟨"w"⟩ ha
  have hfirst : first.1 = [⟨⟨"w"⟩, .silent, [⟨"id-3"⟩]⟩] := by decide +kernel
  have hsecond : second.1 = [⟨⟨"w"⟩, .lost, []⟩] := by decide +kernel
  refine ⟨hle, ha, hfirst, hsecond, hreports.symm.trans ?_, hrecords, by decide +kernel⟩
  change (first.1 ++ second.1).filter _ = _
  rw [hfirst, hsecond]
  rfl

def heardAt (interval : UInt64) (heartbeat : Instant) : Roster :=
  (new { AlivenessPolicy.standard with giveUpAfter := 86400 }).register ⟨"w"⟩
    { WorkerConfiguration.standard with aliveInterval := interval } heartbeat

/-- The first sweep makes the worker silent, which the second one alone would not have done. -/
def SkipMatters (interval : UInt64) (heartbeat t₁ t₂ : Instant) : Prop :=
  t₁ ≤ t₂ ∧
    (((heardAt interval heartbeat).sweep t₁).2.sweep t₂).2.status? ⟨"w"⟩ = some .silent ∧
    ((heardAt interval heartbeat).sweep t₂).2.status? ⟨"w"⟩ = some .alive

instance (interval : UInt64) (heartbeat t₁ t₂ : Instant) :
    Decidable (SkipMatters interval heartbeat t₁ t₂) :=
  inferInstanceAs (Decidable (_ ∧ _ ∧ _))

/-- A leap second at the first sweep, at the second one, or at the heartbeat, on the day before. -/
theorem skipped_sweep_inLeapSecond :
    SkipMatters 20 ⟨36000, 0, by decide, by decide, by decide⟩
        ⟨36059, 1500000000, by decide, by decide, by decide⟩
        ⟨36060, 0, by decide, by decide, by decide⟩ ∧
      SkipMatters 28799 ⟨36062, 500000000, by decide, by decide, by decide⟩
        ⟨122459, 900000000, by decide, by decide, by decide⟩
        ⟨122459, 1400000000, by decide, by decide, by decide⟩ ∧
      SkipMatters 14400 ⟨43199, 1000000000, by decide, by decide, by decide⟩
        ⟨86399, 500000000, by decide, by decide, by decide⟩
        ⟨86400, 0, by decide, by decide, by decide⟩ := by
  decide +kernel

end Roster

lemma Event.heartbeat_after {e : Event} {w : WorkerId} {P : Instant → Prop} (hn : P e.now)
    (h : ∀ r heartbeat, e.server.roster.find? w = some r → r.lastHeartbeat = some heartbeat →
      P heartbeat) (r : WorkerRecord) (heartbeat : Instant)
    (hr : e.after.roster.find? w = some r) (hb : r.lastHeartbeat = some heartbeat) :
    P heartbeat := by
  have heffect := e.recordEffect w
  generalize e.server.roster.find? w = before at h heffect
  rw [hr] at heffect
  cases heffect with
  | kept => exact h r heartbeat rfl hb
  | registered => exact Option.some.inj hb ▸ hn
  | heard _ hrep =>
    obtain ⟨-, rfl⟩ := WorkerRecord.reportAlive_eq_ok_iff.1 hrep
    exact Option.some.inj hb ▸ hn
  | blocked => exact h _ heartbeat rfl hb
  | held => exact h _ heartbeat rfl hb
  | finished => exact h _ heartbeat rfl hb
  | swept =>
    refine h _ heartbeat rfl (Eq.trans ?_ hb)
    exact (congrArg WorkerRecord.lastHeartbeat (WorkerRecord.unswept_sweep _ _ _)).symm

namespace Dispatcher

variable (settings : DispatcherSettings) (ids : IdSource) (start : Instant)
  {commands : List (Instant × Command)}

lemma heartbeat_run {P : Instant → Prop} (hc : ∀ c ∈ commands, P c.1) {w : WorkerId}
    {r : WorkerRecord} {heartbeat : Instant}
    (hr : ((new settings ids start).run commands).roster.find? w = some r)
    (hb : r.lastHeartbeat = some heartbeat) : P heartbeat := by
  have hrun := run_induction (d := new settings ids start)
    (P := fun past d => (∀ e ∈ past, P e.now) → ∀ r heartbeat,
      d.roster.find? w = some r → r.lastHeartbeat = some heartbeat → P heartbeat)
    (fun _ _ _ hr => by cases hr)
    (fun _ e ih hpast => Event.heartbeat_after (hpast e List.mem_cons_self)
      (ih fun e he => hpast e (List.mem_cons_of_mem _ he))) commands
  exact hrun (fun e he => hc _ (mem_of_mem_history he)) r heartbeat hr hb

theorem sweep_skippable (hc : ∀ c ∈ commands, ¬ c.1.InLeapSecond) {t₁ t₂ : Instant} (h : t₁ ≤ t₂)
    (h₁ : ¬ t₁.InLeapSecond) (h₂ : ¬ t₂.InLeapSecond) (w : WorkerId) :
    let t := ((new settings ids start).run commands).roster
    (((t.sweep t₁).2.sweep t₂).2.find? w).map WorkerRecord.withoutSilentSince =
        ((t.sweep t₂).2.find? w).map WorkerRecord.withoutSilentSince ∧
      (((t.sweep t₁).1 ++ ((t.sweep t₁).2.sweep t₂).1).filter fun x => x.workerId = w) =
        (t.sweep t₂).1.filter fun x => x.workerId = w := by
  intro t
  refine Roster.sweep_sweep (WorkerRecord.ages_of_le h h₁ h₂ fun heartbeat hb => ?_)
  cases hf : t.find? w with
  | none =>
    rw [Roster.record, hf] at hb
    cases hb
  | some r =>
    exact heartbeat_run settings ids start (P := fun now => ¬ now.InLeapSecond) hc hf
      (Roster.record_of_find? hf ▸ hb)

end Dispatcher

end TestQueue
