import TestQueue.Proofs.Liveness
import TestQueue.Proofs.Refusal

namespace TestQueue

open Time (Instant)

lemma checkAliveInterval_eq_ok_iff {seconds n : UInt64} :
    checkAliveInterval seconds = .ok n ↔
      n = seconds ∧ 1 ≤ seconds ∧ seconds ≤ maxAliveInterval := by
  have hpos : seconds = 0 ↔ ¬ 1 ≤ seconds := by
    rw [UInt64.le_iff_toNat_le, ← UInt64.toNat_inj]
    simp
  unfold checkAliveInterval
  split
  · next h => simp [hpos.1 h]
  · next h =>
    rw [hpos, not_not] at h
    split
    · next hlong => simp [UInt64.not_le.2 hlong]
    · next hlong => simp [h, UInt64.not_lt.1 hlong, eq_comm]

namespace Dispatcher

variable {d : Dispatcher} {w : WorkerId} {declared : Option WorkerConfiguration}
  {c : WorkerConfiguration}

lemma admission_eq_ok_iff : d.admission w declared = .ok c ↔
    ∃ given, d.registration w declared = .ok given ∧ 1 ≤ given.aliveInterval ∧
      given.aliveInterval ≤ maxAliveInterval ∧ c = { given with signature := some d.signature } := by
  unfold admission
  cases d.registration w declared with
  | error err => simp [bind, Except.bind]
  | ok given =>
    cases hcheck : checkAliveInterval given.aliveInterval with
    | error fault =>
      simp only [bind, Except.bind, hcheck, reduceCtorEq, false_iff]
      rintro ⟨_, hgiven, hpos, hle, -⟩
      obtain rfl := Except.ok.inj hgiven
      rw [checkAliveInterval_eq_ok_iff.2 ⟨rfl, hpos, hle⟩] at hcheck
      cases hcheck
    | ok n =>
      obtain ⟨-, hpos, hle⟩ := checkAliveInterval_eq_ok_iff.1 hcheck
      simp [bind, Except.bind, hcheck, hpos, hle, eq_comm]

lemma registerWorker_eq_ok_iff (now : Instant) :
    (d.registerWorker w declared now).1 = .ok c ↔ d.admission w declared = .ok c := by
  unfold registerWorker
  cases d.admission w declared <;> simp

lemma registerWorker_of_registration (h : d.registration w declared = .ok c)
    (hpos : 1 ≤ c.aliveInterval) (hle : c.aliveInterval ≤ maxAliveInterval) (now : Instant) :
    (d.registerWorker w declared now).1 = .ok { c with signature := some d.signature } :=
  (registerWorker_eq_ok_iff now).2 (admission_eq_ok_iff.2 ⟨c, h, hpos, hle, rfl⟩)

lemma settings_run (d : Dispatcher) (commands : List (Instant × Command)) :
    (d.run commands).settings = d.settings ∧ (d.run commands).signature = d.signature :=
  run_induction (P := fun _ d' => d'.settings = d.settings ∧ d'.signature = d.signature) ⟨rfl, rfl⟩
    (fun _ e h => ⟨(continues_perform e.server e.now e.command).settings.trans h.1,
      (continues_perform e.server e.now e.command).signature.trans h.2⟩) commands

lemma registration_of_listed (hlist : d.settings.knownWorkers.bindings ≠ []) :
    d.registration w declared = .ok c ↔ d.settings.knownWorkers.find? w = some c := by
  have hempty : d.settings.knownWorkers.bindings.isEmpty = false := by
    simpa [List.isEmpty_eq_false_iff] using hlist
  unfold registration
  cases d.settings.knownWorkers.find? w <;> simp [hempty]

end Dispatcher

namespace Event

variable {e : Event}

lemma admission_of_registered {w : WorkerId} {declared : Option WorkerConfiguration}
    {c : WorkerConfiguration} (hc : e.command = .register w declared)
    (ha : e.answer = .ok (.registered c)) : e.server.admission w declared = .ok c := by
  obtain ⟨d, now, command⟩ := e
  obtain rfl : command = .register w declared := hc
  have ha' : (d.registerWorker w declared now).1.map Answer.registered = .ok (.registered c) := ha
  rw [← Dispatcher.registerWorker_eq_ok_iff now]
  cases h : (d.registerWorker w declared now).1 with
  | error err => simp [h, Except.map] at ha'
  | ok c' =>
    rw [h] at ha'
    obtain rfl : c' = c := by simpa [Except.map] using ha'
    rfl

lemma known_of_accepted {request : SubmitRequest} {b : BucketId} {retry : Option BucketId}
    (hc : e.command = .submit request)
    (ha : e.answer = .ok (.submitted (.accepted b retry))) :
    e.server.roster.isKnown request.workerId = true := by
  by_contra hk
  obtain ⟨d, now, command⟩ := e
  obtain rfl : command = .submit request := hc
  have hk' : (d.indicateActivity now).roster.isKnown request.workerId = false :=
    Bool.not_eq_true _ ▸ hk
  simp only [answer, Dispatcher.perform, Dispatcher.answering, Dispatcher.submitResult, hk'] at ha
  split at ha <;> cases ha

end Event

lemma WorkerRecord.configuration_sweep (p : AlivenessPolicy) (now : Instant) (r : WorkerRecord) :
    (r.sweep p now).1.configuration = r.configuration := by
  have hout := sweep_swept p now r
  generalize r.sweep p now = out at hout
  cases hout <;> rfl

def DispatcherSettings.Admits (settings : DispatcherSettings) (signature : PayloadSignature)
    (w : WorkerId) (configuration : Option WorkerConfiguration) : Prop :=
  ∃ c, settings.knownWorkers.find? w = some c ∧
    configuration = some { c with signature := some signature }

namespace Dispatcher

structure Closed (d : Dispatcher) (s : DispatcherSettings) (p : PayloadSignature) : Prop where
  settings : d.settings = s
  signature : d.signature = p
  admits : ∀ w r, d.roster.find? w = some r → s.Admits p w r.configuration

lemma closed_new (settings : DispatcherSettings) (ids : IdSource) (start : Instant) :
    (new settings ids start).Closed settings ⟨ids.next⟩ where
  settings := rfl
  signature := rfl
  admits w r h := by cases h

lemma Closed.admits_record {d : Dispatcher} {settings : DispatcherSettings}
    {signature : PayloadSignature} (h : d.Closed settings signature) {w : WorkerId}
    (hk : d.roster.isKnown w = true) :
    settings.Admits signature w (d.roster.record w).configuration := by
  obtain ⟨r, hr⟩ := Roster.find?_of_isKnown hk
  rw [Roster.record_of_find? hr]
  exact h.admits w r hr

end Dispatcher

namespace Event

variable {e : Event} {settings : DispatcherSettings} {signature : PayloadSignature}
  (h : e.server.Closed settings signature)

include h

lemma closed_after (hlist : settings.knownWorkers.bindings ≠ []) :
    e.after.Closed settings signature where
  settings := (Dispatcher.continues_perform e.server e.now e.command).settings.trans h.settings
  signature := (Dispatcher.continues_perform e.server e.now e.command).signature.trans h.signature
  admits w r hr := by
    have he := e.recordEffect w
    have hall := h.admits w
    rw [hr] at he
    generalize e.server.roster.find? w = o at hall he
    cases he with
    | kept => exact hall r rfl
    | registered _ hc ha =>
      obtain ⟨given, hgiven, -, -, rfl⟩ :=
        Dispatcher.admission_eq_ok_iff.1 (admission_of_registered hc ha)
      rw [Dispatcher.registration_of_listed (h.settings ▸ hlist), h.settings] at hgiven
      exact ⟨given, hgiven, by rw [h.signature]; rfl⟩
    | heard _ hrep =>
      obtain ⟨-, rfl⟩ := WorkerRecord.reportAlive_eq_ok_iff.1 hrep
      exact (hall _ rfl :)
    | blocked _ | held _ _ | finished _ => exact (hall _ rfl :)
    | swept _ =>
      rw [WorkerRecord.configuration_sweep]
      exact hall _ rfl

lemma admits_of_handsOut {b : BucketId} {w : WorkerId} {r : RequestId} (hh : e.HandsOut b w r) :
    settings.Admits signature w (e.server.roster.record w).configuration := by
  obtain ⟨request, bucket, hc, rfl, -, ha, -⟩ := hh
  rw [answer, hc] at ha
  exact h.admits_record (Roster.isKnown_of_eligible (may_fetch ha).2)

end Event

namespace Dispatcher

theorem listed_workers_only (settings : DispatcherSettings)
    (hlist : settings.knownWorkers.bindings ≠ []) (ids : IdSource) (start : Instant)
    (commands : List (Instant × Command)) :
    let past := (new settings ids start).history commands
    let d := (new settings ids start).run commands
    let signature : PayloadSignature := ⟨ids.next⟩
    (∀ r ∈ d.roster.workers.items, settings.Admits signature r.workerId r.configuration) ∧
    (∀ e ∈ past, ∀ b w r, e.HandsOut b w r →
      settings.Admits signature w (e.server.roster.record w).configuration) ∧
    ∀ e ∈ past, ∀ request b retry, e.command = .submit request →
      e.answer = .ok (.submitted (.accepted b retry)) →
      settings.Admits signature request.workerId
        (e.server.roster.record request.workerId).configuration := by
  intro past d signature
  -- the server of an event is one that the run got to
  obtain ⟨hd, hpast⟩ := run_induction (d := new settings ids start) (P := fun past d =>
    d.Closed settings signature ∧ ∀ e ∈ past, e.server.Closed settings signature)
    ⟨closed_new settings ids start, fun _ h => by cases h⟩
    (fun past e ih => ⟨Event.closed_after ih.1 hlist, List.forall_mem_cons.2 ih⟩) commands
  refine ⟨fun r hr => hd.admits _ r (Roster.find?_eq_some_iff.2 ⟨hr, rfl⟩),
    fun e he b w r hh => Event.admits_of_handsOut (hpast e he) hh, ?_⟩
  intro e he request b retry hc ha
  exact (hpast e he).admits_record (Event.known_of_accepted hc ha)

def listedSettings : DispatcherSettings :=
  { plainSettings with
    knownWorkers := .ofList [(⟨"w"⟩, { WorkerConfiguration.standard with aliveInterval := 5 })] }

/-- A worker that is not listed knows the signature and tries everything. -/
def strayWorker : List (Instant × Command) :=
  [(.epoch, .register ⟨"v"⟩ (some .standard)), (.epoch, .reportAlive ⟨"v"⟩),
    (.epoch, .setBlocked ⟨"v"⟩ false), (.epoch, .fetch ⟨⟨"v"⟩, ⟨"r"⟩, ⟨"id-1"⟩⟩),
    (.epoch, .submit ⟨⟨"v"⟩, ⟨"s"⟩, ⟨"id-1"⟩, ⟨⟨"id-3"⟩, []⟩⟩)]

theorem listed_workers_only_strayWorker :
    let commands := lostBucket ++ strayWorker
    let d := (new listedSettings numberedIds .epoch).run commands
    listedSettings.knownWorkers.bindings ≠ [] ∧
      d.roster.workers.items.map WorkerRecord.workerId = [⟨"w"⟩] ∧
      listedSettings.Admits ⟨"id-1"⟩ ⟨"w"⟩ (d.roster.record ⟨"w"⟩).configuration ∧
      ∀ e ∈ (new listedSettings numberedIds .epoch).history commands, ∀ b r,
        ¬ e.HandsOut b ⟨"v"⟩ r := by
  intro commands d
  have hlist : listedSettings.knownWorkers.bindings ≠ [] := by decide
  obtain ⟨hall, hout, -⟩ := listed_workers_only listedSettings hlist numberedIds .epoch commands
  have hone : d.roster.workers.items.map WorkerRecord.workerId = [⟨"w"⟩] := by decide +kernel
  have hw : ∃ r ∈ d.roster.workers.items, r.workerId = ⟨"w"⟩ := by
    rw [← List.mem_map, hone]
    exact List.mem_singleton_self _
  obtain ⟨r, hr, hid⟩ := hw
  refine ⟨hlist, hone, ?_, fun e he b r hh => ?_⟩
  · rw [Roster.record_of_find? (Roster.find?_eq_some_iff.2 ⟨hr, hid⟩), ← hid]
    exact hall r hr
  · obtain ⟨c, hc, -⟩ := hout e he b _ r hh
    cases hc

end Dispatcher

end TestQueue
