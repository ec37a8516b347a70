import TestQueue.Config.Reader
import TestQueue.Proofs.Registration
import TestQueue.Server.Timers

/-!
What a document that is accepted makes of the settings: bounds that all settings keep, the intervals
of the workers, and registrations that succeed for as long as the server runs.
-/

namespace TestQueue

open Kdl (Node)
open Time (Instant Span)

/-! ### Comparing doubles -/

namespace Binary64

open Float.Model (UnpackedFloat)

lemma compare_swap {a b : UnpackedFloat} (ha : a.isFinite = true) (hb : b.isFinite = true) :
    ∃ o, a.compare b = some o ∧ b.compare a = some o.swap := by
  have hswap (e f : ℤ) (m n : ℕ) : (compare f e).then (compare n m) =
      ((compare e f).then (compare m n)).swap := by
    rw [Ordering.swap_then, ← Std.OrientedCmp.eq_swap, ← Std.OrientedCmp.eq_swap]
  match a, b, ha, hb with
  | .zero _, .zero _, _, _ => exact ⟨.eq, rfl, rfl⟩
  | .zero _, .finite .positive _ _ _, _, _ => exact ⟨.lt, rfl, rfl⟩
  | .zero _, .finite .negative _ _ _, _, _ => exact ⟨.gt, rfl, rfl⟩
  | .finite .positive _ _ _, .zero _, _, _ => exact ⟨.gt, rfl, rfl⟩
  | .finite .negative _ _ _, .zero _, _, _ => exact ⟨.lt, rfl, rfl⟩
  | .finite .positive _ _ _, .finite .negative _ _ _, _, _ => exact ⟨.gt, rfl, rfl⟩
  | .finite .negative _ _ _, .finite .positive _ _ _, _, _ => exact ⟨.lt, rfl, rfl⟩
  | .finite .positive m e _, .finite .positive n f _, _, _ =>
    exact ⟨_, rfl, congrArg some (hswap e f m n)⟩
  | .finite .negative m e _, .finite .negative n f _, _, _ =>
    exact ⟨((compare e f).then (compare m n)).swap, rfl,
      congrArg (fun o => some (Ordering.swap o)) (hswap e f m n)⟩

lemma le_of_not_lt {x y : Float} (hx : x.isFinite = true) (hy : y.isFinite = true)
    (h : ¬ y < x) : x ≤ y := by
  have hle : x.le y = (x.toModel.unpack.compare y.toModel.unpack).any (·.isLE) :=
    Bool.decide_eq_true
  have hlt : y.lt x = (y.toModel.unpack.compare x.toModel.unpack == some .lt) :=
    Bool.decide_eq_true
  obtain ⟨o, hxy, hyx⟩ := compare_swap hx hy
  change ¬ y.lt x = true at h
  change x.le y = true
  rw [hlt, hyx] at h
  rw [hle, hxy]
  cases o with
  | lt | eq => rfl
  | gt => exact absurd rfl h

end Binary64

/-! ### What a node says -/

namespace Kdl.Node

def defaultInterval (n : Node) : UInt64 :=
  (((n.property? "report-alive-interval").bind Value.toInt?).map fun k => .ofNat k.toNat).getD
    AlivenessPolicy.standard.defaultInterval

def interval? (n : Node) : Option UInt64 :=
  if n.name = "report-alive-interval" then
    (n.argument?.bind Value.toInt?).map fun k => .ofNat k.toNat
  else none

def ownInterval? (n : Node) : Option UInt64 := (n.children.filterMap interval?).getLast?

end Kdl.Node

def Kdl.Document.defaultInterval (doc : Kdl.Document) : UInt64 :=
  ((doc.filter fun n => n.name = "aliveness").getLast?.map Node.defaultInterval).getD
    AlivenessPolicy.standard.defaultInterval

lemma Kdl.Node.eq_of_unsigned? {field : String} {v : Option Kdl.Value} {o : Option UInt64}
    (h : unsigned? field v = .ok o) : o = (v.bind Kdl.Value.toInt?).map fun k => .ofNat k.toNat := by
  unfold unsigned? at h
  cases hv : v.bind Kdl.Value.toInt? with
  | none =>
    rw [hv] at h
    exact (Except.ok.inj h).symm
  | some k =>
    rw [hv] at h
    dsimp only [unsigned] at h
    split at h
    · exact (Except.ok.inj h).symm
    · cases h

lemma Kdl.Document.defaultInterval_concat (doc : Kdl.Document) (n : Node) :
    Kdl.Document.defaultInterval (doc ++ [n]) =
      if n.name = "aliveness" then n.defaultInterval else doc.defaultInterval := by
  unfold defaultInterval
  split <;> simp [*]

/-! ### Policies -/

def Allowed (interval : UInt64) : Prop := 1 ≤ interval ∧ interval ≤ maxAliveInterval

structure AlivenessPolicy.Bounded (p : AlivenessPolicy) : Prop where
  interval : Allowed p.defaultInterval
  finite : p.toleranceFactor.isFinite = true
  ge_one : 1.0 ≤ p.toleranceFactor

lemma AlivenessPolicy.bounded_standard : standard.Bounded :=
  ⟨⟨by decide, by decide⟩, by decide, by decide⟩

lemma of_bind_eq_ok {ε α β : Type} {x : Except ε α} {f : α → Except ε β} {b : β}
    (h : x >>= f = .ok b) : ∃ a, x = .ok a ∧ f a = .ok b := by
  cases x with
  | error err => cases h
  | ok a => exact ⟨a, rfl, h⟩

namespace ServerConfig

variable {c c' : ServerConfig} {p p' : AlivenessPolicy} {n : Node}

lemma readDefaultInterval_eq_ok (h : readDefaultInterval .standard n = .ok p) :
    p = { AlivenessPolicy.standard with defaultInterval := n.defaultInterval } ∧
      Allowed n.defaultInterval := by
  obtain ⟨o, hn, h⟩ := of_bind_eq_ok h
  have ho : n.defaultInterval = o.getD AlivenessPolicy.standard.defaultInterval := by
    rw [Node.defaultInterval, ← Node.eq_of_unsigned? hn]
  rw [ho]
  cases o with
  | none =>
    obtain rfl := Except.ok.inj h
    exact ⟨rfl, AlivenessPolicy.bounded_standard.interval⟩
  | some seconds =>
    dsimp only at h
    split at h
    · next hcheck =>
      obtain ⟨rfl, hallowed⟩ := checkAliveInterval_eq_ok_iff.1 hcheck
      exact ⟨(Except.ok.inj h).symm, hallowed⟩
    · cases h

lemma readTolerance_eq_ok (h : readTolerance p n = .ok p') :
    ∃ x, p' = { p with toleranceFactor := x } ∧
      (x = p.toleranceFactor ∨ x.isFinite = true ∧ 1.0 ≤ x) := by
  unfold readTolerance at h
  split at h
  · obtain rfl := Except.ok.inj h
    exact ⟨_, rfl, Or.inl rfl⟩
  · next x _ =>
    split at h
    · next hx =>
      obtain rfl := Except.ok.inj h
      simp only [Bool.and_eq_true, Bool.not_eq_true', decide_eq_false_iff_not] at hx
      exact ⟨x, rfl, Or.inr ⟨hx.1, Binary64.le_of_not_lt (by decide) hx.1 hx.2⟩⟩
    · cases h

lemma readAliveness_eq_ok (h : readAliveness n = .ok p) :
    p.Bounded ∧ p.defaultInterval = n.defaultInterval := by
  obtain ⟨_, hi, h⟩ := of_bind_eq_ok h
  obtain ⟨rfl, hallowed⟩ := readDefaultInterval_eq_ok hi
  obtain ⟨_, ht, h⟩ := of_bind_eq_ok h
  obtain ⟨x, rfl, hx⟩ := readTolerance_eq_ok ht
  obtain ⟨_, -, h⟩ := of_bind_eq_ok h
  obtain ⟨_, -, h⟩ := of_bind_eq_ok h
  obtain rfl := Except.ok.inj h
  have hx : x.isFinite = true ∧ 1.0 ≤ x := by
    rcases hx with rfl | hx
    · exact ⟨AlivenessPolicy.bounded_standard.finite, AlivenessPolicy.bounded_standard.ge_one⟩
    · exact hx
  exact ⟨⟨hallowed, hx.1, hx.2⟩, rfl⟩

/-! ### Workers -/

lemma readWorkerInterval_eq_ok {worker : String} {a b : WorkerConfiguration}
    (hn : n.name = "report-alive-interval") (h : readWorkerInterval worker a n = .ok b) :
    b.aliveInterval = n.interval?.getD a.aliveInterval ∧
      ∀ seconds ∈ n.interval?, Allowed seconds := by
  obtain ⟨o, ha, h⟩ := of_bind_eq_ok h
  have ho : n.interval? = o := by
    rw [Node.interval?, if_pos hn, ← Node.eq_of_unsigned? ha]
  rw [ho]
  cases o with
  | none =>
    obtain rfl := Except.ok.inj h
    exact ⟨rfl, by simp⟩
  | some seconds =>
    dsimp only at h
    split at h
    · next hcheck =>
      obtain ⟨rfl, hallowed⟩ := checkAliveInterval_eq_ok_iff.1 hcheck
      obtain rfl := Except.ok.inj h
      refine ⟨rfl, fun k hk => ?_⟩
      rw [← Option.some.inj hk]
      exact hallowed
    · cases h

lemma readWorkerSetting_eq_ok {worker : String} {a b : WorkerConfiguration}
    (h : readWorkerSetting worker a n = .ok b) :
    b.aliveInterval = n.interval?.getD a.aliveInterval ∧
      ∀ seconds ∈ n.interval?, Allowed seconds := by
  by_cases hn : n.name = "report-alive-interval"
  · rw [readWorkerSetting, hn] at h
    exact readWorkerInterval_eq_ok hn h
  · have hnone : n.interval? = none := if_neg hn
    suffices b.aliveInterval = a.aliveInterval by simpa [hnone] using this
    unfold readWorkerSetting at h
    split at h
    · obtain ⟨_, -, h⟩ := of_bind_eq_ok h
      rw [← Except.ok.inj h]
    · contradiction
    · obtain ⟨_, -, h⟩ := of_bind_eq_ok h
      rw [← Except.ok.inj h]
    · rw [← Except.ok.inj h]
    · rw [← Except.ok.inj h]

lemma readWorkerSettings_eq_ok {worker : String} {start b : WorkerConfiguration}
    {children : List Node} (h : children.foldlM (readWorkerSetting worker) start = .ok b) :
    b.aliveInterval = (children.filterMap Node.interval?).getLast?.getD start.aliveInterval ∧
      (Allowed start.aliveInterval → Allowed b.aliveInterval) := by
  -- the last setting is read on top of what the others have led to
  induction children using List.reverseRecOn generalizing b with
  | nil =>
    obtain rfl := Except.ok.inj h
    exact ⟨rfl, id⟩
  | append_singleton children n ih =>
    rw [List.foldlM_append] at h
    obtain ⟨a, ha, h⟩ := of_bind_eq_ok h
    obtain ⟨_, hb, h⟩ := of_bind_eq_ok h
    obtain rfl := Except.ok.inj h
    obtain ⟨hinterval, hallowed⟩ := readWorkerSetting_eq_ok hb
    obtain ⟨hbefore, hkept⟩ := ih ha
    rw [hinterval]
    refine ⟨?_, fun hstart => ?_⟩
    · rw [List.filterMap_append, List.getLast?_append, hbefore]
      cases hn : n.interval? <;> simp [hn]
    · cases hn : n.interval? with
      | none => exact hkept hstart
      | some seconds => exact hallowed seconds hn

lemma readWorkerDefinition_eq_ok {d : WorkerDefinition} (h : readWorkerDefinition p n = .ok d) :
    n.textArgument? = some d.workerId.text ∧
      d.configuration.aliveInterval = n.ownInterval?.getD p.defaultInterval ∧
      (Allowed p.defaultInterval → Allowed d.configuration.aliveInterval) := by
  unfold readWorkerDefinition at h
  split at h
  · cases h
  · next worker hw =>
    obtain ⟨b, hb, h⟩ := of_bind_eq_ok h
    obtain rfl := Except.ok.inj h
    exact ⟨hw, readWorkerSettings_eq_ok hb⟩

/-! ### Nodes of a document -/

inductive NodeEffect (c : ServerConfig) (n : Node) (c' : ServerConfig) : Prop
  | aliveness {p : AlivenessPolicy} (name : n.name = "aliveness") (read : readAliveness n = .ok p)
      (after : c'.aliveness = p) (workers : c'.workers = c.workers)
  | worker {d : WorkerDefinition} (name : n.name = "worker")
      (read : readWorkerDefinition c.aliveness n = .ok d)
      (fresh : d.workerId ∉ c.workers.map WorkerDefinition.workerId)
      (after : c'.aliveness = c.aliveness) (workers : c'.workers = c.workers ++ [d])
  | other (name : n.name ≠ "aliveness") (after : c'.aliveness = c.aliveness)
      (workers : c'.workers = c.workers)

lemma readServer_eq_ok (h : c.readServer n = .ok c') :
    c'.aliveness = c.aliveness ∧ c'.workers = c.workers := by
  obtain ⟨b, hb, h⟩ := of_bind_eq_ok h
  obtain rfl := Except.ok.inj h
  unfold readListen at hb
  split at hb
  · obtain rfl := Except.ok.inj hb
    exact ⟨rfl, rfl⟩
  · split at hb
    · obtain rfl := Except.ok.inj hb
      exact ⟨rfl, rfl⟩
    · cases hb

lemma readNode_effect (h : readNode c n = .ok c') : NodeEffect c n c' := by
  unfold readNode at h
  split at h
  · next hn =>
    obtain ⟨ha, hw⟩ := readServer_eq_ok h
    exact .other (by simp [hn]) ha hw
  · next hn =>
    obtain ⟨p, hp, h⟩ := of_bind_eq_ok h
    obtain rfl := Except.ok.inj h
    exact .aliveness hn hp rfl rfl
  · next hn =>
    obtain ⟨_, -, h⟩ := of_bind_eq_ok h
    obtain ⟨_, -, h⟩ := of_bind_eq_ok h
    obtain rfl := Except.ok.inj h
    exact .other (by simp [hn]) rfl rfl
  · next hn =>
    obtain ⟨_, -, h⟩ := of_bind_eq_ok h
    obtain ⟨_, -, h⟩ := of_bind_eq_ok h
    obtain rfl := Except.ok.inj h
    exact .other (by simp [hn]) rfl rfl
  · next hn =>
    obtain ⟨d, hd, h⟩ := of_bind_eq_ok h
    split at h
    · cases h
    · next hfresh =>
      obtain rfl := Except.ok.inj h
      exact .worker hn hd hfresh rfl rfl
  · next hn _ _ _ =>
    obtain rfl := Except.ok.inj h
    exact .other hn rfl rfl

lemma ofDocument_concat {doc : Kdl.Document} (h : ofDocument (doc ++ [n]) = .ok c') :
    ∃ c, ofDocument doc = .ok c ∧ NodeEffect c n c' := by
  rw [ofDocument, List.foldlM_append] at h
  obtain ⟨c, hc, h⟩ := of_bind_eq_ok h
  obtain ⟨_, hn, h⟩ := of_bind_eq_ok h
  obtain rfl := Except.ok.inj h
  exact ⟨c, hc, readNode_effect hn⟩

/-! ### Intervals -/

structure Describes (before : Kdl.Document) (n : Node) (d : WorkerDefinition) : Prop where
  name : n.name = "worker"
  workerId : n.textArgument? = some d.workerId.text
  interval : d.configuration.aliveInterval = n.ownInterval?.getD before.defaultInterval

lemma intervals_of_ofDocument {doc : Kdl.Document} (h : ofDocument doc = .ok c) :
    c.aliveness.defaultInterval = doc.defaultInterval ∧
      ∀ d ∈ c.workers, ∃ before n after, doc = before ++ n :: after ∧ Describes before n d := by
  induction doc using List.reverseRecOn generalizing c with
  | nil =>
    obtain rfl := Except.ok.inj h
    exact ⟨rfl, by simp [standard]⟩
  | append_singleton doc n ih =>
    obtain ⟨b, hb, heffect⟩ := ofDocument_concat h
    obtain ⟨hdefault, hworkers⟩ := ih hb
    have hkept : ∀ d ∈ b.workers, ∃ before m after, doc ++ [n] = before ++ m :: after ∧
        Describes before m d := by
      intro d hd
      obtain ⟨before, m, after, rfl, hm⟩ := hworkers d hd
      exact ⟨before, m, after ++ [n], by simp, hm⟩
    rw [Kdl.Document.defaultInterval_concat]
    cases heffect with
    | aliveness hn hp ha hw =>
      rw [ha, hw, if_pos hn]
      exact ⟨(readAliveness_eq_ok hp).2, hkept⟩
    | worker hn hd _ ha hw =>
      rw [ha, hw, if_neg (by simp [hn])]
      obtain ⟨hid, hinterval, -⟩ := readWorkerDefinition_eq_ok hd
      refine ⟨hdefault, List.forall_mem_append.2 ⟨hkept, fun d' hd' => ?_⟩⟩
      obtain rfl := List.mem_singleton.1 hd'
      exact ⟨doc, n, [], rfl, hn, hid, hdefault ▸ hinterval⟩
    | other hn ha hw =>
      rw [ha, hw, if_neg hn]
      exact ⟨hdefault, hkept⟩

lemma defaultInterval_append (before after : Kdl.Document)
    (h : ∀ n ∈ after, n.name ≠ "aliveness") :
    Kdl.Document.defaultInterval (before ++ after) = before.defaultInterval := by
  have hnone : after.filter (fun n => n.name = "aliveness") = [] := by
    simpa [List.filter_eq_nil_iff] using h
  rw [Kdl.Document.defaultInterval, List.filter_append, hnone, List.append_nil]
  rfl

/-- Workers without an interval of their own have the default one that is known where they stand in
the document, which is the one of the settings if no node about heartbeats follows. -/
theorem worker_intervals {doc : Kdl.Document} (h : ofDocument doc = .ok c) :
    c.aliveness.defaultInterval = doc.defaultInterval ∧
    ∀ d ∈ c.workers, ∃ before n after, doc = before ++ n :: after ∧ n.name = "worker" ∧
      n.textArgument? = some d.workerId.text ∧
      d.configuration.aliveInterval =
        n.ownInterval?.getD (Kdl.Document.defaultInterval before) ∧
      (n.ownInterval? = none → (∀ m ∈ after, m.name ≠ "aliveness") →
        d.configuration.aliveInterval = c.aliveness.defaultInterval) := by
  obtain ⟨hdefault, hworkers⟩ := intervals_of_ofDocument h
  refine ⟨hdefault, fun d hd => ?_⟩
  obtain ⟨before, n, after, rfl, hname, hid, hinterval⟩ := hworkers d hd
  refine ⟨before, n, after, rfl, hname, hid, hinterval, fun hown hafter => ?_⟩
  rw [hinterval, hown, Option.getD_none, hdefault]
  refine (defaultInterval_append before (n :: after) ?_).symm
  exact List.forall_mem_cons.2 ⟨by simp [hname], hafter⟩

def lateDefault : Kdl.Document :=
  [.mk "worker" [⟨none, .str "w"⟩] none,
    .mk "aliveness" [⟨some "report-alive-interval", .int 10⟩] none]

def earlyDefault : Kdl.Document :=
  lateDefault ++ [.mk "worker" [⟨none, .str "v"⟩]
    (some [.mk "report-alive-interval" [⟨none, .str "5"⟩] none])]

theorem worker_intervals_earlyDefault : ∃ c, ofDocument earlyDefault = .ok c ∧
    c.aliveness.defaultInterval = 10 ∧
    c.workers.map (fun d => (d.workerId.text, d.configuration.aliveInterval)) =
      [("w", 30), ("v", 10)] ∧
    ∀ d ∈ c.workers, ∃ before n after, earlyDefault = before ++ n :: after ∧
      n.textArgument? = some d.workerId.text ∧
      d.configuration.aliveInterval =
        n.ownInterval?.getD (Kdl.Document.defaultInterval before) := by
  obtain ⟨c, hc⟩ : ∃ c, ofDocument earlyDefault = .ok c := ⟨_, rfl⟩
  obtain ⟨hdefault, hworkers⟩ := worker_intervals hc
  refine ⟨c, hc, hdefault, ?_, fun d hd => ?_⟩
  · obtain rfl := Except.ok.inj hc
    decide
  · obtain ⟨before, n, after, he, -, hid, hinterval, -⟩ := hworkers d hd
    exact ⟨before, n, after, he, hid, hinterval⟩

/-- The worker sets no interval, and does not have the default one of the settings. -/
theorem default_of_settings_missed : ∃ c, ofDocument lateDefault = .ok c ∧
    c.aliveness.defaultInterval = 10 ∧ (∀ n ∈ lateDefault, n.ownInterval? = none) ∧
    c.workers.map (fun d => d.configuration.aliveInterval) = [30] :=
  ⟨_, rfl, by decide, by decide, by decide⟩

/-! ### The server -/

structure Bounded (c : ServerConfig) : Prop where
  policy : c.aliveness.Bounded
  intervals : ∀ d ∈ c.workers, Allowed d.configuration.aliveInterval
  distinct : (c.workers.map WorkerDefinition.workerId).Nodup

lemma bounded_of_ofDocument {doc : Kdl.Document} (h : ofDocument doc = .ok c) : c.Bounded := by
  induction doc using List.reverseRecOn generalizing c with
  | nil =>
    obtain rfl := Except.ok.inj h
    exact ⟨AlivenessPolicy.bounded_standard, by simp [standard], List.nodup_nil⟩
  | append_singleton doc n ih =>
    obtain ⟨b, hb, heffect⟩ := ofDocument_concat h
    obtain ⟨hpolicy, hintervals, hdistinct⟩ := ih hb
    cases heffect with
    | aliveness _ hp ha hw =>
      exact ⟨ha ▸ (readAliveness_eq_ok hp).1, hw ▸ hintervals, hw ▸ hdistinct⟩
    | @worker d _ hd hfresh ha hw =>
      refine ⟨ha ▸ hpolicy, ?_, ?_⟩
      · rw [hw]
        refine List.forall_mem_append.2 ⟨hintervals, List.forall_mem_singleton.2 ?_⟩
        exact (readWorkerDefinition_eq_ok hd).2.2 hpolicy.interval
      · rw [hw, List.map_append]
        exact hdistinct.append (List.nodup_singleton _) (List.disjoint_singleton.2 hfresh)
    | other _ ha hw => exact ⟨ha ▸ hpolicy, hw ▸ hintervals, hw ▸ hdistinct⟩

lemma find?_knownWorkers (hc : c.Bounded) {d : WorkerDefinition} (hd : d ∈ c.workers) :
    c.dispatcherSettings.knownWorkers.find? d.workerId = some d.configuration := by
  have hdistinct : ((c.workers.map fun w => (w.workerId, w.configuration)).map Prod.fst).Nodup := by
    simpa [List.map_map, Function.comp_def] using hc.distinct
  rw [Table.find?_eq_some_iff, dispatcherSettings, Table.bindings_ofList hdistinct]
  exact List.mem_map.2 ⟨d, hd, rfl⟩

lemma second_le_ofSeconds (seconds : UInt64) :
    Span.ofSeconds 1 ≤ Span.ofSeconds (max seconds 1) := by
  have hle : (1 : UInt64) ≤ max seconds 1 := by
    rw [UInt64.max_def]
    split
    · exact UInt64.le_refl 1
    · next h => exact UInt64.le_of_lt (UInt64.not_le.1 h)
  exact Nat.mul_le_mul_right _ (UInt64.le_iff_toNat_le.1 hle)

lemma thousand_le_wholeMillis {s : Span} (h : Span.ofSeconds 1 ≤ s) : 1000 ≤ s.wholeMillis :=
  (Nat.le_div_iff_mul_le (by decide)).2 h

theorem server_of_document {doc : Kdl.Document} (h : ofDocument doc = .ok c) :
    (1 ≤ c.aliveness.defaultInterval ∧ c.aliveness.defaultInterval ≤ 86400) ∧
    (∀ x ∈ c.workers,
      1 ≤ x.configuration.aliveInterval ∧ x.configuration.aliveInterval ≤ 86400) ∧
    (c.workers.map WorkerDefinition.workerId).Nodup ∧
    (c.aliveness.toleranceFactor.isFinite = true ∧ 1.0 ≤ c.aliveness.toleranceFactor) ∧
    (Span.ofSeconds 1 ≤ c.aliveness.sweepPeriod ∧ 1000 ≤ (Timers.starting c).sweepPeriod) ∧
    (Span.ofSeconds 1 ≤ c.terminationPollPeriod ∧ 1000 ≤ (Timers.starting c).pollPeriod) ∧
    ∀ ids start commands now,
      let d := (Dispatcher.new c.dispatcherSettings ids start).run commands
      (∀ x ∈ c.workers, ∀ declared, (d.registerWorker x.workerId declared now).1 =
        .ok { x.configuration with signature := some ⟨ids.next⟩ }) ∧
      (c.workers = [] → ∀ w, (d.registerWorker w none now).1 =
        .ok { WorkerConfiguration.standard with
          aliveInterval := c.aliveness.defaultInterval
          signature := some ⟨ids.next⟩ }) := by
  have hc := bounded_of_ofDocument h
  have hsweep : Span.ofSeconds 1 ≤ c.aliveness.sweepPeriod := second_le_ofSeconds _
  have hpoll : Span.ofSeconds 1 ≤ c.terminationPollPeriod := second_le_ofSeconds _
  refine ⟨hc.policy.interval, hc.intervals, hc.distinct, ⟨hc.policy.finite, hc.policy.ge_one⟩,
    ⟨hsweep, le_max_of_le_left (thousand_le_wholeMillis hsweep)⟩,
    ⟨hpoll, le_max_of_le_left (thousand_le_wholeMillis hpoll)⟩, fun ids start commands now => ?_⟩
  intro d
  obtain ⟨hset, hsig⟩ :=
    Dispatcher.settings_run (Dispatcher.new c.dispatcherSettings ids start) commands
  change d.settings = c.dispatcherSettings at hset
  change d.signature = ⟨ids.next⟩ at hsig
  rw [← hsig]
  refine ⟨fun x hx declared => ?_, fun hnone w => ?_⟩
  · have hreg : d.registration x.workerId declared = .ok x.configuration := by
      rw [Dispatcher.registration, hset, find?_knownWorkers hc hx]
    exact Dispatcher.registerWorker_of_registration hreg (hc.intervals x hx).1 (hc.intervals x hx).2 now
  · have hreg : d.registration w none =
        .ok { WorkerConfiguration.standard with aliveInterval := c.aliveness.defaultInterval } := by
      rw [Dispatcher.registration, hset, dispatcherSettings, hnone]
      rfl
    exact Dispatcher.registerWorker_of_registration hreg hc.policy.interval.1 hc.policy.interval.2 now

/-- The listed worker has an interval of its own and a retry; the sweep has no period. -/
def busyDocument : Kdl.Document :=
  [.mk "worker" [⟨none, .str "w"⟩] (some [.mk "report-alive-interval" [⟨none, .int 5⟩] none,
      .mk "retries" [⟨none, .int 1⟩] none]),
    .mk "aliveness" [⟨some "tolerance-factor", .float 1.5⟩, ⟨some "sweep-interval", .int 0⟩] none]

theorem server_of_document_busyDocument : ∃ c, ofDocument busyDocument = .ok c ∧
    1000 ≤ (Timers.starting c).sweepPeriod ∧
    ∀ now declared, (((Dispatcher.new c.dispatcherSettings numberedIds .epoch).run
        lostBucket).registerWorker ⟨"w"⟩ declared now).1 =
      .ok ⟨⟨1, .empty⟩, .standard, 5, some ⟨"id-1"⟩⟩ := by
  obtain ⟨c, hc⟩ : ∃ c, ofDocument busyDocument = .ok c := ⟨_, rfl⟩
  obtain ⟨-, -, -, -, hsweep, -, hserver⟩ := server_of_document hc
  refine ⟨c, hc, hsweep.2, fun now declared => ?_⟩
  have hworkers : c.workers = [⟨⟨"w"⟩, ⟨⟨1, .empty⟩, .standard, 5, none⟩⟩] := by
    obtain rfl := Except.ok.inj hc
    decide
  have hw := (hserver numberedIds .epoch lostBucket now).1 _ (hworkers ▸ List.mem_cons_self) declared
  exact hw

end ServerConfig

end TestQueue
