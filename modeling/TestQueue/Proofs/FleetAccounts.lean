import TestQueue.Proofs.Fleet

namespace TestQueue

open Time (Instant)

lemma Member.Fits.of_underway {m : Member} {w : WorkerId} {signature : PayloadSignature}
    (h : m.Fits w signature) {c : Command} (hc : c ∈ m.underway) :
    (∃ request, c = .fetch request ∧ request.workerId = w) ∨ m.run.command? = some c := by
  have hqueued := h.queued
  rw [Queued] at hqueued
  have refetched (hr : m.Refetches c) : ∃ request, c = .fetch request ∧ request.workerId = w := by
    obtain ⟨session, request, -, rfl, -⟩ := hr
    exact ⟨_, rfl, h.worker⟩
  cases hstage : m.stage with
  | ready =>
    rw [hstage] at hqueued
    exact .inl (refetched (hqueued c hc))
  | waiting =>
    rw [hstage] at hqueued
    obtain ⟨c', before, hc', hu, -, hall⟩ := hqueued
    rw [hu] at hc
    rcases List.mem_append.1 hc with hc | hc
    · obtain ⟨rfl, hr⟩ := hall c hc
      exact .inl (refetched hr)
    · obtain rfl := List.mem_singleton.1 hc
      exact .inr hc'
  | answered a =>
    rw [hstage] at hqueued
    rw [hqueued.1] at hc
    cases hc
  | stopped =>
    rw [hstage] at hqueued
    obtain ⟨request, rfl, hw, -⟩ := hqueued c hc
    exact .inl ⟨request, rfl, hw.trans h.worker⟩

lemma Member.Fits.underway_ne_deleteJob {m : Member} {w : WorkerId} {signature : PayloadSignature}
    (h : m.Fits w signature) {c : Command} (hc : c ∈ m.underway) (j : JobId) : c ≠ .deleteJob j := by
  rintro rfl
  obtain ⟨_, hf, -⟩ | hcommand := h.of_underway hc
  · cases hf
  · unfold WorkerRun.command? at hcommand
    split at hcommand <;> cases hcommand

lemma Member.Fits.workerId_of_underway {m : Member} {w : WorkerId} {signature : PayloadSignature}
    (h : m.Fits w signature) {request : FetchRequest} (hc : .fetch request ∈ m.underway) :
    request.workerId = w := by
  obtain ⟨_, hf, hw⟩ | hcommand := h.of_underway hc
  · obtain rfl := Command.fetch.inj hf
    exact hw
  · unfold WorkerRun.command? at hcommand
    split at hcommand <;> cases hcommand
    exact h.worker

namespace Fleet

variable {ι : Type} {f : Fleet ι} {i : ι} {m : Member}

section

variable [DecidableEq ι]

@[simp] lemma members_set_self : (f.set i m).members i = m := Function.update_self ..

lemma members_set_of_ne {k : ι} (h : k ≠ i) : (f.set i m).members k = f.members k :=
  Function.update_of_ne h ..

lemma forall_members_set {P : ι → Member → Prop} (hi : P i m)
    (hother : ∀ k, k ≠ i → P k (f.members k)) (k : ι) : P k ((f.set i m).members k) := by
  by_cases hk : k = i
  · subst hk
    rwa [members_set_self]
  · rw [members_set_of_ne hk]
    exact hother k hk

end

variable [Fintype ι] {workers : ι → WorkerId}

/-- The books of the workers and those of their server agree. -/
structure Accounted (workers : ι → WorkerId) (f : Fleet ι) : Prop where
  sound : f.server.Sound
  ranked : f.server.queue.Ranked
  agrees : f.server.Agrees
  keepsJobs : f.server.KeepsJobs
  fits : ∀ i, (f.members i).Fits (workers i) f.server.signature
  held : ∀ i b r, f.server.queue.Out b (workers i) r → (f.members i).mayHold b r
  credit : ∑ i, (f.members i).credit = f.server.queue.finishedTotal

lemma Accounted.held_after (h : f.Accounted workers) {e : Event} (he : e.server = f.server) {k : ι}
    (hnone : ∀ b r, ¬ e.HandsOut b (workers k) r) {b : BucketId} {r : RequestId}
    (hout : e.after.queue.Out b (workers k) r) : (f.members k).mayHold b r := by
  rcases (Event.out_after (he ▸ h.sound).queue).1 hout with hhand | ⟨hout, -⟩
  · exact absurd hhand (hnone b r)
  · rw [he] at hout
    exact h.held k b r hout

lemma Accounted.outside (h : f.Accounted workers) (now : Instant) {c : Command}
    (hc : c.isOutside = true) :
    Accounted workers { f with server := (f.server.perform now c).2 } := by
  let e : Event := ⟨f.server, now, c⟩
  have hfetch (request : FetchRequest) : e.command ≠ .fetch request := by
    rintro (rfl : c = _)
    cases hc
  have hsubmit (request : SubmitRequest) : e.command ≠ .submit request := by
    rintro (rfl : c = _)
    cases hc
  have hdel (j : JobId) : e.command ≠ .deleteJob j := by
    rintro (rfl : c = _)
    cases hc
  exact
    { sound := Event.sound_after (e := e) h.sound
      ranked := Event.ranked_after (e := e) h.sound h.ranked
      agrees := Event.agrees_after (e := e) h.sound h.agrees
      keepsJobs := Event.keepsJobs_after (e := e) h.sound h.keepsJobs hdel
      fits := fun k => (Event.signature_after e).symm ▸ h.fits k
      held := fun k b r => h.held_after (e := e) rfl fun _ _ => Event.not_handsOut hfetch
      credit := by
        have hcount := Event.finishedTotal_after (e := e) h.sound h.keepsJobs hdel
        rw [if_neg fun ⟨b, hb⟩ => Event.not_accepts hsubmit hb] at hcount
        exact h.credit.trans hcount.symm }

lemma accounted_starting {ids : IdSource} (hids : Function.Injective ids.nth)
    (settings : DispatcherSettings) (start : Instant) (workers : ι → WorkerId)
    (options : ι → WorkerOptions) (sources : ι → IdSource) :
    (starting (.new settings ids start) fun i =>
      .starting (workers i) (options i) (sources i)).Accounted workers where
  sound := Dispatcher.sound_new hids settings start
  ranked := BucketQueue.ranked_empty
  agrees := Dispatcher.agrees_new settings ids start
  keepsJobs := Dispatcher.keepsJobs_new settings ids start
  fits i := by
    refine ⟨rfl, ?_, le_rfl, ?_⟩
    · simp only [starting, Member.starting, WorkerRun.starting]
      split <;> exact fun session hs => by cases hs
    · exact fun c hc => by cases hc
  held i b r hout := by
    obtain ⟨h, hh, -⟩ := hout
    cases hh
  credit := by
    simp [starting, Member.starting, WorkerRun.starting, Member.credit, Member.unread,
      Dispatcher.new]
    rfl

lemma Accounted.length_heldIds_le (h : f.Accounted workers) (i : ι) :
    (f.server.queue.heldIds (workers i)).length ≤ 1 := by
  rw [← List.toFinset_card_of_nodup (h.sound.queue.toRouted.nodup_heldIds _), Finset.card_le_one]
  intro b hb b' hb'
  obtain ⟨r, hout⟩ := BucketQueue.mem_heldIds_iff.1 (List.mem_toFinset.1 hb)
  obtain ⟨r', hout'⟩ := BucketQueue.mem_heldIds_iff.1 (List.mem_toFinset.1 hb')
  obtain rfl : r = r' :=
    Option.some.inj ((h.held i b r hout).1.symm.trans (h.held i b' r' hout').1)
  obtain ⟨k, hk, rfl, hw, hr⟩ := hout
  obtain ⟨k', hk', rfl, hw', hr'⟩ := hout'
  rw [h.ranked.handOut_unique hk hk' (HandOut.isFor_iff.2 ⟨hw, hr⟩)
    (HandOut.isFor_iff.2 ⟨hw', hr'⟩)]

lemma Accounted.sum_eq_finishedTotal (h : f.Accounted workers)
    (hread : ∀ i answer, (f.members i).stage ≠ .answered (.ok (.submitted answer))) :
    ∑ i, (((f.members i).run.summary.executed : ℤ) - (f.members i).run.summary.ignored) =
      f.server.queue.finishedTotal := by
  rw [← h.credit, Nat.cast_sum]
  apply Finset.sum_congr rfl
  intro i _
  have hcounted := (h.fits i).counted
  rw [Member.credit, Member.unread_of_read (hread i)]
  omega

section

variable [DecidableEq ι]

lemma sum_credit_set {n : ℕ} (h : m.credit = (f.members i).credit + n) :
    ∑ k, ((f.set i m).members k).credit = ∑ k, (f.members k).credit + n := by
  have hother : ∑ k ∈ Finset.univ.erase i, ((f.set i m).members k).credit =
      ∑ k ∈ Finset.univ.erase i, (f.members k).credit :=
    Finset.sum_congr rfl fun k hk => by rw [members_set_of_ne (Finset.ne_of_mem_erase hk)]
  rw [← Finset.sum_erase_add _ _ (Finset.mem_univ i), hother, members_set_self, h, ← add_assoc,
    Finset.sum_erase_add _ _ (Finset.mem_univ i)]

lemma Accounted.move (h : f.Accounted workers)
    (hm : (f.members i).Follows m (workers i) f.server.signature) :
    (f.set i m).Accounted workers where
  sound := h.sound
  ranked := h.ranked
  agrees := h.agrees
  keepsJobs := h.keepsJobs
  fits := forall_members_set (P := fun k m' => m'.Fits (workers k) f.server.signature) hm.fits
    fun k _ => h.fits k
  held := forall_members_set
    (P := fun k m' => ∀ b r, f.server.queue.Out b (workers k) r → m'.mayHold b r)
    (fun b r hout => hm.hold b r (h.held i b r hout)) fun k _ => h.held k
  credit := by
    rw [sum_credit_set (n := 0) hm.credit]
    exact h.credit

lemma Accounted.process (hw : Function.Injective workers) (h : f.Accounted workers)
    (now : Instant) {c : Command} {rest : List Command}
    (hunder : (f.members i).underway = c :: rest) :
    Accounted workers { f.set i ((f.members i).arrive rest (f.server.perform now c).1) with
      server := (f.server.perform now c).2 } := by
  let e : Event := ⟨f.server, now, c⟩
  have hmem : c ∈ (f.members i).underway := hunder ▸ List.mem_cons_self
  have hdel (j : JobId) : e.command ≠ .deleteJob j := (h.fits i).underway_ne_deleteJob hmem j
  have hother {k : ι} (hk : k ≠ i) (b : BucketId) (r : RequestId) :
      ¬ e.HandsOut b (workers k) r := by
    rintro ⟨request, bucket, hc, hworker, -⟩
    have hc : c = .fetch request := hc
    subst hc
    exact hk (hw (hworker.symm.trans ((h.fits i).workerId_of_underway hmem)))
  have harrives : (f.members i).Arrives ((f.members i).arrive rest e.answer) e (workers i) :=
    (h.fits i).arrives (e := e) h.sound (h.held i) h.ranked h.agrees hunder
  have hcount := Event.finishedTotal_after (e := e) h.sound h.keepsJobs hdel
  refine ⟨Event.sound_after (e := e) h.sound, Event.ranked_after (e := e) h.sound h.ranked,
    Event.agrees_after (e := e) h.sound h.agrees,
    Event.keepsJobs_after (e := e) h.sound h.keepsJobs hdel, ?_, ?_, ?_⟩
  · have hsignature : e.after.signature = f.server.signature := Event.signature_after e
    exact hsignature ▸ forall_members_set
      (P := fun k m' => m'.Fits (workers k) f.server.signature) harrives.fits fun k _ => h.fits k
  · exact forall_members_set
      (P := fun k m' => ∀ b r, e.after.queue.Out b (workers k) r → m'.mayHold b r) harrives.hold
      fun k hk b r hout => h.held_after (e := e) rfl (hother hk) hout
  · change ∑ k, ((f.set i ((f.members i).arrive rest e.answer)).members k).credit =
      e.after.queue.finishedTotal
    rw [hcount]
    by_cases hacc : ∃ b, e.Accepts b
    · obtain ⟨b, hb⟩ := hacc
      rw [if_pos ⟨b, hb⟩, sum_credit_set (harrives.accepted b hb), h.credit]
    · rw [if_neg hacc, sum_credit_set (n := 0) (harrives.credit fun b hb => hacc ⟨b, hb⟩), h.credit]

theorem Accounted.step (hw : Function.Injective workers) (h : f.Accounted workers) {g : Fleet ι}
    (hstep : Step f g) : g.Accounted workers := by
  cases hstep with
  | outside now c hc => exact h.outside now hc
  | send i ready command => exact h.move ((h.fits i).follows_send ready command)
  | process i now underway => exact h.process hw now underway
  | read i cancelled answered ending =>
    exact h.move ((h.fits i).follows_read answered ending cancelled)
  | lose i cancelled fetching sent other =>
    exact h.move ((h.fits i).follows_lose fetching sent other cancelled)
  | execute i result executing ready own =>
    exact h.move ((h.fits i).follows_execute executing ready own)

variable (workers)

theorem fleet_accounting {ids : IdSource} (hids : Function.Injective ids.nth)
    (settings : DispatcherSettings) (start : Instant) (hw : Function.Injective workers)
    (options : ι → WorkerOptions) (sources : ι → IdSource)
    (h : (starting (.new settings ids start) fun i =>
      .starting (workers i) (options i) (sources i)).Reachable f) :
    (∀ i, (f.server.queue.heldIds (workers i)).length ≤ 1 ∧
      ∀ b r, f.server.queue.Out b (workers i) r → (f.members i).lastSent = some r) ∧
    ((∀ i answer, (f.members i).stage ≠ .answered (.ok (.submitted answer))) →
      ∑ i, (((f.members i).run.summary.executed : ℤ) - (f.members i).run.summary.ignored) =
        f.server.queue.finishedTotal) := by
  have hacc : f.Accounted workers := by
    induction h with
    | refl => exact accounted_starting hids settings start workers options sources
    | tail _ hstep ih => exact ih.step hw hstep
  exact ⟨fun i => ⟨hacc.length_heldIds_le i, fun b r hout => (hacc.held i b r hout).1⟩,
    hacc.sum_eq_finishedTotal⟩

end

def pair : Bool → WorkerId
  | true => ⟨"v"⟩
  | false => ⟨"w"⟩

def pairStarting : Fleet Bool :=
  starting (.new plainSettings numberedIds .epoch) fun i =>
    .starting (pair i) ⟨none, none⟩ (.sequential (pair i).text)

/-- The first worker asks twice under one identifier, fails at the bucket and goes on. The second
worker holds the other bucket by then. -/
theorem fleet_accounting_lostAnswer : Function.Injective numberedIds.nth ∧
    Function.Injective pair ∧ ∃ f, pairStarting.Reachable f ∧
      (∀ i answer, (f.members i).stage ≠ .answered (.ok (.submitted answer))) ∧
      f.server.queue.Out ⟨"id-3"⟩ ⟨"w"⟩ ⟨"w-1"⟩ ∧ (f.members false).lastSent = some ⟨"w-1"⟩ ∧
      f.server.queue.finishedTotal = 1 ∧
      ∑ i, (((f.members i).run.summary.executed : ℤ) - (f.members i).run.summary.ignored) = 1 := by
  have hids : Function.Injective numberedIds.nth := IdSource.sequential_injective "id"
  have hpair : Function.Injective pair := by decide
  have h := Relation.ReflTransGen.refl (r := Step) (a := pairStarting)
  have h := h.tail (.outside .epoch (.schedule ⟨⟨"j"⟩, 1, [⟨"C", "x", none⟩, ⟨"C", "y", none⟩],
    .individual, none, .empty, ⟨1, .empty⟩, .standard, .empty⟩) rfl)
  -- the first worker registers
  have h := h.tail (.send true rfl rfl)
  have h := h.tail (.process true .epoch rfl)
  have h := h.tail (.read true false rfl rfl)
  -- it fetches in vain
  have h := h.tail (.send true rfl rfl)
  have h := h.tail (.process true .epoch rfl)
  have h := h.tail (.lose true false (e := .request) rfl (.inr ⟨_, rfl⟩) (by decide))
  have h := h.tail (.send true rfl rfl)
  have h := h.tail (.process true .epoch rfl)
  have h := h.tail (.read true false rfl rfl)
  -- it reports the bucket as lost
  have h := h.tail (.execute true none rfl rfl (by simp))
  have h := h.tail (.send true rfl rfl)
  have h := h.tail (.process true .epoch rfl)
  have h := h.tail (.read true false rfl rfl)
  -- the second worker registers and fetches
  have h := h.tail (.send false rfl rfl)
  have h := h.tail (.process false .epoch rfl)
  have h := h.tail (.read false false rfl rfl)
  have h := h.tail (.send false rfl rfl)
  have h := h.tail (.process false .epoch rfl)
  have main := fleet_accounting pair hids plainSettings .epoch hpair _ _ h
  refine ⟨hids, hpair, _, h, ?hread, ?hout, (main.1 false).2 ⟨"id-3"⟩ ⟨"w-1"⟩ ?hout, rfl,
    main.2 ?hread⟩
  case hread => rintro (_ | _) answer ha <;> cases ha
  case hout => exact ⟨_, List.mem_singleton_self _, rfl, rfl, rfl⟩

end Fleet

end TestQueue
