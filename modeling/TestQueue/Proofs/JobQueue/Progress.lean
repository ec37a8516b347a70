import TestQueue.Proofs.JobQueue.Run
import TestQueue.Proofs.JobQueue.Summaries

/-!
The results of a job only move forward: tests are added at the end, a test that has passed stays
passed, and one that has failed for good is only tried again if new buckets contain it.
-/

namespace TestQueue

open Time (Instant)

namespace JobQueue

variable {q q' : JobQueue} {t : TestEntry}

lemma results_eq_of_perm (hj : q'.job = q.job) (hf : q'.finished = q.finished)
    (ho : q'.openBuckets.Perm q.openBuckets) : q'.results = q.results := by
  simp only [results, summaries_eq, statusOf, attempts, outcomes, hj, hf, open_iff_of_perm ho]
  rfl

lemma results_dequeue (hs : q.Sound) (w : WorkerId) (r : RequestId) (now : Instant) :
    (q.dequeue w r now).2.results = q.results := by
  cases hprev : q.previous? w r with
  | some h => simp only [dequeue, hprev]
  | none =>
    cases hp : q.pending with
    | nil => simp only [dequeue, hprev, hp]
    | cons bucket rest =>
      rw [dequeue_of_pending hprev hp]
      exact results_eq_of_perm rfl rfl (openBuckets_afterHandOut hs hp)

lemma results_reclaim (hd : q.deleted = false) (w : WorkerId) :
    (q.reclaim w).2.results = q.results :=
  results_eq_of_perm rfl rfl (openBuckets_reclaim hd w)

structure Tidy (q : JobQueue) (minted : List BucketId) : Prop where
  sound : q.Sound
  minted : q.bucketIds ⊆ minted

lemma tidy_new (job : PrioritizedJob) : (new job).Tidy [] := ⟨sound_new job, by rintro b (⟨⟩)⟩

lemma deleted_of_perform {op : Operation} (h : (q.perform op).deleted = false) :
    q.deleted = false := by
  cases q.effect op with
  | kept hafter => rwa [hafter] at h
  | enqueued hop => rwa [hop] at h
  | handedOut _ hafter => rwa [hafter] at h
  | recorded _ _ hafter => rwa [hafter] at h
  | reclaimed hop => rwa [hop] at h
  | deleted hop => rw [hop] at h; cases h

lemma Tidy.append {minted : List BucketId} (hq : q.Tidy minted) (new : List BucketId) :
    q.bucketIds ++ new ⊆ minted ++ new :=
  List.append_subset_of_subset_of_subset (List.subset_append_of_subset_left _ hq.minted)
    (List.subset_append_right _ _)

lemma Tidy.perform {minted : List BucketId} (hq : q.Tidy minted) (op : Operation)
    (hn : (minted ++ q.mints op).Nodup) (hd : (q.perform op).deleted = false) :
    (q.perform op).Tidy (minted ++ q.mints op) := by
  have hq0 := deleted_of_perform hd
  obtain ⟨-, hnew, hdisjoint⟩ := List.nodup_append.1 hn
  have fresh {b : BucketId} (hb : b ∈ q.mints op) : b ∉ q.bucketIds :=
    fun hold => hdisjoint b (hq.minted hold) b hb rfl
  cases q.effect op with
  | kept hafter hm =>
    rw [hafter, hm, List.append_nil]
    exact hq
  | @enqueued buckets hop =>
    subst hop
    refine ⟨hq.sound.enqueue hq0 hnew fun b hb hb' => fresh hb' hb, ?_⟩
    exact List.Subset.trans (bucketIds_enqueue q buckets).subset (hq.append _)
  | handedOut hp hafter hm =>
    rw [hafter, hm, List.append_nil]
    exact ⟨hq.sound.afterHandOut hp,
      List.Subset.trans (bucketIds_afterHandOut hq.sound hp).subset hq.minted⟩
  | @recorded h n result ids hout _ hafter hm =>
    have hh : h ∈ q.handOuts := mem_handOuts_iff.2 ⟨_, n, hout⟩
    have hid := (hq.sound.keyed _ _ hout).symm
    rw [hafter, hm]
    refine ⟨hq.sound.afterRecord _ hh hid (fun p hp => fresh ?_) fun _ => hq0, ?_⟩
    · rw [hm]
      exact List.mem_map_of_mem (Option.mem_toList.2 hp)
    · exact List.Subset.trans (bucketIds_afterRecord hq.sound _ hh hid).subset (hq.append _)
  | @reclaimed w hop =>
    subst hop
    refine ⟨hq.sound.reclaim w, ?_⟩
    exact List.Subset.trans (bucketIds_reclaim_subset q w)
      (List.subset_append_of_subset_left _ hq.minted)
  | deleted hop => rw [hop] at hd; cases hd

lemma tidy_run (job : PrioritizedJob) (ops : List Operation)
    (hn : ((new job).collect mints ops).Nodup) (hd : ((new job).run ops).deleted = false) :
    ((new job).run ops).Tidy ((new job).collect mints ops) := by
  induction ops using List.reverseRecOn with
  | nil => exact tidy_new job
  | append_singleton ops op ih =>
    rw [run_concat] at hd
    rw [collect_concat] at hn
    rw [run_concat, collect_concat]
    exact (ih (List.nodup_append.1 hn).1 (deleted_of_perform hd)).perform op hn hd

lemma finished_perform (q : JobQueue) (op : Operation) :
    (q.perform op).finished = q.finished ++ q.records op := by
  cases q.effect op with
  | kept hafter _ _ hr => rw [hafter, hr, List.append_nil]
  | enqueued hop => rw [hop]; exact (List.append_nil _).symm
  | handedOut _ hafter _ _ hr => rw [hafter, hr, List.append_nil]; rfl
  | recorded _ _ hafter _ _ hr => rw [hafter, hr]; rfl
  | reclaimed hop => rw [hop]; exact (List.append_nil _).symm
  | deleted hop => rw [hop]; exact (List.append_nil _).symm

lemma finished_run (q : JobQueue) (ops : List Operation) :
    (q.run ops).finished = q.finished ++ q.collect records ops := by
  induction ops using List.reverseRecOn with
  | nil => exact (List.append_nil _).symm
  | append_singleton ops op ih =>
    rw [run_concat, finished_perform, ih, collect_concat, List.append_assoc]

lemma outcomes_run (q : JobQueue) (ops : List Operation) : (q.run ops).outcomes =
    q.outcomes ++ (q.collect records ops).flatMap BucketResult.outcomes := by
  rw [outcomes, finished_run, List.flatMap_append]
  rfl

def Operation.Brings (op : Operation) (t : TestEntry) : Prop :=
  ∃ buckets, op = .enqueue buckets ∧ ∃ p ∈ buckets, t ∈ p.tests

def GivenUp (q : JobQueue) (t : TestEntry) : Prop := ¬ PassedIn q.outcomes t ∧ ¬ q.Open t

lemma of_mem_openBuckets_afterRecord {h : HandOut} {result : BucketResult}
    {residual : Option Bucket} {p : Bucket}
    (hp : p ∈ (q.afterRecord h result residual).openBuckets) :
    p ∈ q.openBuckets ∨ p ∈ residual := by
  rcases List.mem_append.1 hp with hp | hp
  · rcases List.mem_append.1 hp with hp | hp
    · exact Or.inl (List.mem_append_left _ hp)
    · exact Or.inr (Option.mem_toList.1 hp)
  · obtain ⟨k, hk, rfl⟩ := List.mem_map.1 hp
    obtain ⟨b, n, hb⟩ := mem_handOuts_iff.1 hk
    simp only [afterRecord, Table.find?_erase] at hb
    split at hb
    · cases hb
    · exact Or.inl (mem_openBuckets_of_handOut (mem_handOuts_iff.2 ⟨b, n, hb⟩))

lemma of_mem_openBuckets_afterHandOut {h : HandOut} {rest : List Bucket} {p : Bucket}
    (hp : q.pending = h.bucket :: rest) (hm : p ∈ (q.afterHandOut rest h).openBuckets) :
    p ∈ q.openBuckets := by
  rw [openBuckets, List.mem_append, List.mem_map] at hm
  rw [openBuckets, hp, List.mem_append, List.mem_cons, List.mem_map]
  rcases hm with hm | ⟨k, hk, rfl⟩
  · exact Or.inl (Or.inr hm)
  · rcases of_mem_handOuts_afterHandOut hk with rfl | hk
    · exact Or.inl (Or.inl rfl)
    · exact Or.inr ⟨k, hk, rfl⟩

namespace GivenUp

variable (hc : q.GivenUp t)

include hc

lemma move (hf : q'.finished = q.finished)
    (ho : ∀ p ∈ q'.openBuckets, t ∈ p.tests → p ∈ q.openBuckets) : q'.GivenUp t := by
  refine ⟨by rw [outcomes, hf]; exact hc.1, ?_⟩
  rintro ⟨p, hp, ht⟩
  exact hc.2 ⟨p, ho p hp ht, ht⟩

lemma afterRecord {h : HandOut} {result : BucketResult} {ids : IdSource} (hh : h ∈ q.handOuts)
    (htests : ∀ t ∈ result.tests, t ∈ h.bucket.tests) :
    (q.afterRecord h result (q.residual? h result ids)).GivenUp t := by
  have hbucket : t ∉ h.bucket.tests := fun ht => hc.2 ⟨_, mem_openBuckets_of_handOut hh, ht⟩
  have hcomplete : t ∉ (result.withLost h.bucket.tests).tests := fun ht =>
    (BucketResult.mem_tests_withLost.1 ht).elim (fun hr => hbucket (htests t hr)) hbucket
  refine ⟨?_, ?_⟩
  · rw [outcomes_afterRecord, passedIn_append, not_or]
    refine ⟨hc.1, ?_⟩
    rintro ⟨o, ho, rfl, -⟩
    exact hcomplete (List.mem_map_of_mem ho)
  · rintro ⟨p, hp, ht⟩
    rcases of_mem_openBuckets_afterRecord hp with hp | hp
    · exact hc.2 ⟨p, hp, ht⟩
    · exact hbucket (tests_residual?_subset hp htests ht)

lemma perform {op : Operation} (hb : ¬ op.Brings t) : (q.perform op).GivenUp t := by
  cases q.effect op with
  | kept hafter => rwa [hafter]
  | @enqueued buckets hop =>
    subst hop
    refine hc.move rfl fun p hp ht => ?_
    rcases List.mem_append.1 ((openBuckets_enqueue q buckets).subset hp) with hp | hp
    · exact hp
    · exact absurd ⟨buckets, rfl, p, hp, ht⟩ hb
  | handedOut hp hafter =>
    rw [hafter]
    exact hc.move rfl fun p hm _ => of_mem_openBuckets_afterHandOut hp hm
  | recorded hout htests hafter =>
    rw [hafter]
    exact hc.afterRecord (mem_handOuts_iff.2 ⟨_, _, hout⟩) htests
  | @reclaimed w hop =>
    subst hop
    exact hc.move rfl fun p hp _ => openBuckets_reclaim_subset q w hp
  | deleted hop =>
    subst hop
    exact hc.move rfl fun p hp _ => List.mem_append_right _ hp

end GivenUp

lemma givenUp_run (hc : q.GivenUp t) {ops : List Operation} (hb : ∀ op ∈ ops, ¬ op.Brings t) :
    (q.run ops).GivenUp t := by
  induction ops using List.reverseRecOn with
  | nil => exact hc
  | append_singleton ops op ih =>
    rw [run_concat]
    exact (ih fun op' h => hb op' (List.mem_append_left _ h)).perform (hb op (by simp))

lemma tests_summaries_prefix (q : JobQueue) (later : List Operation) :
    q.summaries.map TestSummary.test <+: (q.run later).summaries.map TestSummary.test := by
  rw [tests_summaries, tests_summaries, outcomes_run, List.map_append, List.eraseDups_append]
  exact List.prefix_append _ _

lemma attempts_le_run (q : JobQueue) (later : List Operation) (t : TestEntry) :
    q.attempts t ≤ (q.run later).attempts t := by
  rw [attempts, attempts, outcomes_run, List.map_append, List.count_append]
  exact Nat.le_add_right _ _

lemma statusOf_run (q : JobQueue) (later : List Operation) (t : TestEntry) :
    (q.statusOf t = .passed → (q.run later).statusOf t = .passed) ∧
    (q.statusOf t = .permanentlyFailed →
      (q.run later).statusOf t = .permanentlyFailed ∨ ∃ op ∈ later, op.Brings t) := by
  rw [statusOf_eq_passed, statusOf_eq_passed, statusOf_eq_permanentlyFailed,
    statusOf_eq_permanentlyFailed]
  refine ⟨fun hp => ?_, fun hc => ?_⟩
  · rw [outcomes_run, passedIn_append]
    exact Or.inl hp
  · by_cases hb : ∃ op ∈ later, op.Brings t
    · exact Or.inr hb
    · exact Or.inl (givenUp_run hc fun op hop hbr => hb ⟨op, hop, hbr⟩)

theorem results_forward (job : PrioritizedJob) (ops later : List Operation) :
    let q := (new job).run ops
    let q' := q.run later
    q.finished = (new job).collect records ops ∧
    q.results.tests = ((q.outcomes.map TestOutcome.test).eraseDups.map fun t =>
      ⟨t, q.statusOf t, q.attempts t⟩) ∧
    (q.results.tests.map TestSummary.test).Nodup ∧
    q.results.tests.map TestSummary.test <+: q'.results.tests.map TestSummary.test ∧
    (∀ s ∈ q.results.tests, ∃ s' ∈ q'.results.tests, s'.test = s.test ∧
      s.attempts ≤ s'.attempts ∧
      (s.status = .passed → s'.status = .passed) ∧
      (s.status = .permanentlyFailed →
        s'.status = .permanentlyFailed ∨ ∃ op ∈ later, op.Brings s.test)) ∧
    (((new job).collect mints ops).Nodup → q.deleted = false →
      (∀ w r now, (q.dequeue w r now).2.results = q.results) ∧
      ∀ w, (q.reclaim w).2.results = q.results) := by
  intro q q'
  refine ⟨finished_run (new job) ops, summaries_eq q, nodup_tests_summaries q,
    tests_summaries_prefix q later, fun s hs => ?_,
    fun hn hd => ⟨results_dequeue (tidy_run job ops hn hd).sound, results_reclaim hd⟩⟩
  obtain ⟨t, ht, rfl⟩ := mem_tests_results.1 hs
  have ht' : t ∈ q'.outcomes.map TestOutcome.test := by
    rw [outcomes_run, List.map_append]
    exact List.mem_append_left _ ht
  exact ⟨_, mem_tests_results.2 ⟨t, ht', rfl⟩, rfl, attempts_le_run q later t,
    statusOf_run q later t⟩

def singleTest (b : String) (t : TestEntry) : Bucket :=
  ⟨⟨b⟩, ⟨"j"⟩, 0, [t], .empty, ⟨0, .empty⟩, .standard, .empty, 0⟩

def passedAndLost (x y z : TestEntry) : List Operation :=
  [.enqueue [singleTest "a" x, singleTest "b" y, singleTest "c" z],
    .dequeue ⟨"w"⟩ ⟨"r"⟩ .epoch, .dequeue ⟨"w"⟩ ⟨"s"⟩ .epoch,
    .accept ⟨⟨"a"⟩, [⟨x, [⟨true, 0, [], "", .epoch⟩]⟩]⟩ ⟨"w"⟩ ⟨"r"⟩ (.sequential "id"),
    .accept ⟨⟨"b"⟩, []⟩ ⟨"w"⟩ ⟨"s"⟩ (.sequential "id")]

theorem results_forward_passedAndLost :
    let x : TestEntry := ⟨"C", "x", none⟩
    let y : TestEntry := ⟨"C", "y", none⟩
    let z : TestEntry := ⟨"C", "z", none⟩
    let q := (new ⟨⟨"j"⟩, 1, 0⟩).run (passedAndLost x y z)
    let later : List Operation := [.enqueue [singleTest "d" y]]
    ((new ⟨⟨"j"⟩, 1, 0⟩).collect mints (passedAndLost x y z)).Nodup ∧ q.deleted = false ∧
      q.pending = [singleTest "c" z] ∧
      q.results.tests = [⟨x, .passed, 1⟩, ⟨y, .permanentlyFailed, 1⟩] ∧
      (q.dequeue ⟨"w"⟩ ⟨"t"⟩ .epoch).2.results = q.results ∧
      (q.reclaim ⟨"w"⟩).2.results = q.results ∧
      (q.run later).results.tests = [⟨x, .passed, 1⟩, ⟨y, .retrying, 1⟩] ∧
      ∃ op ∈ later, op.Brings y := by
  intro x y z q later
  obtain ⟨-, htests, -, -, hforward, hkept⟩ :=
    results_forward ⟨⟨"j"⟩, 1, 0⟩ (passedAndLost x y z) later
  have hn : ((new ⟨⟨"j"⟩, 1, 0⟩).collect mints (passedAndLost x y z)).Nodup := by decide
  have hd : q.deleted = false := by decide
  have hbefore : q.results.tests = [⟨x, .passed, 1⟩, ⟨y, .permanentlyFailed, 1⟩] :=
    htests.trans (by decide)
  have hafter : (q.run later).results.tests = [⟨x, .passed, 1⟩, ⟨y, .retrying, 1⟩] := by decide
  refine ⟨hn, hd, by decide, hbefore, (hkept hn hd).1 _ _ _, (hkept hn hd).2 _, hafter, ?_⟩
  obtain ⟨s, hs, ht, -, -, hfailed⟩ := hforward ⟨y, .permanentlyFailed, 1⟩ (by rw [hbefore]; simp)
  refine (hfailed rfl).resolve_left fun hstatus => ?_
  rw [hafter] at hs
  obtain rfl | rfl : s = ⟨x, .passed, 1⟩ ∨ s = ⟨y, .retrying, 1⟩ := by simpa using hs
  · cases hstatus
  · cases hstatus

end JobQueue

end TestQueue
