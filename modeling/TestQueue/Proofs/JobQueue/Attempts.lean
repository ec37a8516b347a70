import TestQueue.Proofs.JobQueue.Budget
import TestQueue.Proofs.JobQueue.Residual

/-!
How often a test of a job has been tried: what its bucket has no retries left for, and once more
when it has failed for good.
-/

namespace TestQueue

lemma BucketResult.passedIn_withLost {r : BucketResult} {expected : List TestEntry}
    {t : TestEntry} : PassedIn (r.withLost expected).outcomes t ↔ PassedIn r.outcomes t := by
  rw [withLost, passedIn_append, or_iff_left]
  rintro ⟨o, ho, -, hs⟩
  obtain ⟨t', -, rfl⟩ := List.mem_map.1 ho
  cases hs

lemma BucketResult.count_tests_withLost {r : BucketResult} {expected : List TestEntry}
    (hn : expected.Nodup) (hr : ∀ t ∈ r.tests, t ∈ expected) (hone : r.tests.Nodup)
    (t : TestEntry) : (r.withLost expected).tests.count t = if t ∈ expected then 1 else 0 := by
  have hnodup : (r.withLost expected).tests.Nodup := by
    rw [tests_withLost, List.nodup_append]
    refine ⟨hone, hn.filter _, ?_⟩
    rintro t ht _ hf rfl
    rw [List.mem_filter, decide_eq_true_eq] at hf
    exact hf.2 ht
  rw [hnodup.count]
  simp only [mem_tests_withLost, or_iff_right_of_imp (hr t)]

namespace JobQueue

variable {q q' : JobQueue} {retries : ℕ}

/-- No test is in two buckets, and the results for a test of a bucket are as many as the retries
that its bucket has lost. A test in no bucket has passed or has used up all of them. -/
structure Tried (q : JobQueue) (retries : ℕ) : Prop where
  disjoint : (q.openBuckets.flatMap Bucket.tests).Nodup
  waiting : ∀ p ∈ q.openBuckets, ∀ t ∈ p.tests,
    q.attempts t + p.remainingRetries.toNat = retries ∧ ¬ PassedIn q.outcomes t
  done : ∀ t ∈ q.outcomes.map TestOutcome.test, ¬ q.Open t →
    PassedIn q.outcomes t ∨ q.attempts t = retries + 1
  within : ∀ t, q.attempts t ≤ retries + 1

lemma tried_enqueue (job : PrioritizedJob) {buckets : List Bucket}
    (hn : (buckets.flatMap Bucket.tests).Nodup)
    (hr : ∀ p ∈ buckets, p.remainingRetries.toNat = retries) :
    ((new job).enqueue buckets).Tried retries where
  disjoint := by
    have hp := (new job).openBuckets_enqueue buckets
    exact (hp.flatMap_right Bucket.tests).nodup_iff.2 hn
  waiting p hp t ht := by
    have hp : p ∈ buckets := ((new job).openBuckets_enqueue buckets).subset hp
    refine ⟨(Nat.zero_add _).trans (hr p hp), ?_⟩
    rintro ⟨o, ho, -⟩
    cases ho
  done t ht := by cases ht
  within t := Nat.zero_le _

lemma Tried.move (h : q.Tried retries) (hf : q'.finished = q.finished)
    (ho : q'.openBuckets.Perm q.openBuckets) : q'.Tried retries := by
  have hout : q'.outcomes = q.outcomes := by rw [outcomes, hf, outcomes]
  have hatt (t : TestEntry) : q'.attempts t = q.attempts t := by rw [attempts, hout, attempts]
  refine ⟨(ho.flatMap_right Bucket.tests).nodup_iff.2 h.disjoint, fun p hp t ht => ?_,
    fun t ht hopen => ?_, fun t => hatt t ▸ h.within t⟩
  · rw [hatt, hout]
    exact h.waiting p (ho.subset hp) t ht
  · rw [hatt, hout]
    rw [hout] at ht
    exact h.done t ht fun hq => hopen ((open_iff_of_perm ho).2 hq)

section

variable {h : HandOut} {result : BucketResult} {ids : IdSource}

lemma openBuckets_afterRecord_erase (hs : q.Sound) (residual : Option Bucket)
    (hh : h ∈ q.handOuts) (hid : result.bucketId = h.bucket.bucketId) :
    (q.afterRecord h result residual).openBuckets.Perm
      (q.openBuckets.erase h.bucket ++ residual.toList) := by
  have hmoved := openBuckets_afterRecord hs residual hh hid
  have hbucket := List.perm_cons_erase (mem_openBuckets_of_handOut hh)
  refine (List.perm_append_right_iff [h.bucket]).1 (hmoved.trans ?_)
  exact (hbucket.append_right _).trans (List.perm_append_singleton h.bucket _).symm

lemma attempts_afterRecord (q : JobQueue) (hn : h.bucket.tests.Nodup)
    (ht : ∀ t ∈ result.tests, t ∈ h.bucket.tests) (hone : result.tests.Nodup)
    (residual : Option Bucket) (t : TestEntry) :
    (q.afterRecord h result residual).attempts t =
      q.attempts t + if t ∈ h.bucket.tests then 1 else 0 := by
  rw [attempts, outcomes_afterRecord, List.map_append, List.count_append,
    ← BucketResult.count_tests_withLost hn ht hone]
  rfl

lemma passedIn_afterRecord (q : JobQueue) (h : HandOut) (result : BucketResult)
    (residual : Option Bucket) (t : TestEntry) :
    PassedIn (q.afterRecord h result residual).outcomes t ↔
      PassedIn q.outcomes t ∨ PassedIn result.outcomes t := by
  rw [outcomes_afterRecord, passedIn_append, BucketResult.passedIn_withLost]

lemma mem_tests_residual? (hn : h.bucket.tests.Nodup)
    (ht : ∀ t ∈ result.tests, t ∈ h.bucket.tests) (hone : result.tests.Nodup) {p : Bucket}
    (hr : q.residual? h result ids = some p) {t : TestEntry} :
    t ∈ p.tests ↔ t ∈ h.bucket.tests ∧ ¬ PassedIn result.outcomes t := by
  rw [Bucket.tests_of_residual? (residual?_eq_some hr).2]
  exact BucketResult.mem_failing_withLost hn ht hone

namespace Tried

variable (hq : q.Tried retries)

include hq

lemma nodup_tests {p : Bucket} (hp : p ∈ q.openBuckets) : p.tests.Nodup :=
  (List.nodup_flatMap.1 hq.disjoint).1 p hp

lemma apart {p : Bucket} (hp : p ∈ q.openBuckets) :
    ((q.openBuckets.erase p).flatMap Bucket.tests).Nodup ∧
      ∀ t ∈ p.tests, ∀ p' ∈ q.openBuckets.erase p, t ∉ p'.tests := by
  have hdis := ((List.perm_cons_erase hp).flatMap_right Bucket.tests).nodup_iff.1 hq.disjoint
  rw [List.flatMap_cons, List.nodup_append] at hdis
  exact ⟨hdis.2.1, fun t ht p' hp' ht' =>
    hdis.2.2 t ht t (List.mem_flatMap.2 ⟨p', hp', ht'⟩) rfl⟩

variable (hs : q.Sound) (hh : h ∈ q.handOuts) (hid : result.bucketId = h.bucket.bucketId)
  (ht : ∀ t ∈ result.tests, t ∈ h.bucket.tests)

include hs hh hid ht

lemma of_open_afterRecord {p : Bucket} {t : TestEntry}
    (hp : p ∈ (q.afterRecord h result (q.residual? h result ids)).openBuckets) (htp : t ∈ p.tests) :
    p ∈ q.openBuckets ∧ t ∉ h.bucket.tests ∨
      q.residual? h result ids = some p ∧ t ∈ h.bucket.tests := by
  rcases List.mem_append.1 ((openBuckets_afterRecord_erase hs _ hh hid).subset hp) with hp | hp
  · refine Or.inl ⟨List.mem_of_mem_erase hp, fun hb => ?_⟩
    exact (hq.apart (mem_openBuckets_of_handOut hh)).2 t hb p hp htp
  · have hr := Option.mem_toList.1 hp
    exact Or.inr ⟨hr, tests_residual?_subset hr ht htp⟩

lemma done_of_not_mem {t : TestEntry} (hb : t ∉ h.bucket.tests) {residual : Option Bucket}
    (hrec : t ∈ (q.afterRecord h result residual).outcomes.map TestOutcome.test)
    (hopen : ¬ (q.afterRecord h result residual).Open t) :
    PassedIn q.outcomes t ∨ q.attempts t = retries + 1 := by
  refine hq.done t ?_ ?_
  · rw [outcomes_afterRecord, List.map_append, List.mem_append] at hrec
    refine hrec.resolve_right fun hm => ?_
    exact (BucketResult.mem_tests_withLost.1 hm).elim (fun hm => hb (ht t hm)) hb
  · rintro ⟨p, hp, htp⟩
    have hne : p ≠ h.bucket := by
      rintro rfl
      exact hb htp
    refine hopen ⟨p, (openBuckets_afterRecord_erase hs residual hh hid).symm.subset ?_, htp⟩
    exact List.mem_append_left _ ((List.mem_erase_of_ne hne).2 hp)

variable (hone : result.tests.Nodup)

include hone

lemma disjoint_afterRecord : ((q.afterRecord h result
    (q.residual? h result ids)).openBuckets.flatMap Bucket.tests).Nodup := by
  have hb := mem_openBuckets_of_handOut hh
  have hmoved := openBuckets_afterRecord_erase hs (q.residual? h result ids) hh hid
  rw [(hmoved.flatMap_right Bucket.tests).nodup_iff, List.flatMap_append, List.nodup_append]
  refine ⟨(hq.apart hb).1, ?_, ?_⟩
  · cases hr : q.residual? h result ids with
    | none => exact List.nodup_nil
    | some p =>
      have hp := Bucket.tests_of_residual? (residual?_eq_some hr).2
      simpa [hp] using BucketResult.nodup_failing_withLost (hq.nodup_tests hb) ht hone
  · rintro t hto _ htr rfl
    obtain ⟨p, hp, htp⟩ := List.mem_flatMap.1 hto
    obtain ⟨p', hp', htp'⟩ := List.mem_flatMap.1 htr
    exact (hq.apart hb).2 t (tests_residual?_subset (Option.mem_toList.1 hp') ht htp') p hp htp

lemma done_of_mem (hd : q.deleted = false) {t : TestEntry} (hb : t ∈ h.bucket.tests)
    (hopen : ¬ (q.afterRecord h result (q.residual? h result ids)).Open t) :
    PassedIn result.outcomes t ∨ q.attempts t = retries := by
  have hbucket := mem_openBuckets_of_handOut hh
  refine or_iff_not_imp_left.2 fun hp => ?_
  cases hr : q.residual? h result ids with
  | none =>
    rcases (residual?_eq_none_iff hd).1 hr with h0 | hnil
    · have hsum := (hq.waiting h.bucket hbucket t hb).1
      rwa [h0] at hsum
    · have hfailing :=
        (BucketResult.mem_failing_withLost (hq.nodup_tests hbucket) ht hone).2 ⟨hb, hp⟩
      rw [hnil] at hfailing
      cases hfailing
  | some p =>
    rw [hr] at hopen
    have hretry := (mem_tests_residual? (hq.nodup_tests hbucket) ht hone hr).2 ⟨hb, hp⟩
    refine absurd ⟨p, ?_, hretry⟩ hopen
    refine (openBuckets_afterRecord_erase hs (some p) hh hid).symm.subset ?_
    exact List.mem_append_right _ (List.mem_singleton_self _)

theorem afterRecord (hd : q.deleted = false) :
    (q.afterRecord h result (q.residual? h result ids)).Tried retries := by
  have hbucket := mem_openBuckets_of_handOut hh
  have hn := hq.nodup_tests hbucket
  have hattempts := attempts_afterRecord q hn ht hone (q.residual? h result ids)
  have hpassed := passedIn_afterRecord q h result (q.residual? h result ids)
  refine ⟨hq.disjoint_afterRecord hs hh hid ht hone, fun p hp t htp => ?_, fun t hrec hopen => ?_,
    fun t => ?_⟩
  · rw [hattempts, hpassed, not_or]
    rcases hq.of_open_afterRecord hs hh hid ht hp htp with ⟨hp, hb⟩ | ⟨hr, hb⟩
    · obtain ⟨hsum, hno⟩ := hq.waiting p hp t htp
      rw [if_neg hb]
      refine ⟨hsum, hno, ?_⟩
      rintro ⟨o, ho, rfl, -⟩
      exact hb (ht _ (List.mem_map_of_mem ho))
    · obtain ⟨hsum, hno⟩ := hq.waiting h.bucket hbucket t hb
      have hleft := Bucket.remaining_residual? (residual?_eq_some hr).2
      rw [if_pos hb]
      exact ⟨by omega, hno, ((mem_tests_residual? hn ht hone hr).1 htp).2⟩
  · rw [hpassed, hattempts]
    by_cases hb : t ∈ h.bucket.tests
    · rw [if_pos hb]
      exact (hq.done_of_mem hs hh hid ht hone hd hb hopen).imp Or.inr (congrArg (· + 1))
    · rw [if_neg hb]
      exact (hq.done_of_not_mem hs hh hid ht hb hrec hopen).imp_left Or.inl
  · rw [hattempts]
    split
    · rename_i hb
      obtain ⟨hsum, -⟩ := hq.waiting h.bucket hbucket t hb
      omega
    · exact hq.within t

end Tried

end

lemma attempts_pos {s : TestSummary} (hs : s ∈ q.results.tests) : 1 ≤ s.attempts := by
  obtain ⟨t, ht, rfl⟩ := mem_tests_results.1 hs
  exact List.count_pos_iff.2 ht

namespace Tried

variable (hq : q.Tried retries)

include hq

lemma filter_openBuckets {p : Bucket} (hp : p ∈ q.openBuckets) {t : TestEntry} (ht : t ∈ p.tests) :
    q.openBuckets.filter (t ∈ ·.tests) = [p] := by
  rw [← List.perm_singleton]
  refine ((List.perm_cons_erase hp).filter _).trans ?_
  rw [List.filter_cons_of_pos (by simpa using ht), List.filter_eq_nil_iff.2]
  intro p' hp'
  simpa using (hq.apart hp).2 t ht p' hp'

variable {s : TestSummary} (hs : s ∈ q.results.tests)

include hs

lemma attempts_le : s.attempts ≤ retries + 1 := by
  obtain ⟨t, ht, rfl⟩ := mem_tests_results.1 hs
  exact hq.within t

lemma attempts_of_permanentlyFailed (h : s.status = .permanentlyFailed) :
    s.attempts = retries + 1 := by
  obtain ⟨t, ht, rfl⟩ := mem_tests_results.1 hs
  obtain ⟨hpassed, hopen⟩ := statusOf_eq_permanentlyFailed.1 h
  exact (hq.done t ht hopen).resolve_left hpassed

lemma bucket_of_retrying (h : s.status = .retrying) : s.attempts ≤ retries ∧
    ∃ p, q.openBuckets.filter (s.test ∈ ·.tests) = [p] ∧
      p.remainingRetries.toNat = retries - s.attempts := by
  obtain ⟨t, -, rfl⟩ := mem_tests_results.1 hs
  obtain ⟨-, p, hp, ht⟩ := statusOf_eq_retrying.1 h
  obtain ⟨hsum, -⟩ := hq.waiting p hp t ht
  refine ⟨?_, p, hq.filter_openBuckets hp ht, ?_⟩
  · exact (Nat.le_add_right _ _).trans hsum.le
  · exact (Nat.sub_eq_of_eq_add' hsum.symm).symm

lemma not_open_of_passed (h : s.status = .passed) : ∀ p ∈ q.openBuckets, s.test ∉ p.tests := by
  obtain ⟨t, -, rfl⟩ := mem_tests_results.1 hs
  exact fun p hp ht => (hq.waiting p hp t ht).2 (statusOf_eq_passed.1 h)

end Tried

end JobQueue

end TestQueue
