import TestQueue.Proofs.JobQueue.Tests
import TestQueue.Proofs.JobQueue.Summaries

/-!
What the bucket for another try contains: a test once for each of its outcomes without a successful
run, and once if it was not reported.
-/

namespace TestQueue

namespace BucketResult

/-- The outcomes of a test without a successful run. A test that is not reported counts as one. -/
def failures (r : BucketResult) (t : TestEntry) : ℕ :=
  if t ∈ r.tests then r.outcomes.countP fun o => o.test = t ∧ o.succeeded = false else 1

lemma count_failing (r : BucketResult) (t : TestEntry) :
    r.failing.count t = r.outcomes.countP fun o => o.test = t ∧ o.succeeded = false := by
  rw [failing, List.count_eq_countP, List.countP_map, List.countP_filter]
  refine List.countP_congr fun o _ => ?_
  simp

lemma count_failing_withLost {r : BucketResult} {expected : List TestEntry}
    (hn : expected.Nodup) (hr : ∀ t ∈ r.tests, t ∈ expected) (t : TestEntry) :
    (r.withLost expected).failing.count t = if t ∈ expected then r.failures t else 0 := by
  have hlost : (r.withLost expected).failing =
      r.failing ++ expected.filter (· ∉ r.tests) := by
    simp [failing, withLost, List.filter_map, TestOutcome.succeeded, TestOutcome.lost,
      Function.comp_def]
  rw [hlost, List.count_append, count_failing, failures]
  by_cases ht : t ∈ r.tests
  · have hnot : t ∉ expected.filter (· ∉ r.tests) := by simp [ht]
    rw [if_pos (hr t ht), if_pos ht, List.count_eq_zero_of_not_mem hnot, Nat.add_zero]
  · have hnone : (r.outcomes.countP fun o => o.test = t ∧ o.succeeded = false) = 0 := by
      rw [List.countP_eq_zero]
      intro o ho
      have hne : o.test ≠ t := fun he => ht (he ▸ List.mem_map_of_mem ho)
      simp [hne]
    rw [hnone, Nat.zero_add, if_neg ht]
    split
    · exact List.count_eq_one_of_mem (hn.filter _) (by simpa [ht])
    · rename_i he
      exact List.count_eq_zero_of_not_mem fun hm => he (List.mem_of_mem_filter hm)

lemma failures_of_nodup {r : BucketResult} (hn : r.tests.Nodup) {t : TestEntry} :
    r.failures t = 0 ∧ PassedIn r.outcomes t ∨ r.failures t = 1 ∧ ¬ PassedIn r.outcomes t := by
  unfold failures
  split
  · rename_i ht
    obtain ⟨o, ho, rfl⟩ := List.mem_map.1 ht
    have hone (o' : TestOutcome) (ho' : o' ∈ r.outcomes) (he : o'.test = o.test) : o' = o :=
      List.inj_on_of_nodup_map hn ho' ho he
    cases hs : o.succeeded with
    | true =>
      refine Or.inl ⟨List.countP_eq_zero.2 fun o' ho' => ?_, o, ho, rfl, hs⟩
      simp only [decide_eq_true_eq, not_and]
      intro he
      rw [hone o' ho' he, hs]
      simp
    | false =>
      refine Or.inr ⟨?_, ?_⟩
      · have hcount : r.outcomes.countP (fun o' => o'.test = o.test ∧ o'.succeeded = false) =
            r.outcomes.countP (· == o) := by
          refine List.countP_congr fun o' ho' => ?_
          simp only [decide_eq_true_eq, beq_iff_eq]
          exact ⟨fun h => hone o' ho' h.1, fun h => ⟨h ▸ rfl, h ▸ hs⟩⟩
        rw [hcount, ← List.count_eq_countP]
        exact List.count_eq_one_of_mem hn.of_map ho
      · rintro ⟨o', ho', he, hs'⟩
        rw [hone o' ho' he, hs] at hs'
        cases hs'
  · rename_i ht
    refine Or.inr ⟨rfl, ?_⟩
    rintro ⟨o, ho, rfl, -⟩
    exact ht (List.mem_map_of_mem ho)

lemma failures_eq_zero_iff {r : BucketResult} (hn : r.tests.Nodup) (t : TestEntry) :
    r.failures t = 0 ↔ PassedIn r.outcomes t := by
  rcases failures_of_nodup hn (t := t) with ⟨h, hp⟩ | ⟨h, hp⟩
  · simp [h, hp]
  · simp [h, hp]

section

variable {r : BucketResult} {expected : List TestEntry} (hn : expected.Nodup)
  (hr : ∀ t ∈ r.tests, t ∈ expected)

include hn hr

lemma failing_withLost_eq_nil :
    (r.withLost expected).failing = [] ↔ ∀ t ∈ expected, r.failures t = 0 := by
  simp only [List.eq_nil_iff_forall_not_mem, ← List.count_eq_zero, count_failing_withLost hn hr,
    ite_eq_right_iff]

variable (hone : r.tests.Nodup)

include hone

lemma nodup_failing_withLost : (r.withLost expected).failing.Nodup := by
  rw [List.nodup_iff_count_le_one]
  intro t
  rw [count_failing_withLost hn hr]
  rcases failures_of_nodup hone (t := t) with ⟨h0, -⟩ | ⟨h1, -⟩
  · simp [h0]
  · rw [h1]
    split <;> omega

lemma mem_failing_withLost {t : TestEntry} :
    t ∈ (r.withLost expected).failing ↔ t ∈ expected ∧ ¬ PassedIn r.outcomes t := by
  rw [← List.count_pos_iff, count_failing_withLost hn hr, ← failures_eq_zero_iff hone]
  split <;> simp [*, Nat.pos_iff_ne_zero]

end

end BucketResult

lemma Bucket.eq_of_residual? {p p' : Bucket} {id : BucketId} {tests : List TestEntry}
    (h : p.residual? id tests = some p') :
    p' = { p with
      bucketId := id
      tests := p'.tests
      remainingRetries := p.remainingRetries - 1 } := by
  unfold residual? at h
  split at h
  · cases h
  · obtain rfl := Option.some.inj h
    rfl

namespace JobQueue

variable {q : JobQueue} {h : HandOut} {result : BucketResult}

lemma residual?_eq_none_iff (hd : q.deleted = false) {ids : IdSource} :
    q.residual? h result ids = none ↔ h.bucket.remainingRetries = 0 ∨
      (result.withLost h.bucket.tests).failing = [] := by
  unfold residual? retry Bucket.residual?
  simp only [hd, Bool.or_false, List.isEmpty_iff]
  by_cases hf : (result.withLost h.bucket.tests).failing = []
  · simp [hf]
  · by_cases hr : h.bucket.remainingRetries = 0 <;> simp [hf, hr]

theorem residual_content {n : ℕ} (hd : q.deleted = false)
    (hout : q.outstanding.find? result.bucketId = some ⟨n, h⟩) (hn : h.bucket.tests.Nodup)
    (ht : ∀ t ∈ result.tests, t ∈ h.bucket.tests) (ids : IdSource) :
    ∃ (residual : Option Bucket) (q' : JobQueue) (ids' : IdSource),
      q.accept result h.workerId h.requestId ids =
        .ok (.accepted result.bucketId (residual.map Bucket.bucketId), q', ids') ∧
      q'.pending = q.pending ++ residual.toList ∧
      (residual = none ↔
        h.bucket.remainingRetries = 0 ∨ ∀ t ∈ h.bucket.tests, result.failures t = 0) ∧
      (∀ p ∈ residual, ids' = ids.advance 1 ∧
        p = { h.bucket with
          bucketId := ⟨ids.next⟩
          tests := p.tests
          remainingRetries := h.bucket.remainingRetries - 1 } ∧
        ∀ t, p.tests.count t = if t ∈ h.bucket.tests then result.failures t else 0) ∧
      (result.tests.Nodup →
        (residual = none ↔
          h.bucket.remainingRetries = 0 ∨ ∀ t ∈ h.bucket.tests, PassedIn result.outcomes t) ∧
        ∀ p ∈ residual, p.tests.Nodup ∧
          ∀ t, t ∈ p.tests ↔ t ∈ h.bucket.tests ∧ ¬ PassedIn result.outcomes t) := by
  have hfor : (Outstanding.mk n h).handOut.isFor h.workerId h.requestId = true :=
    HandOut.isFor_iff.2 ⟨rfl, rfl⟩
  obtain ⟨m, hrec, hone⟩ := q.record_eq h result ids
  have hacc := (accept_of_owner hout hfor ht ids).trans (congrArg Except.ok hrec)
  have hnone : q.residual? h result ids = none ↔
      h.bucket.remainingRetries = 0 ∨ ∀ t ∈ h.bucket.tests, result.failures t = 0 := by
    rw [residual?_eq_none_iff hd, BucketResult.failing_withLost_eq_nil hn ht]
  have hcount (p : Bucket) (hp : p ∈ q.residual? h result ids) (t : TestEntry) :
      p.tests.count t = if t ∈ h.bucket.tests then result.failures t else 0 := by
    rw [Bucket.tests_of_residual? (residual?_eq_some hp).2,
      BucketResult.count_failing_withLost hn ht]
  refine ⟨_, _, _, hacc, rfl, hnone, fun p hp => ⟨?_, ?_, hcount p hp⟩,
    fun hr => ⟨?_, fun p hp => ?_⟩⟩
  · rw [hone (by simp [Option.mem_def.1 hp])]
  · exact Bucket.eq_of_residual? (residual?_eq_some hp).2
  · simpa only [BucketResult.failures_eq_zero_iff hr] using hnone
  · rw [Bucket.tests_of_residual? (residual?_eq_some hp).2]
    exact ⟨BucketResult.nodup_failing_withLost hn ht hr,
      fun t => BucketResult.mem_failing_withLost hn ht hr⟩

def onlyOut (p : Bucket) : JobQueue :=
  (((new ⟨p.jobId, p.priority, 0⟩).enqueue [p]).dequeue ⟨"w"⟩ ⟨"r"⟩ .epoch).2

theorem residual_content_missingTest :
    let x : TestEntry := ⟨"C", "x", none⟩
    let y : TestEntry := ⟨"C", "y", none⟩
    let z : TestEntry := ⟨"C", "z", none⟩
    let p : Bucket := ⟨⟨"b"⟩, ⟨"j"⟩, 0, [x, y, z], .empty, ⟨1, .empty⟩, .standard, .empty, 1⟩
    let result : BucketResult := ⟨⟨"b"⟩,
      [⟨y, [⟨false, 0, [], "", .epoch⟩]⟩, ⟨x, [⟨true, 0, [], "", .epoch⟩]⟩]⟩
    (onlyOut p).deleted = false ∧
      (onlyOut p).outstanding.find? ⟨"b"⟩ = some ⟨0, ⟨p, ⟨"w"⟩, ⟨"r"⟩, .epoch⟩⟩ ∧
      p.tests.Nodup ∧ (∀ t ∈ result.tests, t ∈ p.tests) ∧ result.tests.Nodup ∧
      ∃ (residual : Option Bucket) (q' : JobQueue) (ids' : IdSource),
        (onlyOut p).accept result ⟨"w"⟩ ⟨"r"⟩ (.sequential "id") =
          .ok (.accepted ⟨"b"⟩ (residual.map Bucket.bucketId), q', ids') ∧
        q'.pending = residual.toList ∧ q'.pending.map Bucket.tests = [[y, z]] ∧
        ∀ p' ∈ residual, p'.tests.Nodup ∧
          ∀ t, t ∈ p'.tests ↔ t ∈ p.tests ∧ ¬ PassedIn result.outcomes t := by
  intro x y z p result
  have hd : (onlyOut p).deleted = false := rfl
  have hout : (onlyOut p).outstanding.find? result.bucketId =
      some ⟨0, ⟨p, ⟨"w"⟩, ⟨"r"⟩, .epoch⟩⟩ := by decide
  have hn : p.tests.Nodup := by decide
  have ht : ∀ t ∈ result.tests, t ∈ p.tests := by decide
  have hr : result.tests.Nodup := by decide
  obtain ⟨residual, q', ids', hacc, hpending, -, -, honce⟩ :=
    residual_content hd hout hn ht (.sequential "id")
  refine ⟨hd, hout, hn, ht, hr, residual, q', ids', hacc, hpending, ?_, (honce hr).2⟩
  obtain ⟨-, hrest⟩ := Prod.mk.inj (Except.ok.inj hacc)
  rw [← (Prod.mk.inj hrest).1]
  decide

/-- A test that has passed is tried again if another run of it was reported apart, as failed. -/
theorem passed_test_retried :
    let x : TestEntry := ⟨"C", "x", none⟩
    let p : Bucket := ⟨⟨"b"⟩, ⟨"j"⟩, 0, [x], .empty, ⟨1, .empty⟩, .standard, .empty, 1⟩
    let result : BucketResult := ⟨⟨"b"⟩,
      [⟨x, [⟨false, 0, [], "", .epoch⟩]⟩, ⟨x, [⟨true, 0, [], "", .epoch⟩]⟩]⟩
    (onlyOut p).deleted = false ∧
      (onlyOut p).outstanding.find? ⟨"b"⟩ = some ⟨0, ⟨p, ⟨"w"⟩, ⟨"r"⟩, .epoch⟩⟩ ∧
      p.tests.Nodup ∧ (∀ t ∈ result.tests, t ∈ p.tests) ∧
      (∀ t ∈ p.tests, PassedIn result.outcomes t) ∧
      ∃ q' ids', (onlyOut p).accept result ⟨"w"⟩ ⟨"r"⟩ (.sequential "id") =
          .ok (.accepted ⟨"b"⟩ (some ⟨"id-1"⟩), q', ids') ∧
        q'.results.tests = [⟨x, .passed, 2⟩] ∧ (onlyOut p).pending = [] ∧
        q'.pending.map Bucket.tests = [[x]] := by
  intro x p result
  refine ⟨rfl, by decide, by decide, by decide, ?_, _, _, rfl, by decide, rfl, by decide⟩
  intro t ht
  exact ⟨_, List.mem_cons_of_mem _ (List.mem_singleton_self _), (List.mem_singleton.1 ht).symm, rfl⟩

end JobQueue

end TestQueue
