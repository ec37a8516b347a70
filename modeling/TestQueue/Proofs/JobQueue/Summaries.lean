import TestQueue.Proofs.JobQueue.Tests

namespace TestQueue

lemma eraseDups_concat {α : Type} [DecidableEq α] (l : List α) (a : α) :
    (l ++ [a]).eraseDups = if a ∈ l then l.eraseDups else l.eraseDups ++ [a] := by
  rw [List.eraseDups_append]
  by_cases h : a ∈ l
  · have hold : [a].removeAll l = [] := by simpa [List.removeAll] using h
    rw [if_pos h, hold, List.eraseDups_nil, List.append_nil]
  · have hnew : [a].removeAll l = [a] := by simpa [List.removeAll] using h
    rw [if_neg h, hnew]
    rfl

lemma nodup_eraseDups {α : Type} [DecidableEq α] (l : List α) : l.eraseDups.Nodup := by
  induction l using List.reverseRecOn with
  | nil => exact List.nodup_nil
  | append_singleton l a ih =>
    rw [eraseDups_concat]
    split
    · exact ih
    · rename_i h
      exact ih.append (List.nodup_singleton a) (by simpa using h)

def PassedIn (outcomes : List TestOutcome) (t : TestEntry) : Prop :=
  ∃ o ∈ outcomes, o.test = t ∧ o.succeeded = true

instance (outcomes : List TestOutcome) (t : TestEntry) : Decidable (PassedIn outcomes t) :=
  inferInstanceAs (Decidable (∃ o ∈ outcomes, o.test = t ∧ o.succeeded = true))

lemma passedIn_append {l l' : List TestOutcome} {t : TestEntry} :
    PassedIn (l ++ l') t ↔ PassedIn l t ∨ PassedIn l' t := by
  simp only [PassedIn, List.mem_append, or_and_right, exists_or]

namespace JobQueue

lemma any_test_iff {summaries : List TestSummary} {t : TestEntry} :
    (summaries.any fun s => s.test = t) = true ↔ t ∈ summaries.map TestSummary.test := by
  simp [List.any_eq_true]

def summaryIn (outcomes : List TestOutcome) (t : TestEntry) : TestSummary :=
  ⟨t, if PassedIn outcomes t then .passed else .permanentlyFailed,
    (outcomes.map TestOutcome.test).count t⟩

lemma summaryIn_concat (outcomes : List TestOutcome) (o : TestOutcome) (t : TestEntry) :
    summaryIn (outcomes ++ [o]) t =
      if t = o.test then
        { summaryIn outcomes t with
          attempts := (summaryIn outcomes t).attempts + 1
          status := if o.succeeded then .passed else (summaryIn outcomes t).status }
      else summaryIn outcomes t := by
  have hpassed : PassedIn (outcomes ++ [o]) t ↔
      PassedIn outcomes t ∨ o.test = t ∧ o.succeeded = true := by
    simp [PassedIn]
  unfold summaryIn
  by_cases ht : t = o.test
  · subst ht
    by_cases hp : PassedIn outcomes o.test <;> cases hs : o.succeeded <;> simp [hpassed, hp, hs]
  · simp [hpassed, ht, Ne.symm ht, List.count_append]

lemma summaryIn_of_not_mem {outcomes : List TestOutcome} {t : TestEntry}
    (h : t ∉ outcomes.map TestOutcome.test) :
    summaryIn outcomes t = ⟨t, .permanentlyFailed, 0⟩ := by
  have hp : ¬ PassedIn outcomes t := by
    rintro ⟨o, ho, rfl, -⟩
    exact h (List.mem_map_of_mem ho)
  rw [summaryIn, if_neg hp, List.count_eq_zero_of_not_mem h]

lemma foldl_tally_eq (outcomes : List TestOutcome) : outcomes.foldl tally [] =
    (outcomes.map TestOutcome.test).eraseDups.map (summaryIn outcomes) := by
  induction outcomes using List.reverseRecOn with
  | nil => rfl
  | append_singleton outcomes o ih =>
    have hany : (outcomes.foldl tally []).any (fun s => s.test = o.test) = true ↔
        o.test ∈ outcomes.map TestOutcome.test := by
      rw [any_test_iff, ih]
      simp [summaryIn]
    rw [List.foldl_append, List.foldl_cons, List.foldl_nil, tally, List.map_append,
      List.map_singleton, eraseDups_concat]
    by_cases h : o.test ∈ outcomes.map TestOutcome.test
    · rw [if_pos (hany.2 h), if_pos h, ih, List.map_map]
      refine List.map_congr_left fun t _ => ?_
      rw [summaryIn_concat]
      rfl
    · rw [if_neg fun ha => h (hany.1 ha), if_neg h, ih, List.map_append]
      congr 1
      · refine List.map_congr_left fun t ht => ?_
        rw [summaryIn_concat, if_neg]
        rintro rfl
        exact h (List.mem_eraseDups.1 ht)
      · rw [List.map_singleton, summaryIn_concat, if_pos rfl, summaryIn_of_not_mem h]

lemma outcomes_afterRecord (q : JobQueue) (h : HandOut) (result : BucketResult)
    (residual : Option Bucket) : (q.afterRecord h result residual).outcomes =
      q.outcomes ++ (result.withLost h.bucket.tests).outcomes := by
  simp [outcomes, afterRecord]

def attempts (q : JobQueue) (t : TestEntry) : ℕ := (q.outcomes.map TestOutcome.test).count t

def Open (q : JobQueue) (t : TestEntry) : Prop := ∃ p ∈ q.openBuckets, t ∈ p.tests

instance (q : JobQueue) (t : TestEntry) : Decidable (q.Open t) :=
  inferInstanceAs (Decidable (∃ p ∈ q.openBuckets, t ∈ p.tests))

lemma open_iff_of_perm {q q' : JobQueue} (h : q'.openBuckets.Perm q.openBuckets)
    {t : TestEntry} : q'.Open t ↔ q.Open t := by
  simp only [Open, h.mem_iff]

def statusOf (q : JobQueue) (t : TestEntry) : TestStatus :=
  if PassedIn q.outcomes t then .passed
  else if q.Open t then .retrying else .permanentlyFailed

lemma mem_openTests {q : JobQueue} {t : TestEntry} : t ∈ q.openTests ↔ q.Open t := by
  simp [openTests, Open, openBuckets, or_and_right, exists_or]

lemma summaries_eq (q : JobQueue) : q.summaries =
    (q.outcomes.map TestOutcome.test).eraseDups.map fun t =>
      ⟨t, q.statusOf t, q.attempts t⟩ := by
  rw [summaries, foldl_tally_eq, List.map_map]
  refine List.map_congr_left fun t _ => ?_
  simp only [Function.comp_apply, withRetrying, mem_openTests, statusOf, attempts, summaryIn]
  by_cases hp : PassedIn q.outcomes t
  · simp [hp]
  · by_cases ho : q.Open t <;> simp [hp, ho]

lemma tests_summaries (q : JobQueue) :
    q.summaries.map TestSummary.test = (q.outcomes.map TestOutcome.test).eraseDups := by
  simp [summaries_eq, Function.comp_def]

lemma nodup_tests_summaries (q : JobQueue) : (q.summaries.map TestSummary.test).Nodup := by
  rw [tests_summaries]
  exact nodup_eraseDups _

lemma mem_tests_summaries {q : JobQueue} {t : TestEntry} :
    t ∈ q.summaries.map TestSummary.test ↔ ∃ result ∈ q.finished, t ∈ result.tests := by
  rw [tests_summaries, List.mem_eraseDups, outcomes, List.map_flatMap, List.mem_flatMap]
  rfl

lemma mem_tests_results {q : JobQueue} {s : TestSummary} : s ∈ q.results.tests ↔
    ∃ t ∈ q.outcomes.map TestOutcome.test, ⟨t, q.statusOf t, q.attempts t⟩ = s := by
  simp only [results, summaries_eq, List.mem_map, List.mem_eraseDups]

section

variable {q : JobQueue} {t : TestEntry}

lemma statusOf_eq_passed : q.statusOf t = .passed ↔ PassedIn q.outcomes t := by
  unfold statusOf
  split
  · simp [*]
  · split <;> simp [*]

lemma statusOf_eq_retrying : q.statusOf t = .retrying ↔ ¬ PassedIn q.outcomes t ∧ q.Open t := by
  unfold statusOf
  split
  · simp [*]
  · split <;> simp [*]

lemma statusOf_eq_permanentlyFailed :
    q.statusOf t = .permanentlyFailed ↔ ¬ PassedIn q.outcomes t ∧ ¬ q.Open t := by
  unfold statusOf
  split
  · simp [*]
  · split <;> simp [*]

lemma status_summaries (hd : q.isDrained = true) :
    ∀ s ∈ q.summaries, s.status ≠ .retrying := by
  obtain ⟨hp, hh⟩ := isDrained_iff.1 hd
  intro s hs hr
  obtain ⟨t, -, rfl⟩ := mem_tests_results.1 hs
  obtain ⟨-, p, ho, -⟩ := statusOf_eq_retrying.1 hr
  simp [openBuckets, hp, hh] at ho

end

end JobQueue

end TestQueue
