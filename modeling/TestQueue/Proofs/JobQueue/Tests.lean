import TestQueue.Proofs.JobQueue.Moves
import TestQueue.Proofs.JobQueue.Record

namespace TestQueue

namespace BucketResult

lemma tests_withLost (r : BucketResult) (expected : List TestEntry) :
    (r.withLost expected).tests = r.tests ++ expected.filter (· ∉ r.tests) := by
  simp [tests, withLost, TestOutcome.lost, Function.comp_def]

lemma mem_tests_withLost {r : BucketResult} {expected : List TestEntry} {t : TestEntry} :
    t ∈ (r.withLost expected).tests ↔ t ∈ r.tests ∨ t ∈ expected := by
  rw [tests_withLost, List.mem_append, List.mem_filter, decide_eq_true_eq]
  tauto

lemma failing_subset (r : BucketResult) : r.failing ⊆ r.tests :=
  List.map_subset _ (List.filter_subset_self _)

end BucketResult

lemma Bucket.tests_of_residual? {p p' : Bucket} {id : BucketId} {tests : List TestEntry}
    (h : p.residual? id tests = some p') : p'.tests = tests := by
  unfold residual? at h
  split at h
  · cases h
  · rw [← Option.some.inj h]

namespace JobQueue

def Mentions (q : JobQueue) (t : TestEntry) : Prop :=
  (∃ p ∈ q.openBuckets, t ∈ p.tests) ∨ ∃ result ∈ q.finished, t ∈ result.tests

lemma mentions_iff {q : JobQueue} {t : TestEntry} : q.Mentions t ↔
    (∃ p ∈ q.pending, t ∈ p.tests) ∨ (∃ h ∈ q.handOuts, t ∈ h.bucket.tests) ∨
      ∃ result ∈ q.finished, t ∈ result.tests := by
  simp only [Mentions, openBuckets, List.mem_append, List.mem_map, or_and_right, exists_or,
    or_assoc, exists_exists_and_eq_and]

lemma not_mentions_new (job : PrioritizedJob) (t : TestEntry) : ¬ (new job).Mentions t := by
  rintro (⟨p, hp, -⟩ | ⟨r, hr, -⟩)
  · cases hp
  · cases hr

lemma mentions_of_perm {q q' : JobQueue} (ho : q'.openBuckets.Perm q.openBuckets)
    (hf : q'.finished = q.finished) (t : TestEntry) : q'.Mentions t ↔ q.Mentions t := by
  simp only [Mentions, ho.mem_iff, hf]

lemma mentions_enqueue (q : JobQueue) (buckets : List Bucket) (t : TestEntry) :
    (q.enqueue buckets).Mentions t ↔ q.Mentions t ∨ t ∈ buckets.flatMap Bucket.tests := by
  simp only [Mentions, (q.openBuckets_enqueue buckets).mem_iff, List.mem_append, or_and_right,
    exists_or, List.mem_flatMap]
  exact or_right_comm

lemma tests_residual?_subset {q : JobQueue} {h : HandOut} {result : BucketResult} {ids : IdSource}
    {p : Bucket} (hp : q.residual? h result ids = some p)
    (ht : ∀ t ∈ result.tests, t ∈ h.bucket.tests) : p.tests ⊆ h.bucket.tests := by
  rw [Bucket.tests_of_residual? (residual?_eq_some hp).2]
  intro t hm
  rcases BucketResult.mem_tests_withLost.1 (BucketResult.failing_subset _ hm) with hm | hm
  · exact ht t hm
  · exact hm

lemma mentions_afterRecord {q : JobQueue} {h : HandOut} {result : BucketResult} {ids : IdSource}
    (hs : q.Sound) (hh : h ∈ q.handOuts) (hid : result.bucketId = h.bucket.bucketId)
    (ht : ∀ t ∈ result.tests, t ∈ h.bucket.tests) (t : TestEntry) :
    (q.afterRecord h result (q.residual? h result ids)).Mentions t ↔ q.Mentions t := by
  have hmoved := openBuckets_afterRecord hs (q.residual? h result ids) hh hid
  have hbucket : h.bucket ∈ q.openBuckets := mem_openBuckets_of_handOut hh
  have hcomplete : t ∈ (result.withLost h.bucket.tests).tests ↔ t ∈ h.bucket.tests := by
    rw [BucketResult.mem_tests_withLost, or_iff_right_of_imp (ht t)]
  have hfinished : (q.afterRecord h result (q.residual? h result ids)).finished =
      q.finished ++ [result.withLost h.bucket.tests] := rfl
  constructor
  · rintro (⟨p, hp, hm⟩ | ⟨r, hr, hm⟩)
    · rcases List.mem_append.1 (hmoved.subset (List.mem_append_left _ hp)) with hp | hp
      · exact Or.inl ⟨p, hp, hm⟩
      · exact Or.inl ⟨h.bucket, hbucket, tests_residual?_subset (Option.mem_toList.1 hp) ht hm⟩
    · rw [hfinished, List.mem_append, List.mem_singleton] at hr
      rcases hr with hr | rfl
      · exact Or.inr ⟨r, hr, hm⟩
      · exact Or.inl ⟨h.bucket, hbucket, hcomplete.1 hm⟩
  · rintro (⟨p, hp, hm⟩ | ⟨r, hr, hm⟩)
    · rcases List.mem_append.1 (hmoved.symm.subset (List.mem_append_left _ hp)) with hp | hp
      · exact Or.inl ⟨p, hp, hm⟩
      · obtain rfl := List.mem_singleton.1 hp
        exact Or.inr ⟨_, List.mem_append_right _ (List.mem_singleton_self _), hcomplete.2 hm⟩
    · exact Or.inr ⟨r, List.mem_append_left _ hr, hm⟩

end JobQueue

end TestQueue
