import TestQueue.Proofs.Identifier
import TestQueue.Work.Split

namespace TestQueue

namespace Split

variable {α : Type}

lemma flatten_chunks (size : ℕ) (tests : List α) : (chunks size tests).flatten = tests := by
  fun_induction chunks size tests with
  | case1 => rfl
  | case2 t rest => simp
  | case3 t rest h ih => rw [List.flatten_cons, ih, List.take_append_drop]

lemma flatten_round (size count : ℕ) (tests : List α) :
    (round size count tests).1.flatten ++ (round size count tests).2 = tests := by
  fun_induction round size count tests with
  | case1 => rfl
  | case2 => rfl
  | case3 count t rest groups left heq ih =>
    simp only [heq] at ih
    rw [List.flatten_cons, List.append_assoc, ih, List.take_append_drop]

lemma flatten_progressive (workers : ℕ) (tests : List α) :
    (progressive workers tests).flatten = tests := by
  fun_induction progressive workers tests with
  | case1 => rfl
  | case2 t rest => simp
  | case3 t rest h r ih => rw [List.flatten_append, ih, flatten_round]

end Split

lemma flatten_split? {tests : List TestEntry} {workers : UInt32} {strategy : SplitStrategy}
    {groups : List (List TestEntry)} (h : split? tests workers strategy = some groups) :
    groups.flatten = tests := by
  unfold split? at h
  split at h
  · cases h
  · obtain rfl := Option.some.inj h
    cases strategy with
    | individual => simp [← List.flatMap_def]
    | uniform => exact Split.flatten_chunks _ _
    | progressive => exact Split.flatten_progressive _ _

section

variable {tests : List TestEntry} {workers : UInt32} {strategy : SplitStrategy}
  {template : BucketTemplate} {ids ids' : IdSource} {buckets : List Bucket}
  (h : splitIntoBuckets? tests workers strategy template ids = some (buckets, ids'))

include h

lemma splitIntoBuckets?_eq_map_zip : ∃ groups, split? tests workers strategy = some groups ∧
    buckets = ((ids.upcoming groups.length).zip groups).map (fun p => template.bucket ⟨p.1⟩ p.2) ∧
    ids' = ids.advance groups.length := by
  obtain ⟨groups, hg, he⟩ := Option.map_eq_some_iff.1 h
  obtain ⟨rfl, rfl⟩ := Prod.mk.inj he
  exact ⟨groups, hg, (List.map_uncurry_zip_eq_zipWith ..).symm, rfl⟩

lemma splitIntoBuckets?_ids : buckets.map Bucket.bucketId = (ids.upcoming buckets.length).map .mk ∧
    ids' = ids.advance buckets.length := by
  obtain ⟨groups, -, rfl, rfl⟩ := splitIntoBuckets?_eq_map_zip h
  have hl : (ids.upcoming groups.length).length = groups.length := ids.length_upcoming _
  rw [List.length_map, List.length_zip, hl, Nat.min_self, List.map_map]
  refine ⟨?_, rfl⟩
  conv_rhs => rw [← List.map_fst_zip hl.le, List.map_map]
  rfl

lemma splitIntoBuckets?_tests : buckets.flatMap Bucket.tests = tests := by
  obtain ⟨groups, hg, rfl, -⟩ := splitIntoBuckets?_eq_map_zip h
  have hl : (ids.upcoming groups.length).length = groups.length := ids.length_upcoming _
  conv_rhs => rw [← flatten_split? hg, ← List.map_snd_zip hl.ge]
  rw [List.flatMap_def, List.map_map]
  rfl

lemma splitIntoBuckets?_not_drawn (hids : Function.Injective ids.nth) {p : Bucket}
    (hp : p ∈ buckets) : ¬ ids.Drawn p.bucketId.text := by
  have hm : p.bucketId ∈ buckets.map Bucket.bucketId := List.mem_map_of_mem hp
  rw [(splitIntoBuckets?_ids h).1] at hm
  exact IdSource.not_drawn_of_mem_map_upcoming hids hm

lemma splitIntoBuckets?_nodup (hids : Function.Injective ids.nth) :
    (buckets.map Bucket.bucketId).Nodup := by
  rw [(splitIntoBuckets?_ids h).1]
  exact IdSource.nodup_map_upcoming hids _

end

end TestQueue
