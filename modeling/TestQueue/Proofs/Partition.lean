import TestQueue.Proofs.Split
import TestQueue.Server.Dispatcher

namespace TestQueue

namespace Split

variable {α : Type} {n d k size : ℕ} {tests : List α}

lemma ceilDiv_le_iff (hd : 0 < d) : ceilDiv n d ≤ k ↔ n ≤ d * k := by
  rw [ceilDiv, ← Nat.ceilDiv_eq_add_pred_div]
  exact ceilDiv_le_iff_le_mul hd

lemma le_mul_ceilDiv (hd : 0 < d) (n : ℕ) : n ≤ d * ceilDiv n d := (ceilDiv_le_iff hd).1 le_rfl

lemma mul_ceilDiv_lt (hd : 0 < d) (n : ℕ) : d * ceilDiv n d < n + d := by
  have hle := Nat.mul_div_le (n + d - 1) d
  rw [ceilDiv]
  omega

lemma roundSize_pos {workers n : ℕ} : 0 < roundSize workers n := Nat.le_max_right _ _

lemma ne_nil_of_mem_chunks : ∀ g ∈ chunks size tests, g ≠ [] := by
  fun_induction chunks size tests with
  | case1 => simp
  | case2 t rest => simp
  | case3 t rest h ih => exact List.forall_mem_cons.2 ⟨by simpa using h, ih⟩

lemma length_le_of_mem_chunks (hs : 0 < size) : ∀ g ∈ chunks size tests, g.length ≤ size := by
  fun_induction chunks size tests with
  | case1 => simp
  | case2 t rest h => exact absurd h hs.ne'
  | case3 t rest h ih => exact List.forall_mem_cons.2 ⟨List.length_take_le _ _, ih⟩

lemma length_of_mem_dropLast_chunks : ∀ g ∈ (chunks size tests).dropLast, g.length = size := by
  fun_induction chunks size tests with
  | case1 => simp
  | case2 t rest => simp
  | case3 t rest h ih =>
    by_cases hrest : chunks size ((t :: rest).drop size) = []
    · simp [hrest]
    · have hlong : size < (t :: rest).length := by
        by_contra hshort
        rw [List.drop_eq_nil_of_le (not_lt.1 hshort)] at hrest
        exact hrest (by simp [chunks])
      rw [List.dropLast_cons_of_ne_nil hrest]
      exact List.forall_mem_cons.2 ⟨List.length_take_of_le hlong.le, ih⟩

lemma length_chunks_le (h : tests.length ≤ size * k) : (chunks size tests).length ≤ k := by
  fun_induction chunks size tests generalizing k with
  | case1 => exact Nat.zero_le k
  | case2 t rest hs => simp [hs] at h
  | case3 t rest hs ih =>
    obtain _ | k := k
    · simp at h
    · rw [List.length_cons, Nat.succ_le_succ_iff]
      apply ih
      rw [List.length_drop, Nat.sub_le_iff_le_add, ← Nat.mul_succ]
      exact h

lemma full_of_chunks (hs : 0 < size) (h : tests.length = size * k) :
    (chunks size tests).length = k ∧ ∀ g ∈ chunks size tests, g.length = size := by
  fun_induction chunks size tests generalizing k with
  | case1 => simpa [hs.ne', eq_comm] using h
  | case2 t rest hzero => exact absurd hzero hs.ne'
  | case3 t rest hne ih =>
    obtain _ | k := k
    · simp at h
    · rw [Nat.mul_succ] at h
      obtain ⟨hlength, hfull⟩ := ih (k := k) (by rw [List.length_drop]; omega)
      exact ⟨congrArg Nat.succ hlength,
        List.forall_mem_cons.2 ⟨List.length_take_of_le (by omega), hfull⟩⟩

lemma chunks_of_ne_nil (hs : 0 < size) (ht : tests ≠ []) :
    chunks size tests = tests.take size :: chunks size (tests.drop size) := by
  obtain ⟨t, rest, rfl⟩ := List.exists_cons_of_ne_nil ht
  rw [chunks, if_neg hs.ne']

lemma round_eq (hs : 0 < size) (count : ℕ) (tests : List α) :
    round size count tests =
      (chunks size (tests.take (size * count)), tests.drop (size * count)) := by
  fun_induction round size count tests with
  | case1 tests => simp [chunks]
  | case2 count => simp [chunks]
  | case3 count t rest groups left heq ih =>
    obtain ⟨rfl, rfl⟩ := Prod.mk.inj (heq.symm.trans ih)
    have hmul : size * (count + 1) = size + size * count := by rw [Nat.mul_succ, Nat.add_comm]
    have hne : (t :: rest).take (size * (count + 1)) ≠ [] := by simp [hs.ne']
    rw [chunks_of_ne_nil hs hne, hmul, List.take_take, Nat.min_eq_left (Nat.le_add_right _ _),
      List.drop_take, Nat.add_sub_cancel_left, List.drop_drop]

lemma ne_nil_of_mem_progressive (workers : ℕ) (tests : List α) :
    ∀ g ∈ progressive workers tests, g ≠ [] := by
  fun_induction progressive workers tests with
  | case1 => simp
  | case2 t rest => simp
  | case3 t rest h r ih =>
    have hround : r.1 = _ := congrArg Prod.fst (round_eq roundSize_pos workers (t :: rest))
    rw [List.forall_mem_append, hround]
    exact ⟨ne_nil_of_mem_chunks, ih⟩

inductive Made (tests : List TestEntry) (workers : ℕ) :
    SplitStrategy → List (List TestEntry) → Prop
  | individual : Made tests workers .individual (tests.map fun t => [t])
  | uniform : Made tests workers .uniform (chunks (ceilDiv tests.length workers) tests)
  | progressive : Made tests workers .progressive (progressive workers tests)

end Split

namespace IdSource

lemma getElem_upcoming (s : IdSource) {n i : ℕ} (h : i < (s.upcoming n).length) :
    (s.upcoming n)[i] = (s.advance i).next := by
  simp [upcoming, next, advance]

end IdSource

section

variable {tests : List TestEntry} {workers : UInt32} {strategy : SplitStrategy}
  {groups : List (List TestEntry)}

lemma exists_split? (hw : workers ≠ 0) (tests : List TestEntry) (strategy : SplitStrategy) :
    ∃ groups, split? tests workers strategy = some groups := by
  unfold split?
  rw [if_neg hw]
  exact ⟨_, rfl⟩

lemma made_of_split? (h : split? tests workers strategy = some groups) :
    0 < workers.toNat ∧ Split.Made tests workers.toNat strategy groups := by
  unfold split? at h
  split at h
  · cases h
  · next hw =>
    obtain rfl := Option.some.inj h
    refine ⟨Nat.pos_of_ne_zero fun h => hw (UInt32.toNat_inj.1 h), ?_⟩
    cases strategy with
    | individual => exact .individual
    | uniform => exact .uniform
    | progressive => exact .progressive

lemma ne_nil_of_mem_split? (h : split? tests workers strategy = some groups) :
    ∀ g ∈ groups, g ≠ [] := by
  cases (made_of_split? h).2 with
  | individual => simp
  | uniform => exact Split.ne_nil_of_mem_chunks
  | progressive => exact Split.ne_nil_of_mem_progressive _ _

lemma length_of_split?_individual (h : split? tests workers .individual = some groups) :
    groups.length = tests.length := by
  cases (made_of_split? h).2
  exact List.length_map _

lemma sizes_of_split?_uniform (h : split? tests workers .uniform = some groups) :
    groups.length ≤ workers.toNat ∧
      (∀ g ∈ groups.dropLast, g.length = tests.length ⌈/⌉ workers.toNat) ∧
      ∀ g ∈ groups, g.length ≤ tests.length ⌈/⌉ workers.toNat := by
  obtain ⟨hpos, hmade⟩ := made_of_split? h
  have hsize : tests.length ⌈/⌉ workers.toNat = Split.ceilDiv tests.length workers.toNat :=
    Nat.ceilDiv_eq_add_pred_div _ _
  rw [hsize]
  cases hmade
  refine ⟨?_, Split.length_of_mem_dropLast_chunks, ?_⟩
  · apply Split.length_chunks_le
    rw [Nat.mul_comm]
    exact Split.le_mul_ceilDiv hpos _
  · cases tests with
    | nil => simp [Split.chunks]
    | cons t rest =>
      apply Split.length_le_of_mem_chunks
      by_contra hzero
      have hle := Split.le_mul_ceilDiv hpos (t :: rest).length
      rw [Nat.eq_zero_of_not_pos hzero] at hle
      simp at hle

lemma splitIntoBuckets?_of_split? (h : split? tests workers strategy = some groups)
    (template : BucketTemplate) (ids : IdSource) :
    splitIntoBuckets? tests workers strategy template ids =
      some (List.zipWith (fun id group => template.bucket ⟨id⟩ group)
        (ids.upcoming groups.length) groups, ids.advance groups.length) := by
  rw [splitIntoBuckets?, h, Option.map_some]

lemma enqueueTests_of_no_workers (d : Dispatcher) {request : ScheduleRequest}
    (h : request.workerCount = some 0) : d.enqueueTests request = (.error .zeroWorkers, d) := by
  simp [Dispatcher.enqueueTests, splitIntoBuckets?, split?, h]

end

theorem split_partition (tests : List TestEntry) (strategy : SplitStrategy)
    (template : BucketTemplate) (ids : IdSource) :
    (∀ workers : UInt32, workers ≠ 0 → ∃ groups buckets,
      split? tests workers strategy = some groups ∧ (∀ g ∈ groups, g ≠ []) ∧
      groups.flatten = tests ∧
      (strategy = .individual → groups.length = tests.length) ∧
      (strategy = .uniform → groups.length ≤ workers.toNat ∧
        (∀ g ∈ groups.dropLast, g.length = tests.length ⌈/⌉ workers.toNat) ∧
        ∀ g ∈ groups, g.length ≤ tests.length ⌈/⌉ workers.toNat) ∧
      splitIntoBuckets? tests workers strategy template ids =
        some (buckets, ids.advance groups.length) ∧
      buckets.length = groups.length ∧
      ∀ (i : ℕ) (hb : i < buckets.length) (hg : i < groups.length), buckets[i] =
        { bucketId := ⟨(ids.advance i).next⟩
          jobId := template.jobId
          priority := template.priority
          tests := groups[i]
          artifacts := template.artifacts
          behavior := template.behavior
          timeout := template.timeout
          destination := template.destination
          remainingRetries := template.behavior.numberOfRetries }) ∧
    split? tests 0 strategy = none ∧ splitIntoBuckets? tests 0 strategy template ids = none ∧
    ∀ (d : Dispatcher) (request : ScheduleRequest), request.workerCount = some 0 →
      d.enqueueTests request = (.error .zeroWorkers, d) := by
  refine ⟨fun workers hw => ?_, rfl, rfl, fun d request => enqueueTests_of_no_workers d⟩
  obtain ⟨groups, hg⟩ := exists_split? hw tests strategy
  refine ⟨groups, _, hg, ne_nil_of_mem_split? hg, flatten_split? hg, ?_, ?_,
    splitIntoBuckets?_of_split? hg template ids, by simp, fun i hb hi => ?_⟩
  · rintro rfl
    exact length_of_split?_individual hg
  · rintro rfl
    exact sizes_of_split?_uniform hg
  · rw [List.getElem_zipWith, IdSource.getElem_upcoming]
    rfl

theorem split_partition_fiveTests :
    let tests : List TestEntry := List.replicate 5 ⟨"C", "x", none⟩
    let template : BucketTemplate := ⟨⟨"j"⟩, 1, .empty, ⟨2, .empty⟩, .standard, .empty⟩
    (2 : UInt32) ≠ 0 ∧ ∃ groups buckets, split? tests 2 .uniform = some groups ∧
      groups.map List.length = [3, 2] ∧ groups.flatten = tests ∧ (∀ g ∈ groups, g ≠ []) ∧
      splitIntoBuckets? tests 2 .uniform template (.sequential "id") = some
        (buckets, (IdSource.sequential "id").advance 2) ∧
      buckets.map Bucket.bucketId = [⟨"id-1"⟩, ⟨"id-2"⟩] ∧
      buckets.map Bucket.remainingRetries = [2, 2] := by
  intro tests template
  have hw : (2 : UInt32) ≠ 0 := by decide
  obtain ⟨groups, buckets, hg, hne, hflatten, -, -, hbuckets, -⟩ :=
    (split_partition tests .uniform template (.sequential "id")).1 2 hw
  have hsizes : (split? tests 2 .uniform).map (List.map List.length) = some [3, 2] := by
    decide +kernel
  have hmade : (splitIntoBuckets? tests 2 .uniform template (.sequential "id")).map
      (fun x => (x.1.map Bucket.bucketId, x.1.map Bucket.remainingRetries)) =
        some ([⟨"id-1"⟩, ⟨"id-2"⟩], [2, 2]) := by decide +kernel
  rw [hg] at hsizes
  rw [hbuckets] at hmade
  obtain ⟨hids, hretries⟩ := Prod.mk.inj (Option.some.inj hmade)
  have hwidth : groups.length = 2 := by simpa using congrArg List.length (Option.some.inj hsizes)
  exact ⟨hw, groups, buckets, hg, Option.some.inj hsizes, hflatten, hne, hwidth ▸ hbuckets, hids,
    hretries⟩

end TestQueue
