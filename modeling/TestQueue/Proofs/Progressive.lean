import TestQueue.Proofs.Partition

/-!
The sizes of the groups of a progressive split, which is made in rounds of one group for each
worker.
-/

namespace TestQueue

namespace Split

variable {α : Type} {workers m n i j : ℕ} {tests : List α}

lemma roundSize_eq (hw : 0 < workers) (hn : 0 < n) :
    roundSize workers n = ceilDiv n (2 * workers) := by
  apply Nat.max_eq_left
  by_contra hzero
  have hle := le_mul_ceilDiv (d := 2 * workers) (by omega) n
  rw [Nat.eq_zero_of_not_pos hzero] at hle
  omega

lemma roundSize_of_le (hw : 0 < workers) (h : n ≤ 2 * workers) : roundSize workers n = 1 := by
  apply Nat.max_eq_right
  rwa [ceilDiv_le_iff (by omega), Nat.mul_one]

lemma roundSize_le_of_le (hw : 0 < workers) (h : m ≤ n) :
    roundSize workers m ≤ roundSize workers n := by
  apply max_le_max_right
  rw [ceilDiv_le_iff (by omega)]
  exact h.trans (le_mul_ceilDiv (by omega) n)

lemma le_two_mul_round (hw : 0 < workers) (n : ℕ) : n ≤ 2 * (roundSize workers n * workers) := by
  calc n ≤ 2 * workers * ceilDiv n (2 * workers) := le_mul_ceilDiv (by omega) n
    _ ≤ 2 * workers * roundSize workers n := Nat.mul_le_mul_left _ (Nat.le_max_left _ _)
    _ = 2 * (roundSize workers n * workers) := by ring

lemma round_lt (hw : 0 < workers) (h : 2 * workers < n) : roundSize workers n * workers < n := by
  have hround : 2 * workers * roundSize workers n < n + 2 * workers := by
    rw [roundSize_eq hw (by omega)]
    exact mul_ceilDiv_lt (by omega) n
  have hdouble : 2 * workers * roundSize workers n = 2 * (roundSize workers n * workers) := by ring
  omega

lemma progressive_of_ne_nil (hw : 0 < workers) (ht : tests ≠ []) :
    progressive workers tests =
      chunks (roundSize workers tests.length)
          (tests.take (roundSize workers tests.length * workers)) ++
        progressive workers (tests.drop (roundSize workers tests.length * workers)) := by
  obtain ⟨t, rest, rfl⟩ := List.exists_cons_of_ne_nil ht
  rw [progressive, if_neg hw.ne', ← List.length_cons, round_eq roundSize_pos]

lemma chunks_one (tests : List α) : chunks 1 tests = tests.map fun t => [t] := by
  induction tests with
  | nil => rw [chunks, List.map_nil]
  | cons t rest ih => rw [chunks_of_ne_nil Nat.one_pos (by simp), List.map_cons]; exact congrArg _ ih

lemma progressive_of_le (hw : 0 < workers) (h : tests.length ≤ 2 * workers) :
    progressive workers tests = tests.map fun t => [t] := by
  induction hn : tests.length using Nat.strong_induction_on generalizing tests with
  | _ n ih =>
    by_cases ht : tests = []
    · rw [ht, progressive, List.map_nil]
    · have hpos : 0 < tests.length := List.length_pos_of_ne_nil ht
      have hdrop : (tests.drop workers).length = tests.length - workers := List.length_drop
      have hrest := ih _ (by omega) (by omega) hdrop
      rw [progressive_of_ne_nil hw ht, roundSize_of_le hw h, Nat.one_mul, chunks_one, hrest,
        ← List.map_append, List.take_append_drop]

/-- The groups of a progressive split: full rounds while there are more tests than two for each
worker, and then single tests. -/
inductive Rounds (workers : ℕ) : List α → List (List α) → Prop
  | singles {tests : List α} (few : tests.length ≤ 2 * workers) :
      Rounds workers tests (tests.map fun t => [t])
  | full {tests rest : List α} {first later : List (List α)} (many : 2 * workers < tests.length)
      (taken : first.flatten ++ rest = tests) (width : first.length = workers)
      (size : ∀ g ∈ first, g.length = roundSize workers tests.length)
      (next : Rounds workers rest later) : Rounds workers tests (first ++ later)

lemma rounds_progressive (hw : 0 < workers) (tests : List α) :
    Rounds workers tests (progressive workers tests) := by
  induction hn : tests.length using Nat.strong_induction_on generalizing tests with
  | _ n ih =>
    by_cases hfew : tests.length ≤ 2 * workers
    · rw [progressive_of_le hw hfew]
      exact .singles hfew
    · have hmany : 2 * workers < tests.length := not_le.1 hfew
      have hlength : (tests.take (roundSize workers tests.length * workers)).length =
          roundSize workers tests.length * workers := List.length_take_of_le (round_lt hw hmany).le
      obtain ⟨hwidth, hsize⟩ := full_of_chunks roundSize_pos hlength
      have hpos : 0 < roundSize workers tests.length * workers := Nat.mul_pos roundSize_pos hw
      rw [progressive_of_ne_nil hw (List.ne_nil_of_length_pos (by omega))]
      refine .full hmany ?_ hwidth hsize (ih _ ?_ _ rfl)
      · rw [flatten_chunks, List.take_append_drop]
      · rw [List.length_drop]
        omega

variable {groups : List (List α)}

lemma Rounds.flatten (h : Rounds workers tests groups) : groups.flatten = tests := by
  induction h with
  | singles few => simp [← List.flatMap_def]
  | full many taken width size next ih => rw [List.flatten_append, ih, taken]

lemma length_flatten_of_full {first : List (List α)} {size : ℕ}
    (h : ∀ g ∈ first, g.length = size) : first.flatten.length = size * first.length := by
  rw [List.length_flatten, List.map_congr_left h]
  simp [Nat.mul_comm]

lemma Rounds.length_rest {tests rest : List α} {first : List (List α)}
    (taken : first.flatten ++ rest = tests) (width : first.length = workers)
    (size : ∀ g ∈ first, g.length = roundSize workers tests.length) :
    rest.length + roundSize workers tests.length * workers = tests.length := by
  have hlength := congrArg List.length taken
  rw [List.length_append, length_flatten_of_full size, width] at hlength
  omega

section

variable (hw : 0 < workers) (h : Rounds workers tests groups)

include hw h

lemma Rounds.getLast? (ht : tests ≠ []) : ∃ t, groups.getLast? = some [t] := by
  induction h with
  | @singles tests few =>
    exact ⟨tests.getLast ht, by rw [List.getLast?_map, List.getLast?_eq_some_getLast ht]; rfl⟩
  | @full tests rest first later many taken width size next ih =>
    have hrest := length_rest taken width size
    have hlt := round_lt hw many
    obtain ⟨t, hlast⟩ := ih (List.ne_nil_of_length_pos (by omega))
    exact ⟨t, by rw [List.getLast?_append, hlast]; rfl⟩

lemma Rounds.length_le : groups.length ≤ workers * (Nat.log 2 tests.length + 2) := by
  induction h with
  | @singles tests few =>
    calc (tests.map fun t => [t]).length ≤ 2 * workers := by rwa [List.length_map]
      _ = workers * 2 := Nat.mul_comm _ _
      _ ≤ workers * (Nat.log 2 tests.length + 2) := Nat.mul_le_mul_left _ (Nat.le_add_left _ _)
  | @full tests rest first later many taken width size next ih =>
    have hrest := length_rest taken width size
    have htwo := le_two_mul_round hw tests.length
    have hhalf : rest.length ≤ tests.length / 2 := by omega
    have hpos : 0 < Nat.log 2 tests.length := Nat.log_pos Nat.one_lt_two (by omega)
    have hlog : Nat.log 2 rest.length + 1 ≤ Nat.log 2 tests.length := by
      have hle := (Nat.log_mono_right (b := 2) hhalf).trans_eq (Nat.log_div_base 2 tests.length)
      omega
    calc (first ++ later).length = workers + later.length := by rw [List.length_append, width]
      _ ≤ workers + workers * (Nat.log 2 rest.length + 2) := Nat.add_le_add_left ih _
      _ = workers * (Nat.log 2 rest.length + 1 + 2) := by ring
      _ ≤ workers * (Nat.log 2 tests.length + 2) :=
        Nat.mul_le_mul_left _ (Nat.add_le_add_right hlog 2)

lemma Rounds.half_le : min workers tests.length ≤ groups.length ∧
    tests.length ≤ 2 * (groups.take (min workers tests.length)).flatten.length := by
  cases h with
  | singles few =>
    have hflatten : ((tests.map fun t => [t]).take (min workers tests.length)).flatten.length =
        min workers tests.length := by
      rw [← List.map_take, ← List.flatMap_def]
      simp
    rw [hflatten, List.length_map]
    omega
  | full many taken width size next =>
    have hwidth : min workers tests.length = workers := by omega
    rw [hwidth, List.length_append, List.take_left' width, length_flatten_of_full size, width]
    exact ⟨Nat.le_add_right _ _, le_two_mul_round hw _⟩

end

/-- The tests that are left when the round of a group starts. There is one group for each worker in
every round before it. -/
def leftAt (workers : ℕ) (groups : List (List α)) (i : ℕ) : List α :=
  (groups.drop (i / workers * workers)).flatten

lemma length_leftAt_le (groups : List (List α)) (h : i ≤ j) :
    (leftAt workers groups j).length ≤ (leftAt workers groups i).length := by
  have hle : i / workers * workers ≤ j / workers * workers :=
    Nat.mul_le_mul_right _ (Nat.div_le_div_right h)
  obtain ⟨k, hk⟩ := Nat.exists_eq_add_of_le hle
  rw [leftAt, leftAt, hk, ← List.drop_drop]
  exact (List.drop_sublist k _).flatten.length_le

lemma leftAt_of_lt (h : i < workers) (groups : List (List α)) :
    leftAt workers groups i = groups.flatten := by
  rw [leftAt, Nat.div_eq_of_lt h, Nat.zero_mul, List.drop_zero]

lemma leftAt_append (hw : 0 < workers) {first : List (List α)} (width : first.length = workers)
    (later : List (List α)) (i : ℕ) :
    leftAt workers (first ++ later) (workers + i) = leftAt workers later i := by
  rw [leftAt, Nat.add_div_left i hw, Nat.succ_mul, Nat.add_comm _ workers, ← List.drop_drop,
    List.drop_left' width, leftAt]

lemma Rounds.length_getElem (hw : 0 < workers) (h : Rounds workers tests groups) (i : ℕ)
    (hi : i < groups.length) :
    groups[i].length = roundSize workers (leftAt workers groups i).length := by
  induction h generalizing i with
  | @singles tests few =>
    have hleft : (leftAt workers (tests.map fun t => [t]) i).length ≤ 2 * workers := by
      apply ((List.drop_sublist _ _).flatten.length_le).trans
      rwa [(Rounds.singles few).flatten]
    rw [roundSize_of_le hw hleft, List.getElem_map, List.length_singleton]
  | @full tests rest first later many taken width size next ih =>
    have hall := (Rounds.full many taken width size next).flatten
    rcases Nat.lt_or_ge i workers with hlt | hge
    · rw [List.getElem_append_left (width ▸ hlt), leftAt_of_lt hlt, hall]
      exact size _ (List.getElem_mem _)
    · obtain ⟨j, rfl⟩ := Nat.exists_eq_add_of_le hge
      have hj : j < later.length := by
        rw [List.length_append, width] at hi
        omega
      have hget : (first ++ later)[workers + j] = later[j] := by
        simp [List.getElem_append_right, width]
      rw [hget, ih j hj, leftAt_append hw width]

lemma Rounds.antitone (hw : 0 < workers) (h : Rounds workers tests groups) :
    groups.Pairwise fun g g' => g'.length ≤ g.length := by
  rw [List.pairwise_iff_getElem]
  intro i j hi hj hij
  rw [h.length_getElem hw i hi, h.length_getElem hw j hj]
  exact roundSize_le_of_le hw (length_leftAt_le groups hij.le)

lemma length_le_leftAt {groups : List (List α)} (hi : i < groups.length) :
    groups[i].length ≤ (leftAt workers groups i).length := by
  have hle : i / workers * workers ≤ i := Nat.div_mul_le_self i workers
  have hmem : groups[i] ∈ groups.drop (i / workers * workers) := by
    rw [List.mem_drop_iff_getElem]
    exact ⟨i - i / workers * workers, by omega, by congr 1; omega⟩
  exact (List.sublist_flatten_of_mem hmem).length_le

end Split

lemma rounds_of_split? {tests : List TestEntry} {workers : UInt32} {groups : List (List TestEntry)}
    (h : split? tests workers .progressive = some groups) :
    0 < workers.toNat ∧ Split.Rounds workers.toNat tests groups := by
  obtain ⟨hpos, hmade⟩ := made_of_split? h
  cases hmade
  exact ⟨hpos, Split.rounds_progressive hpos tests⟩

theorem progressive_sizes {tests : List TestEntry} (ht : tests ≠ []) {workers : UInt32}
    (hw : workers ≠ 0) : ∃ groups, split? tests workers .progressive = some groups ∧
      groups.flatten = tests ∧
      (groups.Pairwise fun g g' => g'.length ≤ g.length) ∧
      (∃ t, groups.getLast? = some [t]) ∧
      (∀ (i : ℕ) (hi : i < groups.length), groups[i].length =
        (Split.leftAt workers.toNat groups i).length ⌈/⌉ (2 * workers.toNat)) ∧
      min workers.toNat tests.length ≤ groups.length ∧
      tests.length ≤ 2 * (groups.take (min workers.toNat tests.length)).flatten.length ∧
      groups.length ≤ workers.toNat * (Nat.log 2 tests.length + 2) := by
  obtain ⟨groups, hg⟩ := exists_split? hw tests .progressive
  obtain ⟨hpos, hrounds⟩ := rounds_of_split? hg
  obtain ⟨hmin, hhalf⟩ := hrounds.half_le hpos
  refine ⟨groups, hg, hrounds.flatten, hrounds.antitone hpos, hrounds.getLast? hpos ht,
    fun i hi => ?_, hmin, hhalf, hrounds.length_le hpos⟩
  have hsize := hrounds.length_getElem hpos i hi
  have hleft : 0 < (Split.leftAt workers.toNat groups i).length :=
    (hsize ▸ Split.roundSize_pos).trans_le (Split.length_le_leftAt hi)
  rw [hsize, Split.roundSize_eq hpos hleft, Nat.ceilDiv_eq_add_pred_div, Split.ceilDiv]

theorem progressive_sizes_tenTests :
    let tests : List TestEntry := (List.range 10).map fun i => ⟨"C", toString i, none⟩
    tests ≠ [] ∧ (2 : UInt32) ≠ 0 ∧ ∃ groups, split? tests 2 .progressive = some groups ∧
      groups.map List.length = [3, 3, 1, 1, 1, 1] ∧ groups.flatten = tests ∧
      (groups.Pairwise fun g g' => g'.length ≤ g.length) ∧ (∃ t, groups.getLast? = some [t]) ∧
      ∀ (i : ℕ) (hi : i < groups.length),
        groups[i].length = (Split.leftAt 2 groups i).length ⌈/⌉ 4 := by
  intro tests
  have ht : tests ≠ [] := by decide
  have hw : (2 : UInt32) ≠ 0 := by decide
  obtain ⟨groups, hg, hflatten, hantitone, hlast, hfull, -⟩ := progressive_sizes ht hw
  have hsizes : (split? tests 2 .progressive).map (List.map List.length) =
      some [3, 3, 1, 1, 1, 1] := by decide +kernel
  rw [hg] at hsizes
  exact ⟨ht, hw, groups, hg, Option.some.inj hsizes, hflatten, hantitone, hlast, hfull⟩

end TestQueue
