import TestQueue.Work.Bucket

namespace TestQueue

inductive SplitStrategy where
  | individual
  | uniform
  | progressive
  deriving DecidableEq, Repr

namespace Split

def ceilDiv (n d : Nat) : Nat := (n + d - 1) / d

def chunks {α : Type} (size : Nat) (tests : List α) : List (List α) :=
  match tests with
  | [] => []
  | t :: rest =>
    if size = 0 then [t :: rest]
    else (t :: rest).take size :: chunks size ((t :: rest).drop size)
termination_by tests.length
decreasing_by simp only [List.length_drop, List.length_cons]; omega

def round {α : Type} (size : Nat) : Nat → List α → List (List α) × List α
  | 0, tests => ([], tests)
  | _ + 1, [] => ([], [])
  | count + 1, t :: rest =>
    let (groups, left) := round size count ((t :: rest).drop size)
    ((t :: rest).take size :: groups, left)

theorem length_round_le {α : Type} (size count : Nat) (tests : List α) :
    (round size count tests).2.length ≤ tests.length := by
  fun_induction round size count tests with
  | case1 => simp
  | case2 => simp
  | case3 count t rest groups left heq ih => simp_all only [List.length_drop]; omega

def roundSize (workers n : Nat) : Nat := max (ceilDiv n (2 * workers)) 1

def progressive {α : Type} (workers : Nat) (tests : List α) : List (List α) :=
  match tests with
  | [] => []
  | t :: rest =>
    if workers = 0 then [t :: rest]
    else
      let r := round (roundSize workers (rest.length + 1)) workers (t :: rest)
      r.1 ++ progressive workers r.2
termination_by tests.length
decreasing_by
  rename_i h
  obtain ⟨k, rfl⟩ := Nat.exists_eq_succ_of_ne_zero h
  have hle := length_round_le (roundSize (k + 1) (rest.length + 1)) k
    ((t :: rest).drop (roundSize (k + 1) (rest.length + 1)))
  have hpos : 1 ≤ roundSize (k + 1) (rest.length + 1) := Nat.le_max_right _ _
  simp only [List.length_drop, List.length_cons] at hle
  simp only [round, List.length_cons, Nat.succ_eq_add_one]
  omega

end Split

def split? (tests : List TestEntry) (workers : UInt32) (strategy : SplitStrategy) :
    Option (List (List TestEntry)) :=
  if workers = 0 then none
  else some (match strategy with
    | .individual => tests.map fun t => [t]
    | .uniform => Split.chunks (Split.ceilDiv tests.length workers.toNat) tests
    | .progressive => Split.progressive workers.toNat tests)

structure BucketTemplate where
  jobId : JobId
  priority : Priority
  artifacts : BuildArtifacts
  behavior : ExecutionBehavior
  timeout : TestTimeout
  destination : Destination
  deriving DecidableEq

namespace BucketTemplate

def bucket (t : BucketTemplate) (id : BucketId) (tests : List TestEntry) : Bucket where
  bucketId := id
  jobId := t.jobId
  priority := t.priority
  tests := tests
  artifacts := t.artifacts
  behavior := t.behavior
  timeout := t.timeout
  destination := t.destination
  remainingRetries := t.behavior.numberOfRetries

end BucketTemplate

def splitIntoBuckets? (tests : List TestEntry) (workers : UInt32) (strategy : SplitStrategy)
    (template : BucketTemplate) (ids : IdSource) : Option (List Bucket × IdSource) :=
  (split? tests workers strategy).map fun groups =>
    (List.zipWith (fun id group => template.bucket ⟨id⟩ group) (ids.upcoming groups.length) groups,
      ids.advance groups.length)

end TestQueue
