import TestQueue.Time.Instant
import TestQueue.Work.Bucket

namespace TestQueue

open Time (Instant)

structure TestRun where
  succeeded : Bool
  durationSeconds : Float
  exceptions : List String
  hostName : String
  startedAt : Instant
  deriving DecidableEq

/-- A test and its runs; a lost test has none. -/
structure TestOutcome where
  test : TestEntry
  runs : List TestRun
  deriving DecidableEq

namespace TestOutcome

def lost (test : TestEntry) : TestOutcome := ⟨test, []⟩

def isLost (o : TestOutcome) : Bool := o.runs.isEmpty

def succeeded (o : TestOutcome) : Bool := o.runs.any TestRun.succeeded

end TestOutcome

structure BucketResult where
  bucketId : BucketId
  outcomes : List TestOutcome
  deriving DecidableEq

namespace BucketResult

def tests (r : BucketResult) : List TestEntry := r.outcomes.map TestOutcome.test

def failing (r : BucketResult) : List TestEntry :=
  (r.outcomes.filter fun o => !o.succeeded).map TestOutcome.test

def lost (b : Bucket) : BucketResult := ⟨b.bucketId, b.tests.map .lost⟩

def withLost (r : BucketResult) (expected : List TestEntry) : BucketResult :=
  { r with outcomes := r.outcomes ++ (expected.filter (· ∉ r.tests)).map .lost }

end BucketResult

end TestQueue
