import TestQueue.Identifier
import TestQueue.Table

namespace TestQueue

structure TestEntry where
  className : String
  methodName : String
  caseId : Option UInt64
  deriving DecidableEq, Inhabited

namespace TestEntry

def title (t : TestEntry) : String := t.className ++ "/" ++ t.methodName

end TestEntry

structure BuildArtifacts where
  testBundle : String
  appBundle : Option String
  runner : Option String
  additionalApps : List String
  deriving DecidableEq

namespace BuildArtifacts

def empty : BuildArtifacts := ⟨"", none, none, []⟩

end BuildArtifacts

structure ExecutionBehavior where
  numberOfRetries : UInt32
  environment : Table String String
  deriving DecidableEq

namespace ExecutionBehavior

def empty : ExecutionBehavior := ⟨0, .empty⟩

end ExecutionBehavior

structure TestTimeout where
  singleTestSeconds : UInt64
  deriving DecidableEq

namespace TestTimeout

def standard : TestTimeout := ⟨180⟩

end TestTimeout

structure Destination where
  deviceType : String
  runtime : String
  deriving DecidableEq

namespace Destination

def empty : Destination := ⟨"", ""⟩

end Destination

abbrev Priority := UInt32

structure Bucket where
  bucketId : BucketId
  jobId : JobId
  priority : Priority
  tests : List TestEntry
  artifacts : BuildArtifacts
  behavior : ExecutionBehavior
  timeout : TestTimeout
  destination : Destination
  remainingRetries : UInt32
  deriving DecidableEq

namespace Bucket

def residual? (b : Bucket) (id : BucketId) (tests : List TestEntry) : Option Bucket :=
  if b.remainingRetries = 0 then none
  else some { b with bucketId := id, tests, remainingRetries := b.remainingRetries - 1 }

end Bucket

end TestQueue
