import TestQueue.Ordered
import TestQueue.Time.Instant
import TestQueue.Work.Bucket

namespace TestQueue

open Time (Instant)

structure WorkerConfiguration where
  behavior : ExecutionBehavior
  timeout : TestTimeout
  /-- Seconds between two heartbeats. -/
  aliveInterval : UInt64
  signature : Option PayloadSignature
  deriving DecidableEq

namespace WorkerConfiguration

def standard : WorkerConfiguration := ⟨.empty, .standard, 30, none⟩

end WorkerConfiguration

inductive Liveness where
  | notRegistered
  | alive
  | silent
  | lost
  deriving DecidableEq, Repr

namespace Liveness

def all : List Liveness := [.notRegistered, .alive, .silent, .lost]

end Liveness

abbrev BucketSet := Ordered BucketId BucketId.text

structure WorkerRecord where
  workerId : WorkerId
  status : Liveness
  blocked : Bool
  lastHeartbeat : Option Instant
  silentSince : Option Instant
  processing : BucketSet
  configuration : Option WorkerConfiguration
  deriving DecidableEq

namespace WorkerRecord

def notRegistered (id : WorkerId) : WorkerRecord :=
  ⟨id, .notRegistered, false, none, none, .empty, none⟩

end WorkerRecord

end TestQueue
