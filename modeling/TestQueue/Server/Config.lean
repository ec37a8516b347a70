import TestQueue.Net.SocketAddress
import TestQueue.Server.Policy
import TestQueue.Worker.Record

namespace TestQueue

open Time (Span)

structure WorkerDefinition where
  workerId : WorkerId
  configuration : WorkerConfiguration
  deriving DecidableEq

structure ServerConfig where
  listen : Net.SocketAddress
  version : String
  aliveness : AlivenessPolicy
  /-- Seconds that a worker waits before it asks again. -/
  checkAgainAfter : UInt64
  depletion : DepletionPolicy
  termination : TerminationPolicy
  /-- Seconds between two checks of the termination policy. -/
  terminationPoll : UInt64
  /-- The workers that may register; if there are none, all may. -/
  workers : List WorkerDefinition
  deriving DecidableEq

namespace ServerConfig

def standard : ServerConfig where
  listen := .v4 ⟨0, 0, 0, 0⟩ 41000
  version := "0.1.0"
  aliveness := .standard
  checkAgainAfter := 30
  depletion := .stayAlive
  termination := .stayAlive
  terminationPoll := 5
  workers := []

def checkAgainSpan (c : ServerConfig) : Span := .ofSeconds c.checkAgainAfter

def terminationPollPeriod (c : ServerConfig) : Span := .ofSeconds (max c.terminationPoll 1)

end ServerConfig

end TestQueue
