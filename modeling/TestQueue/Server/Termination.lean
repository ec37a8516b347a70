import TestQueue.Server.Policy
import TestQueue.Time.Instant

namespace TestQueue

open Time (Instant Span)

structure Termination where
  policy : TerminationPolicy
  /-- In milliseconds. -/
  lastActivity : Int
  locks : Nat
  deriving DecidableEq

namespace Termination

def starting (policy : TerminationPolicy) (now : Instant) : Termination := ⟨policy, now.millis, 0⟩

def indicateActivity (t : Termination) (now : Instant) : Termination :=
  { t with lastActivity := max t.lastActivity now.millis }

def lock (t : Termination) : Termination := { t with locks := t.locks + 1 }

def unlock (t : Termination) : Termination := { t with locks := t.locks - 1 }

def isLocked (t : Termination) : Bool := 0 < t.locks

def idleFor (t : Termination) (now : Instant) : Span :=
  .ofMillis (now.millis - t.lastActivity).toNat

def mayTerminate (t : Termination) (depleted : Bool) (now : Instant) : Bool :=
  match t.policy with
  | .stayAlive => false
  | .afterBeingIdle seconds => depleted && !t.isLocked && .ofSeconds seconds ≤ t.idleFor now

end Termination

end TestQueue
