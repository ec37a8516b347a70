import TestQueue.Time.Span

namespace TestQueue

open Time (Span)

inductive IntervalFault where
  | zero
  | tooLong (seconds : UInt64)
  deriving DecidableEq, Repr

def maxAliveInterval : UInt64 := 86400

namespace IntervalFault

def message : IntervalFault → String
  | zero => "report alive interval must be positive"
  | tooLong n =>
    "report alive interval " ++ toString n.toNat ++ "s exceeds the maximum of " ++
      toString maxAliveInterval.toNat ++ "s"

end IntervalFault

def checkAliveInterval (seconds : UInt64) : Except IntervalFault UInt64 :=
  if seconds = 0 then .error .zero
  else if maxAliveInterval < seconds then .error (.tooLong seconds)
  else .ok seconds

structure AlivenessPolicy where
  defaultInterval : UInt64
  /-- A worker is silent after this many intervals without a heartbeat. -/
  toleranceFactor : Float
  /-- A silent worker is lost after this many seconds without a heartbeat. -/
  giveUpAfter : UInt64
  sweepInterval : UInt64
  deriving DecidableEq

namespace AlivenessPolicy

def standard : AlivenessPolicy := ⟨30, 3.0, 600, 5⟩

def giveUpSpan (p : AlivenessPolicy) : Span := .ofSeconds p.giveUpAfter

def sweepPeriod (p : AlivenessPolicy) : Span := .ofSeconds (max p.sweepInterval 1)

def toleranceWindow (p : AlivenessPolicy) (interval : UInt64) : Span :=
  (Span.ofFloat? (interval.toFloat * p.toleranceFactor)).getD .longest

end AlivenessPolicy

inductive DepletionPolicy where
  | stayAlive
  | terminateWhenDepleted
  deriving DecidableEq, Repr

inductive TerminationPolicy where
  | stayAlive
  | afterBeingIdle (seconds : UInt64)
  deriving DecidableEq, Repr

end TestQueue
