import TestQueue.Server.Dispatcher

/-!
The two timers of a running server: the sweep, and the check whether the server may stop. Both fire
at the start and then with their periods. Of two that are due at the same time the one that was set
earlier comes first. The end of the server ends both.
-/

namespace TestQueue

open Time (Instant)

structure Timers where
  /-- In milliseconds, like all numbers here. -/
  sweepPeriod : Nat
  pollPeriod : Nat
  sweepPeriod_pos : 0 < sweepPeriod
  pollPeriod_pos : 0 < pollPeriod
  nextSweep : Nat
  nextPoll : Nat
  stoppedAt : Option Nat
  deriving DecidableEq

namespace Timers

def starting (config : ServerConfig) : Timers where
  sweepPeriod := max config.aliveness.sweepPeriod.wholeMillis 1
  pollPeriod := max config.terminationPollPeriod.wholeMillis 1
  sweepPeriod_pos := Nat.lt_of_lt_of_le Nat.zero_lt_one (Nat.le_max_right _ _)
  pollPeriod_pos := Nat.lt_of_lt_of_le Nat.zero_lt_one (Nat.le_max_right _ _)
  nextSweep := 0
  nextPoll := 0
  stoppedAt := none

/-- A timer is set when it fires, for its next time. -/
def sweepSetAt (t : Timers) : Nat := t.nextSweep - t.sweepPeriod

def pollSetAt (t : Timers) : Nat := t.nextPoll - t.pollPeriod

def sweepIsNext (t : Timers) : Bool :=
  t.nextSweep < t.nextPoll || (t.nextSweep = t.nextPoll && t.sweepSetAt ≤ t.pollSetAt)

def sweep (t : Timers) (clock : Nat → Instant) (d : Dispatcher) : Timers × Dispatcher :=
  ({ t with nextSweep := t.nextSweep + t.sweepPeriod }, (d.sweep (clock t.nextSweep)).2)

def poll (t : Timers) (clock : Nat → Instant) (d : Dispatcher) : Timers :=
  { t with
    nextPoll := t.nextPoll + t.pollPeriod
    stoppedAt := if d.mayTerminate (clock t.nextPoll) then some t.nextPoll else none }

def runUntil (horizon : Nat) (clock : Nat → Instant) (t : Timers) (d : Dispatcher) :
    Timers × Dispatcher :=
  if t.stoppedAt.isSome then (t, d)
  else if t.sweepIsNext then
    if t.nextSweep ≤ horizon then
      let next := t.sweep clock d
      runUntil horizon clock next.1 next.2
    else (t, d)
  else if t.nextPoll ≤ horizon then runUntil horizon clock (t.poll clock d) d
  else (t, d)
termination_by (horizon + 1 - t.nextSweep) + (horizon + 1 - t.nextPoll)
decreasing_by
  · have := t.sweepPeriod_pos
    simp only [sweep]
    omega
  · have := t.pollPeriod_pos
    simp only [poll]
    omega

end Timers

end TestQueue
