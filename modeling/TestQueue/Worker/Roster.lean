import TestQueue.Queue.Error
import TestQueue.Server.Policy
import TestQueue.Worker.Record

/-!
The workers the queue has heard of. Registration and heartbeats keep a worker alive; sweeps make it
silent and then lost. Blocking is independent of that.
-/

namespace TestQueue

open Time (Instant)

inductive Eligibility where
  | eligible
  | notRegistered
  | silent
  | lost
  | blocked
  deriving DecidableEq, Repr

structure Transition where
  workerId : WorkerId
  status : Liveness
  /-- The buckets that a worker held when it went silent. -/
  reclaimed : List BucketId
  deriving DecidableEq

namespace WorkerRecord

def register (r : WorkerRecord) (c : WorkerConfiguration) (now : Instant) : WorkerRecord :=
  { r with
    status := .alive
    lastHeartbeat := some now
    silentSince := none
    configuration := some c }

def reportAlive (r : WorkerRecord) (now : Instant) : Except QueueError WorkerRecord :=
  match r.status with
  | .notRegistered => .error (.unknownWorker r.workerId)
  | .lost => .error (.workerLost r.workerId)
  | .silent =>
    .ok { r with status := .alive, silentSince := none, lastHeartbeat := some now }
  | .alive => .ok { r with lastHeartbeat := some now }

def eligibility (r : WorkerRecord) : Eligibility :=
  match r.status with
  | .notRegistered => .notRegistered
  | .lost => .lost
  | .silent => .silent
  | .alive => if r.blocked then .blocked else .eligible

def interval (p : AlivenessPolicy) (r : WorkerRecord) : UInt64 :=
  (r.configuration.map WorkerConfiguration.aliveInterval).getD p.defaultInterval

def goesSilent (p : AlivenessPolicy) (now heartbeat : Instant) (r : WorkerRecord) : Bool :=
  r.status = .alive && p.toleranceWindow (r.interval p) < heartbeat.elapsed now

def silence (now : Instant) (r : WorkerRecord) : WorkerRecord :=
  { r with status := .silent, silentSince := some now, processing := .empty }

def goesLost (p : AlivenessPolicy) (now heartbeat : Instant) (r : WorkerRecord) : Bool :=
  r.status = .silent && p.giveUpSpan < heartbeat.elapsed now

def lose (r : WorkerRecord) : WorkerRecord := { r with status := .lost, processing := .empty }

def sweep (p : AlivenessPolicy) (now : Instant) (r : WorkerRecord) :
    WorkerRecord × List Transition :=
  match r.lastHeartbeat with
  | none => (r, [])
  | some heartbeat =>
    let (s, toSilent) :=
      if r.goesSilent p now heartbeat then
        (r.silence now, [⟨r.workerId, .silent, r.processing.items⟩])
      else (r, [])
    let (l, toLost) :=
      if s.goesLost p now heartbeat then (s.lose, [⟨s.workerId, .lost, []⟩]) else (s, [])
    (l, toSilent ++ toLost)

theorem workerId_sweep (p : AlivenessPolicy) (now : Instant) (r : WorkerRecord) :
    (r.sweep p now).1.workerId = r.workerId := by
  unfold sweep
  cases r.lastHeartbeat with
  | none => rfl
  | some heartbeat => dsimp only; split <;> dsimp only <;> split <;> rfl

end WorkerRecord

abbrev WorkerList := Ordered WorkerRecord fun r => r.workerId.text

structure Roster where
  policy : AlivenessPolicy
  workers : WorkerList
  deriving DecidableEq

namespace Roster

def new (policy : AlivenessPolicy) : Roster := ⟨policy, .empty⟩

def find? (t : Roster) (w : WorkerId) : Option WorkerRecord := t.workers.find? w.text

def put (t : Roster) (r : WorkerRecord) : Roster := { t with workers := t.workers.insert r }

def record (t : Roster) (w : WorkerId) : WorkerRecord := (t.find? w).getD (.notRegistered w)

def register (t : Roster) (w : WorkerId) (c : WorkerConfiguration) (now : Instant) : Roster :=
  t.put ((t.record w).register c now)

def known (t : Roster) (w : WorkerId) : Except QueueError WorkerRecord :=
  match t.find? w with
  | some r => .ok r
  | none => .error (.unknownWorker w)

def reportAlive (t : Roster) (w : WorkerId) (now : Instant) :
    Except QueueError (Liveness × Roster) := do
  let r ← (← t.known w).reportAlive now
  .ok (r.status, t.put r)

def setBlocked (t : Roster) (w : WorkerId) (blocked : Bool) :
    Except QueueError (WorkerRecord × Roster) := do
  let r := { ← t.known w with blocked }
  .ok (r, t.put r)

def eligibility (t : Roster) (w : WorkerId) : Eligibility := (t.record w).eligibility

def isKnown (t : Roster) (w : WorkerId) : Bool := (t.record w).status ≠ .notRegistered

def modify (t : Roster) (w : WorkerId) (f : WorkerRecord → WorkerRecord) : Roster :=
  match t.find? w with
  | some r => t.put (f r)
  | none => t

def didDequeue (t : Roster) (w : WorkerId) (b : BucketId) : Roster :=
  t.modify w fun r => { r with processing := r.processing.insert b }

def didFinish (t : Roster) (w : WorkerId) (b : BucketId) : Roster :=
  t.modify w fun r => { r with processing := r.processing.erase b.text }

def sweep (t : Roster) (now : Instant) : List Transition × Roster :=
  (t.workers.items.flatMap fun r => (r.sweep t.policy now).2,
    { t with
      workers := t.workers.map (fun r => (r.sweep t.policy now).1)
        fun r => by rw [WorkerRecord.workerId_sweep] })

def withStatus (t : Roster) (s : Liveness) : List WorkerId :=
  (t.workers.items.filter fun r => r.status = s).map WorkerRecord.workerId

def byStatus (t : Roster) : List (Liveness × List WorkerId) :=
  (Liveness.all.map fun s => (s, t.withStatus s)).filter fun g => !g.2.isEmpty

def processing (t : Roster) : List (WorkerId × List BucketId) :=
  (t.workers.items.filter fun r => !r.processing.items.isEmpty).map
    fun r => (r.workerId, r.processing.items)

def aliveCount (t : Roster) : Nat := (t.withStatus .alive).length

end Roster

end TestQueue
