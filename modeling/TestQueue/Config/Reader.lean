import TestQueue.Config.Error
import TestQueue.Kdl.Reader
import TestQueue.Server.Config

/-!
The settings of a server from a KDL document. All nodes are optional, unknown ones are ignored, and
they take effect in the order of the document.
-/

namespace TestQueue

open Kdl (Node)

namespace Kdl.Node

def textProperty? (n : Node) (name : String) : Option String :=
  (n.property? name).bind Value.toText?

def textArgument? (n : Node) : Option String := n.argument?.bind Value.toText?

def unsigned (field : String) (n : Int) : Except ConfigError UInt64 :=
  if 0 ≤ n ∧ n < UInt64.size then .ok (UInt64.ofNat n.toNat) else .error (.number field n)

def unsigned? (field : String) (v : Option Value) : Except ConfigError (Option UInt64) :=
  match v.bind Value.toInt? with
  | some n => (unsigned field n).map some
  | none => .ok none

def unsignedProperty? (n : Node) (name : String) : Except ConfigError (Option UInt64) :=
  unsigned? name (n.property? name)

def unsignedArgument? (n : Node) (field : String) : Except ConfigError (Option UInt64) :=
  unsigned? field n.argument?

def floatProperty? (n : Node) (name : String) : Option Float :=
  match n.property? name with
  | some (.float x) => some x
  | some (.int k) => some (Binary64.ofInt k)
  | _ => none

end Kdl.Node

namespace ServerConfig

def readListen (c : ServerConfig) (n : Node) : Except ConfigError ServerConfig :=
  match n.textProperty? "listen" with
  | none => .ok c
  | some text =>
    match Net.SocketAddress.ofText? text with
    | some listen => .ok { c with listen }
    | none => .error .listenAddress

def readServer (c : ServerConfig) (n : Node) : Except ConfigError ServerConfig := do
  let c ← c.readListen n
  .ok { c with version := (n.textProperty? "version").getD c.version }

def readDefaultInterval (p : AlivenessPolicy) (n : Node) :
    Except ConfigError AlivenessPolicy := do
  match ← n.unsignedProperty? "report-alive-interval" with
  | none => .ok p
  | some seconds =>
    match checkAliveInterval seconds with
    | .ok seconds => .ok { p with defaultInterval := seconds }
    | .error fault => .error (.defaultInterval fault)

def readTolerance (p : AlivenessPolicy) (n : Node) : Except ConfigError AlivenessPolicy :=
  match n.floatProperty? "tolerance-factor" with
  | none => .ok p
  | some x =>
    if x.isFinite && !(x < 1.0) then .ok { p with toleranceFactor := x }
    else .error (.toleranceFactor x)

/-- A node about heartbeats sets all of its policy; what it does not mention gets the default. -/
def readAliveness (n : Node) : Except ConfigError AlivenessPolicy := do
  let p ← readDefaultInterval .standard n
  let p ← readTolerance p n
  let giveUpAfter := (← n.unsignedProperty? "give-up-after").getD p.giveUpAfter
  let sweepInterval := (← n.unsignedProperty? "sweep-interval").getD p.sweepInterval
  .ok { p with giveUpAfter, sweepInterval }

def readDepletion (c : ServerConfig) (n : Node) : Except ConfigError DepletionPolicy :=
  match n.textProperty? "worker-policy" with
  | none => .ok c.depletion
  | some "stay-alive" => .ok .stayAlive
  | some "terminate-when-depleted" => .ok .terminateWhenDepleted
  | some name => .error (.depletionPolicy name)

def readQueue (c : ServerConfig) (n : Node) : Except ConfigError ServerConfig := do
  let checkAgainAfter := (← n.unsignedProperty? "check-again-after").getD c.checkAgainAfter
  let depletion ← c.readDepletion n
  .ok { c with checkAgainAfter, depletion }

def readTerminationPolicy (n : Node) : Except ConfigError TerminationPolicy :=
  match n.textArgument?.getD "" with
  | "" => .ok .stayAlive
  | "stay-alive" => .ok .stayAlive
  | "after-being-idle" => do
    match ← n.unsignedProperty? "period" with
    | some seconds => .ok (.afterBeingIdle seconds)
    | none => .error .missingPeriod
  | name => .error (.terminationPolicy name)

def readTermination (c : ServerConfig) (n : Node) : Except ConfigError ServerConfig := do
  let termination ← readTerminationPolicy n
  let terminationPoll := (← n.unsignedProperty? "poll-interval").getD c.terminationPoll
  .ok { c with termination, terminationPoll }

def readEnvironment (environment : Table String String) (n : Node) : Table String String :=
  n.children.foldl
    (fun env child =>
      match child.textArgument? with
      | some value => env.insert child.name value
      | none => env)
    environment

def readWorkerInterval (worker : String) (c : WorkerConfiguration) (n : Node) :
    Except ConfigError WorkerConfiguration := do
  match ← n.unsignedArgument? "worker report-alive-interval" with
  | none => .ok c
  | some seconds =>
    match checkAliveInterval seconds with
    | .ok seconds => .ok { c with aliveInterval := seconds }
    | .error fault => .error (.workerInterval worker fault)

def readRetries (n : Node) : Except ConfigError UInt32 := do
  let count ← n.unsignedArgument? "worker retries"
  .ok (UInt32.ofNat (min (count.getD 0).toNat (UInt32.size - 1)))

def readWorkerSetting (worker : String) (c : WorkerConfiguration) (n : Node) :
    Except ConfigError WorkerConfiguration :=
  match n.name with
  | "retries" => do
    let numberOfRetries ← readRetries n
    .ok { c with behavior := { c.behavior with numberOfRetries } }
  | "report-alive-interval" => readWorkerInterval worker c n
  | "test-timeout" => do
    let seconds ← n.unsignedArgument? "worker test-timeout"
    .ok { c with timeout := ⟨seconds.getD c.timeout.singleTestSeconds⟩ }
  | "env" =>
    let environment := readEnvironment c.behavior.environment n
    .ok { c with behavior := { c.behavior with environment } }
  | _ => .ok c

/-- A listed worker; without an interval of its own it has the default one read so far. -/
def readWorkerDefinition (p : AlivenessPolicy) (n : Node) :
    Except ConfigError WorkerDefinition := do
  match n.textArgument? with
  | none => .error .missingWorkerId
  | some worker =>
    let start := { WorkerConfiguration.standard with aliveInterval := p.defaultInterval }
    .ok ⟨⟨worker⟩, ← n.children.foldlM (readWorkerSetting worker) start⟩

def readWorker (c : ServerConfig) (n : Node) : Except ConfigError ServerConfig := do
  let d ← readWorkerDefinition c.aliveness n
  if d.workerId ∈ c.workers.map WorkerDefinition.workerId then
    .error (.duplicateWorker d.workerId)
  else .ok { c with workers := c.workers ++ [d] }

def readNode (c : ServerConfig) (n : Node) : Except ConfigError ServerConfig :=
  match n.name with
  | "server" => c.readServer n
  | "aliveness" => do .ok { c with aliveness := ← readAliveness n }
  | "queue" => c.readQueue n
  | "termination" => c.readTermination n
  | "worker" => c.readWorker n
  | _ => .ok c

def ofDocument (doc : Kdl.Document) : Except ConfigError ServerConfig :=
  doc.foldlM readNode standard

def ofText (text : String) : Except ConfigError ServerConfig :=
  match Kdl.Document.ofText? text with
  | some doc => ofDocument doc
  | none => .error .notKdl

def ofFile (content : Option ByteArray) : Except ConfigError ServerConfig :=
  match content.bind String.fromUTF8? with
  | some text => ofText text
  | none => .error .unreadable

end ServerConfig

end TestQueue
