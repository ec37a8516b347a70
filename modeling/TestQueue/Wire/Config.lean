import TestQueue.Server.Config
import TestQueue.Wire.Worker

namespace TestQueue

open Json (Decoded RecordReader)
open Wire (encode decode)

namespace AlivenessPolicy

def toJson (p : AlivenessPolicy) : Json :=
  .object [("default_report_alive_interval_secs", encode p.defaultInterval),
    ("tolerance_factor", encode p.toleranceFactor), ("give_up_after_secs", encode p.giveUpAfter),
    ("sweep_interval_secs", encode p.sweepInterval)]

def reader : RecordReader AlivenessPolicy :=
  RecordReader.done AlivenessPolicy.mk
    |>.required "default_report_alive_interval_secs" decode
    |>.required "tolerance_factor" decode
    |>.required "give_up_after_secs" decode
    |>.required "sweep_interval_secs" decode

instance : Wire AlivenessPolicy := ⟨toJson, reader.read⟩

end AlivenessPolicy

namespace DepletionPolicy

def name : DepletionPolicy → String
  | stayAlive => "stay_alive"
  | terminateWhenDepleted => "terminate_when_depleted"

def ofName? : String → Option DepletionPolicy
  | "stay_alive" => some stayAlive
  | "terminate_when_depleted" => some terminateWhenDepleted
  | _ => none

instance : Wire DepletionPolicy := ⟨fun p => .str p.name, Json.toWord ofName?⟩

end DepletionPolicy

namespace TerminationPolicy

def toJson : TerminationPolicy → Json
  | stayAlive => .object [("kind", .str "stay_alive")]
  | afterBeingIdle seconds =>
    .object [("kind", .str "after_being_idle"), ("period_secs", encode seconds)]

/-- The policy in a value that is itself inside `127 - depth` others. -/
def ofJson (depth : Nat) (v : Json) : Decoded TerminationPolicy := do
  let (name, rest) ← Json.tagged "kind" depth v
  match name with
  | "stay_alive" => Json.withoutFields stayAlive rest
  | "after_being_idle" =>
    (RecordReader.done afterBeingIdle |>.required "period_secs" decode).read rest
  | _ => .error .mismatch

instance : Wire TerminationPolicy := ⟨toJson, ofJson Json.maxDepth⟩

end TerminationPolicy

namespace WorkerDefinition

def toJson (d : WorkerDefinition) : Json :=
  .object [("worker_id", encode d.workerId), ("configuration", encode d.configuration)]

def reader : RecordReader WorkerDefinition :=
  RecordReader.done WorkerDefinition.mk
    |>.required "worker_id" decode
    |>.required "configuration" decode

instance : Wire WorkerDefinition := ⟨toJson, reader.read⟩

end WorkerDefinition

namespace Wire

def decodeSocketAddress (v : Json) : Decoded Net.SocketAddress := do
  match Net.SocketAddress.ofText? (← v.toText) with
  | some a => .ok a
  | none => .error .mismatch

instance : Wire Net.SocketAddress := ⟨fun a => .str a.toText, decodeSocketAddress⟩

end Wire

namespace ServerConfig

def toJson (c : ServerConfig) : Json :=
  .object [("listen", encode c.listen), ("version", encode c.version),
    ("aliveness", encode c.aliveness), ("check_again_after_secs", encode c.checkAgainAfter),
    ("worker_policy", encode c.depletion), ("termination", encode c.termination),
    ("termination_poll_secs", encode c.terminationPoll), ("workers", encode c.workers)]

def reader : RecordReader ServerConfig :=
  RecordReader.done ServerConfig.mk
    |>.required "listen" decode
    |>.required "version" decode
    |>.required "aliveness" decode
    |>.required "check_again_after_secs" decode
    |>.required "worker_policy" decode
    |>.required "termination" (TerminationPolicy.ofJson (Json.maxDepth - 1))
    |>.required "termination_poll_secs" decode
    |>.required "workers" decode

instance : Wire ServerConfig := ⟨toJson, reader.read⟩

end ServerConfig

end TestQueue
