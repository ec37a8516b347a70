import TestQueue.Queue.JobQueue
import TestQueue.Wire.Bucket
import TestQueue.Worker.Roster

namespace TestQueue

open Json (RecordReader)
open Wire (encode decode optional)

namespace WorkerConfiguration

def toJson (c : WorkerConfiguration) : Json :=
  .object ([("execution_behavior", encode c.behavior), ("timeout_configuration", encode c.timeout),
    ("report_alive_interval_secs", encode c.aliveInterval)] ++
    optional "payload_signature" c.signature)

def reader : RecordReader WorkerConfiguration :=
  RecordReader.done WorkerConfiguration.mk
    |>.required "execution_behavior" decode
    |>.required "timeout_configuration" decode
    |>.required "report_alive_interval_secs" decode
    |>.defaulted "payload_signature" decode none

instance : Wire WorkerConfiguration := ⟨toJson, reader.read⟩

end WorkerConfiguration

namespace Liveness

def name : Liveness → String
  | notRegistered => "not_registered"
  | alive => "alive"
  | silent => "silent"
  | lost => "lost"

def ofName? : String → Option Liveness
  | "not_registered" => some notRegistered
  | "alive" => some alive
  | "silent" => some silent
  | "lost" => some lost
  | _ => none

instance : Wire Liveness := ⟨fun s => .str s.name, Json.toWord ofName?⟩

end Liveness

namespace WorkerRecord

def toJson (r : WorkerRecord) : Json :=
  .object [("worker_id", encode r.workerId), ("status", encode r.status),
    ("blocked", encode r.blocked), ("last_heartbeat", encode r.lastHeartbeat),
    ("silent_since", encode r.silentSince),
    ("bucket_ids_being_processed", encode r.processing),
    ("configuration", encode r.configuration)]

def reader : RecordReader WorkerRecord :=
  RecordReader.done WorkerRecord.mk
    |>.required "worker_id" decode
    |>.required "status" decode
    |>.required "blocked" decode
    |>.nullable "last_heartbeat" decode
    |>.nullable "silent_since" decode
    |>.required "bucket_ids_being_processed" decode
    |>.nullable "configuration" decode

instance : Wire WorkerRecord := ⟨toJson, reader.read⟩

end WorkerRecord

namespace HandOut

def toJson (h : HandOut) : Json :=
  .object [("bucket", encode h.bucket), ("worker_id", encode h.workerId),
    ("request_id", encode h.requestId), ("dequeued_at", encode h.handedOutAt)]

def reader : RecordReader HandOut :=
  RecordReader.done HandOut.mk
    |>.required "bucket" decode
    |>.required "worker_id" decode
    |>.required "request_id" decode
    |>.required "dequeued_at" decode

instance : Wire HandOut := ⟨toJson, reader.read⟩

end HandOut

namespace Transition

def toJson (t : Transition) : Json :=
  .object [("worker_id", encode t.workerId), ("status", encode t.status),
    ("reclaimed", encode t.reclaimed)]

end Transition

end TestQueue
