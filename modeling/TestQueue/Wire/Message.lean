import TestQueue.Wire.Worker
import TestQueue.Work.Message

namespace TestQueue

open Json (Decoded RecordReader)
open Wire (encode decode)

namespace VersionAnswer

def toJson (a : VersionAnswer) : Json := .object [("version", encode a.version)]

def reader : RecordReader VersionAnswer :=
  RecordReader.done VersionAnswer.mk |>.required "version" decode

instance : Wire VersionAnswer := ⟨toJson, reader.read⟩

end VersionAnswer

namespace RegisterRequest

def toJson (r : RegisterRequest) : Json := .object [("configuration", encode r.configuration)]

def reader : RecordReader RegisterRequest :=
  RecordReader.done RegisterRequest.mk |>.defaulted "configuration" decode none

instance : Wire RegisterRequest := ⟨toJson, reader.read⟩

end RegisterRequest

namespace FetchRequest

def toJson (r : FetchRequest) : Json :=
  .object [("worker_id", encode r.workerId), ("request_id", encode r.requestId),
    ("payload_signature", encode r.signature)]

def reader : RecordReader FetchRequest :=
  RecordReader.done FetchRequest.mk
    |>.required "worker_id" decode
    |>.required "request_id" decode
    |>.required "payload_signature" decode

instance : Wire FetchRequest := ⟨toJson, reader.read⟩

end FetchRequest

namespace FetchAnswer

def toJson : FetchAnswer → Json
  | bucket b => .object [("type", .str "bucket"), ("bucket", encode b)]
  | checkAgainLater seconds =>
    .object [("type", .str "check_again_later"), ("after_secs", encode seconds)]
  | queueDepleted => .object [("type", .str "queue_depleted")]
  | refused reason => .object [("type", .str "worker_specific_error"), ("reason", encode reason)]

def ofJson (v : Json) : Decoded FetchAnswer := do
  let (name, rest) ← Json.tagged "type" Json.maxDepth v
  match name with
  | "bucket" => (RecordReader.done bucket |>.required "bucket" decode).read rest
  | "check_again_later" =>
    (RecordReader.done checkAgainLater |>.required "after_secs" decode).read rest
  | "queue_depleted" => Json.withoutFields queueDepleted rest
  | "worker_specific_error" => (RecordReader.done refused |>.required "reason" decode).read rest
  | _ => .error .mismatch

instance : Wire FetchAnswer := ⟨toJson, ofJson⟩

end FetchAnswer

namespace SubmitRequest

def toJson (r : SubmitRequest) : Json :=
  .object [("worker_id", encode r.workerId), ("request_id", encode r.requestId),
    ("payload_signature", encode r.signature), ("testing_result", encode r.result)]

def reader : RecordReader SubmitRequest :=
  RecordReader.done SubmitRequest.mk
    |>.required "worker_id" decode
    |>.required "request_id" decode
    |>.required "payload_signature" decode
    |>.required "testing_result" decode

instance : Wire SubmitRequest := ⟨toJson, reader.read⟩

end SubmitRequest

namespace SubmitAnswer

def toJson : SubmitAnswer → Json
  | accepted b retry =>
    .object [("status", .str "accepted"), ("bucket_id", encode b),
      ("retry_bucket_id", encode retry)]
  | ignored reason => .object [("status", .str "ignored"), ("reason", encode reason)]

def ofJson (v : Json) : Decoded SubmitAnswer := do
  let (name, rest) ← Json.tagged "status" Json.maxDepth v
  match name with
  | "accepted" =>
    (RecordReader.done accepted
      |>.required "bucket_id" decode
      |>.nullable "retry_bucket_id" decode).read rest
  | "ignored" => (RecordReader.done ignored |>.required "reason" decode).read rest
  | _ => .error .mismatch

instance : Wire SubmitAnswer := ⟨toJson, ofJson⟩

end SubmitAnswer

namespace ScheduleRequest

def toJson (r : ScheduleRequest) : Json :=
  .object [("job_id", encode r.jobId), ("priority", encode r.priority), ("tests", encode r.tests),
    ("strategy", encode r.strategy), ("worker_count", encode r.workerCount),
    ("build_artifacts", encode r.artifacts), ("execution_behavior", encode r.behavior),
    ("timeout_configuration", encode r.timeout), ("destination", encode r.destination)]

def reader : RecordReader ScheduleRequest :=
  RecordReader.done ScheduleRequest.mk
    |>.required "job_id" decode
    |>.defaulted "priority" decode 0
    |>.required "tests" decode
    |>.defaulted "strategy" decode .uniform
    |>.defaulted "worker_count" decode none
    |>.defaulted "build_artifacts" decode .empty
    |>.defaulted "execution_behavior" decode .empty
    |>.defaulted "timeout_configuration" decode .standard
    |>.defaulted "destination" decode .empty

instance : Wire ScheduleRequest := ⟨toJson, reader.read⟩

end ScheduleRequest

namespace ScheduleAnswer

def toJson (a : ScheduleAnswer) : Json :=
  .object [("job_id", encode a.jobId), ("bucket_count", encode a.bucketCount)]

def reader : RecordReader ScheduleAnswer :=
  RecordReader.done ScheduleAnswer.mk
    |>.required "job_id" decode
    |>.required "bucket_count" decode

instance : Wire ScheduleAnswer := ⟨toJson, reader.read⟩

end ScheduleAnswer

namespace Acknowledgement

def toJson (a : Acknowledgement) : Json := .object [("ok", encode a.ok)]

def reader : RecordReader Acknowledgement :=
  RecordReader.done Acknowledgement.mk |>.required "ok" decode

instance : Wire Acknowledgement := ⟨toJson, reader.read⟩

end Acknowledgement

namespace ProcessingAnswer

def toJson (a : ProcessingAnswer) : Json := .object [("workers", encode a.workers)]

def reader : RecordReader ProcessingAnswer :=
  RecordReader.done ProcessingAnswer.mk |>.required "workers" decode

instance : Wire ProcessingAnswer := ⟨toJson, reader.read⟩

end ProcessingAnswer

end TestQueue
