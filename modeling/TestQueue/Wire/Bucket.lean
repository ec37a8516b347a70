import TestQueue.Json.Decode
import TestQueue.Time.Timestamp
import TestQueue.Work.Job
import TestQueue.Work.Split

namespace TestQueue

open Json (Decoded RecordReader)
open Time (Instant)

namespace Wire

instance : Wire WorkerId := ⟨fun i => .str i.text, fun v => v.toText.map WorkerId.mk⟩

instance : Wire BucketId := ⟨fun i => .str i.text, fun v => v.toText.map BucketId.mk⟩

instance : Wire JobId := ⟨fun i => .str i.text, fun v => v.toText.map JobId.mk⟩

instance : Wire RequestId := ⟨fun i => .str i.text, fun v => v.toText.map RequestId.mk⟩

instance : Wire PayloadSignature :=
  ⟨fun i => .str i.text, fun v => v.toText.map PayloadSignature.mk⟩

def decodeInstant (v : Json) : Decoded Instant := do
  match Instant.ofText? (← v.toText) with
  | some t => .ok t
  | none => .error .mismatch

instance : Wire Instant := ⟨fun t => .str t.toText, decodeInstant⟩

end Wire

open Wire (encode decode optional)

namespace TestEntry

def toJson (t : TestEntry) : Json :=
  .object ([("class_name", encode t.className), ("method_name", encode t.methodName)] ++
    optional "case_id" t.caseId)

def reader : RecordReader TestEntry :=
  RecordReader.done TestEntry.mk
    |>.required "class_name" decode
    |>.required "method_name" decode
    |>.defaulted "case_id" decode none

instance : Wire TestEntry := ⟨toJson, reader.read⟩

end TestEntry

namespace BuildArtifacts

def toJson (a : BuildArtifacts) : Json :=
  .object [("test_bundle", encode a.testBundle), ("app_bundle", encode a.appBundle),
    ("runner", encode a.runner), ("additional_apps", encode a.additionalApps)]

def reader : RecordReader BuildArtifacts :=
  RecordReader.done BuildArtifacts.mk
    |>.required "test_bundle" decode
    |>.defaulted "app_bundle" decode none
    |>.defaulted "runner" decode none
    |>.defaulted "additional_apps" decode []

instance : Wire BuildArtifacts := ⟨toJson, reader.read⟩

end BuildArtifacts

namespace ExecutionBehavior

def toJson (b : ExecutionBehavior) : Json :=
  .object [("number_of_retries", encode b.numberOfRetries), ("environment", encode b.environment)]

def reader : RecordReader ExecutionBehavior :=
  RecordReader.done ExecutionBehavior.mk
    |>.required "number_of_retries" decode
    |>.defaulted "environment" decode .empty

instance : Wire ExecutionBehavior := ⟨toJson, reader.read⟩

end ExecutionBehavior

namespace TestTimeout

def toJson (t : TestTimeout) : Json :=
  .object [("single_test_maximum_duration_secs", encode t.singleTestSeconds)]

def reader : RecordReader TestTimeout :=
  RecordReader.done TestTimeout.mk |>.required "single_test_maximum_duration_secs" decode

instance : Wire TestTimeout := ⟨toJson, reader.read⟩

end TestTimeout

namespace Destination

def toJson (d : Destination) : Json :=
  .object [("device_type", encode d.deviceType), ("runtime", encode d.runtime)]

def reader : RecordReader Destination :=
  RecordReader.done Destination.mk
    |>.required "device_type" decode
    |>.required "runtime" decode

instance : Wire Destination := ⟨toJson, reader.read⟩

end Destination

namespace Bucket

def toJson (b : Bucket) : Json :=
  .object [("bucket_id", encode b.bucketId), ("job_id", encode b.jobId),
    ("priority", encode b.priority), ("test_entries", encode b.tests),
    ("build_artifacts", encode b.artifacts), ("execution_behavior", encode b.behavior),
    ("timeout_configuration", encode b.timeout), ("destination", encode b.destination),
    ("remaining_retries", encode b.remainingRetries)]

def reader : RecordReader Bucket :=
  RecordReader.done Bucket.mk
    |>.required "bucket_id" decode
    |>.required "job_id" decode
    |>.required "priority" decode
    |>.required "test_entries" decode
    |>.required "build_artifacts" decode
    |>.required "execution_behavior" decode
    |>.required "timeout_configuration" decode
    |>.required "destination" decode
    |>.required "remaining_retries" decode

instance : Wire Bucket := ⟨toJson, reader.read⟩

end Bucket

namespace SplitStrategy

def name : SplitStrategy → String
  | individual => "individual"
  | uniform => "uniform"
  | progressive => "progressive"

def ofName? : String → Option SplitStrategy
  | "individual" => some individual
  | "uniform" => some uniform
  | "progressive" => some progressive
  | _ => none

instance : Wire SplitStrategy := ⟨fun s => .str s.name, Json.toWord ofName?⟩

end SplitStrategy

namespace TestRun

def toJson (r : TestRun) : Json :=
  .object [("succeeded", encode r.succeeded), ("duration_secs", encode r.durationSeconds),
    ("exceptions", encode r.exceptions), ("host_name", encode r.hostName),
    ("started_at", encode r.startedAt)]

def reader : RecordReader TestRun :=
  RecordReader.done TestRun.mk
    |>.required "succeeded" decode
    |>.required "duration_secs" decode
    |>.defaulted "exceptions" decode []
    |>.required "host_name" decode
    |>.required "started_at" decode

instance : Wire TestRun := ⟨toJson, reader.read⟩

end TestRun

namespace TestOutcome

def toJson (o : TestOutcome) : Json :=
  .object [("test_entry", encode o.test), ("run_results", encode o.runs)]

def reader : RecordReader TestOutcome :=
  RecordReader.done TestOutcome.mk
    |>.required "test_entry" decode
    |>.defaulted "run_results" decode []

instance : Wire TestOutcome := ⟨toJson, reader.read⟩

end TestOutcome

namespace BucketResult

def toJson (r : BucketResult) : Json :=
  .object [("bucket_id", encode r.bucketId), ("unfiltered_results", encode r.outcomes)]

def reader : RecordReader BucketResult :=
  RecordReader.done BucketResult.mk
    |>.required "bucket_id" decode
    |>.required "unfiltered_results" decode

instance : Wire BucketResult := ⟨toJson, reader.read⟩

end BucketResult

namespace PrioritizedJob

def toJson (j : PrioritizedJob) : Json :=
  .object [("job_id", encode j.jobId), ("priority", encode j.priority),
    ("sequence", encode j.sequence)]

def reader : RecordReader PrioritizedJob :=
  RecordReader.done PrioritizedJob.mk
    |>.required "job_id" decode
    |>.required "priority" decode
    |>.required "sequence" decode

instance : Wire PrioritizedJob := ⟨toJson, reader.read⟩

end PrioritizedJob

namespace TestStatus

def name : TestStatus → String
  | passed => "passed"
  | retrying => "retrying"
  | permanentlyFailed => "permanently_failed"

def ofName? : String → Option TestStatus
  | "passed" => some passed
  | "retrying" => some retrying
  | "permanently_failed" => some permanentlyFailed
  | _ => none

instance : Wire TestStatus := ⟨fun s => .str s.name, Json.toWord ofName?⟩

end TestStatus

namespace TestSummary

def toJson (s : TestSummary) : Json :=
  .object [("test_entry", encode s.test), ("status", encode s.status),
    ("attempts", encode s.attempts)]

def reader : RecordReader TestSummary :=
  RecordReader.done TestSummary.mk
    |>.required "test_entry" decode
    |>.required "status" decode
    |>.required "attempts" decode

instance : Wire TestSummary := ⟨toJson, reader.read⟩

end TestSummary

namespace JobResults

def toJson (r : JobResults) : Json :=
  .object [("job_id", encode r.jobId), ("testing_results", encode r.results),
    ("tests", encode r.tests)]

def reader : RecordReader JobResults :=
  RecordReader.done JobResults.mk
    |>.required "job_id" decode
    |>.required "testing_results" decode
    |>.required "tests" decode

instance : Wire JobResults := ⟨toJson, reader.read⟩

end JobResults

namespace JobState

def toJson (s : JobState) : Json :=
  .object [("job_id", encode s.jobId), ("priority", encode s.priority),
    ("pending_buckets", encode s.pendingBuckets),
    ("dispatched_buckets", encode s.dispatchedBuckets),
    ("finished_buckets", encode s.finishedBuckets), ("is_deleted", encode s.isDeleted),
    ("is_completed", encode s.isCompleted)]

def reader : RecordReader JobState :=
  RecordReader.done JobState.mk
    |>.required "job_id" decode
    |>.required "priority" decode
    |>.required "pending_buckets" decode
    |>.required "dispatched_buckets" decode
    |>.required "finished_buckets" decode
    |>.required "is_deleted" decode
    |>.required "is_completed" decode

instance : Wire JobState := ⟨toJson, reader.read⟩

end JobState

end TestQueue
