import Mathlib.Tactic
import TestQueue.Proofs.Timestamp
import TestQueue.Proofs.Wire.Value
import TestQueue.Wire.Bucket

namespace TestQueue

open Json.RecordReader (Reads)
open Wire (Lawful RoundTrips roundTrips roundTrips_option roundTrips_list roundTrips_float
  roundTrips_nat)

instance : Lawful WorkerId := ⟨fun _ => rfl⟩

instance : Lawful BucketId := ⟨fun _ => rfl⟩

instance : Lawful JobId := ⟨fun _ => rfl⟩

instance : Lawful RequestId := ⟨fun _ => rfl⟩

instance : Lawful PayloadSignature := ⟨fun _ => rfl⟩

instance : Lawful Time.Instant where
  roundTrips t := by
    change Wire.decodeInstant (.str t.toText) = .ok t
    simp only [Wire.decodeInstant, Json.toText, bind, Except.bind, Time.Instant.ofText?_toText]

instance : Lawful TestEntry where
  roundTrips t := (Reads.done TestEntry.mk
    |>.required "class_name" (roundTrips t.className)
    |>.required "method_name" (roundTrips t.methodName)
    |>.optional "case_id" (roundTrips_option fun n _ => roundTrips n)).read_eq

instance : Lawful BuildArtifacts where
  roundTrips a := (Reads.done BuildArtifacts.mk
    |>.required "test_bundle" (roundTrips a.testBundle)
    |>.defaulted "app_bundle" (roundTrips_option fun s _ => roundTrips s)
    |>.defaulted "runner" (roundTrips_option fun s _ => roundTrips s)
    |>.defaulted "additional_apps" (roundTrips a.additionalApps)).read_eq

instance : Lawful ExecutionBehavior where
  roundTrips b := (Reads.done ExecutionBehavior.mk
    |>.required "number_of_retries" (roundTrips b.numberOfRetries)
    |>.defaulted "environment" (roundTrips b.environment)).read_eq

instance : Lawful TestTimeout where
  roundTrips t := (Reads.done TestTimeout.mk
    |>.required "single_test_maximum_duration_secs" (roundTrips t.singleTestSeconds)).read_eq

instance : Lawful Destination where
  roundTrips d := (Reads.done Destination.mk
    |>.required "device_type" (roundTrips d.deviceType)
    |>.required "runtime" (roundTrips d.runtime)).read_eq

instance : Lawful Bucket where
  roundTrips b := (Reads.done Bucket.mk
    |>.required "bucket_id" (roundTrips b.bucketId)
    |>.required "job_id" (roundTrips b.jobId)
    |>.required "priority" (roundTrips b.priority)
    |>.required "test_entries" (roundTrips b.tests)
    |>.required "build_artifacts" (roundTrips b.artifacts)
    |>.required "execution_behavior" (roundTrips b.behavior)
    |>.required "timeout_configuration" (roundTrips b.timeout)
    |>.required "destination" (roundTrips b.destination)
    |>.required "remaining_retries" (roundTrips b.remainingRetries)).read_eq

instance : Lawful SplitStrategy := ⟨fun s => by cases s <;> rfl⟩

instance : Lawful TestStatus := ⟨fun s => by cases s <;> rfl⟩

/-- JSON has no number for an infinity or for what is not a number. -/
def TestRun.IsFinite (r : TestRun) : Prop := r.durationSeconds.isFinite = true

def TestOutcome.IsFinite (o : TestOutcome) : Prop := ∀ r ∈ o.runs, r.IsFinite

def BucketResult.IsFinite (r : BucketResult) : Prop := ∀ o ∈ r.outcomes, o.IsFinite

lemma TestRun.roundTrips_of_isFinite {r : TestRun} (h : r.IsFinite) : RoundTrips r :=
  (Reads.done TestRun.mk
    |>.required "succeeded" (roundTrips r.succeeded)
    |>.required "duration_secs" (roundTrips_float h)
    |>.defaulted "exceptions" (roundTrips r.exceptions)
    |>.required "host_name" (roundTrips r.hostName)
    |>.required "started_at" (roundTrips r.startedAt)).read_eq

lemma TestOutcome.roundTrips_of_isFinite {o : TestOutcome} (h : o.IsFinite) : RoundTrips o :=
  (Reads.done TestOutcome.mk
    |>.required "test_entry" (roundTrips o.test)
    |>.defaulted "run_results"
      (roundTrips_list fun r hr => TestRun.roundTrips_of_isFinite (h r hr))).read_eq

lemma BucketResult.roundTrips_of_isFinite {r : BucketResult} (h : r.IsFinite) : RoundTrips r :=
  (Reads.done BucketResult.mk
    |>.required "bucket_id" (roundTrips r.bucketId)
    |>.required "unfiltered_results"
      (roundTrips_list fun o ho => TestOutcome.roundTrips_of_isFinite (h o ho))).read_eq

lemma PrioritizedJob.roundTrips_of_lt {j : PrioritizedJob} (h : j.sequence < UInt64.size) :
    RoundTrips j :=
  (Reads.done PrioritizedJob.mk
    |>.required "job_id" (roundTrips j.jobId)
    |>.required "priority" (roundTrips j.priority)
    |>.required "sequence" (roundTrips_nat h)).read_eq

lemma TestSummary.roundTrips_of_lt {s : TestSummary} (h : s.attempts < UInt64.size) :
    RoundTrips s :=
  (Reads.done TestSummary.mk
    |>.required "test_entry" (roundTrips s.test)
    |>.required "status" (roundTrips s.status)
    |>.required "attempts" (roundTrips_nat h)).read_eq

lemma JobResults.roundTrips_of_isFinite {r : JobResults} (h : ∀ b ∈ r.results, b.IsFinite)
    (hn : ∀ s ∈ r.tests, s.attempts < UInt64.size) : RoundTrips r :=
  (Reads.done JobResults.mk
    |>.required "job_id" (roundTrips r.jobId)
    |>.required "testing_results"
      (roundTrips_list fun b hb => BucketResult.roundTrips_of_isFinite (h b hb))
    |>.required "tests"
      (roundTrips_list fun s hs => TestSummary.roundTrips_of_lt (hn s hs))).read_eq

lemma JobState.roundTrips_of_lt {s : JobState} (hp : s.pendingBuckets < UInt64.size)
    (hd : s.dispatchedBuckets < UInt64.size) (hf : s.finishedBuckets < UInt64.size) :
    RoundTrips s :=
  (Reads.done JobState.mk
    |>.required "job_id" (roundTrips s.jobId)
    |>.required "priority" (roundTrips s.priority)
    |>.required "pending_buckets" (roundTrips_nat hp)
    |>.required "dispatched_buckets" (roundTrips_nat hd)
    |>.required "finished_buckets" (roundTrips_nat hf)
    |>.required "is_deleted" (roundTrips s.isDeleted)
    |>.required "is_completed" (roundTrips s.isCompleted)).read_eq

end TestQueue
