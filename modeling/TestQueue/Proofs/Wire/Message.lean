import Mathlib.Tactic
import TestQueue.Proofs.Wire.Work
import TestQueue.Wire.Message

/-!
Workers, requests and answers are read back from their JSON form. The answers of several kinds are
taken in whole before their tag is looked at, so they may not be nested too deeply.
-/

namespace TestQueue

open Json (isReadable_arr isReadable_object tagged_object)
open Json.RecordReader (Reads)
open Wire (Lawful RoundTrips encode roundTrips roundTrips_option roundTrips_nat)

instance : Lawful WorkerConfiguration where
  roundTrips c := (Reads.done WorkerConfiguration.mk
    |>.required "execution_behavior" (roundTrips c.behavior)
    |>.required "timeout_configuration" (roundTrips c.timeout)
    |>.required "report_alive_interval_secs" (roundTrips c.aliveInterval)
    |>.optional "payload_signature" (roundTrips_option fun s _ => roundTrips s)).read_eq

instance : Lawful Liveness := ⟨fun s => by cases s <;> rfl⟩

instance : Lawful WorkerRecord where
  roundTrips r := (Reads.done WorkerRecord.mk
    |>.required "worker_id" (roundTrips r.workerId)
    |>.required "status" (roundTrips r.status)
    |>.required "blocked" (roundTrips r.blocked)
    |>.nullable "last_heartbeat" (roundTrips_option fun t _ => roundTrips t)
    |>.nullable "silent_since" (roundTrips_option fun t _ => roundTrips t)
    |>.required "bucket_ids_being_processed" (roundTrips r.processing)
    |>.nullable "configuration" (roundTrips_option fun c _ => roundTrips c)).read_eq

instance : Lawful HandOut where
  roundTrips h := (Reads.done HandOut.mk
    |>.required "bucket" (roundTrips h.bucket)
    |>.required "worker_id" (roundTrips h.workerId)
    |>.required "request_id" (roundTrips h.requestId)
    |>.required "dequeued_at" (roundTrips h.handedOutAt)).read_eq

instance : Lawful VersionAnswer where
  roundTrips a := (Reads.done VersionAnswer.mk
    |>.required "version" (roundTrips a.version)).read_eq

instance : Lawful RegisterRequest where
  roundTrips r := (Reads.done RegisterRequest.mk
    |>.defaulted "configuration" (roundTrips_option fun c _ => roundTrips c)).read_eq

instance : Lawful FetchRequest where
  roundTrips r := (Reads.done FetchRequest.mk
    |>.required "worker_id" (roundTrips r.workerId)
    |>.required "request_id" (roundTrips r.requestId)
    |>.required "payload_signature" (roundTrips r.signature)).read_eq

lemma SubmitRequest.roundTrips_of_isFinite {r : SubmitRequest} (h : r.result.IsFinite) :
    RoundTrips r :=
  (Reads.done SubmitRequest.mk
    |>.required "worker_id" (roundTrips r.workerId)
    |>.required "request_id" (roundTrips r.requestId)
    |>.required "payload_signature" (roundTrips r.signature)
    |>.required "testing_result" (BucketResult.roundTrips_of_isFinite h)).read_eq

instance : Lawful ScheduleRequest where
  roundTrips r := (Reads.done ScheduleRequest.mk
    |>.required "job_id" (roundTrips r.jobId)
    |>.defaulted "priority" (roundTrips r.priority)
    |>.required "tests" (roundTrips r.tests)
    |>.defaulted "strategy" (roundTrips r.strategy)
    |>.defaulted "worker_count" (roundTrips_option fun n _ => roundTrips n)
    |>.defaulted "build_artifacts" (roundTrips r.artifacts)
    |>.defaulted "execution_behavior" (roundTrips r.behavior)
    |>.defaulted "timeout_configuration" (roundTrips r.timeout)
    |>.defaulted "destination" (roundTrips r.destination)).read_eq

lemma ScheduleAnswer.roundTrips_of_lt {a : ScheduleAnswer} (h : a.bucketCount < UInt64.size) :
    RoundTrips a :=
  (Reads.done ScheduleAnswer.mk
    |>.required "job_id" (roundTrips a.jobId)
    |>.required "bucket_count" (roundTrips_nat h)).read_eq

instance : Lawful Acknowledgement where
  roundTrips a := (Reads.done Acknowledgement.mk
    |>.required "ok" (roundTrips a.ok)).read_eq

instance : Lawful ProcessingAnswer where
  roundTrips a := (Reads.done ProcessingAnswer.mk
    |>.required "workers" (roundTrips a.workers)).read_eq

section

variable {α : Type} [Wire α] (depth : ℕ)

@[simp] lemma isReadable_string (s : String) : (encode s).isReadable depth = true := rfl

@[simp] lemma isReadable_uint32 (n : UInt32) : (encode n).isReadable depth = true := rfl

@[simp] lemma isReadable_uint64 (n : UInt64) : (encode n).isReadable depth = true := rfl

@[simp] lemma isReadable_jobId (i : JobId) : (encode i).isReadable depth = true := rfl

@[simp] lemma isReadable_bucketId (i : BucketId) : (encode i).isReadable depth = true := rfl

variable {depth}

lemma isReadable_option (a? : Option α) (h : ∀ a : α, (encode a).isReadable depth = true) :
    (encode a?).isReadable depth = true := by
  cases a? with
  | none => rfl
  | some a => exact h a

lemma isReadable_list (l : List α) (h : ∀ a : α, (encode a).isReadable depth = true) :
    (encode l).isReadable (depth + 1) = true :=
  isReadable_arr fun v hv => by
    obtain ⟨a, -, rfl⟩ := List.mem_map.1 hv
    exact h a

lemma isReadable_table (t : Table String α) (h : ∀ a : α, (encode a).isReadable depth = true) :
    (encode t).isReadable (depth + 1) = true :=
  isReadable_object fun m hm => by
    obtain ⟨b, -, rfl⟩ := List.mem_map.1 hm
    exact h b.2

end

lemma TestEntry.isReadable (t : TestEntry) (depth : ℕ) :
    (encode t).isReadable (depth + 1) = true := by
  obtain ⟨className, methodName, _ | caseId⟩ := t <;> rfl

lemma BuildArtifacts.isReadable (a : BuildArtifacts) (depth : ℕ) :
    (encode a).isReadable (depth + 2) = true := by
  refine isReadable_object ?_
  simp only [List.forall_mem_cons, isReadable_string, true_and]
  exact ⟨isReadable_option _ fun s => rfl, isReadable_option _ fun s => rfl,
    isReadable_list _ fun s => rfl, by simp⟩

lemma ExecutionBehavior.isReadable (b : ExecutionBehavior) (depth : ℕ) :
    (encode b).isReadable (depth + 2) = true := by
  refine isReadable_object ?_
  simp only [List.forall_mem_cons, isReadable_uint32, true_and]
  exact ⟨isReadable_table _ fun s => rfl, by simp⟩

lemma Bucket.isReadable (b : Bucket) (depth : ℕ) : (encode b).isReadable (depth + 3) = true := by
  have htests := isReadable_list b.tests fun t => t.isReadable depth
  have htimeout : (encode b.timeout).isReadable (depth + 2) = true := rfl
  have hdestination : (encode b.destination).isReadable (depth + 2) = true := rfl
  refine isReadable_object ?_
  simp only [List.forall_mem_cons, isReadable_bucketId, isReadable_jobId, isReadable_uint32,
    htests, b.artifacts.isReadable depth, b.behavior.isReadable depth, htimeout, hdestination,
    true_and]
  simp

instance : Lawful FetchAnswer where
  roundTrips a := by
    change FetchAnswer.ofJson a.toJson = .ok a
    cases a with
    | bucket b =>
      have hr : (FetchAnswer.bucket b).toJson.isReadable Json.maxDepth = true :=
        isReadable_object <| by
          simp only [List.forall_mem_cons, b.isReadable 123, true_and]
          exact ⟨rfl, by simp⟩
      simp only [FetchAnswer.ofJson, FetchAnswer.toJson, tagged_object hr (by simp)]
      exact (Reads.done FetchAnswer.bucket |>.required "bucket" (roundTrips b)).read_eq
    | checkAgainLater seconds =>
      have hr : (FetchAnswer.checkAgainLater seconds).toJson.isReadable Json.maxDepth = true := rfl
      simp only [FetchAnswer.ofJson, FetchAnswer.toJson, tagged_object hr (by simp)]
      exact (Reads.done FetchAnswer.checkAgainLater
        |>.required "after_secs" (roundTrips seconds)).read_eq
    | queueDepleted => rfl
    | refused reason =>
      have hr : (FetchAnswer.refused reason).toJson.isReadable Json.maxDepth = true := rfl
      simp only [FetchAnswer.ofJson, FetchAnswer.toJson, tagged_object hr (by simp)]
      exact (Reads.done FetchAnswer.refused |>.required "reason" (roundTrips reason)).read_eq

instance : Lawful SubmitAnswer where
  roundTrips a := by
    change SubmitAnswer.ofJson a.toJson = .ok a
    cases a with
    | accepted b retry =>
      have hr : (SubmitAnswer.accepted b retry).toJson.isReadable Json.maxDepth = true := by
        cases retry <;> rfl
      simp only [SubmitAnswer.ofJson, SubmitAnswer.toJson, tagged_object hr (by simp)]
      exact (Reads.done SubmitAnswer.accepted
        |>.required "bucket_id" (roundTrips b)
        |>.nullable "retry_bucket_id" (roundTrips_option fun b _ => roundTrips b)).read_eq
    | ignored reason =>
      have hr : (SubmitAnswer.ignored reason).toJson.isReadable Json.maxDepth = true := rfl
      simp only [SubmitAnswer.ofJson, SubmitAnswer.toJson, tagged_object hr (by simp)]
      exact (Reads.done SubmitAnswer.ignored |>.required "reason" (roundTrips reason)).read_eq

end TestQueue
