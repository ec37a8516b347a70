import Mathlib.Tactic
import TestQueue.Proofs.SocketAddress
import TestQueue.Proofs.Wire.Message
import TestQueue.Wire.Config

namespace TestQueue

open Json (tagged_object)
open Json.RecordReader (Reads)
open Wire (Lawful RoundTrips roundTrips roundTrips_float)

instance : Lawful Net.SocketAddress where
  roundTrips a := by
    change Wire.decodeSocketAddress (.str a.toText) = .ok a
    simp only [Wire.decodeSocketAddress, Json.toText, bind, Except.bind,
      Net.SocketAddress.ofText?_toText]

lemma AlivenessPolicy.roundTrips_of_isFinite {p : AlivenessPolicy}
    (h : p.toleranceFactor.isFinite = true) : RoundTrips p :=
  (Reads.done AlivenessPolicy.mk
    |>.required "default_report_alive_interval_secs" (roundTrips p.defaultInterval)
    |>.required "tolerance_factor" (roundTrips_float h)
    |>.required "give_up_after_secs" (roundTrips p.giveUpAfter)
    |>.required "sweep_interval_secs" (roundTrips p.sweepInterval)).read_eq

instance : Lawful DepletionPolicy := ⟨fun p => by cases p <;> rfl⟩

lemma TerminationPolicy.ofJson_toJson (p : TerminationPolicy) (depth : ℕ) :
    TerminationPolicy.ofJson (depth + 1) p.toJson = .ok p := by
  cases p with
  | stayAlive => rfl
  | afterBeingIdle seconds =>
    have hr : (afterBeingIdle seconds).toJson.isReadable (depth + 1) = true := rfl
    simp only [ofJson, toJson, tagged_object hr (by simp)]
    exact (Reads.done afterBeingIdle |>.required "period_secs" (roundTrips seconds)).read_eq

instance : Lawful TerminationPolicy := ⟨fun p => p.ofJson_toJson 126⟩

instance : Lawful WorkerDefinition where
  roundTrips d := (Reads.done WorkerDefinition.mk
    |>.required "worker_id" (roundTrips d.workerId)
    |>.required "configuration" (roundTrips d.configuration)).read_eq

lemma ServerConfig.roundTrips_of_isFinite {c : ServerConfig}
    (h : c.aliveness.toleranceFactor.isFinite = true) : RoundTrips c :=
  (Reads.done ServerConfig.mk
    |>.required "listen" (roundTrips c.listen)
    |>.required "version" (roundTrips c.version)
    |>.required "aliveness" (AlivenessPolicy.roundTrips_of_isFinite h)
    |>.required "check_again_after_secs" (roundTrips c.checkAgainAfter)
    |>.required "worker_policy" (roundTrips c.depletion)
    |>.field (by decide) (c.termination.ofJson_toJson 125)
    |>.required "termination_poll_secs" (roundTrips c.terminationPoll)
    |>.required "workers" (roundTrips c.workers)).read_eq

namespace Wire

/-- What one side writes is what the other side reads. Of the doubles those are meant that JSON has a
number for, and of the counts those that fit into 64 bits. -/
theorem protocol_roundTrips :
    -- identifiers, times and addresses
    (∀ i : WorkerId, RoundTrips i) ∧ (∀ i : BucketId, RoundTrips i) ∧
    (∀ i : JobId, RoundTrips i) ∧ (∀ i : RequestId, RoundTrips i) ∧
    (∀ i : PayloadSignature, RoundTrips i) ∧ (∀ t : Time.Instant, RoundTrips t) ∧
    (∀ a : Net.SocketAddress, RoundTrips a) ∧
    -- tests and buckets
    (∀ t : TestEntry, RoundTrips t) ∧ (∀ a : BuildArtifacts, RoundTrips a) ∧
    (∀ b : ExecutionBehavior, RoundTrips b) ∧ (∀ t : TestTimeout, RoundTrips t) ∧
    (∀ d : Destination, RoundTrips d) ∧ (∀ b : Bucket, RoundTrips b) ∧
    (∀ h : HandOut, RoundTrips h) ∧
    -- results and jobs
    (∀ r : TestRun, r.IsFinite → RoundTrips r) ∧
    (∀ o : TestOutcome, o.IsFinite → RoundTrips o) ∧
    (∀ r : BucketResult, r.IsFinite → RoundTrips r) ∧
    (∀ s : TestStatus, RoundTrips s) ∧
    (∀ s : TestSummary, s.attempts < UInt64.size → RoundTrips s) ∧
    (∀ r : JobResults, (∀ b ∈ r.results, b.IsFinite) →
      (∀ s ∈ r.tests, s.attempts < UInt64.size) → RoundTrips r) ∧
    (∀ s : JobState, s.pendingBuckets < UInt64.size → s.dispatchedBuckets < UInt64.size →
      s.finishedBuckets < UInt64.size → RoundTrips s) ∧
    (∀ j : PrioritizedJob, j.sequence < UInt64.size → RoundTrips j) ∧
    -- workers
    (∀ c : WorkerConfiguration, RoundTrips c) ∧ (∀ s : Liveness, RoundTrips s) ∧
    (∀ r : WorkerRecord, RoundTrips r) ∧ (∀ rs : List WorkerRecord, RoundTrips rs) ∧
    -- requests and answers
    (∀ a : VersionAnswer, RoundTrips a) ∧ (∀ r : RegisterRequest, RoundTrips r) ∧
    (∀ r : FetchRequest, RoundTrips r) ∧ (∀ a : FetchAnswer, RoundTrips a) ∧
    (∀ r : SubmitRequest, r.result.IsFinite → RoundTrips r) ∧
    (∀ a : SubmitAnswer, RoundTrips a) ∧ (∀ s : SplitStrategy, RoundTrips s) ∧
    (∀ r : ScheduleRequest, RoundTrips r) ∧
    (∀ a : ScheduleAnswer, a.bucketCount < UInt64.size → RoundTrips a) ∧
    (∀ a : Acknowledgement, RoundTrips a) ∧ (∀ a : ProcessingAnswer, RoundTrips a) ∧
    -- settings
    (∀ p : AlivenessPolicy, p.toleranceFactor.isFinite = true → RoundTrips p) ∧
    (∀ p : DepletionPolicy, RoundTrips p) ∧ (∀ p : TerminationPolicy, RoundTrips p) ∧
    (∀ d : WorkerDefinition, RoundTrips d) ∧
    (∀ c : ServerConfig, c.aliveness.toleranceFactor.isFinite = true → RoundTrips c) := by
  refine ⟨roundTrips, roundTrips, roundTrips, roundTrips, roundTrips, roundTrips, roundTrips, ?_⟩
  refine ⟨roundTrips, roundTrips, roundTrips, roundTrips, roundTrips, roundTrips, roundTrips, ?_⟩
  refine ⟨fun r => TestRun.roundTrips_of_isFinite, fun o => TestOutcome.roundTrips_of_isFinite,
    fun r => BucketResult.roundTrips_of_isFinite, roundTrips,
    fun s => TestSummary.roundTrips_of_lt, fun r => JobResults.roundTrips_of_isFinite,
    fun s => JobState.roundTrips_of_lt, fun j => PrioritizedJob.roundTrips_of_lt, ?_⟩
  refine ⟨roundTrips, roundTrips, roundTrips, roundTrips, ?_⟩
  refine ⟨roundTrips, roundTrips, roundTrips, roundTrips,
    fun r => SubmitRequest.roundTrips_of_isFinite, roundTrips, roundTrips, roundTrips,
    fun a => ScheduleAnswer.roundTrips_of_lt, roundTrips, roundTrips, ?_⟩
  exact ⟨fun p => AlivenessPolicy.roundTrips_of_isFinite, roundTrips, roundTrips, roundTrips,
    fun c => ServerConfig.roundTrips_of_isFinite⟩

/-- A failed run that started in a leap second. -/
def leapRun : TestRun where
  succeeded := false
  durationSeconds := 2.5
  exceptions := ["assertion failed"]
  hostName := "host-1"
  startedAt := ⟨1483228799, 1250000000, by decide, by decide, by decide⟩

def leapResult : BucketResult :=
  ⟨⟨"bucket-1"⟩, [⟨⟨"LoginTests", "testLogin", some 18446744073709551615⟩, [leapRun]⟩,
    .lost ⟨"LoginTests", "testLogout", none⟩]⟩

lemma leapRun_isFinite : leapRun.IsFinite := by
  unfold TestRun.IsFinite leapRun
  decide

lemma leapResult_isFinite : leapResult.IsFinite := by
  simp [BucketResult.IsFinite, leapResult, TestOutcome.IsFinite, TestOutcome.lost,
    leapRun_isFinite]

theorem protocol_roundTrips_leapResult :
    RoundTrips leapRun ∧ RoundTrips leapResult ∧
    RoundTrips (⟨⟨"worker-1"⟩, ⟨"request-1"⟩, ⟨"secret"⟩, leapResult⟩ : SubmitRequest) ∧
    RoundTrips (⟨⟨"job-1"⟩, [leapResult],
      [⟨⟨"LoginTests", "testLogout", none⟩, .retrying, 3⟩]⟩ : JobResults) ∧
    RoundTrips (⟨⟨"job-1"⟩, 7, 1, 2, 18446744073709551615, false, true⟩ : JobState) ∧
    RoundTrips (⟨⟨"job-1"⟩, 7, 18446744073709551615⟩ : PrioritizedJob) ∧
    RoundTrips (⟨⟨"job-1"⟩, 12⟩ : ScheduleAnswer) ∧
    RoundTrips ServerConfig.standard := by
  obtain ⟨-, -, -, -, -, -, -, -, -, -, -, -, -, -, hrun, -, hresult, -, -, hresults, hstate, hjob,
    -, -, -, -, -, -, -, -, hsubmit, -, -, -, hschedule, -, -, -, -, -, -, hconfig⟩ :=
    protocol_roundTrips
  refine ⟨hrun _ leapRun_isFinite, hresult _ leapResult_isFinite,
    hsubmit _ leapResult_isFinite, hresults _ ?_ ?_, hstate _ (by decide) (by decide) (by decide),
    hjob _ (by decide), hschedule _ (by decide), hconfig _ (by decide)⟩
  · simpa using leapResult_isFinite
  · simp [UInt64.size]

end Wire

end TestQueue
