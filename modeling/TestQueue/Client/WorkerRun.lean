import TestQueue.Client.Basic

/-!
The work of a worker from its start to its end, one errand after the other: it registers, then
fetches buckets, executes them and submits their results.
-/

namespace TestQueue

structure WorkerOptions where
  expectedVersion : Option String
  configuration : Option WorkerConfiguration
  deriving DecidableEq

structure WorkerSummary where
  executed : Nat
  ignored : Nat
  deriving DecidableEq, Repr

structure Session where
  configuration : WorkerConfiguration
  signature : PayloadSignature
  deriving DecidableEq

inductive Errand where
  | askVersion (expected : String)
  | register
  | fetch (session : Session) (request : RequestId)
  | execute (session : Session) (request : RequestId) (bucket : Bucket)
  | submit (session : Session) (request : RequestId) (result : BucketResult)
  deriving DecidableEq

namespace Errand

abbrev Ending : Errand → Type
  | askVersion _ => Except ClientError String
  | register => Except ClientError WorkerConfiguration
  | fetch _ _ => Except ClientError FetchAnswer
  | execute _ _ _ => Option BucketResult
  | submit _ _ _ => Except ClientError SubmitAnswer

end Errand

structure WorkerRun where
  worker : WorkerId
  options : WorkerOptions
  ids : IdSource
  summary : WorkerSummary
  errand : Errand

inductive Progress where
  | running (run : WorkerRun)
  | stopped (outcome : Except ClientError WorkerSummary) (ids : IdSource)

namespace WorkerRun

def starting (worker : WorkerId) (options : WorkerOptions) (ids : IdSource) : WorkerRun where
  worker := worker
  options := options
  ids := ids
  summary := ⟨0, 0⟩
  errand :=
    match options.expectedVersion with
    | some expected => .askVersion expected
    | none => .register

def stop (w : WorkerRun) (outcome : Except ClientError WorkerSummary) : Progress :=
  .stopped outcome w.ids

def fail (w : WorkerRun) (e : ClientError) : Progress := w.stop (.error e)

def fetchNew (w : WorkerRun) (cancelled : Bool) (session : Session) : Progress :=
  if cancelled then w.stop (.ok w.summary)
  else
    let (id, ids) := w.ids.draw
    .running { w with ids, errand := .fetch session ⟨id⟩ }

/-- Fetches once more under the identifier of a fetch that got no answer: the server may have handed
out a bucket under it. -/
def fetchAgain (w : WorkerRun) (cancelled : Bool) (session : Session) (request : RequestId) :
    Progress :=
  if cancelled then w.stop (.ok w.summary)
  else .running { w with errand := .fetch session request }

def afterRegistration (w : WorkerRun) (cancelled : Bool) :
    Except ClientError WorkerConfiguration → Progress
  | .error e => w.fail e
  | .ok c =>
    match c.signature with
    | some signature => w.fetchNew cancelled ⟨c, signature⟩
    | none => w.fail (.rejected "registration returned no payload signature")

def afterFetch (w : WorkerRun) (cancelled : Bool) (session : Session) (request : RequestId) :
    Except ClientError FetchAnswer → Progress
  | .ok (.bucket b) => .running { w with errand := .execute session request b }
  | .ok (.checkAgainLater _) => w.fetchNew cancelled session
  | .ok .queueDepleted => w.stop (.ok w.summary)
  | .ok (.refused reason) => w.fail (.rejected reason)
  | .error e =>
    if e.status? = some 401 then .running { w with errand := .register }
    else w.fetchAgain cancelled session request

def counting (s : WorkerSummary) : SubmitAnswer → WorkerSummary
  | .accepted _ _ => { s with executed := s.executed + 1 }
  | .ignored _ => ⟨s.executed + 1, s.ignored + 1⟩

def afterSubmission (w : WorkerRun) (cancelled : Bool) (session : Session) :
    Except ClientError SubmitAnswer → Progress
  | .error e => w.fail e
  | .ok answer => { w with summary := counting w.summary answer }.fetchNew cancelled session

def afterExecution (w : WorkerRun) (session : Session) (request : RequestId) (b : Bucket)
    (result : Option BucketResult) : Progress :=
  .running { w with errand := .submit session request (result.getD (BucketResult.lost b)) }

def afterErrand (w : WorkerRun) (cancelled : Bool) : (e : Errand) → e.Ending → Progress
  | .askVersion expected, ending =>
    match (ending : Except ClientError String) with
    | .error e => w.fail e
    | .ok actual =>
      if actual = expected then .running { w with errand := .register }
      else w.fail (.versionMismatch expected actual)
  | .register, ending => w.afterRegistration cancelled ending
  | .fetch session request, ending => w.afterFetch cancelled session request ending
  | .execute session request b, ending => w.afterExecution session request b ending
  | .submit session _ _, ending => w.afterSubmission cancelled session ending

def step (w : WorkerRun) (cancelled : Bool) (ending : w.errand.Ending) : Progress :=
  w.afterErrand cancelled w.errand ending

end WorkerRun

structure Surroundings (σ : Type) where
  client : Client
  network : Network σ
  execute : Bucket → WorkerConfiguration → Option BucketResult
  cancelled : σ → Bool

namespace WorkerRun

variable {σ : Type}

def doErrand (env : Surroundings σ) (w : WorkerId) (options : WorkerOptions) (s : σ) :
    (e : Errand) → e.Ending × σ
  | .askVersion _ => env.client.perform env.network s .version
  | .register => env.client.perform env.network s (.register w options.configuration)
  | .fetch session request =>
    env.client.perform env.network s (.fetch ⟨w, request, session.signature⟩)
  | .execute session _ b => (env.execute b session.configuration, s)
  | .submit session request result =>
    env.client.perform env.network s (.submit ⟨w, request, session.signature, result⟩)

def run (env : Surroundings σ) (errands : Nat) (w : WorkerRun) (s : σ) : Progress × σ :=
  match errands with
  | 0 => (.running w, s)
  | errands + 1 =>
    let (ending, s) := doErrand env w.worker w.options s w.errand
    match w.step (env.cancelled s) ending with
    | .running w => run env errands w s
    | .stopped outcome ids => (.stopped outcome ids, s)

end WorkerRun

end TestQueue
