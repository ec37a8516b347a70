import TestQueue.Client.Error
import TestQueue.Wire.Message

namespace TestQueue

open Wire (encode)

inductive Call where
  | version
  | register (worker : WorkerId) (configuration : Option WorkerConfiguration)
  | reportAlive (worker : WorkerId)
  | setBlocked (worker : WorkerId) (blocked : Bool)
  | listWorkers
  | fetch (request : FetchRequest)
  | submit (request : SubmitRequest)
  | processing
  | schedule (request : ScheduleRequest)
  | jobState (job : JobId)
  | jobResults (job : JobId)
  | deleteJob (job : JobId)
  deriving DecidableEq

namespace Call

def method : Call → Http.Method
  | version | listWorkers | processing | jobState _ | jobResults _ => .get
  | register _ _ | reportAlive _ | setBlocked _ _ | fetch _ | submit _ | schedule _ => .post
  | deleteJob _ => .delete

/-- The path below that of the interface. Identifiers stand in it as they are. -/
def path : Call → String
  | version => "version"
  | register w _ => "workers/" ++ w.text ++ "/register"
  | reportAlive w => "workers/" ++ w.text ++ "/alive"
  | setBlocked w true => "workers/" ++ w.text ++ "/block"
  | setBlocked w false => "workers/" ++ w.text ++ "/unblock"
  | listWorkers => "workers"
  | fetch _ => "buckets/fetch"
  | submit _ => "buckets/results"
  | processing => "buckets/processing"
  | schedule _ => "jobs"
  | jobState j => "jobs/" ++ j.text
  | jobResults j => "jobs/" ++ j.text ++ "/results"
  | deleteJob j => "jobs/" ++ j.text

def body? : Call → Option Json
  | register _ configuration => some (encode (⟨configuration⟩ : RegisterRequest))
  | fetch request => some (encode request)
  | submit request => some (encode request)
  | schedule request => some (encode request)
  | _ => none

abbrev Value : Call → Type
  | version => String
  | register _ _ => WorkerConfiguration
  | reportAlive _ => Unit
  | setBlocked _ _ => WorkerRecord
  | listWorkers => List WorkerRecord
  | fetch _ => FetchAnswer
  | submit _ => SubmitAnswer
  | processing => ProcessingAnswer
  | schedule _ => ScheduleAnswer
  | jobState _ => JobState
  | jobResults _ => JobResults
  | deleteJob _ => JobState

def value (reply : Http.Reply) : (call : Call) → Except ClientError call.Value
  | version => do
    let answer : VersionAnswer ← reply.value
    .ok answer.version
  | register _ _ => reply.value
  | reportAlive _ => do
    let _ : Acknowledgement ← reply.value
    .ok ()
  | setBlocked _ _ => reply.value
  | listWorkers => reply.value
  | fetch _ => reply.value
  | submit _ => reply.value
  | processing => reply.value
  | schedule _ => reply.value
  | jobState _ => reply.value
  | jobResults _ => reply.value
  | deleteJob _ => reply.value

def valueJson : (call : Call) → call.Value → Json
  | version, v => encode (show String from v)
  | register _ _, v => encode v
  | reportAlive _, _ => .null
  | setBlocked _ _, v => encode v
  | listWorkers, v => encode (show List WorkerRecord from v)
  | fetch _, v => encode v
  | submit _, v => encode v
  | processing, v => encode v
  | schedule _, v => encode v
  | jobState _, v => encode v
  | jobResults _, v => encode v
  | deleteJob _, v => encode v

end Call

end TestQueue
