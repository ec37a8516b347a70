import TestQueue.Http.MediaType
import TestQueue.Http.Route
import TestQueue.Wire.Answer
import TestQueue.Wire.Text

namespace TestQueue

open Time (Instant)
open Wire (encode)

namespace QueueError

def status : QueueError → Nat
  | unknownJob _ | unknownBucket _ | unknownWorker _ => 404
  | jobDeleted _ | workerLost _ => 409
  | workerNotAllowed _ => 403
  | signatureMismatch => 401
  | unexpectedTest _ _ | invalidConfiguration _ _ | zeroWorkers => 400

end QueueError

namespace Http

namespace Request

def maxBody : Nat := 2 * 1024 * 1024

def announcesJson (r : Request) : Bool :=
  match r.contentType.bind MediaType.ofText? with
  | some m => m.isJson
  | none => false

def read {α : Type} [Wire α] (r : Request) : Except Refusal α :=
  if !r.announcesJson then .error .notAnnouncedAsJson
  else if maxBody < r.body.utf8ByteSize then .error .tooLarge
  else
    match Wire.parse r.body with
    | .ok a => .ok a
    | .error .malformed => .error .notJson
    | .error .mismatch => .error .unexpectedBody

def command? (r : Request) : Except Refusal (Option Command) := do
  match ← r.operation with
  | .health => .ok none
  | .version => .ok (some .version)
  | .register w =>
    let body : RegisterRequest ← r.read
    .ok (some (.register w body.configuration))
  | .reportAlive w => .ok (some (.reportAlive w))
  | .setBlocked w blocked => .ok (some (.setBlocked w blocked))
  | .listWorkers => .ok (some .listWorkers)
  | .workersByStatus => .ok (some .workersByStatus)
  | .worker w => .ok (some (.worker w))
  | .fetch => .ok (some (.fetch (← r.read)))
  | .submit => .ok (some (.submit (← r.read)))
  | .processing => .ok (some .processing)
  | .schedule => .ok (some (.schedule (← r.read)))
  | .jobState j => .ok (some (.jobState j))
  | .jobResults j => .ok (some (.jobResults j))
  | .deleteJob j => .ok (some (.deleteJob j))

end Request

namespace Response

def healthy : Response := ⟨200, some (.object [("status", .str "ok")])⟩

def refused (refusal : Refusal) : Response := ⟨refusal.status, none⟩

def failed (e : QueueError) : Response := ⟨e.status, some (.object [("error", .str e.message)])⟩

def answered : Answer → Response
  | .alive _ => ⟨200, some (encode (⟨true⟩ : Acknowledgement))⟩
  | a => ⟨200, some a.toJson⟩

def withoutBody (r : Response) : Response := { r with body := none }

end Response

end Http

namespace Dispatcher

open Http (Request Response)

def respond (d : Dispatcher) (now : Instant) (r : Request) : Response × Dispatcher :=
  match r.command? with
  | .error refusal => (.refused refusal, d)
  | .ok none => (.healthy, d)
  | .ok (some command) =>
    match d.perform now command with
    | (.ok answer, d) => (.answered answer, d)
    | (.error e, d) => (.failed e, d)

def serve (d : Dispatcher) (now : Instant) (r : Request) : Response × Dispatcher :=
  let (response, d) := d.respond now r
  (if r.method = .head then response.withoutBody else response, d)

end Dispatcher

end TestQueue
