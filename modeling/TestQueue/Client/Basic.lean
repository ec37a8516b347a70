import TestQueue.Client.Call
import TestQueue.Net.Url

namespace TestQueue

open Net (Url)

structure Client where
  base : Url
  deriving DecidableEq

structure OutgoingRequest where
  method : Http.Method
  url : Url
  body : Option Json

namespace OutgoingRequest

def received (r : OutgoingRequest) : Http.Request where
  method := r.method
  target := String.ofList r.url.target
  contentType := r.body.map fun _ => "application/json"
  body := (r.body.map Json.print).getD ""

end OutgoingRequest

structure Network (σ : Type) where
  exchange : σ → OutgoingRequest → Option Http.Reply × σ

namespace Network

def silent : Network Unit := ⟨fun s _ => (none, s)⟩

end Network

namespace Client

def located {α : Type} : Except Net.UrlError α → Except ClientError α
  | .ok a => .ok a
  | .error e => .error (.url e)

def ofText (text : String) : Except ClientError Client := do
  let url ← located (Url.parse text)
  .ok ⟨url.asFolder⟩

def url (c : Client) (path : String) : Except ClientError Url := do
  let api ← located (c.base.join "api/v1/")
  located (api.join path)

def request (c : Client) (call : Call) : Except ClientError OutgoingRequest := do
  .ok ⟨call.method, ← c.url call.path, call.body?⟩

def outcome (call : Call) : Option Http.Reply → Except ClientError call.Value
  | some reply => call.value reply
  | none => .error .request

def perform {σ : Type} (c : Client) (net : Network σ) (s : σ) (call : Call) :
    Except ClientError call.Value × σ :=
  match c.request call with
  | .error e => (.error e, s)
  | .ok r =>
    let (reply, s) := net.exchange s r
    (outcome call reply, s)

end Client

end TestQueue
