import TestQueue.Http.Message
import TestQueue.Json.Reader
import TestQueue.Net.Host
import TestQueue.Wire.Text

namespace TestQueue

inductive ClientError where
  | request
  | url (reason : Net.UrlError)
  | api (status : Nat) (message : String)
  | versionMismatch (expected actual : String)
  | rejected (reason : String)
  deriving DecidableEq

namespace ClientError

def message? : ClientError → Option String
  | request => none
  | url reason => some ("invalid url: " ++ reason.message)
  | api status message => some ("queue server returned " ++ toString status ++ ": " ++ message)
  | versionMismatch expected actual =>
    some ("queue server version " ++ actual ++ " does not match expected " ++ expected)
  | rejected reason => some ("queue server refused to hand out work: " ++ reason)

def status? : ClientError → Option Nat
  | api status _ => some status
  | _ => none

end ClientError

namespace Http.Reply

def complaint (r : Reply) : String :=
  match (Json.parse? r.text).bind (Json.member? "error") with
  | some (.str message) => message
  | _ => r.text

def value {α : Type} [Wire α] (r : Reply) : Except ClientError α :=
  if r.isSuccess then
    match Wire.parse r.text with
    | .ok a => .ok a
    | .error _ => .error .request
  else .error (.api r.status r.complaint)

end Http.Reply

end TestQueue
