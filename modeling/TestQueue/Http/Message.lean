import TestQueue.Json.Printer

namespace TestQueue.Http

inductive Method where
  | get
  | head
  | post
  | delete
  | other (name : String)
  deriving DecidableEq, Repr

namespace Method

def ofName : String → Method
  | "GET" => get
  | "HEAD" => head
  | "POST" => post
  | "DELETE" => delete
  | name => other name

def name : Method → String
  | get => "GET"
  | head => "HEAD"
  | post => "POST"
  | delete => "DELETE"
  | other name => name

end Method

structure Request where
  method : Method
  target : String
  contentType : Option String
  body : String
  deriving DecidableEq

structure Response where
  status : Nat
  body : Option Json

namespace Response

def text (r : Response) : String := (r.body.map Json.print).getD ""

end Response

structure Reply where
  status : Nat
  text : String
  deriving DecidableEq

namespace Reply

def isSuccess (r : Reply) : Bool := 200 ≤ r.status && r.status < 300

end Reply

def Response.asReply (r : Response) : Reply := ⟨r.status, r.text⟩

end TestQueue.Http
