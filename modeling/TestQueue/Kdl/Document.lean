namespace TestQueue.Kdl

inductive Value where
  | str (s : String)
  | int (n : Int)
  | float (x : Float)
  | bool (b : Bool)
  | null
  deriving DecidableEq

structure Entry where
  name : Option String
  value : Value
  deriving DecidableEq

inductive Node where
  | mk (name : String) (entries : List Entry) (children : Option (List Node))

abbrev Document := List Node

namespace Value

def toText? : Value → Option String
  | str s => some s
  | _ => none

def toInt? : Value → Option Int
  | int n => some n
  | _ => none

end Value

namespace Node

def name : Node → String
  | mk n _ _ => n

def entries : Node → List Entry
  | mk _ es _ => es

def children : Node → List Node
  | mk _ _ cs => cs.getD []

def property? (n : Node) (name : String) : Option Value :=
  (n.entries.reverse.find? fun e => e.name = some name).map Entry.value

def argument? (n : Node) : Option Value :=
  (n.entries.find? fun e => e.name.isNone).map Entry.value

end Node

end TestQueue.Kdl
