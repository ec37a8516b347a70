import TestQueue.Json.Decode
import TestQueue.Json.Printer
import TestQueue.Json.Reader

namespace TestQueue.Wire

variable {α : Type} [Wire α]

def parse (text : String) : Json.Decoded α := do
  let (v, complete) := Json.read text
  let a ← decode v
  if complete then .ok a else .error .malformed

def print (a : α) : String := (encode a).print

end TestQueue.Wire
