/-!
JSON as a tree. Objects keep their members in the order of the text, also repeated ones. Two leaves
stand for what a text can hold besides values: a literal that is well formed and yet has no value,
and the place where the text stops being JSON.
-/

namespace TestQueue

inductive Json where
  | null
  | bool (b : Bool)
  | int (n : Int)
  | float (x : Float)
  | str (s : String)
  | arr (items : List Json)
  | obj (members : List (Json × Json))
  /-- A number beyond the range of a double, or a string with half a surrogate pair. -/
  | unusable
  /-- Nothing of the text from here on was read. -/
  | broken
  deriving Inhabited

namespace Json

def object (members : List (String × Json)) : Json := obj (members.map fun m => (str m.1, m.2))

def ofFloat (x : Float) : Json := if x.isFinite then float x else null

mutual

def isIntact : Json → Bool
  | broken => false
  | arr items => areIntact items
  | obj members => areIntactMembers members
  | _ => true

def areIntact : List Json → Bool
  | [] => true
  | v :: rest => v.isIntact && areIntact rest

def areIntactMembers : List (Json × Json) → Bool
  | [] => true
  | (k, v) :: rest => k.isIntact && v.isIntact && areIntactMembers rest

end

mutual

/-- Whether the value can be taken in whole, with at most `depth` arrays and objects around each
other. -/
def isReadable (depth : Nat) : Json → Bool
  | broken => false
  | unusable => false
  | arr items => match depth with
    | 0 => false
    | depth + 1 => areReadable depth items
  | obj members => match depth with
    | 0 => false
    | depth + 1 => areReadableMembers depth members
  | _ => true

def areReadable (depth : Nat) : List Json → Bool
  | [] => true
  | v :: rest => v.isReadable depth && areReadable depth rest

def areReadableMembers (depth : Nat) : List (Json × Json) → Bool
  | [] => true
  | (k, v) :: rest => k.isReadable depth && v.isReadable depth && areReadableMembers depth rest

end

def member? (name : String) : Json → Option Json
  | obj members => (members.reverse.find? fun m => match m.1 with
      | str s => s = name
      | _ => false).map Prod.snd
  | _ => none

end Json

end TestQueue
