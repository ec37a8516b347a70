import TestQueue.Json.Value
import TestQueue.Ordered
import TestQueue.Table

/-!
From JSON trees to values. A tree is looked at in the order of its text and the first fault counts.
A record may be an object, in any order and with further members, or the array of its fields in
order.
-/

namespace TestQueue

namespace Json

inductive Fault where
  | malformed
  | mismatch
  deriving DecidableEq, Repr

abbrev Decoded (α : Type) := Except Fault α

def fault : Json → Fault
  | unusable => .malformed
  | broken => .malformed
  | _ => .mismatch

def toText : Json → Decoded String
  | str s => .ok s
  | v => .error v.fault

def toBool : Json → Decoded Bool
  | bool b => .ok b
  | v => .error v.fault

def toNatBelow (bound : Nat) : Json → Decoded Nat
  | int n => if 0 ≤ n ∧ n.toNat < bound then .ok n.toNat else .error .mismatch
  | v => .error v.fault

def toFloat : Json → Decoded Float
  | float x => .ok x
  | int n => .ok (if n < 0 then -n.natAbs.toUInt64.toFloat else n.toNat.toUInt64.toFloat)
  | v => .error v.fault

def toList {α : Type} (item : Json → Decoded α) : Json → Decoded (List α)
  | arr items => items.mapM item
  | v => .error v.fault

def toOption {α : Type} (item : Json → Decoded α) : Json → Decoded (Option α)
  | null => .ok none
  | v => (item v).map some

def keyText : Json → Decoded String
  | str s => .ok s
  | _ => .error .malformed

def memberOf {α : Type} (item : Json → Decoded α) (m : Json × Json) : Decoded (String × α) := do
  let k ← keyText m.1
  let v ← item m.2
  return (k, v)

def toTable {α : Type} (item : Json → Decoded α) : Json → Decoded (Table String α)
  | obj members => (members.mapM (memberOf item)).map Table.ofList
  | v => .error v.fault

def toWord {α : Type} (value? : String → Option α) : Json → Decoded α
  | str s => match value? s with
    | some a => .ok a
    | none => .error .mismatch
  | obj ((k, v) :: rest) => do
    let s ← keyText k
    match value? s, v with
    | none, _ => .error .mismatch
    | some a, null => if rest.isEmpty then .ok a else .error .malformed
    | some _, v => .error v.fault
  | _ => .error .malformed

inductive Form where
  | object
  | array
  deriving DecidableEq, Repr

structure Absent (α : Type) where
  fromObject : Decoded α
  fromArray : Decoded α

namespace Absent

def refused {α : Type} : Absent α := ⟨.error .mismatch, .error .mismatch⟩

def default {α : Type} (a : α) : Absent α := ⟨.ok a, .ok a⟩

def onlyFromObject {α : Type} (a : α) : Absent α := ⟨.ok a, .error .mismatch⟩

def value {α : Type} (a : Absent α) : Form → Decoded α
  | .object => a.fromObject
  | .array => a.fromArray

end Absent

structure RecordReader (α : Type) where
  State : Type
  fields : List String
  start : State
  accept : String → Json → State → Decoded State
  finish : Form → State → Decoded α

namespace RecordReader

def done {α : Type} (a : α) : RecordReader α where
  State := Unit
  fields := []
  start := ()
  accept := fun _ _ s => .ok s
  finish := fun _ _ => .ok a

def field {α β : Type} (r : RecordReader (β → α)) (name : String) (item : Json → Decoded β)
    (absent : Absent β) : RecordReader α where
  State := r.State × Option β
  fields := r.fields ++ [name]
  start := (r.start, none)
  accept := fun n v s =>
    if n = name then
      match s.2 with
      | some _ => .error .mismatch
      | none => (item v).map fun b => (s.1, some b)
    else (r.accept n v s.1).map fun t => (t, s.2)
  finish := fun form s => do
    let f ← r.finish form s.1
    match s.2 with
    | some b => .ok (f b)
    | none => (absent.value form).map f

def required {α β : Type} (r : RecordReader (β → α)) (name : String)
    (item : Json → Decoded β) : RecordReader α :=
  r.field name item .refused

def defaulted {α β : Type} (r : RecordReader (β → α)) (name : String)
    (item : Json → Decoded β) (b : β) : RecordReader α :=
  r.field name item (.default b)

def nullable {α β : Type} (r : RecordReader (Option β → α)) (name : String)
    (item : Json → Decoded β) : RecordReader α :=
  r.field name (toOption item) (.onlyFromObject none)

def members {α : Type} (r : RecordReader α) : List (Json × Json) → r.State → Decoded r.State
  | [], s => .ok s
  | (k, v) :: rest, s => do
    let name ← keyText k
    if name ∈ r.fields then members r rest (← r.accept name v s)
    else if v.isIntact then members r rest s
    else .error .malformed

def elements {α : Type} (r : RecordReader α) :
    List String → List Json → r.State → Decoded r.State
  | _, [], s => .ok s
  | [], _ :: _, _ => .error .malformed
  | name :: names, v :: rest, s => do elements r names rest (← r.accept name v s)

def read {α : Type} (r : RecordReader α) : Json → Decoded α
  | .obj ms => do r.finish .object (← r.members ms r.start)
  | .arr items => do r.finish .array (← r.elements r.fields items r.start)
  | v => .error v.fault

end RecordReader

def splitTag (tag : String) : List (Json × Json) → Decoded (Option Json × List (Json × Json))
  | [] => .ok (none, [])
  | (k, v) :: rest => do
    let (found, others) ← splitTag tag rest
    if (← keyText k) = tag then
      if found.isSome then .error .mismatch else .ok (some v, others)
    else .ok (found, (k, v) :: others)

/-- The tag of a tagged value, and the value without it. The whole value is taken in first. -/
def tagged (tag : String) (depth : Nat) (v : Json) : Decoded (String × Json) :=
  if v.isReadable depth then
    match v with
    | .obj ms => do
      let (found, others) ← splitTag tag ms
      match found with
      | some name => return (← toText name, .obj others)
      | none => .error .mismatch
    | .arr (name :: items) => do return (← toText name, .arr items)
    | v => .error v.fault
  else .error .malformed

def withoutFields {α : Type} (a : α) : Json → Decoded α
  | .obj _ => .ok a
  | .arr [] => .ok a
  | _ => .error .mismatch

/-- How deep arrays and objects may be inside each other where a value is taken in whole. -/
def maxDepth : Nat := 127

end Json

class Wire (α : Type) where
  encode : α → Json
  decode : Json → Json.Decoded α

namespace Wire

instance : Wire String := ⟨.str, Json.toText⟩

instance : Wire Bool := ⟨.bool, Json.toBool⟩

instance : Wire Float := ⟨.ofFloat, Json.toFloat⟩

instance : Wire UInt32 :=
  ⟨fun n => .int n.toNat, fun v => (v.toNatBelow UInt32.size).map UInt32.ofNat⟩

instance : Wire UInt64 :=
  ⟨fun n => .int n.toNat, fun v => (v.toNatBelow UInt64.size).map UInt64.ofNat⟩

instance : Wire Nat := ⟨fun n => .int n, Json.toNatBelow UInt64.size⟩

variable {α : Type} [Wire α]

instance : Wire (Option α) :=
  ⟨fun | none => .null | some a => encode a, Json.toOption decode⟩

instance : Wire (List α) := ⟨fun l => .arr (l.map encode), Json.toList decode⟩

instance : Wire (Table String α) :=
  ⟨fun t => .object (t.bindings.map fun b => (b.1, encode b.2)), Json.toTable decode⟩

instance {key : α → String} : Wire (Ordered α key) :=
  ⟨fun s => .arr (s.items.map encode), fun v => (Json.toList decode v).map Ordered.ofList⟩

def optional (name : String) : Option α → List (String × Json)
  | none => []
  | some a => [(name, encode a)]

end Wire

end TestQueue
