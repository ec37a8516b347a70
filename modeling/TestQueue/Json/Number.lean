import TestQueue.Json.Value

/-!
Numbers of JSON texts. A number without point and exponent that fits 64 bits, signed for negative
ones, is an integer. Any other is a double, computed from the leading digits that fit 64 bits with
one multiplication or division by a power of ten, so that its last bit may be off.
-/

namespace TestQueue.Json.Number

def wordSize : Nat := UInt64.size

def digitValue (c : Char) : Nat := c.toNat - '0'.toNat

def powerOfTen (n : Nat) : Float := Float.ofScientific 1 false n

def scaleDown (x : Float) (n : Nat) : Float :=
  if n ≤ 308 then x / powerOfTen n
  else if x == 0.0 then x
  else scaleDown (x / powerOfTen 308) (n - 308)
termination_by n

def scaled? (significand : Nat) (exponent : Int) : Option Float :=
  let x := significand.toUInt64.toFloat
  if exponent < 0 then some (scaleDown x exponent.natAbs)
  else if exponent ≤ 308 then
    let y := x * powerOfTen exponent.toNat
    if y.isInf then none else some y
  else if x == 0.0 then some x
  else none

def ofFloat? (negative : Bool) : Option Float → Json
  | some x => .float (if negative then -x else x)
  | none => .unusable

def accumulate (significand taken : Nat) : List Char → Nat × Nat × List Char
  | [] => (significand, taken, [])
  | c :: rest =>
    let next := significand * 10 + digitValue c
    if next < wordSize then accumulate next (taken + 1) rest else (significand, taken, c :: rest)

def ofParts (negative : Bool) (whole : List Char) (decimals : Option (List Char))
    (exponent : Option (Bool × List Char)) : Json :=
  let (significand, _, skipped) := accumulate 0 0 whole
  if decimals.isNone ∧ exponent.isNone ∧ skipped.isEmpty ∧
      (¬ negative ∨ 0 < significand ∧ significand ≤ 0x8000000000000000) then
    .int (if negative then -significand else significand)
  else
    let (significand, taken, _) := accumulate significand 0 (decimals.getD [])
    let shift : Int := skipped.length - taken
    match exponent with
    | none => ofFloat? negative (scaled? significand shift)
    | some (down, digits) =>
      let amount := digits.foldl (fun n c => 10 * n + digitValue c) 0
      if amount < 0x80000000 then
        ofFloat? negative (scaled? significand (if down then shift - amount else shift + amount))
      else if significand ≠ 0 ∧ ¬ down then .unusable
      else ofFloat? negative (some 0.0)

def digits? (s : List Char) : Option (List Char × List Char) :=
  let digits := s.takeWhile Char.isDigit
  if digits.isEmpty then none else some (digits, s.drop digits.length)

def decimals? : List Char → Option (Option (List Char) × List Char)
  | '.' :: rest => (digits? rest).map fun (digits, rest) => (some digits, rest)
  | s => some (none, s)

def exponent? : List Char → Option (Option (Bool × List Char) × List Char)
  | c :: rest =>
    if c = 'e' ∨ c = 'E' then
      match rest with
      | '-' :: rest => (digits? rest).map fun (digits, rest) => (some (true, digits), rest)
      | '+' :: rest => (digits? rest).map fun (digits, rest) => (some (false, digits), rest)
      | _ => (digits? rest).map fun (digits, rest) => (some (false, digits), rest)
    else some (none, c :: rest)
  | [] => some (none, [])

def read? (s : List Char) : Option (Json × List Char) := do
  let (negative, s) := match s with
    | '-' :: rest => (true, rest)
    | _ => (false, s)
  let (whole, s) ← digits? s
  if whole.head? = some '0' ∧ whole.length ≠ 1 then none
  else do
    let (decimals, s) ← decimals? s
    let (exponent, s) ← exponent? s
    return (ofParts negative whole decimals exponent, s)

end TestQueue.Json.Number
