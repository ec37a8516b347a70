import TestQueue.Numeric.Binary64

/-!
Decimal texts of doubles. The digits are the shortest that read back as the same double, and of
those the nearest; where two are equally near, `Tie` decides. Two layouts: positional always, and
the one of JSON with an exponent for very large and very small numbers.
-/

namespace TestQueue

inductive Tie where
  | up
  | even
  deriving DecidableEq, Repr

/-- The number `digits * 10 ^ exponent`. -/
structure Decimal where
  digits : Nat
  exponent : Int
  deriving DecidableEq, Repr

namespace Decimal

/-- The multiple of `10 ^ e` nearest to the double `m * 2 ^ q`, if one of them rounds to it. -/
def onGrid? (tie : Tie) (m : Nat) (q : Int) (e : Int) : Option Nat :=
  let num := Nat.pow 2 (q - 2).toNat * Nat.pow 10 (-e).toNat
  let den := Nat.pow 2 (2 - q).toNat * Nat.pow 10 e.toNat
  let value := 4 * m * num
  let high := (4 * m + 2) * num
  let low := (if m = Binary64.hiddenBit ∧ -1074 < q then 4 * m - 1 else 4 * m - 2) * num
  let within (c : Nat) : Bool :=
    if m % 2 = 0 then low ≤ c * den && c * den ≤ high else low < c * den && c * den < high
  let floor := value / den
  let below := value - floor * den
  let above := (floor + 1) * den - value
  match within floor, within (floor + 1) with
  | false, false => none
  | true, false => some floor
  | false, true => some (floor + 1)
  | true, true =>
    if below < above then some floor
    else if above < below then some (floor + 1)
    else match tie with
      | .up => some (floor + 1)
      | .even => some (floor + floor % 2)

def search (tie : Tie) (m : Nat) (q : Int) : Nat → Int → Decimal
  | 0, e => ⟨0, e⟩
  | fuel + 1, e =>
    match onGrid? tie m q e with
    | some c => ⟨c, e⟩
    | none => search tie m q fuel (e - 1)

def shortest (tie : Tie) (m : Nat) (q : Int) : Decimal :=
  if m = 0 then ⟨0, 0⟩
  else search tie m q 24 (((m.log2 : Int) + q + 1) * 30103 / 100000 + 1)

def zeros (n : Nat) : String := String.ofList (List.replicate n '0')

def positional (d : Decimal) : String :=
  let text := toString d.digits
  let point := text.length + d.exponent
  if 0 ≤ d.exponent then
    if d.digits = 0 then text else text ++ zeros d.exponent.toNat
  else if 0 < point then
    String.ofList (text.toList.take point.toNat) ++ "." ++
      String.ofList (text.toList.drop point.toNat)
  else "0." ++ zeros (-point).toNat ++ text

def compact (d : Decimal) : String :=
  let text := toString d.digits
  let point := text.length + d.exponent
  if d.digits = 0 then "0.0"
  else if 0 ≤ d.exponent ∧ point ≤ 16 then positional d ++ ".0"
  else if -5 < point ∧ point ≤ 16 then positional d
  else
    let rest := String.ofList (text.toList.drop 1)
    String.ofList (text.toList.take 1) ++ (if rest.isEmpty then "" else "." ++ rest) ++
      "e" ++ toString (point - 1)

end Decimal

namespace Binary64

def signed (negative : Bool) (s : String) : String := if negative then "-" ++ s else s

def positional (x : Float) : String :=
  match parts? x with
  | some p => signed p.negative (Decimal.shortest .up p.significand p.exponent).positional
  | none => if x.isNaN then "NaN" else signed (x < 0.0) "inf"

def compact (x : Float) : String :=
  match parts? x with
  | some p => signed p.negative (Decimal.shortest .even p.significand p.exponent).compact
  | none => "null"

end Binary64

end TestQueue
