import TestQueue.Kdl.Document
import TestQueue.Kdl.Text
import TestQueue.Numeric.Binary64

namespace TestQueue.Kdl

open TestQueue.Text (hexValue?)

def sign (s : List Char) : Bool × List Char :=
  match s with
  | '-' :: rest => (true, rest)
  | '+' :: rest => (false, rest)
  | _ => (false, s)

def digits? (isDigit : Char → Bool) (s : List Char) : Option (List Char × List Char) :=
  match s with
  | c :: _ =>
    if isDigit c then
      let all := s.takeWhile fun c => isDigit c || c = '_'
      some (all.filter (· ≠ '_'), s.drop all.length)
    else none
  | [] => none

def valueIn (radix : Nat) (digits : List Char) : Nat :=
  digits.foldl (fun n c => radix * n + (hexValue? c).getD 0) 0

/-- A run of digits has to fit an integer of 128 bits, in doubles too. -/
def isBounded (magnitude : Nat) : Bool := magnitude < 0x80000000000000000000000000000000

def integer? (negative : Bool) (magnitude : Nat) : Option Value :=
  if isBounded magnitude then some (.int (if negative then -magnitude else magnitude)) else none

def numeral? (s : List Char) : Option (List Char × List Char) :=
  (digits? Char.isDigit s).filter fun d => isBounded (valueIn 10 d.1)

def nearest (digits : Nat) (exponent : Int) : Float :=
  let size : Int := (toString digits).length
  if digits = 0 ∨ size + exponent < -330 then 0.0
  else if 310 < size + exponent then 1.0 / 0.0
  else Float.ofScientific digits (exponent < 0) exponent.natAbs

def exponent? (s : List Char) : Option (Option Int × List Char) :=
  match s with
  | c :: rest =>
    if c = 'e' ∨ c = 'E' then do
      let (negative, rest) := sign rest
      let (ds, rest) ← numeral? rest
      let n : Int := valueIn 10 ds
      return (some (if negative then -n else n), rest)
    else some (none, s)
  | [] => some (none, [])

def decimals? (s : List Char) : Option (Option (List Char) × List Char) :=
  match s with
  | '.' :: rest => (numeral? rest).map fun (ds, rest) => (some ds, rest)
  | _ => some (none, s)

def decimal? (negative : Bool) (s : List Char) : Option (Value × List Char) := do
  let (whole, s) ← numeral? s
  let (decimals, s) ← decimals? s
  let (exponent, s) ← exponent? s
  if decimals.isNone ∧ exponent.isNone then return (← integer? negative (valueIn 10 whole), s)
  else
    let ds := decimals.getD []
    let x := nearest (valueIn 10 (whole ++ ds)) (exponent.getD 0 - ds.length)
    return (.float (if negative then -x else x), s)

def radix? (negative : Bool) (radix : Nat) (s : List Char) : Option (Value × List Char) := do
  let isDigit (c : Char) : Bool := match hexValue? c with
    | some n => n < radix
    | none => false
  let (ds, s) ← digits? isDigit s
  return (← integer? negative (valueIn radix ds), s)

def number? (s : List Char) : Option (Value × List Char) :=
  let (negative, s) := sign s
  match s with
  | '0' :: c :: rest =>
    match c.toLower with
    | 'x' => radix? negative 16 rest
    | 'o' => radix? negative 8 rest
    | 'b' => radix? negative 2 rest
    | _ => decimal? negative s
  | _ => decimal? negative s

def keywords : List (String × Value) :=
  [("#true", .bool true), ("#false", .bool false), ("#null", .null), ("#inf", .float (1.0 / 0.0)),
    ("#-inf", .float (-1.0 / 0.0)), ("#nan", .float (0.0 / 0.0))]

def keyword? (s : List Char) : Option (Value × List Char) :=
  (keywords.find? fun k => k.1.toList.isPrefixOf s).map fun k => (k.2, s.drop k.1.length)

end TestQueue.Kdl
