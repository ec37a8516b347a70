import TestQueue.Json.Number
import TestQueue.Text.Hex

/-!
Reading JSON texts. Reading never fails: where the text stops being JSON, the tree ends in `broken`
and nothing after that place is looked at.
-/

namespace TestQueue.Json

open Text (hexValue?)

abbrev Read (α : Type) := α × Option (List Char)

def isSpace (c : Char) : Bool := c = ' ' || c = '\n' || c = '\t' || c = '\r'

def skipSpace (s : List Char) : List Char := s.dropWhile isSpace

def stopped : Read Json := (broken, none)

def unit? : List Char → Option (Nat × List Char)
  | a :: b :: c :: d :: rest => do
    let value ← [a, b, c, d].foldlM (fun n c => (hexValue? c).map (16 * n + ·)) 0
    return (value, rest)
  | _ => none

def simpleEscape? : Char → Option Char
  | '"' => some '"'
  | '\\' => some '\\'
  | '/' => some '/'
  | 'b' => some '\x08'
  | 'f' => some '\x0c'
  | 'n' => some '\n'
  | 'r' => some '\r'
  | 't' => some '\t'
  | _ => none

/-- The rest of a string literal; its characters, last first, are lost with the first half of a
surrogate pair that stands alone. -/
def stringRest (fuel : Nat) (chars : Option (List Char)) (s : List Char) : Read Json :=
  match fuel, s with
  | 0, _ => stopped
  | _, [] => stopped
  | _ + 1, '"' :: rest =>
    (match chars with
      | some cs => str (String.ofList cs.reverse)
      | none => unusable, some rest)
  | fuel + 1, '\\' :: 'u' :: rest =>
    match unit? rest with
    | none => stopped
    | some (high, rest) =>
      if high < 0xD800 ∨ 0xDFFF < high then
        stringRest fuel (chars.map (Char.ofNat high :: ·)) rest
      else
        match rest with
        | '\\' :: 'u' :: rest' =>
          match unit? rest' with
          | none => stopped
          | some (low, after) =>
            if high ≤ 0xDBFF ∧ 0xDC00 ≤ low ∧ low ≤ 0xDFFF then
              let code := 0x10000 + (high - 0xD800) * 0x400 + (low - 0xDC00)
              stringRest fuel (chars.map (Char.ofNat code :: ·)) after
            else stringRest fuel none rest
        | _ => stringRest fuel none rest
  | fuel + 1, '\\' :: c :: rest =>
    match simpleEscape? c with
    | none => stopped
    | some d => stringRest fuel (chars.map (d :: ·)) rest
  | fuel + 1, c :: rest =>
    if c.toNat < 0x20 then stopped else stringRest fuel (chars.map (c :: ·)) rest

def word (expected : List Char) (v : Json) (s : List Char) : Read Json :=
  if expected.isPrefixOf s then (v, some (s.drop expected.length)) else stopped

def literal (fuel : Nat) (s : List Char) : Read Json :=
  match s with
  | '"' :: rest => stringRest fuel (some []) rest
  | 'n' :: rest => word ['u', 'l', 'l'] null rest
  | 't' :: rest => word ['r', 'u', 'e'] (bool true) rest
  | 'f' :: rest => word ['a', 'l', 's', 'e'] (bool false) rest
  | _ => match Number.read? s with
    | some (v, rest) => (v, some rest)
    | none => stopped

def key (fuel : Nat) (s : List Char) : Read Json :=
  match s with
  | '"' :: rest =>
    match stringRest fuel (some []) rest with
    | (k, some rest) =>
      match skipSpace rest with
      | ':' :: rest => (k, some rest)
      | _ => (k, none)
    | (k, none) => (k, none)
  | _ => stopped

mutual

def value (fuel : Nat) (s : List Char) : Read Json :=
  match fuel with
  | 0 => stopped
  | fuel + 1 =>
    match skipSpace s with
    | '[' :: rest =>
      match skipSpace rest with
      | ']' :: rest => (arr [], some rest)
      | _ => let (items, rest) := items fuel rest
        (arr items, rest)
    | '\x7b' :: rest =>
      match skipSpace rest with
      | '\x7d' :: rest => (obj [], some rest)
      | _ => let (members, rest) := members fuel rest
        (obj members, rest)
    | s => literal fuel s

def items (fuel : Nat) (s : List Char) : Read (List Json) :=
  match fuel with
  | 0 => ([broken], none)
  | fuel + 1 =>
    match value fuel s with
    | (v, none) => ([v], none)
    | (v, some rest) =>
      match skipSpace rest with
      | ']' :: rest => ([v], some rest)
      | ',' :: rest => let (vs, rest) := items fuel rest
        (v :: vs, rest)
      | _ => ([v, broken], none)

def members (fuel : Nat) (s : List Char) : Read (List (Json × Json)) :=
  match fuel with
  | 0 => ([(broken, broken)], none)
  | fuel + 1 =>
    match key fuel (skipSpace s) with
    | (k, none) => ([(k, broken)], none)
    | (k, some rest) =>
      match value fuel rest with
      | (v, none) => ([(k, v)], none)
      | (v, some rest) =>
        match skipSpace rest with
        | '\x7d' :: rest => ([(k, v)], some rest)
        | ',' :: rest => let (ms, rest) := members fuel rest
          ((k, v) :: ms, rest)
        | _ => ([(k, v), (broken, broken)], none)

end

def read (text : String) : Json × Bool :=
  let s := text.toList
  match value (2 * s.length + 2) s with
  | (v, some rest) => (v, (skipSpace rest).isEmpty)
  | (v, none) => (v, false)

def parse? (text : String) : Option Json :=
  match read text with
  | (v, true) => if v.isReadable 127 then some v else none
  | (_, false) => none

end TestQueue.Json
