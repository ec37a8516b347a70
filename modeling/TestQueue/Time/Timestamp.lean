import TestQueue.Text.Blank
import TestQueue.Time.Instant

/-!
Instants as text, `2023-11-14T22:13:20.250Z`. Writing uses UTC and as few groups of three decimals
as are exact. Reading takes any offset, blanks between the parts, one or two digits for each part
but the year, and more decimals than are kept.
-/

namespace TestQueue.Time.Instant

def padded (width n : Nat) : String :=
  let digits := toString n
  String.ofList (List.replicate (width - digits.length) '0') ++ digits

def yearText (year : Int) : String :=
  if 0 ≤ year ∧ year ≤ 9999 then padded 4 year.toNat
  else (if year < 0 then "-" else "+") ++ padded 4 year.natAbs

def decimalsText (nano : Nat) : String :=
  if nano = 0 then ""
  else if nano % 1000000 = 0 then "." ++ padded 3 (nano / 1000000)
  else if nano % 1000 = 0 then "." ++ padded 6 (nano / 1000)
  else "." ++ padded 9 nano

def toText (t : Instant) : String :=
  let date := Date.ofDays (t.second / 86400)
  let clock := (t.second % 86400).toNat
  let second := clock % 60 + t.nano / 1000000000
  yearText date.year ++ "-" ++ padded 2 date.month ++ "-" ++ padded 2 date.day ++ "T" ++
    padded 2 (clock / 3600) ++ ":" ++ padded 2 (clock / 60 % 60) ++ ":" ++ padded 2 second ++
    decimalsText (t.nano % 1000000000) ++ "Z"

def skipBlanks (s : List Char) : List Char := s.dropWhile Text.isBlank

def digitsValue (digits : List Char) : Nat :=
  digits.foldl (fun n c => 10 * n + (c.toNat - '0'.toNat)) 0

def number? (most : Nat) (s : List Char) : Option (Nat × List Char) :=
  let digits := (s.take most).takeWhile Char.isDigit
  if digits.isEmpty then none else some (digitsValue digits, s.drop digits.length)

def part? (most : Nat) (s : List Char) : Option (Nat × List Char) := number? most (skipBlanks s)

def year? (s : List Char) : Option (Int × List Char) :=
  match skipBlanks s with
  | '-' :: rest => (number? rest.length rest).map fun (n, rest) => (-(n : Int), rest)
  | '+' :: rest => (number? rest.length rest).map fun (n, rest) => ((n : Int), rest)
  | s => (number? 4 s).map fun (n, rest) => ((n : Int), rest)

def mark? (c : Char) (s : List Char) : Option (List Char) :=
  match skipBlanks s with
  | d :: rest => if d = c then some rest else none
  | [] => none

def decimals? : List Char → Option (Nat × List Char)
  | '.' :: rest => do
    let (n, after) ← number? 9 rest
    let scale := 9 - (rest.length - after.length)
    return (n * Nat.pow 10 scale, after.dropWhile Char.isDigit)
  | s => some (0, s)

def twoDigits? (first : Char) : List Char → Option (Nat × List Char)
  | a :: b :: rest =>
    if a.isDigit ∧ a ≤ first ∧ b.isDigit then some (digitsValue [a, b], rest) else none
  | _ => none

def offset? : List Char → Option (Int × List Char)
  | 'Z' :: rest => some (0, rest)
  | 'z' :: rest => some (0, rest)
  | sign :: rest => do
    let negative ← if sign = '+' then some false
      else if sign = '-' ∨ sign = '\u2212' then some true else none
    let (hours, rest) ← twoDigits? '9' rest
    let (minutes, rest) ← twoDigits? '5' (rest.dropWhile fun c => c = ':' ∨ Text.isBlank c)
    let seconds : Int := hours * 3600 + minutes * 60
    if seconds < 86400 then some (if negative then -seconds else seconds, rest) else none
  | [] => none

def zone? (s : List Char) : Option (Int × List Char) :=
  match s with
  | a :: b :: c :: rest =>
    if [a, b, c].map Char.toUpper = ['U', 'T', 'C'] then some (0, rest) else offset? s
  | _ => offset? s

def separator? : List Char → Option (List Char)
  | 'T' :: rest => some rest
  | 't' :: rest => some rest
  | ' ' :: rest => some rest
  | _ => none

def ofParts? (date : Date) (hour minute second nano : Nat) (offset : Int) : Option Instant :=
  if date.isValid ∧ firstYear ≤ date.year ∧ date.year ≤ lastYear ∧
      hour ≤ 23 ∧ minute ≤ 59 ∧ second ≤ 60 then
    let (second, nano) := if second = 60 then (59, nano + 1000000000) else (second, nano)
    of? (date.toDays * 86400 + hour * 3600 + minute * 60 + second - offset) nano
  else none

def ofText? (s : String) : Option Instant := do
  let (year, s) ← year? s.toList
  let s ← mark? '-' s
  let (month, s) ← part? 2 s
  let s ← mark? '-' s
  let (day, s) ← part? 2 s
  let s ← separator? s
  let (hour, s) ← part? 2 s
  let s ← mark? ':' s
  let (minute, s) ← part? 2 s
  let s ← mark? ':' s
  let (second, s) ← part? 2 s
  let (nano, s) ← decimals? s
  let (offset, s) ← zone? (skipBlanks s)
  if (skipBlanks s).isEmpty then ofParts? ⟨year, month, day⟩ hour minute second nano offset
  else none

end TestQueue.Time.Instant
