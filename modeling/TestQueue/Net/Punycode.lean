/-!
Punycode: characters beyond ASCII as numbers, in the letters and digits of domain names. A number
tells how far to go from one insertion of a character to the next, where the place in the text
counts first and the character second.
-/

namespace TestQueue.Net.Punycode

def digitChar (n : Nat) : Char :=
  if n < 26 then Char.ofNat ('a'.toNat + n) else Char.ofNat ('0'.toNat + (n - 26))

def digitValue? (c : Char) : Option Nat :=
  if 'a' ≤ c ∧ c ≤ 'z' then some (c.toNat - 'a'.toNat)
  else if 'A' ≤ c ∧ c ≤ 'Z' then some (c.toNat - 'A'.toNat)
  else if c.isDigit then some (c.toNat - '0'.toNat + 26)
  else none

/-- Digits below the threshold end a number; `place` is 36 at its first digit and grows by 36. -/
def threshold (place bias : Nat) : Nat := min (max (place - bias) 1) 26

def settle (place delta : Nat) : Nat :=
  if 455 < delta then settle (place + 36) (delta / 35) else place + 36 * delta / (delta + 38)
termination_by delta
decreasing_by omega

def adapt (delta length : Nat) (first : Bool) : Nat :=
  let delta := if first then delta / 700 else delta / 2
  settle 0 (delta + delta / length)

def digits (bias place n : Nat) : List Char :=
  let t := threshold place bias
  if n < t then [digitChar n]
  else digitChar (t + (n - t) % (36 - t)) :: digits bias (place + 36) ((n - t) / (36 - t))
termination_by n
decreasing_by
  have ht : 1 ≤ threshold place bias := by unfold threshold; omega
  have := Nat.div_le_self (n - threshold place bias) (36 - threshold place bias)
  omega

structure Encoder where
  delta : Nat
  bias : Nat
  placed : Nat
  text : List Char

def Encoder.pass (basic point : Nat) (e : Encoder) (c : Char) : Encoder :=
  if c.toNat < point then { e with delta := e.delta + 1 }
  else if c.toNat = point then
    { delta := 0
      bias := adapt e.delta (e.placed + 1) (e.placed = basic)
      placed := e.placed + 1
      text := e.text ++ digits e.bias 36 e.delta }
  else e

def Encoder.insertAll (input : List Char) (basic : Nat) (s : Encoder × Nat) (point : Nat) :
    Encoder × Nat :=
  let e := { s.1 with delta := s.1.delta + (point - s.2) * (s.1.placed + 1) }
  let e := input.foldl (pass basic point) e
  ({ e with delta := e.delta + 1 }, point + 1)

def isBasic (c : Char) : Bool := c.toNat < 0x80

def encode (input : List Char) : List Char :=
  let basic := input.filter isBasic
  let points := ((input.filter (!isBasic ·)).map Char.toNat).eraseDups.mergeSort
  let start : Encoder := ⟨0, 72, basic.length, if basic.isEmpty then [] else basic ++ ['-']⟩
  (points.foldl (Encoder.insertAll input basic.length) (start, 0x80)).1.text

structure Decoder where
  text : List Char
  point : Nat
  index : Nat
  bias : Nat
  delta : Nat
  place : Nat
  weight : Nat

namespace Decoder

def starting (text : List Char) : Decoder := ⟨text, 0x80, 0, 72, 0, 36, 1⟩

def insert? (d : Decoder) (delta : Nat) : Option Decoder :=
  let length := d.text.length + 1
  let target := d.index + delta
  let point := d.point + target / length
  let index := target % length
  if point.isValidChar then
    some ⟨d.text.take index ++ Char.ofNat point :: d.text.drop index, point, index + 1,
      adapt delta length (d.text.all isBasic), 0, 36, 1⟩
  else none

def next? (d : Decoder) (c : Char) : Option Decoder := do
  let n ← digitValue? c
  let t := threshold d.place d.bias
  let delta := d.delta + n * d.weight
  if n < t then d.insert? delta
  else some { d with delta, place := d.place + 36, weight := d.weight * (36 - t) }

end Decoder

def parts (input : List Char) : List Char × List Char :=
  let tail := (input.reverse.takeWhile (· ≠ '-')).reverse
  (input.take (input.length - tail.length - 1), tail)

def decode? (input : List Char) : Option (List Char) :=
  let (basic, numbers) := parts input
  if basic.all isBasic then
    match numbers.foldlM Decoder.next? (.starting basic) with
    | some d => if d.place = 36 then some d.text else none
    | none => none
  else none

end TestQueue.Net.Punycode
