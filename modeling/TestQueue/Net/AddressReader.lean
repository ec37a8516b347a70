import TestQueue.Net.Address

/-!
Reading addresses at the start of a text. Each reader returns the text that it leaves.
-/

namespace TestQueue.Net.AddressReader

def digit? (radix : Nat) (c : Char) : Option Nat :=
  let n :=
    if c.isDigit then c.toNat - '0'.toNat
    else if 'a' ≤ c ∧ c ≤ 'z' then c.toNat - 'a'.toNat + 10
    else if 'A' ≤ c ∧ c ≤ 'Z' then c.toNat - 'A'.toNat + 10
    else radix
  if n < radix then some n else none

def digits (radix : Nat) : List Char → Nat → Nat → Nat × Nat × List Char
  | [], value, count => (value, count, [])
  | c :: rest, value, count =>
    match digit? radix c with
    | some n => digits radix rest (value * radix + n) (count + 1)
    | none => (value, count, c :: rest)

def number? (bound : Nat) (s : List Char) : Option (Nat × List Char) :=
  let (value, count, rest) := digits 10 s 0 0
  if count ≠ 0 ∧ value < bound then some (value, rest) else none

def char? (c : Char) : List Char → Option (List Char)
  | d :: rest => if d = c then some rest else none
  | [] => none

def octet? (s : List Char) : Option (UInt8 × List Char) :=
  let (value, count, rest) := digits 10 s 0 0
  if count = 0 ∨ 3 < count ∨ 255 < value ∨ 1 < count ∧ s.head? = some '0' then none
  else some (value.toUInt8, rest)

def ipv4? (s : List Char) : Option (Ipv4 × List Char) := do
  let (a, s) ← octet? s
  let (b, s) ← octet? (← char? '.' s)
  let (c, s) ← octet? (← char? '.' s)
  let (d, s) ← octet? (← char? '.' s)
  return (⟨a, b, c, d⟩, s)

def group? (s : List Char) : Option (UInt16 × List Char) :=
  let (value, count, rest) := digits 16 s 0 0
  if count = 0 ∨ 4 < count then none else some (value.toUInt16, rest)

def halves (ip : Ipv4) : List UInt16 :=
  [ip.a.toUInt16 * 256 + ip.b.toUInt16, ip.c.toUInt16 * 256 + ip.d.toUInt16]

/-- Up to `limit` groups with colons between them, and whether they end in an IPv4 address, which
takes the place of two. -/
def groups (limit : Nat) (first : Bool) (s : List Char) : List UInt16 × Bool × List Char :=
  match limit with
  | 0 => ([], false, s)
  | limit + 1 =>
    let start := if first then some s else char? ':' s
    match (if limit = 0 then none else start.bind ipv4?), start.bind group? with
    | some (ip, rest), _ => (halves ip, true, rest)
    | none, some (g, rest) =>
      let (gs, embedded, rest) := groups limit false rest
      (g :: gs, embedded, rest)
    | none, none => ([], false, s)

def ipv6? (s : List Char) : Option (Ipv6 × List Char) :=
  let (head, embedded, rest) := groups 8 true s
  if h : head.length = 8 then some (⟨head, h⟩, rest)
  else if embedded then none
  else do
    let rest ← char? ':' (← char? ':' rest)
    let (tail, _, rest) := groups (7 - head.length) true rest
    let all := head ++ List.replicate (8 - head.length - tail.length) 0 ++ tail
    if h : all.length = 8 then some (⟨all, h⟩, rest) else none

end TestQueue.Net.AddressReader
