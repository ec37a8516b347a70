namespace TestQueue.Net

structure Ipv4 where
  a : UInt8
  b : UInt8
  c : UInt8
  d : UInt8
  deriving DecidableEq, Repr

namespace Ipv4

def toText (ip : Ipv4) : String :=
  ".".intercalate ([ip.a, ip.b, ip.c, ip.d].map fun n => toString n.toNat)

end Ipv4

structure Ipv6 where
  groups : List UInt16
  size : groups.length = 8
  deriving DecidableEq

namespace Ipv6

def hex (n : UInt16) : String := String.ofList (Nat.toDigits 16 n.toNat)

def colons (groups : List UInt16) : String := ":".intercalate (groups.map hex)

def longestZeros (i : Nat) : List UInt16 → Nat × Nat
  | [] => (i, 0)
  | g :: rest =>
    let here := ((g :: rest).takeWhile (· = 0)).length
    let later := longestZeros (i + 1) rest
    if later.2 ≤ here then (i, here) else later

def compressed (groups : List UInt16) : String :=
  let (start, length) := longestZeros 0 groups
  if 1 < length then
    colons (groups.take start) ++ "::" ++ colons (groups.drop (start + length))
  else colons groups

end Ipv6

end TestQueue.Net
