import TestQueue.Net.AddressReader

namespace TestQueue.Net

inductive SocketAddress where
  | v4 (ip : Ipv4) (port : UInt16)
  | v6 (ip : Ipv6) (scope : UInt32) (port : UInt16)
  deriving DecidableEq

namespace SocketAddress

open AddressReader (char? number? ipv4? ipv6?)

def ipv6Text (ip : Ipv6) : String :=
  match ip.groups with
  | [0, 0, 0, 0, 0, 0xffff, high, low] =>
    "::ffff:" ++
      Ipv4.toText ⟨(high >>> 8).toUInt8, high.toUInt8, (low >>> 8).toUInt8, low.toUInt8⟩
  | groups => Ipv6.compressed groups

def toText : SocketAddress → String
  | v4 ip port => ip.toText ++ ":" ++ toString port.toNat
  | v6 ip scope port =>
    let zone := if scope = 0 then "" else "%" ++ toString scope.toNat
    "[" ++ ipv6Text ip ++ zone ++ "]:" ++ toString port.toNat

def port? (s : List Char) : Option UInt16 := do
  let (port, rest) ← number? UInt16.size (← char? ':' s)
  if rest.isEmpty then some port.toUInt16 else none

def scope (s : List Char) : UInt32 × List Char :=
  match (char? '%' s).bind (number? UInt32.size) with
  | some (n, rest) => (n.toUInt32, rest)
  | none => (0, s)

def ofText? (text : String) : Option SocketAddress :=
  match text.toList with
  | '[' :: s => do
    let (ip, s) ← ipv6? s
    let (zone, s) := scope s
    return .v6 ip zone (← port? (← char? ']' s))
  | s => do
    let (ip, s) ← ipv4? s
    return .v4 ip (← port? s)

def isOwn : SocketAddress → Bool
  | v4 ip _ => ip.a = 127 || ip = ⟨0, 0, 0, 0⟩
  | v6 ip _ _ => (ip.groups.take 7).all (· = 0) && (ip.groups.drop 7).all (· ≤ 1)

def refusal : String := "invalid socket address syntax"

end SocketAddress

end TestQueue.Net
