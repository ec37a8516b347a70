import TestQueue.Net.AddressReader
import TestQueue.Net.Domain
import TestQueue.Net.Percent
import TestQueue.Text.Hex

namespace TestQueue.Net

inductive UrlError where
  | emptyHost
  | badDomain
  | badPort
  | badIpv4
  | badIpv6
  | badHostCharacter
  | relative
  | relativeToRootless
  deriving DecidableEq, Repr

namespace UrlError

def message : UrlError → String
  | emptyHost => "empty host"
  | badDomain => "invalid international domain name"
  | badPort => "invalid port number"
  | badIpv4 => "invalid IPv4 address"
  | badIpv6 => "invalid IPv6 address"
  | badHostCharacter => "invalid domain character"
  | relative => "relative URL without a base"
  | relativeToRootless => "relative URL with a cannot-be-a-base base"

end UrlError

inductive Host where
  | named (name : List Char)
  | ipv4 (ip : Ipv4)
  | ipv6 (ip : Ipv6)
  deriving DecidableEq

namespace Host

def text : Host → List Char
  | named name => name
  | ipv4 ip => ip.toText.toList
  | ipv6 ip => '[' :: (Ipv6.compressed ip.groups).toList ++ [']']

def isEmpty (h : Host) : Bool := h = named []

def numeral? (radix : Nat) (digits : List Char) : Option Nat :=
  digits.foldlM (fun n c => do
    let d ← Text.hexValue? c
    if d < radix then some (radix * n + d) else none) 0

def ipv4Part? : List Char → Option Nat
  | [] => none
  | '0' :: 'x' :: digits => numeral? 16 digits
  | '0' :: 'X' :: digits => numeral? 16 digits
  | '0' :: digits => numeral? 8 digits
  | digits => numeral? 10 digits

def withoutLastEmpty (parts : List (List Char)) : List (List Char) :=
  if parts.length ≠ 1 && parts.getLast? = some [] then parts.dropLast else parts

def endsInNumber (name : List Char) : Bool :=
  match (withoutLastEmpty (Text.splitAt (· = '.') name)).getLast? with
  | some last => (!last.isEmpty && last.all Char.isDigit) || (ipv4Part? last).isSome
  | none => false

def ipv4? (name : List Char) : Option Ipv4 := do
  let parts ← (withoutLastEmpty (Text.splitAt (· = '.') name)).mapM ipv4Part?
  let last ← parts.getLast?
  let front := parts.dropLast
  if 4 < parts.length ∨ front.any (255 < ·) ∨ Nat.pow 256 (4 - front.length) ≤ last then none
  else
    let rest := (List.range (4 - front.length)).reverse.map fun i => last / Nat.pow 256 i
    match (front ++ rest).map UInt8.ofNat with
    | [a, b, c, d] => some ⟨a, b, c, d⟩
    | _ => none

def bracketed (s : List Char) : Except UrlError Host :=
  match s.getLast?, AddressReader.ipv6? s.dropLast with
  | some ']', some (ip, []) => .ok (ipv6 ip)
  | _, _ => .error .badIpv6

def ofPlain (s : List Char) : Except UrlError Host :=
  match s with
  | '[' :: rest => bracketed rest
  | _ =>
    if s.any fun c => "\x00\t\n\r #/:<>?@[\\]^|".toList.contains c then .error .badHostCharacter
    else .ok (named (Percent.encode [] s))

def ofDomain (s : List Char) : Except UrlError Host :=
  match s with
  | '[' :: rest => bracketed rest
  | _ =>
    match (Percent.decodeText? (String.ofList s)).bind fun t => Domain.ascii? t.toList with
    | none => .error .badDomain
    | some [] => .error .emptyHost
    | some name =>
      if endsInNumber name then
        match ipv4? name with
        | some ip => .ok (ipv4 ip)
        | none => .error .badIpv4
      else .ok (named name)

end Host

end TestQueue.Net
