import TestQueue.Text.Hex

namespace TestQueue.Net.Percent

open Text (hexDigit hexValue?)

def escape (b : UInt8) : List Char :=
  ['%', hexDigit (b.toNat / 16), hexDigit (b.toNat % 16)]

def isPlain (special : List Char) (c : Char) : Bool :=
  0x20 ≤ c.toNat && c.toNat < 0x7F && !special.contains c

def encode (special : List Char) (text : List Char) : List Char :=
  text.flatMap fun c =>
    if isPlain special c then [c] else (String.utf8EncodeChar c).flatMap escape

def decode : List Char → List UInt8
  | [] => []
  | '%' :: a :: b :: rest =>
    match hexValue? a, hexValue? b with
    | some high, some low => UInt8.ofNat (16 * high + low) :: decode rest
    | _, _ => String.utf8EncodeChar '%' ++ decode (a :: b :: rest)
  | c :: rest => String.utf8EncodeChar c ++ decode rest

def decodeText? (text : String) : Option String :=
  String.fromUTF8? ⟨(decode text.toList).toArray⟩

end TestQueue.Net.Percent
