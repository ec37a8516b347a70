import TestQueue.Json.Value
import TestQueue.Numeric.Decimal

namespace TestQueue.Json

def hexDigit (n : Nat) : Char := (Nat.toDigits 16 n).headD '0'

def escaped (c : Char) : List Char :=
  if c = '"' then ['\\', '"']
  else if c = '\\' then ['\\', '\\']
  else if c = '\x08' then ['\\', 'b']
  else if c = '\x0c' then ['\\', 'f']
  else if c = '\n' then ['\\', 'n']
  else if c = '\r' then ['\\', 'r']
  else if c = '\t' then ['\\', 't']
  else if c.toNat < 0x20 then
    ['\\', 'u', '0', '0', hexDigit (c.toNat / 16), hexDigit (c.toNat % 16)]
  else [c]

def quoted (s : String) : String := "\"" ++ String.ofList (s.toList.flatMap escaped) ++ "\""

mutual

def writeTo (out : String) : Json → String
  | null => out ++ "null"
  | bool b => out ++ if b then "true" else "false"
  | int n => out ++ toString n
  | float x => out ++ Binary64.compact x
  | str s => out ++ quoted s
  | arr items => (writeItems (out.push '[') items).push ']'
  | obj members => (writeMembers (out.push '\x7b') members).push '\x7d'
  | unusable => out ++ "null"
  | broken => out ++ "null"

def writeItems (out : String) : List Json → String
  | [] => out
  | [v] => v.writeTo out
  | v :: w :: rest => writeItems ((v.writeTo out).push ',') (w :: rest)

def writeMembers (out : String) : List (Json × Json) → String
  | [] => out
  | [(k, v)] => v.writeTo ((k.writeTo out).push ':')
  | (k, v) :: m :: rest =>
    writeMembers ((v.writeTo ((k.writeTo out).push ':')).push ',') (m :: rest)

end

def print (v : Json) : String := v.writeTo ""

end TestQueue.Json
