import TestQueue.Net.Domain.Letter
import TestQueue.Net.Punycode
import TestQueue.Text.Split
import TestQueue.Unicode.Composition
import TestQueue.Unicode.Direction
import TestQueue.Unicode.Joining

/-!
Domain names in their ASCII form: lower case, composed, and with labels beyond ASCII in Punycode.
-/

namespace TestQueue.Net.Domain

open Unicode (Direction isMark)
open Unicode.Composition (composed)

def codePoints (s : List Char) : List Nat := s.map Char.toNat

def normal? (name : List Char) : Option (List Char) :=
  ((codePoints name).mapM mapped?).map fun texts => (composed texts.flatten).map Char.ofNat

def isForbidden (c : Char) : Bool :=
  c.toNat ≤ 0x20 || c.toNat = 0x7F || "%#/:<>?@[\\]^|".toList.contains c

def isSound (text : List Char) : Bool :=
  let points := codePoints text
  !text.any isForbidden && !points.head?.any isMark && Unicode.Joining.inPlace [] points

def punycodeMark : List Char := "xn--".toList

/-- Only a text that has no other form is written in Punycode. -/
def isGenuine (text : List Char) : Bool :=
  let points := codePoints text
  !text.all Punycode.isBasic && !text.contains '.' && !punycodeMark.isPrefixOf text &&
    points.all isLetter && composed points = points

def decoded? (punycode : List Char) : Option (List Char) :=
  (Punycode.decode? punycode).filter fun text =>
    isGenuine text && Punycode.encode text = punycode

structure Label where
  text : List Char
  ascii : List Char
  deriving DecidableEq

def label? (s : List Char) : Option Label := do
  let label ←
    match punycodeMark.isPrefixOf s, s.all Punycode.isBasic with
    | true, _ => (decoded? (s.drop punycodeMark.length)).map fun text => ⟨text, s⟩
    | false, true => some ⟨s, s⟩
    | false, false => some ⟨s, punycodeMark ++ Punycode.encode s⟩
  if isSound label.text then some label else none

def ascii? (name : List Char) : Option (List Char) := do
  let labels ← (Text.splitAt (· = '.') (← normal? name)).mapM label?
  let directions := labels.map fun l => (codePoints l.text).map Direction.of
  if directions.any (·.any Direction.isTurning) && !directions.all Direction.isLabel then none
  else some (List.intercalate ['.'] (labels.map Label.ascii))

end TestQueue.Net.Domain
