import TestQueue.Kdl.Space
import TestQueue.Text.Hex

/-!
The texts of KDL: bare words, quoted and raw strings, and strings of several lines, whose common
indentation is that of their last line.
-/

namespace TestQueue.Kdl

open TestQueue.Text (hexValue?)

def isWordChar (c : Char) : Bool :=
  !isSpace c && !isNewline c && !isForbidden c &&
    !(['\\', '/', '(', ')', '\x7b', '\x7d', ';', '[', ']', '"', '#', '='].contains c)

def reservedWords : List String := ["true", "false", "null", "inf", "nan"]

def startsNumber : List Char → Bool
  | '+' :: '.' :: c :: _ => c.isDigit
  | '-' :: '.' :: c :: _ => c.isDigit
  | '+' :: c :: _ => c.isDigit
  | '-' :: c :: _ => c.isDigit
  | '.' :: c :: _ => c.isDigit
  | c :: _ => c.isDigit
  | [] => false

def word? (s : List Char) : Option (String × List Char) :=
  let chars := s.takeWhile isWordChar
  let text := String.ofList chars
  if chars.isEmpty ∨ startsNumber chars ∨ text ∈ reservedWords then none
  else some (text, s.drop chars.length)

def codePoint? (s : List Char) : Option (Char × List Char) :=
  match s with
  | '\x7b' :: rest => do
    let digits := rest.takeWhile fun c => (hexValue? c).isSome
    if digits.isEmpty ∨ 6 < digits.length then none
    let value := digits.foldl (fun n c => 16 * n + (hexValue? c).getD 0) 0
    match rest.drop digits.length with
    | '\x7d' :: after => if value.isValidChar then some (Char.ofNat value, after) else none
    | _ => none
  | _ => none

def simpleEscape? : Char → Option Char
  | '"' => some '"'
  | '\\' => some '\\'
  | 'b' => some '\x08'
  | 'f' => some '\x0c'
  | 'n' => some '\n'
  | 'r' => some '\r'
  | 't' => some '\t'
  | 's' => some ' '
  | _ => none

structure Glyph where
  char : Char
  escaped : Bool
  deriving DecidableEq, Repr

def plain (c : Char) : Glyph := ⟨c, false⟩

/-- What an escape stands for, after its backslash: a character, or nothing for blanks and newlines,
all of which it removes. -/
def escape? (s : List Char) : Option (List Glyph × List Char) :=
  match s with
  | 'u' :: rest => (codePoint? rest).map fun (c, after) => ([⟨c, true⟩], after)
  | c :: rest =>
    if isSpace c || isNewline c then
      some ([], rest.dropWhile fun c => isSpace c || isNewline c)
    else (simpleEscape? c).map fun d => ([⟨d, true⟩], rest)
  | [] => none

def quotedRest? (multiline : Bool) (quotes : List Char) (fuel : Nat) (s : List Char) :
    Option (List Glyph × List Char) :=
  match fuel with
  | 0 => none
  | fuel + 1 =>
    if quotes.isPrefixOf s then some ([], s.drop quotes.length)
    else
      match s with
      | [] => none
      | '\\' :: rest => do
        let (here, rest) ← escape? rest
        let (gs, rest) ← quotedRest? multiline quotes fuel rest
        return (here ++ gs, rest)
      | c :: rest =>
        if isForbidden c then none
        else
          match newline? s with
          | some after =>
            if multiline then
              (quotedRest? multiline quotes fuel after).map fun (gs, r) => (plain '\n' :: gs, r)
            else none
          | none =>
            (quotedRest? multiline quotes fuel rest).map fun (gs, r) => (plain c :: gs, r)

def rawRest? (multiline : Bool) (close : List Char) (fuel : Nat) (s : List Char) :
    Option (List Glyph × List Char) :=
  match fuel with
  | 0 => none
  | fuel + 1 =>
    if close.isPrefixOf s then some ([], s.drop close.length)
    else
      match s with
      | [] => none
      | c :: rest =>
        if isForbidden c then none
        else
          match newline? s with
          | some after =>
            if multiline then
              (rawRest? multiline close fuel after).map fun (gs, r) => (plain '\n' :: gs, r)
            else none
          | none => (rawRest? multiline close fuel rest).map fun (gs, r) => (plain c :: gs, r)

def lines : List Glyph → List (List Glyph)
  | [] => [[]]
  | g :: rest =>
    match lines rest with
    | [] => [[g]]
    | line :: later => if g = plain '\n' then [] :: line :: later else (g :: line) :: later

def isBlankLine (line : List Glyph) : Bool := line.all fun g => !g.escaped && isSpace g.char

def unindent? (indent line : List Glyph) : Option (List Glyph) :=
  if isBlankLine line then some []
  else if indent.isPrefixOf line then some (line.drop indent.length)
  else none

def dedent? (body : List Glyph) : Option (List Glyph) := do
  let all := lines body
  let indent := all.getLastD []
  if !isBlankLine indent then none
  let kept ← all.dropLast.mapM (unindent? indent)
  return [plain '\n'].intercalate kept

def textOf (gs : List Glyph) : String := String.ofList (gs.map Glyph.char)

def quoted? (s : List Char) : Option (String × List Char) :=
  match s with
  | '"' :: '"' :: '"' :: rest => do
    let after ← newline? rest
    let (gs, rest) ← quotedRest? true ['"', '"', '"'] (s.length + 1) after
    return (textOf (← dedent? gs), rest)
  | '"' :: rest => do
    let (gs, rest) ← quotedRest? false ['"'] (s.length + 1) rest
    return (textOf gs, rest)
  | _ => none

def opening? : List Char → Option (List Char)
  | '"' :: '"' :: '"' :: rest => newline? rest
  | _ => none

def rawBody? (hashes s : List Char) : Option (List Glyph × List Char) :=
  match opening? s, s with
  | some after, _ => do
    let (gs, rest) ← rawRest? true (['"', '"', '"'] ++ hashes) (s.length + 1) after
    return (← dedent? gs, rest)
  | none, '"' :: rest => rawRest? false ('"' :: hashes) (s.length + 1) rest
  | none, _ => none

/-- A raw string of a single quote could be taken for the start of one of several lines. -/
def raw? (s : List Char) : Option (String × List Char) := do
  let hashes := s.takeWhile (· = '#')
  if hashes.isEmpty then none
  let (gs, rest) ← rawBody? hashes (s.drop hashes.length)
  if gs = [plain '"'] then none
  return (textOf gs, rest)

def text? (s : List Char) : Option (String × List Char) := quoted? s <|> raw? s <|> word? s

end TestQueue.Kdl
