namespace TestQueue.Kdl

def isSpace (c : Char) : Bool :=
  let n := c.toNat
  n = 0x09 || n = 0x20 || n = 0xA0 || n = 0x1680 || (0x2000 ≤ n && n ≤ 0x200A) || n = 0x202F ||
    n = 0x205F || n = 0x3000

def isNewline (c : Char) : Bool :=
  let n := c.toNat
  (0x0A ≤ n && n ≤ 0x0D) || n = 0x85 || n = 0x2028 || n = 0x2029

def isForbidden (c : Char) : Bool :=
  let n := c.toNat
  n ≤ 0x08 || (0x0E ≤ n && n ≤ 0x1F) || (0x200E ≤ n && n ≤ 0x200F) ||
    (0x202A ≤ n && n ≤ 0x202E) || (0x2066 ≤ n && n ≤ 0x2069) || n = 0xFEFF

def newline? : List Char → Option (List Char)
  | '\r' :: '\n' :: rest => some rest
  | c :: rest => if isNewline c then some rest else none
  | [] => none

def blockComment? : Nat → List Char → Option (List Char)
  | depth, '/' :: '*' :: rest => blockComment? (depth + 1) rest
  | 0, '*' :: '/' :: rest => some rest
  | depth + 1, '*' :: '/' :: rest => blockComment? depth rest
  | depth, _ :: rest => blockComment? depth rest
  | _, [] => none

def lineComment? : List Char → Option (List Char)
  | '/' :: '/' :: rest =>
    let after := rest.dropWhile fun c => !isNewline c
    some ((newline? after).getD after)
  | _ => none

def skipBlanks (fuel : Nat) (s : List Char) : List Char :=
  match fuel, s with
  | 0, s => s
  | fuel + 1, '/' :: '*' :: rest =>
    match blockComment? 0 rest with
    | some after => skipBlanks fuel after
    | none => s
  | fuel + 1, c :: rest => if isSpace c then skipBlanks fuel rest else s
  | _ + 1, [] => []

def continuation? (s : List Char) : Option (List Char) :=
  match s with
  | '\\' :: rest =>
    match skipBlanks s.length rest with
    | [] => some []
    | after => lineComment? after <|> newline? after
  | _ => none

def skipNodeSpace (fuel : Nat) (s : List Char) : List Char :=
  match fuel with
  | 0 => s
  | fuel + 1 =>
    let after := skipBlanks s.length s
    match continuation? after with
    | some rest => skipNodeSpace fuel rest
    | none => after

def skipLineSpace (fuel : Nat) (s : List Char) : List Char :=
  match fuel with
  | 0 => s
  | fuel + 1 =>
    let after := skipNodeSpace s.length s
    match lineComment? after <|> newline? after with
    | some rest => skipLineSpace fuel rest
    | none => after

end TestQueue.Kdl
