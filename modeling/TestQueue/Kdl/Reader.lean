import TestQueue.Kdl.Number

/-!
Reading KDL documents. What follows a slash and a dash is read and left out.
-/

namespace TestQueue.Kdl

def skipSpace (s : List Char) : List Char := skipNodeSpace (s.length + 1) s

def skipLines (s : List Char) : List Char := skipLineSpace (s.length + 1) s

def annotation? (s : List Char) : Option (List Char) :=
  match s with
  | '(' :: rest => do
    let (_, rest) ← text? (skipSpace rest)
    match skipSpace rest with
    | ')' :: after => some (skipSpace after)
    | _ => none
  | _ => some s

def value? (s : List Char) : Option (Value × List Char) := do
  let s ← annotation? s
  (text? s).map (fun (t, rest) => (.str t, rest)) <|> keyword? s <|> number? s

def entry? (s : List Char) : Option (Entry × List Char) :=
  match text? s with
  | some (name, rest) =>
    match skipSpace rest with
    | '=' :: after => (value? (skipSpace after)).map fun (v, rest) => (⟨some name, v⟩, rest)
    | _ => some (⟨none, .str name⟩, rest)
  | none => (value? s).map fun (v, rest) => (⟨none, v⟩, rest)

def dashed? : List Char → Option (List Char)
  | '/' :: '-' :: rest => some (skipLines rest)
  | _ => none

def item? (fuel : Nat) (s : List Char) : Option (Option Entry × List Char) :=
  match fuel with
  | 0 => none
  | fuel + 1 =>
    match dashed? s with
    | none => do
      let (e, rest) ← entry? s
      return (some e, rest)
    | some rest => do
      let (_, rest) ← item? fuel rest
      let after := skipSpace rest
      let next := if after.length = rest.length then none else item? fuel after
      return next.getD (none, rest)

def entries (fuel : Nat) (s : List Char) : List Entry × List Char :=
  match fuel with
  | 0 => ([], s)
  | fuel + 1 =>
    let after := skipSpace s
    match if after.length = s.length then none else item? s.length after with
    | none => ([], s)
    | some (e, rest) =>
      let (es, rest) := entries fuel rest
      (e.toList ++ es, rest)

def terminator? : List Char → Option (List Char)
  | [] => some []
  | ';' :: rest => some rest
  | s => lineComment? s <|> newline? s

mutual

/-- The nodes up to the end of the text or to a closing brace. The last one needs no end of its
own. -/
def nodes? (fuel : Nat) (s : List Char) : Option (List Node × List Char) :=
  match fuel with
  | 0 => none
  | fuel + 1 =>
    match skipGaps fuel s with
    | [] => some ([], [])
    | '\x7d' :: rest => some ([], '\x7d' :: rest)
    | s => do
      let (n, rest) ← node? fuel s
      match terminator? rest with
      | some rest => do
        let (ns, rest) ← nodes? fuel rest
        return (n :: ns, rest)
      | none => return ([n], skipGaps fuel rest)

def skipGaps (fuel : Nat) (s : List Char) : List Char :=
  match fuel with
  | 0 => s
  | fuel + 1 =>
    let after := skipLines s
    match dashed? after with
    | none => after
    | some rest =>
      match node? fuel rest with
      | some (_, rest) => skipGaps fuel rest
      | none => after

def node? (fuel : Nat) (s : List Char) : Option (Node × List Char) :=
  match fuel with
  | 0 => none
  | fuel + 1 => do
    let s ← annotation? s
    let (name, s) ← text? s
    let (es, s) := entries s.length s
    let (children, s) ← blocks? fuel none s
    return (.mk name es children, skipSpace s)

/-- The children, at most one block that counts. One that does not needs a blank before it. -/
def blocks? (fuel : Nat) (found : Option (List Node)) (s : List Char) :
    Option (Option (List Node) × List Char) :=
  match fuel with
  | 0 => none
  | fuel + 1 =>
    let after := skipSpace s
    match after with
    | '\x7b' :: rest =>
      if found.isSome then none
      else do
        let (ns, rest) ← block? fuel rest
        blocks? fuel (some ns) rest
    | _ =>
      match if after.length = s.length then none else dashed? after with
      | some ('\x7b' :: rest) => do
        let (_, rest) ← block? fuel rest
        blocks? fuel found rest
      | _ => some (found, s)

def block? (fuel : Nat) (s : List Char) : Option (List Node × List Char) :=
  match fuel with
  | 0 => none
  | fuel + 1 =>
    match nodes? fuel s with
    | some (ns, '\x7d' :: rest) => some (ns, rest)
    | _ => none

end

namespace Document

def ofText? (text : String) : Option Document :=
  let s := match text.toList with
    | '\uFEFF' :: rest => rest
    | s => s
  match nodes? (4 * s.length + 8) s with
  | some (ns, []) => some ns
  | _ => none

end Document

end TestQueue.Kdl
