import TestQueue.Text.Hex
import TestQueue.Text.Split

/-!
Tables over the characters, as runs of code points that share an entry. A table is written in
hexadecimal: `41-5A` is a run, and behind a colon stands its entry, as in `C0:41.300`.
-/

namespace TestQueue.Unicode

open Text (hexValue? splitAt)

structure Run where
  first : Nat
  last : Nat
  entry : List Nat
  deriving DecidableEq, Repr

abbrev Runs := Array Run

def number (s : List Char) : Nat := s.foldl (fun n c => 16 * n + (hexValue? c).getD 0) 0

def Run.ofText (s : List Char) : Run :=
  let range := s.takeWhile (· ≠ ':')
  let ends := (splitAt (· = '-') range).map number
  let entry := (s.dropWhile (· ≠ ':')).drop 1
  ⟨ends.headD 0, ends.getLastD 0,
    if entry.isEmpty then [] else (splitAt (· = '.') entry).map number⟩

namespace Runs

def ofText (text : String) : Runs :=
  (((splitAt Char.isWhitespace text.toList).filter (!·.isEmpty)).map Run.ofText).toArray

def started (t : Runs) (n low high : Nat) : Nat :=
  if low < high then
    match t[(low + high) / 2]? with
    | some r =>
      if r.first ≤ n then started t n ((low + high) / 2 + 1) high
      else started t n low ((low + high) / 2)
    | none => low
  else low
termination_by high - low
decreasing_by all_goals omega

def run? (t : Runs) (n : Nat) : Option Run :=
  match started t n 0 t.size with
  | 0 => none
  | k + 1 => t[k]?.filter fun r => n ≤ r.last

def has (t : Runs) (n : Nat) : Bool := (t.run? n).isSome

def entry? (t : Runs) (n : Nat) : Option (List Nat) := (t.run? n).map Run.entry

end Runs

end TestQueue.Unicode
