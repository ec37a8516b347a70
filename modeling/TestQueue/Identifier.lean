namespace TestQueue

structure WorkerId where
  text : String
  deriving DecidableEq, Repr, Inhabited

structure BucketId where
  text : String
  deriving DecidableEq, Repr, Inhabited

structure JobId where
  text : String
  deriving DecidableEq, Repr, Inhabited

structure RequestId where
  text : String
  deriving DecidableEq, Repr, Inhabited

structure PayloadSignature where
  text : String
  deriving DecidableEq, Repr, Inhabited

structure IdSource where
  nth : Nat → String
  drawn : Nat

namespace IdSource

def sequential (stem : String) : IdSource := ⟨fun n => stem ++ "-" ++ toString (n + 1), 0⟩

def next (s : IdSource) : String := s.nth s.drawn

def advance (s : IdSource) (n : Nat) : IdSource := { s with drawn := s.drawn + n }

def draw (s : IdSource) : String × IdSource := (s.next, s.advance 1)

def upcoming (s : IdSource) (n : Nat) : List String := (List.range' s.drawn n).map s.nth

end IdSource

end TestQueue
