import TestQueue.Numeric.Binary64
import TestQueue.Numeric.Rounding

/-!
Lengths of time in whole nanoseconds, below `2 ^ 64` seconds.
-/

namespace TestQueue.Time

structure Span where
  nanos : Nat
  deriving DecidableEq, Repr, Inhabited

namespace Span

instance : LT Span := ⟨fun a b => a.nanos < b.nanos⟩

instance : LE Span := ⟨fun a b => a.nanos ≤ b.nanos⟩

instance (a b : Span) : Decidable (a < b) := inferInstanceAs (Decidable (a.nanos < b.nanos))

instance (a b : Span) : Decidable (a ≤ b) := inferInstanceAs (Decidable (a.nanos ≤ b.nanos))

def ofSeconds (n : UInt64) : Span := ⟨n.toNat * 1000000000⟩

def ofMillis (n : Nat) : Span := ⟨n * 1000000⟩

def longest : Span := ⟨UInt64.size * 1000000000 - 1⟩

def wholeSeconds (s : Span) : Nat := s.nanos / 1000000000

def subsecondNanos (s : Span) : Nat := s.nanos % 1000000000

def wholeMillis (s : Span) : Nat := s.nanos / 1000000

/-- The span of a number of seconds, rounded to the nearest nanosecond; `none` for negative numbers,
for those that are not finite and for those from `2 ^ 64` on. -/
def ofFloat? (seconds : Float) : Option Span := do
  let p ← Binary64.parts? seconds
  if p.negative ∧ p.significand ≠ 0 then none
  let nanos := Rounding.halfEven (p.significand * 1000000000 * Nat.pow 2 p.exponent.toNat)
    (Nat.pow 2 (-p.exponent).toNat)
  if nanos < UInt64.size * 1000000000 then some ⟨nanos⟩ else none

end Span

end TestQueue.Time
