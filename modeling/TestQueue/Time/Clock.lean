import TestQueue.Time.Instant

/-!
A clock that moves only when told to. It counts milliseconds in 64 bits and wraps around; a count
beyond the last year reads as the start of 1970.
-/

namespace TestQueue.Time

structure Clock where
  count : Int64
  deriving DecidableEq

namespace Clock

def startingAt (t : Instant) : Clock := ⟨Int64.ofInt t.millis⟩

def now (c : Clock) : Instant := (Instant.ofMillis? c.count.toInt).getD .epoch

def advance (c : Clock) (span : Span) : Clock :=
  ⟨c.count + Int64.ofNat (min span.wholeMillis 0x7FFFFFFFFFFFFFFF)⟩

end Clock

end TestQueue.Time
