import TestQueue.Time.Calendar
import TestQueue.Time.Span

/-!
Points in time in UTC with nanoseconds, from the year -262143 to the year 262142. Within a leap
second, which can only be the last of a minute, the nanoseconds run on from `10 ^ 9`.
-/

namespace TestQueue.Time

def firstYear : Int := -262143

def lastYear : Int := 262142

def firstSecond : Int := -8334601228800

def lastSecond : Int := 8210266876799

structure Instant where
  second : Int
  nano : Nat
  second_ge : firstSecond ≤ second
  second_le : second ≤ lastSecond
  nano_lt : nano < 1000000000 ∨ nano < 2000000000 ∧ second % 60 = 59
  deriving DecidableEq

namespace Instant

def of? (second : Int) (nano : Nat) : Option Instant :=
  if h : firstSecond ≤ second ∧ second ≤ lastSecond ∧
      (nano < 1000000000 ∨ nano < 2000000000 ∧ second % 60 = 59) then
    some ⟨second, nano, h.1, h.2.1, h.2.2⟩
  else none

def epoch : Instant := ⟨0, 0, by decide, by decide, by decide⟩

instance : Inhabited Instant := ⟨epoch⟩

def ofMillis? (millis : Int) : Option Instant :=
  of? (millis / 1000) ((millis % 1000).toNat * 1000000)

def nanos (t : Instant) : Int := t.second * 1000000000 + t.nano

def millis (t : Instant) : Int := t.second * 1000 + (t.nano / 1000000 : Nat)

instance : LE Instant := ⟨fun a b => a.second < b.second ∨ a.second = b.second ∧ a.nano ≤ b.nano⟩

instance (a b : Instant) : Decidable (a ≤ b) :=
  inferInstanceAs (Decidable (a.second < b.second ∨ a.second = b.second ∧ a.nano ≤ b.nano))

def InLeapSecond (t : Instant) : Prop := 1000000000 ≤ t.nano

instance (t : Instant) : Decidable t.InLeapSecond := inferInstanceAs (Decidable (_ ≤ _))

def secondOfDay (t : Instant) : Int := t.second % 86400

/-- How many leap seconds count between the two. None is known of but those that the two lie in, and
whether such a leap second is over is told from the times of day alone. -/
def leapSeconds (since now : Instant) : Int :=
  if since.secondOfDay < now.secondOfDay ∧ since.InLeapSecond then 1
  else if now.secondOfDay < since.secondOfDay ∧ now.InLeapSecond then -1
  else 0

def elapsed (since now : Instant) : Span :=
  ⟨(now.nanos - since.nanos + since.leapSeconds now * 1000000000).toNat⟩

end Instant

end TestQueue.Time
