import Clearance.Time.Calendar
/-!
# Instant — moments of universal time, to the nanosecond

A leap second is written as second 60.  It is kept as second 59 with a thousand million nanoseconds more, so that it
lies after every other moment of its minute and before the next minute.
-/
namespace Clearance
namespace Time

/-- A length of time in nanoseconds, negative if it runs backwards. -/
structure Span where
  nanos : Int
  deriving DecidableEq, Repr

namespace Span

def ofMillis (n : Int) : Span := ⟨n * 1000000⟩

def ofSeconds (n : Int) : Span := ⟨n * 1000000000⟩

end Span

/-- The day, the second of the day and the nanosecond of the second. -/
structure Instant where
  day : Int
  second : Nat
  nano : Nat
  second_lt : second < 86400
  nano_lt : nano < 2000000000
  leap_at_end : 1000000000 ≤ nano → second % 60 = 59
  deriving DecidableEq, Repr

namespace Instant

/-- The start of 1970. -/
def epoch : Instant := ⟨0, 0, 0, by decide, by decide, by decide⟩

instance : Inhabited Instant := ⟨epoch⟩

/-- The moment with these parts, if there is one. -/
def ofParts? (day : Int) (second nano : Nat) : Option Instant :=
  if h : second < 86400 ∧ nano < 2000000000 ∧ (1000000000 ≤ nano → second % 60 = 59) then
    some ⟨day, second, nano, h.1, h.2.1, h.2.2⟩
  else none

def hour (t : Instant) : Nat := t.second / 3600

def minute (t : Instant) : Nat := t.second / 60 % 60

/-- The leap seconds that the clock counts between two times of day: one more when the earlier time lies in one, one
less when the later does. -/
def leapCorrection (t u : Instant) : Int :=
  if u.second < t.second then (if 1000000000 ≤ u.nano then 1 else 0)
  else if t.second < u.second then (if 1000000000 ≤ t.nano then -1 else 0)
  else 0

/-- The time that has passed at `t` since `u`. -/
def since (t u : Instant) : Span :=
  let seconds := (t.day - u.day) * 86400 + (Int.ofNat t.second - Int.ofNat u.second) + leapCorrection t u
  ⟨seconds * 1000000000 + (Int.ofNat t.nano - Int.ofNat u.nano)⟩

end Instant
end Time
end Clearance
