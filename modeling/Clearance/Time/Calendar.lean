/-!
# Calendar — days of the proleptic Gregorian calendar

Days are numbered from 1970-01-01, which is day 0.  Years are counted from March, so that the leap day ends one, and
grouped into eras of 400 years of the same length.
-/
namespace Clearance
namespace Time

structure Date where
  year : Int
  month : Nat
  day : Nat
  deriving DecidableEq, Repr

def isLeapYear (y : Int) : Bool := y % 4 = 0 && (y % 100 ≠ 0 || y % 400 = 0)

/-- The length of a month, 0 for a month that does not exist. -/
def daysInMonth (y : Int) (m : Nat) : Nat :=
  match m with
  | 1 => 31 | 2 => if isLeapYear y then 29 else 28 | 3 => 31 | 4 => 30 | 5 => 31 | 6 => 30
  | 7 => 31 | 8 => 31 | 9 => 30 | 10 => 31 | 11 => 30 | 12 => 31
  | _ => 0

namespace Date

/-- Whether the calendar has this date. -/
def isValid (d : Date) : Bool := 1 ≤ d.day && d.day ≤ daysInMonth d.year d.month

/-- The number of a date. -/
def toDay (d : Date) : Int :=
  let y := if d.month ≤ 2 then d.year - 1 else d.year
  let era := y / 400
  let yearOfEra := y % 400
  let month := if d.month ≤ 2 then d.month + 9 else d.month - 3
  let dayOfYear := (153 * month + 2) / 5 + d.day - 1
  era * 146097 + yearOfEra * 365 + yearOfEra / 4 - yearOfEra / 100 + Int.ofNat dayOfYear - 719468

/-- The date of a day number. -/
def ofDay (n : Int) : Date :=
  let z := n + 719468
  let era := z / 146097
  let dayOfEra := z % 146097
  let yearOfEra := (dayOfEra - dayOfEra / 1460 + dayOfEra / 36524 - dayOfEra / 146096) / 365
  let dayOfYear := (dayOfEra - (365 * yearOfEra + yearOfEra / 4 - yearOfEra / 100)).toNat
  let month := (5 * dayOfYear + 2) / 153
  let y := yearOfEra + era * 400
  ⟨if month < 10 then y else y + 1, if month < 10 then month + 3 else month - 9,
    dayOfYear - (153 * month + 2) / 5 + 1⟩

example : (Date.mk 1970 1 1).toDay = 0 ∧ (Date.mk 2000 2 29).toDay = 11016 := by decide
example : ofDay 11016 = ⟨2000, 2, 29⟩ ∧ ofDay (-1) = ⟨1969, 12, 31⟩ := by decide

end Date
end Time
end Clearance
