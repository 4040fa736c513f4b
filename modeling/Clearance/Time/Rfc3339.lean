import Clearance.Text.Blank
import Clearance.Time.Instant
/-!
# Rfc3339 — written moments

`write` has one form: universal time with `Z` and as few groups of three fraction digits as are exact.  `read?` is
lenient: it allows blanks before each number, numbers shorter than their usual width, any offset below a day, fractions
of any length, and years with a sign.
-/
namespace Clearance
namespace Time

open Text (isBlank)

/-! ## Writing -/

/-- A number with zeros before it, up to the width. -/
def padded (width n : Nat) : List Char :=
  let ds := Nat.toDigits 10 n
  List.replicate (width - ds.length) '0' ++ ds

/-- Four digits for the years 0 to 9999; a sign and at least four digits for all others. -/
def writeYear (y : Int) : List Char :=
  if 0 ≤ y && y ≤ 9999 then padded 4 y.toNat
  else (if y < 0 then '-' else '+') :: padded 4 y.natAbs

def writeDate (d : Date) : List Char := writeYear d.year ++ '-' :: padded 2 d.month ++ '-' :: padded 2 d.day

/-- The fraction of a second, in 0, 3, 6 or 9 digits. -/
def writeFraction (nano : Nat) : List Char :=
  if nano = 0 then []
  else if nano % 1000000 = 0 then '.' :: padded 3 (nano / 1000000)
  else if nano % 1000 = 0 then '.' :: padded 6 (nano / 1000)
  else '.' :: padded 9 nano

/-- The second within its minute; a leap second is second 60. -/
def writeSecond (t : Instant) : List Char :=
  if t.nano < 1000000000 then padded 2 (t.second % 60) ++ writeFraction t.nano
  else padded 2 (t.second % 60 + 1) ++ writeFraction (t.nano - 1000000000)

def write (t : Instant) : List Char :=
  writeDate (Date.ofDay t.day) ++ 'T' :: padded 2 t.hour ++ ':' :: padded 2 t.minute ++ ':' :: writeSecond t ++ ['Z']

/-- Hours and minutes, as messages show them. -/
def hhmm (t : Instant) : List Char := padded 2 t.hour ++ padded 2 t.minute

/-! ## Reading

Each reader takes its item off the front of the text and gives the rest. -/

def skipBlanks (s : List Char) : List Char := s.dropWhile isBlank

def digitValue (c : Char) : Nat := c.toNat - 48

def ofDigits (ds : List Char) : Nat := ds.foldl (fun n c => n * 10 + digitValue c) 0

/-- At least one and at most `width` ASCII digits. -/
def digits? (width : Nat) (s : List Char) : Option (List Char × List Char) :=
  let ds := (s.takeWhile Char.isDigit).take width
  if ds.isEmpty then none else some (ds, s.drop ds.length)

/-- A number of at most `width` digits, blanks before it allowed. -/
def number? (width : Nat) (s : List Char) : Option (Nat × List Char) :=
  (digits? width (skipBlanks s)).map fun p => (ofDigits p.1, p.2)

/-- A year: up to four digits, or a sign and any number of them. -/
def year? (s : List Char) : Option (Int × List Char) :=
  match skipBlanks s with
  | '+' :: r => (digits? r.length r).map fun p => (Int.ofNat (ofDigits p.1), p.2)
  | '-' :: r => (digits? r.length r).map fun p => (-Int.ofNat (ofDigits p.1), p.2)
  | r => (digits? 4 r).map fun p => (Int.ofNat (ofDigits p.1), p.2)

/-- The given mark, blanks before it allowed. -/
def mark? (c : Char) (s : List Char) : Option (List Char) :=
  match skipBlanks s with
  | d :: r => if d = c then some r else none
  | [] => none

/-- The nanoseconds of a fraction if one follows; digits after the ninth do not count. -/
def fraction? (s : List Char) : Option (Nat × List Char) :=
  match s with
  | '.' :: r =>
    (digits? 9 r).map fun p => (ofDigits p.1 * Nat.pow 10 (9 - p.1.length), p.2.dropWhile Char.isDigit)
  | _ => some (0, s)

/-- Exactly two digits, of which the first is at most `top`. -/
def twoDigits? (top : Char) (s : List Char) : Option (Nat × List Char) :=
  match s with
  | a :: b :: r => if a.isDigit && b.isDigit && a ≤ top then some (ofDigits [a, b], r) else none
  | _ => none

/-- The minutes east of Greenwich: `Z`, `UTC`, or a sign with hours and minutes. -/
def offset? (s : List Char) : Option (Int × List Char) :=
  if (s.take 3).map Char.toUpper = ['U', 'T', 'C'] then some (0, s.drop 3)
  else match s with
  | [] => none
  | c :: r =>
    if c = 'Z' || c = 'z' then some (0, r)
    else if c = '+' || c = '-' || c = '−' then do
      let (h, r) ← twoDigits? '9' r
      let (m, r) ← twoDigits? '5' (r.dropWhile fun c => c = ':' || isBlank c)
      let minutes := Int.ofNat (h * 60 + m)
      some (if c = '+' then minutes else -minutes, r)
    else none

/-- The first and the last year of the calendar in use. -/
def yearRange : Int × Int := (-262143, 262142)

def inRange (day : Int) : Bool :=
  let y := (Date.ofDay day).year
  yearRange.1 ≤ y && y ≤ yearRange.2

/-- The moment of a local date and time of day, `offset` minutes east of Greenwich.  Second 60 is a leap second. -/
def moment? (d : Date) (hour minute second nano : Nat) (offset : Int) : Option Instant :=
  if d.isValid && inRange d.toDay && hour < 24 && minute < 60 && second ≤ 60 && offset.natAbs < 24 * 60 then
    let ofDay := Int.ofNat (hour * 3600 + minute * 60 + (if second = 60 then 59 else second)) - offset * 60
    let day := d.toDay + ofDay / 86400
    if inRange day then
      Instant.ofParts? day (ofDay % 86400).toNat (if second = 60 then nano + 1000000000 else nano)
    else none
  else none

def read? (s : List Char) : Option Instant := do
  let (year, s) ← year? s
  let s ← mark? '-' s
  let (month, s) ← number? 2 s
  let s ← mark? '-' s
  let (day, s) ← number? 2 s
  let s ← match s with
    | c :: r => if c = 'T' || c = 't' || c = ' ' then some r else none
    | [] => none
  let (hour, s) ← number? 2 s
  let s ← mark? ':' s
  let (minute, s) ← number? 2 s
  let s ← mark? ':' s
  let (second, s) ← number? 2 s
  let (nano, s) ← fraction? s
  let (offset, s) ← offset? (skipBlanks s)
  if (skipBlanks s).isEmpty then moment? ⟨year, month, day⟩ hour minute second nano offset else none

end Time
end Clearance
