import Clearance.Json.Basic
import Clearance.Decimal.Notation
/-!
# Numeral — written numbers

A numeral is scanned first and valued afterwards.  One without fraction and exponent is an integer if 64 bits hold it.
Every other one is a double: as many digits as 64 bits hold make up an integer, and that is then multiplied or divided
by a power of ten.  The result is close to the written number and not always the nearest double.
-/
namespace Clearance

/-- The parts of a numeral as written.  The exponent comes with whether it is negative. -/
structure Numeral where
  negative : Bool
  whole : List Char
  fraction : Option (List Char)
  exponent : Option (Bool × List Char)
  deriving DecidableEq, Repr

namespace Numeral

/-! ## Scanning -/

/-- A digit is wanted and there is none. -/
def lacking (s : List Char) : Fault := if s.isEmpty then .ended else .malformed

/-- At least one digit. -/
def scanDigits (s : List Char) : Except Fault (List Char × List Char) :=
  let ds := s.takeWhile Char.isDigit
  let rest := s.dropWhile Char.isDigit
  if ds.isEmpty then .error (lacking rest) else .ok (ds, rest)

/-- The digits before the point; a zero stands alone. -/
def scanWhole (s : List Char) : Except Fault (List Char × List Char) := do
  let (ds, rest) ← scanDigits s
  if ds.head? = some '0' && ds.length ≠ 1 then .error .malformed else .ok (ds, rest)

def scanFraction (s : List Char) : Except Fault (Option (List Char) × List Char) :=
  match s with
  | '.' :: r => (scanDigits r).map fun p => (some p.1, p.2)
  | _ => .ok (none, s)

def scanExponent (s : List Char) : Except Fault (Option (Bool × List Char) × List Char) :=
  match s with
  | c :: r =>
    if c = 'e' || c = 'E' then
      match r with
      | '-' :: r => (scanDigits r).map fun p => (some (true, p.1), p.2)
      | '+' :: r => (scanDigits r).map fun p => (some (false, p.1), p.2)
      | r => (scanDigits r).map fun p => (some (false, p.1), p.2)
    else .ok (none, s)
  | [] => .ok (none, [])

/-- The numeral at the front of a text and what follows it, or the fault that a reader of it meets. -/
def scan (s : List Char) : Except Fault (Numeral × List Char) := do
  let (negative, s) := match s with
    | '-' :: r => (true, r)
    | _ => (false, s)
  let (whole, s) ← scanWhole s
  let (fraction, s) ← scanFraction s
  let (exponent, s) ← scanExponent s
  return (⟨negative, whole, fraction, exponent⟩, s)

/-! ## Valuing -/

def digitValue (c : Char) : Nat := c.toNat - '0'.toNat

def ofDigits (ds : List Char) : Nat := ds.foldl (fun n c => n * 10 + digitValue c) 0

/-- The greatest integer of 64 bits. -/
def wordMax : Nat := 18446744073709551615

/-- Takes in digits as long as 64 bits hold the result; the rest is only counted. -/
def significand : Nat → List Char → Nat × Nat
  | n, [] => (n, 0)
  | n, d :: ds => if n * 10 + digitValue d ≤ wordMax then significand (n * 10 + digitValue d) ds else (n, ds.length + 1)

def power (n : Nat) : Float := Float.ofScientific 1 false n

/-- Divides by `10^n`, in steps that a double can hold. -/
def shrink (x : Float) (n : Nat) : Float :=
  if n ≤ 308 then x / power n
  else if x == 0 then x
  else shrink (x / power 308) (n - 308)
termination_by n
decreasing_by omega

/-- `n · 10^e` as a double, or `none` if it is too large. -/
def scaled? (n : Nat) (e : Int) : Option Float :=
  let x := n.toUInt64.toFloat
  if e < 0 then some (shrink x e.natAbs)
  else if e ≤ 308 then
    let y := x * power e.natAbs
    if y.isInf then none else some y
  else if n = 0 then some x else none

/-- The double of a numeral, or `none` if it is too large. -/
def real? (m : Numeral) : Option Float :=
  let (n, uncounted) := significand 0 m.whole
  let ds := m.fraction.getD []
  let (n, ignored) := significand n ds
  let e := Int.ofNat uncounted - Int.ofNat (ds.length - ignored)
  let e := match m.exponent with
    | none => e
    | some (true, es) => e - Int.ofNat (ofDigits es)
    | some (false, es) => e + Int.ofNat (ofDigits es)
  (scaled? n e).map fun x => if m.negative then -x else x

/-- The number of a numeral, or `none` if it is too large for a double.  Minus zero is no integer. -/
def value? (m : Numeral) : Option Number :=
  let n := ofDigits m.whole
  let isWhole := m.fraction.isNone && m.exponent.isNone
  if isWhole && !m.negative && n ≤ wordMax then some (.int (Int.ofNat n))
  else if isWhole && m.negative && n ≠ 0 && n ≤ 9223372036854775808 then some (.int (-Int.ofNat n))
  else m.real?.map .real

/-! ## Writing -/

def writeInt (n : Int) : List Char :=
  if n < 0 then '-' :: Nat.toDigits 10 n.natAbs else Nat.toDigits 10 n.natAbs

/-- Structured output has no way to write what is not a finite number. -/
def write : Number → List Char
  | .int n => writeInt n
  | .real x => if x.isFinite then Decimal.text x else ['n', 'u', 'l', 'l']

end Numeral
end Clearance
