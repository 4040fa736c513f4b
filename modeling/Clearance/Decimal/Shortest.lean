/-!
# Shortest — the fewest decimal digits that determine a double

A finite double stands for all the reals that round to it.  `Binary` holds its exact value `mantissa · 2^exponent`;
`shortest` looks at the decimal grids of one, two, … seventeen digits and takes the first one that has a point among
those reals, of two such points the nearer one.  Which one is taken half way between them is up to the notation.  All
comparisons are exact, in natural numbers.
-/
namespace Clearance
namespace Decimal

/-- The magnitude of a finite double.  `narrow` marks the powers of two, whose lower neighbour is half as far away as
the upper one. -/
structure Binary where
  mantissa : Nat
  exponent : Int
  narrow : Bool
  deriving DecidableEq, Repr

/-- Where a magnitude goes that lies half way between two points. -/
inductive Tie where
  | toEven
  | up
  deriving DecidableEq, Repr

/-- Digits `d₀ d₁ d₂ …` of the number `d₀.d₁d₂… · 10^lead`. -/
structure Digits where
  digits : List Char
  lead : Int
  deriving DecidableEq, Repr

/-- The magnitude behind the 64 bits of a finite double. -/
def Binary.ofBits (bits : UInt64) : Binary :=
  let fraction := bits.toNat % Nat.pow 2 52
  let biased := bits.toNat / Nat.pow 2 52 % Nat.pow 2 11
  if biased = 0 then ⟨fraction, -1074, false⟩
  else ⟨Nat.pow 2 52 + fraction, Int.ofNat biased - 1075, fraction = 0 && 1 < biased⟩

/-- Compares `a · 10^p` with `b · 2^q`. -/
def compareScaled (a : Nat) (p : Int) (b : Nat) (q : Int) : Ordering :=
  compare (a * Nat.pow 10 p.toNat * Nat.pow 2 (-q).toNat) (b * Nat.pow 2 q.toNat * Nat.pow 10 (-p).toNat)

namespace Binary

/-- Whether `c · 10^p` rounds to this double.  The ends of the interval lie half way to the neighbours and belong to it
when the mantissa is even. -/
def covers (x : Binary) (c : Nat) (p : Int) : Bool :=
  let low := compareScaled c p (4 * x.mantissa - if x.narrow then 1 else 2) (x.exponent - 2)
  let high := compareScaled c p (4 * x.mantissa + 2) (x.exponent - 2)
  if x.mantissa % 2 = 0 then low != .lt && high != .gt else low == .gt && high == .lt

/-- The exponent of ten of the first digit: the greatest `e` with `10^e ≤ x`, for `x` above zero. -/
def leadExponent (x : Binary) : Int :=
  let num := x.mantissa * Nat.pow 2 x.exponent.toNat
  let den := Nat.pow 2 (-x.exponent).toNat
  if den ≤ num then Int.ofNat (Nat.toDigits 10 (num / den)).length - 1
  else
    let d := (Nat.toDigits 10 (den / num)).length
    if den = num * Nat.pow 10 (d - 1) then 1 - Int.ofNat d else - Int.ofNat d

/-- The greatest `c` with `c · 10^p ≤ x`. -/
def floorAt (x : Binary) (p : Int) : Nat :=
  x.mantissa * Nat.pow 2 x.exponent.toNat * Nat.pow 10 (-p).toNat
    / (Nat.pow 2 (-x.exponent).toNat * Nat.pow 10 p.toNat)

/-- Of the two neighbours `c` and `c + 1` of `x` on the grid `10^p`, the nearer. -/
def nearer (x : Binary) (tie : Tie) (c : Nat) (p : Int) : Nat :=
  match compareScaled (2 * c + 1) p (2 * x.mantissa) x.exponent, tie with
  | .lt, _ => c + 1
  | .gt, _ => c
  | .eq, .toEven => if c % 2 = 0 then c else c + 1
  | .eq, .up => c + 1

/-- The point of the grid `10^p` that stands for `x`, if one does. -/
def onGrid? (x : Binary) (tie : Tie) (p : Int) : Option Nat :=
  let c := x.floorAt p
  match x.covers c p, x.covers (c + 1) p with
  | true, true => some (x.nearer tie c p)
  | true, false => some c
  | false, true => some (c + 1)
  | false, false => none

/-- The digits of `c · 10^p`, without the zeros at their end. -/
def digitsOf (c : Nat) (p : Int) : Digits :=
  let ds := Nat.toDigits 10 c
  ⟨(ds.reverse.dropWhile (· = '0')).reverse, Int.ofNat ds.length - 1 + p⟩

/-- Tries the grids of `k` digits and more, `left` of them. -/
def shortestFrom (x : Binary) (tie : Tie) (e : Int) (k : Nat) : Nat → Digits
  | 0 => digitsOf (x.floorAt (e - 16)) (e - 16)
  | left + 1 =>
    match x.onGrid? tie (e + 1 - Int.ofNat k) with
    | some c => digitsOf c (e + 1 - Int.ofNat k)
    | none => shortestFrom x tie e (k + 1) left

/-- The shortest digits of a number above zero.  Seventeen are always enough. -/
def shortest (x : Binary) (tie : Tie) : Digits := shortestFrom x tie x.leadExponent 1 17

example : (Binary.mk 4503599627370497 (-2) false).shortest .toEven = ⟨"11258999068426242".toList, 15⟩ := by
  decide +kernel
example : (Binary.mk 4503599627370497 (-2) false).shortest .up = ⟨"11258999068426243".toList, 15⟩ := by
  decide +kernel

end Binary
end Decimal
end Clearance
