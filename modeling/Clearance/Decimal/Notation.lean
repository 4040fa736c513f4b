import Clearance.Decimal.Shortest
/-!
# Notation — how coordinates are written

Both notations write the shortest digits.  `text` is the one of structured output: positional while the first digit
stands for `10^-5` to `10^15`, always with a fraction, and with an exponent beyond.  `plain` never has an exponent and
no fraction that is zero.  Where two numbers with the fewest digits are equally near, `text` takes the one with the even
last digit, `plain` the one farther from zero.
-/
namespace Clearance
namespace Decimal

def isNegative (x : Float) : Bool := Nat.pow 2 63 ≤ x.toBits.toNat

def isZero (x : Float) : Bool := x.toBits.toNat % Nat.pow 2 63 = 0

/-- The shortest digits of a finite number; a single zero for zero. -/
def digitsOf (x : Float) (tie : Tie) : Digits :=
  if isZero x then ⟨['0'], 0⟩ else (Binary.ofBits x.toBits).shortest tie

def sign (x : Float) : List Char := if isNegative x then ['-'] else []

/-- Digits with the decimal point where it belongs; `fraction` is what follows where no digit stands behind it. -/
def positional (d : Digits) (fraction : List Char) : List Char :=
  if d.lead < 0 then '0' :: '.' :: (List.replicate (-d.lead - 1).toNat '0' ++ d.digits)
  else
    let whole := d.lead.toNat + 1
    if d.digits.length ≤ whole then d.digits ++ List.replicate (whole - d.digits.length) '0' ++ fraction
    else d.digits.take whole ++ '.' :: d.digits.drop whole

/-- Digits with the point after the first one, and the exponent with its sign. -/
def scientific (d : Digits) : List Char :=
  let tail := match d.digits.drop 1 with
    | [] => []
    | ds => '.' :: ds
  d.digits.take 1 ++ tail ++ 'e' :: (if d.lead < 0 then '-' else '+') :: Nat.toDigits 10 d.lead.natAbs

/-- A finite number in structured output: `38.0`, `-0.0`, `0.00001`, `1e-6`, `1.5e+16`. -/
def text (x : Float) : List Char :=
  let d := digitsOf x .toEven
  sign x ++ if -5 ≤ d.lead && d.lead ≤ 15 then positional d ['.', '0'] else scientific d

/-- A finite number without exponent: `38`, `-121.5`, `0.0000001`, `-0`. -/
def plain (x : Float) : List Char := sign x ++ positional (digitsOf x .up) []

end Decimal
end Clearance
