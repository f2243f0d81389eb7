/-! Binary floating-point numbers of 64 bits, held exactly: the nearest number to a decimal text,
the shortest decimal that reads back as a number, and the decimals with a given count of digits.
All arithmetic is on natural numbers, so every result is exact. -/

namespace RoleGrants

/-- A floating-point number of 64 bits other than NaN. A finite number is its significand times two
to its exponent, with the sign kept apart so that there are two zeros. -/
inductive Binary64 where
  | finite (negative : Bool) (significand : Nat) (exponent : Int)
  | infinite (negative : Bool)
  deriving DecidableEq, Inhabited, Repr

/-- A decimal `digits` times ten to `exponent`. -/
structure Decimal where
  digits : Nat
  exponent : Int
  deriving DecidableEq, Inhabited, Repr

/-- The quotient of two natural numbers rounded to the nearest, and a tie to the even neighbour. -/
def roundedDiv (num den : Nat) : Nat :=
  let quotient := num / den
  let rest := num % den
  if 2 * rest > den || (2 * rest == den && quotient % 2 == 1) then quotient + 1 else quotient

/-- The fraction `num / den` times `base` to `power`, as a numerator and a denominator. -/
def scaled (num den base : Nat) (power : Int) : Nat × Nat :=
  if power < 0 then (num, den * Nat.pow base power.natAbs)
  else (num * Nat.pow base power.natAbs, den)

/-- The count of decimal digits of a natural number, one for zero. -/
def decimalLength (n : Nat) : Nat :=
  (Nat.toDigits 10 n).length

namespace Binary64

/-- The least exponent of a number, that of the numbers too small for a full significand. -/
def leastExponent : Int := -1074

def greatestExponent : Int := 971

/-- The number nearest to the fraction `num / den`, and of two equally near the one with an even
significand. -/
def ofFraction (negative : Bool) (num den : Nat) : Binary64 :=
  if num == 0 then .finite negative 0 leastExponent
  else
    let guess := (num.log2 : Int) - den.log2 - 52
    let (n, d) := scaled num den 2 (-guess)
    let exponent := max leastExponent (if n / d < Nat.pow 2 52 then guess - 1 else guess)
    let (n, d) := scaled num den 2 (-exponent)
    let significand := roundedDiv n d
    let (significand, exponent) :=
      if significand == Nat.pow 2 53 then (Nat.pow 2 52, exponent + 1) else (significand, exponent)
    if exponent > greatestExponent then .infinite negative
    else .finite negative significand exponent

def ofDecimal (negative : Bool) (value : Decimal) : Binary64 :=
  -- Beyond these exponents the nearest number is infinite or zero whatever the digits are.
  let size := (decimalLength value.digits : Int) + value.exponent
  if value.digits == 0 || size < -400 then .finite negative 0 leastExponent
  else if size > 400 then .infinite negative
  else
    let (num, den) := scaled value.digits 1 10 value.exponent
    ofFraction negative num den

def fraction (significand : Nat) (exponent : Int) : Nat × Nat :=
  scaled significand 1 2 exponent

/-- The count of decimal digits before the point of `num / den`, and when there is none the count
of zeros after the point, negated. -/
def pointPosition (num den : Nat) : Int :=
  if num / den > 0 then decimalLength (num / den)
  else (decimalLength (num * Nat.pow 10 400 / den) : Int) - 400

/-- Ten to `power` in units of which `num / den` is `n / d`. -/
def inTens (num den : Nat) (power : Int) : Nat × Nat :=
  scaled num den 10 (-power)

/-- The nearest to `num / den` of the two neighbours with `count` digits that read back as
`target`, if one does. -/
def neighbour? (target : Binary64) (num den : Nat) (count : Nat) : Option Decimal :=
  let exponent := pointPosition num den - count
  let (n, d) := inTens num den exponent
  let below : Decimal := ⟨n / d, exponent⟩
  let above : Decimal := ⟨n / d + 1, exponent⟩
  let readsBack (value : Decimal) := ofDecimal false value == target
  let (nearer, farther) :=
    if roundedDiv n d == n / d then (below, above) else (above, below)
  if readsBack nearer then some nearer else if readsBack farther then some farther else none

/-- The decimal with the fewest digits that reads back as the finite number given by its
significand and exponent, and of those the nearest, a tie going to the even digit. Seventeen digits
always read back. -/
def shortest (significand : Nat) (exponent : Int) : Decimal :=
  if significand == 0 then ⟨0, 0⟩
  else
    let (num, den) := fraction significand exponent
    let counts := (List.range 17).map (· + 1)
    (counts.findSome? (neighbour? (.finite false significand exponent) num den)).getD ⟨0, 0⟩

def toInt? : Binary64 → Option Int
  | .infinite _ => none
  | .finite negative significand exponent =>
    let (num, den) := fraction significand exponent
    let size : Int := (num / den : Nat)
    if num % den == 0 then some (if negative then -size else size) else none

def truncate? : Binary64 → Option Int
  | .infinite _ => none
  | .finite negative significand exponent =>
    let (num, den) := fraction significand exponent
    some (if negative then -(num / den : Nat) else (num / den : Nat))

def isZero : Binary64 → Bool
  | .finite _ significand _ => significand == 0
  | .infinite _ => false

/-- Equality as numbers: the two zeros are equal. -/
def same (x y : Binary64) : Bool :=
  x == y || (x.isZero && y.isZero)

def isNegative : Binary64 → Bool
  | .finite negative _ _ => negative
  | .infinite negative => negative

end Binary64

def decimalText (n : Nat) : String :=
  String.ofList (Nat.toDigits 10 n)

/-- The digits of an exponent with its sign, at least two. -/
def exponentText (exponent : Int) : String :=
  let digits := decimalText exponent.natAbs
  (if exponent < 0 then "-" else "+") ++ (if digits.length < 2 then "0" ++ digits else digits)

namespace Decimal

def strip (value : Decimal) : Decimal :=
  let digits := (Nat.toDigits 10 value.digits).reverse
  let zeros := (digits.takeWhile (· == '0')).length
  if value.digits == 0 then ⟨0, 0⟩ else ⟨value.digits / Nat.pow 10 zeros, value.exponent + zeros⟩

/-- The position of the decimal point from the start of the digits. -/
def point (value : Decimal) : Int :=
  decimalLength value.digits + value.exponent

/-- The digits with a point in place and zeros where it lies outside them. -/
def positional (value : Decimal) : String :=
  let digits := decimalText value.digits
  let point := value.point
  if point ≤ 0 then "0." ++ String.ofList (List.replicate point.natAbs '0') ++ digits
  else if value.exponent ≥ 0 then
    digits ++ String.ofList (List.replicate value.exponent.natAbs '0') ++ ".0"
  else
    String.ofList (digits.toList.take point.natAbs) ++ "." ++
      String.ofList (digits.toList.drop point.natAbs)

/-- One digit, a point when more follow, the other digits, and the exponent. -/
def scientific (value : Decimal) : String :=
  let digits := (decimalText value.digits).toList
  let rest := digits.drop 1
  let fraction := if rest.isEmpty then "" else "." ++ String.ofList rest
  String.ofList (digits.take 1) ++ fraction ++ "e" ++ exponentText (value.point - 1)

end Decimal

/-- The shortest text of a number: positional from three zeros after the point up to sixteen digits
before it, and always with a point or an exponent. -/
def Binary64.text : Binary64 → String
  | .infinite negative => if negative then "-inf" else "inf"
  | .finite negative significand exponent =>
    let value := (shortest significand exponent).strip
    let point := value.point
    let sign := if negative then "-" else ""
    if significand == 0 then sign ++ "0.0"
    else if -4 < point && point ≤ 16 then sign ++ value.positional
    else sign ++ value.scientific

end RoleGrants
