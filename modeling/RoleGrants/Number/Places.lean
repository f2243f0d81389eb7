import RoleGrants.Number.Binary64

/-! Floating-point numbers with a given count of digits: a fixed count after the point, a fixed
count in all with an exponent, or whichever of the two suits the size of the number. Every digit is
exact; what lies beyond the last is rounded to the nearest, and a tie to the even digit. -/

namespace RoleGrants

inductive PlaceStyle where
  | fixed
  | scientific
  | general
  deriving DecidableEq, Inhabited

namespace Binary64

/-- The integer part and the fraction of `digits` units of ten to minus `places`. -/
def pointed (digits places : Nat) : String × String :=
  let text := (decimalText digits).toList
  let padded := List.replicate (places + 1 - text.length) '0' ++ text
  (String.ofList (padded.take (padded.length - places)),
    String.ofList (padded.drop (padded.length - places)))

/-- The parts of a number with a point between them. The point is left out before an empty fraction
unless it is to be kept. -/
def joined (keepPoint : Bool) (parts : String × String) : String :=
  if parts.2.isEmpty && !keepPoint then parts.1 else parts.1 ++ "." ++ parts.2

def withoutZeros (fraction : String) : String :=
  String.ofList (fraction.toList.reverse.dropWhile (· == '0')).reverse

/-- The nearest decimal with `count` digits to a positive fraction. -/
def toDigits (num den count : Nat) : Decimal :=
  let exponent := pointPosition num den - count
  let (n, d) := inTens num den exponent
  let digits := roundedDiv n d
  if digits == Nat.pow 10 count then ⟨digits / 10, exponent + 1⟩ else ⟨digits, exponent⟩

def fixedText (keepPoint : Bool) (num den places : Nat) : String :=
  joined keepPoint (pointed (roundedDiv (num * Nat.pow 10 places) den) places)

/-- The nearest decimal with `count` digits to a fraction, and for zero as many zeros. -/
def roundedTo (num den count : Nat) : Decimal :=
  if num == 0 then ⟨0, 1 - count⟩ else toDigits num den count

/-- A fraction with one digit before the point, `places` after it, and an exponent. -/
def scientificText (keepPoint : Bool) (num den places : Nat) : String :=
  let value := roundedTo num den (places + 1)
  joined keepPoint (pointed value.digits places) ++ "e" ++ exponentText (value.exponent + places)

/-- A fraction with `count` digits: without an exponent if it is neither below ten to minus four nor
too large for its digits. Zeros at the end of its fraction are left out unless the point is to be
kept. -/
def generalText (keepPoint : Bool) (num den count : Nat) : String :=
  let value := roundedTo num den count
  let power := value.exponent + count - 1
  let trimmed (parts : String × String) : String × String :=
    if keepPoint then parts else (parts.1, withoutZeros parts.2)
  if -4 ≤ power && power < count then
    joined keepPoint (trimmed (pointed value.digits value.exponent.natAbs))
  else
    joined keepPoint (trimmed (pointed value.digits (count - 1))) ++ "e" ++ exponentText power

/-- The absolute value of a number in a style. At least one digit is written. -/
def placesText (style : PlaceStyle) (keepPoint : Bool) (precision : Nat) : Binary64 → String
  | .infinite _ => "inf"
  | .finite _ significand exponent =>
    let (num, den) := fraction significand exponent
    match style with
    | .fixed => fixedText keepPoint num den precision
    | .scientific => scientificText keepPoint num den precision
    | .general => generalText keepPoint num den (max 1 precision)

example : placesText .fixed false 2 (ofFraction false 5 8) = "0.62" ∧
    placesText .scientific false 3 (ofFraction false 123456 1) = "1.235e+05" ∧
    placesText .general false 6 (ofFraction false 1 10000) = "0.0001" := by
  decide +kernel

end Binary64

end RoleGrants
