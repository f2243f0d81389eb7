import RoleGrants.Value.Access

/-! The order of values. Texts are in the order of their characters and numbers in that of their
size; other values, and a text and a number, have no order. -/

namespace RoleGrants.Value

/-- A finite number as a fraction with a positive denominator. -/
def fraction? : Value → Option (Int × Nat)
  | .bool b => some (if b then 1 else 0, 1)
  | .int n => some (n, 1)
  | .float (.finite negative significand exponent) =>
    let (num, den) := Binary64.fraction significand exponent
    some (if negative then -(num : Int) else num, den)
  | _ => none

/-- Whether a value is not above another, if they have an order. -/
def upTo? (a b : Value) : Option Bool :=
  match a, b with
  | .text s, .text t => some (decide (s ≤ t))
  | _, _ =>
    match a.fraction?, b.fraction? with
    | some (p, q), some (r, s) => some (decide (p * s ≤ r * q))
    | _, _ => none

/-- The values in ascending order. All of them must have an order. -/
def sorted (values : List Value) : Except Failure (List Value) := do
  match values with
  | [] => return []
  | first :: rest =>
    require (rest.all fun value => (first.upTo? value).isSome) .wrongType
    return values.mergeSort fun a b => (a.upTo? b).getD true

end RoleGrants.Value
