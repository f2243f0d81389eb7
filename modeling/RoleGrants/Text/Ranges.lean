/-! Sets of characters given as ascending ranges of code points, the form in which the properties
of the Unicode standard are listed. -/

namespace RoleGrants.Text

/-- Ranges of code points with both ends included, in ascending order and without overlap. -/
abbrev Ranges := List (Nat × Nat)

/-- Whether a range of `table` holds `code`. The ranges ascend, so the search ends at the first
range that starts beyond `code`. -/
def Ranges.holds (table : Ranges) (code : Nat) : Bool :=
  match table with
  | [] => false
  | (low, high) :: rest =>
    if code < low then false else if code ≤ high then true else holds rest code

end RoleGrants.Text
