import RoleGrants.Text.Quoted

/-! Why a template cannot be filled. -/

namespace RoleGrants.Template

inductive Fault where
  /-- The values and the placeholders do not go together, in number or in kind. -/
  | mismatch
  | missing (name : String)
  /-- The name of a placeholder does not end. -/
  | openName
  | incomplete
  | unknownForm (form : Char) (index : Nat)
  | widthTooLarge
  | precisionTooLarge
  /-- A width among the values is too large. -/
  | widthOutOfRange
  /-- A precision among the values is too large. -/
  | precisionOutOfRange
  | infiniteInteger
  | integerTooLarge
  | noCharacter
  deriving DecidableEq, Inhabited

/-- A character as messages show it, a question mark unless it is a printing ASCII one. -/
def shownForm (form : Char) : Char :=
  if 31 ≤ form.toNat && form.toNat < 126 then form else '?'

def Fault.message? : Fault → Option String
  | .mismatch => none
  | .missing name => some (Text.quoted name)
  | .openName => some "incomplete format key"
  | .incomplete => some "incomplete format"
  | .unknownForm form index =>
    let code := String.ofList (Nat.toDigits 16 form.toNat)
    some s!"unsupported format character '{shownForm form}' (0x{code}) at index {index}"
  | .widthTooLarge => some "width too big"
  | .precisionTooLarge => some "precision too big"
  | .widthOutOfRange => some "Python int too large to convert to C ssize_t"
  | .precisionOutOfRange => some "Python int too large to convert to C int"
  | .infiniteInteger => some "cannot convert float infinity to integer"
  | .integerTooLarge => some "int too large to convert to float"
  | .noCharacter => some "%c arg not in range(0x110000)"

end RoleGrants.Template
