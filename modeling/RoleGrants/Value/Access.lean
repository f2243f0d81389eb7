import RoleGrants.Failure

/-! Reading the parts of a value of unknown type. -/

namespace RoleGrants.Value

def field? (name : String) : Value → Except Failure (Option Value)
  | .object fields => .ok (fields.lookup name)
  | _ => .error .notAnObject

def fieldOr (value : Value) (name : String) (default : Value) : Except Failure Value :=
  return (← value.field? name).getD default

def presentOr (value : Value) (name : String) (default : Value) : Except Failure Value :=
  return (← value.fieldOr name .null).orElse default

/-- The field `name`, which the object must have. -/
def required (name : String) : Value → Except Failure Value
  | .object fields =>
    match fields.lookup name with
    | some value => .ok value
    | none => .error (.missingField name)
  | _ => .error .wrongType

/-- The parts of a value one after another: the items of a list, the characters of a text, and the
keys of an object. -/
def elements : Value → Except Failure (List Value)
  | .list items => .ok items
  | .text s => .ok (s.toList.map fun c => .text (String.singleton c))
  | .object fields => .ok (fields.map fun (key, _) => .text key)
  | _ => .error .wrongType

def elementsOf (value : Value) (name : String) : Except Failure (List Value) := do
  (← value.presentOr name (.list [])).elements

/-- Refuses values of which some cannot be a key. -/
def requireKeys (values : List Value) : Except Failure Unit :=
  require (values.all isKey) .wrongType

def distinct (values : List Value) : List Value :=
  values.eraseDups

end RoleGrants.Value
