import RoleGrants.Namespace
import RoleGrants.Pattern.Basic

/-! The namespaces that a permission selects: those whose names the allowing pattern matches, less
those that the denying pattern matches. Without an allowing pattern there are none, and without a
denying pattern none are dropped. -/

namespace RoleGrants.Safelist

def compile (pattern : Value) : Except Failure Pattern :=
  match pattern with
  | .text source =>
    match Pattern.compile source with
    | .ok compiled => .ok compiled
    | .error error => .error (.badPattern source error)
  | _ => .error .wrongType

def matchesName (pattern : Pattern) (name : Value) : Except Failure Bool :=
  match name with
  | .text name => .ok (pattern.search name)
  | _ => .error .wrongType

def keep (test : Value → Except Failure Bool) (names : List Value) :
    Except Failure (List Value) :=
  match names with
  | [] => return []
  | name :: rest => do
    if ← test name then return name :: (← keep test rest) else keep test rest

/-- The names that a pair of patterns selects, in order. -/
def resolve (allowed denied : Value) (names : List Value) : Except Failure (List Value) := do
  if !allowed.isTrue then return []
  let allow ← compile allowed
  let selected ← keep (matchesName allow) names
  if !denied.isTrue then return selected
  let deny ← compile denied
  keep (fun name => return !(← matchesName deny name)) selected

end RoleGrants.Safelist
