import RoleGrants.Value.Access

/-! Conditions: what the operator reports in the status of a policy, at most one for each condition
type once the operator has written it. -/

namespace RoleGrants

inductive ConditionState where
  | created
  | failed
  deriving DecidableEq, Inhabited

def ConditionState.name : ConditionState → String
  | .created => "Created"
  | .failed => "Failed"

def ConditionType.ofName? (name : String) : Option ConditionType :=
  all.find? fun type => type.name == name

def ConditionState.ofName? (name : String) : Option ConditionState :=
  [.created, .failed].find? fun (state : ConditionState) => state.name == name

@[simp] theorem ConditionType.ofName?_name (type : ConditionType) :
    ofName? type.name = some type := by
  cases type <;> decide

@[simp] theorem ConditionState.ofName?_name (state : ConditionState) :
    ofName? state.name = some state := by
  cases state <;> decide

/-- The condition type that a value names, or a failure that shows the value. -/
def ConditionType.ofValue (value : Value) : Except Failure ConditionType :=
  match value with
  | .text name =>
    match ofName? name with
    | some type => .ok type
    | none => .error (.unknownType value)
  | _ => .error (.unknownType value)

def ConditionState.ofValue (value : Value) : Except Failure ConditionState :=
  match value with
  | .text name =>
    match ofName? name with
    | some state => .ok state
    | none => .error (.unknownState value)
  | _ => .error (.unknownState value)

/-- What is reported of one scope of a policy: whether its bindings are created, since when the
status has its value, and the roles concerned. -/
structure Condition where
  type : ConditionType
  state : ConditionState
  status : Bool
  lastTransitionTime : Value
  message : Value
  roles : List Value
  deriving Inhabited

namespace Condition

def toValue (condition : Condition) : Value :=
  .object [
    ("type", .text condition.type.name),
    ("state", .text condition.state.name),
    ("status", .bool condition.status),
    ("lastTransitionTime", condition.lastTransitionTime),
    ("message", condition.message),
    ("clusterRoleName", .list condition.roles)]

/-- Reads a condition from its body. Only the type must be there. -/
def ofValue (body : Value) : Except Failure Condition := do
  let type ← ConditionType.ofValue (← body.required "type")
  let state ← ConditionState.ofValue (← body.fieldOr "state" "Failed")
  let status := (← body.fieldOr "status" (.bool false)).isTrue
  let lastTransitionTime ← body.fieldOr "lastTransitionTime" ""
  let message ← body.fieldOr "message" ""
  let roles ← body.elementsOf "clusterRoleName"
  return { type, state, status, lastTransitionTime, message, roles }

/-- Whether a body has the type of a condition that the operator knows. -/
def isKnown (body : Value) : Except Failure Bool := do
  let type ← body.fieldOr "type" .null
  require type.isKey .wrongType
  match type with
  | .text name => return (ConditionType.ofName? name).isSome
  | _ => return false

/-- Reads the conditions of known type from bodies and passes over the others. -/
def listOfValues (bodies : List Value) : Except Failure (List Condition) := do
  match bodies with
  | [] => return []
  | body :: rest =>
    if ← isKnown body then return (← ofValue body) :: (← listOfValues rest) else listOfValues rest

def same (a b : Condition) : Bool :=
  a.toValue == b.toValue

end Condition

end RoleGrants
