import RoleGrants.Value.Text
import RoleGrants.Pattern.Error

/-! Why an operation fails. A failure names its cause; `Failure.message` gives the text for the
causes that have one. -/

namespace RoleGrants

/-- The types of the conditions of a policy, one for each scope that it grants in. -/
inductive ConditionType where
  | clusterRoleBindingCreated
  | roleBindingCreated
  deriving DecidableEq, Inhabited

def ConditionType.name : ConditionType → String
  | .clusterRoleBindingCreated => "ClusterRoleBindingCreated"
  | .roleBindingCreated => "RoleBindingCreated"

def ConditionType.all : List ConditionType :=
  [.clusterRoleBindingCreated, .roleBindingCreated]

inductive StoreFault where
  | general
  | notFound
  | alreadyExists
  deriving DecidableEq, Inhabited

inductive Failure where
  /-- A policy breaks a rule, which is recorded against some condition types. -/
  | invalidPolicy (message : String) (types : List ConditionType)
  | store (fault : StoreFault) (message : String)
  | operator (message : String)
  | outside (message : String)
  | unknownType (value : Value)
  | unknownState (value : Value)
  | missingField (name : String)
  | badPattern (source : String) (error : Pattern.Error)
  /-- A moment lies outside the years one to 9999. -/
  | timeOutOfRange
  /-- A value has a type on which an operation is not defined. -/
  | wrongType
  | notAnObject
  deriving Inhabited

namespace Failure

def message? : Failure → Option String
  | .invalidPolicy message _ => some message
  | .store _ message => some message
  | .operator message => some message
  | .outside message => some message
  | .unknownType value => some s!"{value.quoted} is not a valid ConditionType"
  | .unknownState value => some s!"{value.quoted} is not a valid ConditionState"
  | .missingField name => some (Text.quoted name)
  | .badPattern source error => some (error.message source)
  | .timeOutOfRange => some "date value out of range"
  | .wrongType => none
  | .notAnObject => none

/-- The text of a failure, empty if it has none. -/
def message (failure : Failure) : String :=
  failure.message?.getD ""

/-- Whether the store of objects is the cause. -/
def isStore : Failure → Bool
  | .store _ _ => true
  | _ => false

/-- Whether the failure is one of the operator's own kinds. -/
def isOperator : Failure → Bool
  | .invalidPolicy _ _ => true
  | .store _ _ => true
  | .operator _ => true
  | _ => false

end Failure

def require (condition : Bool) (failure : Failure) : Except Failure Unit :=
  if condition then .ok () else .error failure

end RoleGrants
