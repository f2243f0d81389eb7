import RoleGrants.Pass.Policy
import RoleGrants.Pass.Namespace
import RoleGrants.Settings.Basic

/-! What the operator does when something happens in the cluster. A handler runs a pass and decides
what follows from its end: nothing, another try after a delay, or none at all. -/

namespace RoleGrants

/-- What follows from the end of a handler. -/
inductive Directive where
  | finish
  | retry (message : String) (delay : Int)
  | giveUp (message : String)
  deriving DecidableEq, Inhabited

inductive Health where
  | healthy (policies : Nat)
  | unhealthy (message : String)
  deriving DecidableEq, Inhabited

namespace Handlers

open Program

/-- A policy as it is named in the log. -/
def label (space name : Value) : String :=
  s!"{space.plain}/{name.plain}"

/-- A pass over a policy. When the policy breaks a rule, its owner has to mend it first; any other
failure of the operator and bindings that are left for the next pass are tried again. -/
def passOver (settings : Settings) (space name : Value) : Program Directive := do
  match ← (PolicyPass.run space name).attempt with
  | .ok result =>
    if result.requeue then
      return .retry s!"{result.outcome.name}, continuing with namespace permissions"
        settings.requeueDelay
    else return .finish
  | .error (.invalidPolicy message _) => return .giveUp message
  | .error failure =>
    if failure.isOperator then
      log [] .error s!"Reconcile of {label space name} failed: {failure.message}"
      return .retry failure.message settings.retryDelay
    else fail failure

/-- A policy is new or has changed, or the operator has started. -/
def policyChanged (settings : Settings) (space name : Value) : Program Directive := do
  log [] .info s!"PermissionPolicy {label space name} changed"
  passOver settings space name

/-- A policy is deleted. The bindings that it granted stay. -/
def policyDeleted (space name body : Value) : Program Unit := do
  log [] .info s!"PermissionPolicy {label space name} deleted"
  Pass.release (← ofExcept (Policy.ofValue body))

/-- Runs a program for its effects. A failure of the operator is logged and goes no further. -/
def contained (description : String) (program : Program α) : Program Unit := do
  match ← program.attempt with
  | .ok _ => return ()
  | .error failure =>
    if failure.isOperator then log [] .error s!"{description} failed: {failure.message}"
    else fail failure

def periodicResync (space name : Value) : Program Unit :=
  contained s!"Periodic resync of {label space name}" (PolicyPass.run space name)

/-- A namespace is new or has changed. That it is gone needs no pass. -/
def namespaceChanged (event name : Value) : Program Unit := do
  let type ← ofExcept (event.fieldOr "type" .null)
  if type == .text "DELETED" then return ()
  contained s!"Re-evaluation for namespace {name.plain}" (NamespacePass.run name)

/-- Someone asks how the operator is. It is well if it can list the policies. -/
def healthProbe : Program Health := do
  match ← (ask .listPolicies).attempt with
  | .ok policies => return .healthy policies.length
  | .error failure =>
    if failure.isOperator then
      log [] .error s!"Health check failed: {failure.message}"
      return .unhealthy failure.message
    else fail failure

end Handlers

end RoleGrants
