import RoleGrants.Pass.Basic
import RoleGrants.Policy.Validity
import RoleGrants.Log.Event

/-! A pass over one policy. It checks the policy and that every role exists, creates the bindings
on the whole cluster, and once they all exist those in namespaces. It stops at the first step that
fails, and after a step that leaves work for a later pass. A binding that exists counts as created,
so passes can be repeated freely. -/

namespace RoleGrants

inductive Outcome where
  | notFound
  | deleted
  | rolesMissing
  | clusterBindingsCreated
  | roleBindingsCreated
  | incomplete
  | upToDate
  deriving DecidableEq, Inhabited

def Outcome.name : Outcome → String
  | .notFound => "NotFound"
  | .deleted => "Deleted"
  | .rolesMissing => "ClusterRolesMissing"
  | .clusterBindingsCreated => "ClusterRoleBindingsCreated"
  | .roleBindingsCreated => "RoleBindingsCreated"
  | .incomplete => "Incomplete"
  | .upToDate => "UpToDate"

namespace PolicyPass

open Program Pass

/-- The outcome of a pass, whether another should follow at once, and the bindings created. -/
structure Result where
  outcome : Outcome
  requeue : Bool := false
  created : List Binding := []
  deriving Inhabited

def Result.summary (result : Result) : List (String × Value) :=
  [("outcome", .text result.outcome.name), ("bindings_created", .int result.created.length),
    ("requeue", .bool result.requeue)]

def controller : String := "permissionpolicy"

/-- How the messages of conditions begin that tell of a breach of the rules for policies. -/
def breach : String := "Validation failed"

def tellsOfBreach : Option Condition → Except Failure Bool
  | none => .ok false
  | some condition =>
    match condition.message with
    | .text message => .ok (breach.toList.isPrefixOf message.toList)
    | _ => .error .notAnObject

/-- The conditions without those of some types that tell of a breach. -/
def forgetBreaches (tracker : Tracker) : List ConditionType → Except Failure Tracker
  | [] => .ok tracker
  | type :: rest => do
    let mended ← tellsOfBreach (tracker.get? type)
    forgetBreaches (if mended then tracker.remove type else tracker) rest

/-- Refuses a policy that breaks a rule, after recording the breach. That the record cannot be
written does not hide the breach. -/
def refuse (policy : Policy) (tracker : Tracker) (context : List (String × Value))
    (message : String) (types : List ConditionType) : Program α := do
  count (.errors "validation")
  log context .warning s!"PermissionPolicy validation failed: {message}"
  let tracker ← fold types tracker fun tracker type =>
    upsert tracker {
      type, state := .failed, status := true, message := s!"{breach}: {message}", roles := [] }
  match ← (ask (.updateStatus { policy with conditions := tracker.current })).attempt with
  | .ok () => fail (.invalidPolicy s!"PermissionPolicy validation failed: {message}" types)
  | .error failure =>
    if failure.isStore then
      log context .error s!"Failed to record validation failure: {failure.message}"
      fail (.invalidPolicy s!"PermissionPolicy validation failed: {message}" types)
    else fail failure

/-- Checks a policy and gives its conditions, without those of breaches that are mended. -/
def check (policy : Policy) (context : List (String × Value)) : Program Tracker :=
  let tracker := Tracker.start policy.conditions
  match policy.validate with
  | .ok () => ofExcept (forgetBreaches tracker ConditionType.all)
  | .error (.invalidPolicy message types) => refuse policy tracker context message types
  | .error failure => fail failure

/-- Sets the condition of a scope of which some roles are missing. -/
def noteMissing (tracker : Tracker) (context : List (String × Value)) (type : ConditionType)
    (grants message : String) (missing : List Value) : Program Tracker := do
  if missing.isEmpty then return tracker
  log context .warning s!"ClusterRoles for {grants} missing: {(Value.list missing).quoted}"
  upsert tracker { type, state := .failed, status := true, message, roles := missing }

def recordMissing (policy : Policy) (tracker : Tracker) (context : List (String × Value))
    (onCluster inNamespaces : List Value) : Program Result := do
  count (.errors "dependency_missing")
  let tracker ← noteMissing tracker context .clusterRoleBindingCreated "clusterPermissions"
    "ClusterRole for ClusterPermission does not exist" onCluster
  let tracker ← noteMissing tracker context .roleBindingCreated "permissions"
    "ClusterRole for Permission does not exist" inNamespaces
  writeStatus policy tracker "update status for missing ClusterRoles"
  return { outcome := .rolesMissing }

/-- Creates a binding and says whether it is new. -/
def create (binding : Binding) (context : List (String × Value)) : Program Bool := do
  let isNew ← inStep s!"create {binding.kind}" do
    match ← (ask (.createBinding binding)).attempt with
    | .ok _ => return true
    | .error (.store .alreadyExists _) =>
      count (.creations binding.kind "exists")
      log context .debug s!"{binding.kind} {binding.name.plain} already exists"
      return false
    | .error failure =>
      if failure.isStore then count (.creations binding.kind "error")
      fail failure
  if isNew then
    count (.creations binding.kind "created")
    let place := if binding.space.isTrue then s!" in namespace {binding.space.plain}" else ""
    log context .info s!"{binding.kind} {binding.name.plain} created successfully{place}"
  return isNew

/-- Creates a binding unless one of its name is known, in the namespace `space` if there is one. -/
def ensure (context : List (String × Value)) (space : Option Value) (binding : Binding)
    (grants : Grants) : Program Grants := do
  if grants.index.exists? binding.name space then return grants
  return grants.add binding (← create binding context)

/-- Writes the conditions if they have changed. -/
def writeChanges (policy : Policy) (tracker : Tracker) : Program Unit := do
  if tracker.changed then writeStatus policy tracker "update status"

/-- Grants one permission in the namespaces that it selects. The answer says whether all permissions
so far selected some. -/
def grantPermission (policy : Policy) (context : List (String × Value)) (names : List Value)
    (progress : Grants × Bool) (permission : Permission) : Program (Grants × Bool) := do
  let targets ← selected permission names
  if targets.isEmpty then
    log context .info
      s!"No namespaces match permission for ClusterRole '{permission.role.plain}'"
    return (progress.1, false)
  let grants ← fold targets progress.1 fun grants target =>
    ensure context (some target) (Binding.inNamespace permission.role policy target) grants
  return (grants, progress.2)

def grantInNamespaces (policy : Policy) (tracker : Tracker) (context : List (String × Value)) :
    Program Result := do
  let spaces ← inStep "list Namespaces" do validNamespaces (← ask .listNamespaces)
  let bindings ← inStep "list RoleBindings" (ask (.listRoleBindings none))
  let names := spaces.map (·.name)
  let start : Grants := { index := BindingIndex.ofList bindings }
  let (grants, complete) ← fold policy.permissions (start, true)
    (grantPermission policy context names)
  if !complete then
    writeChanges policy tracker
    return { outcome := .incomplete, created := grants.created }
  let tracker ← upsert tracker (granted .roleBindingCreated policy.permissionRoles)
  recordGrants policy policy.permissionRoles namespaceScope
  writeStatus policy tracker "update status after creating RoleBindings"
  return { outcome := .roleBindingsCreated, created := grants.created }

/-- Grants the roles of a policy on the whole cluster. When bindings had to be created, those in
namespaces wait for the next pass. -/
def grantOnCluster (policy : Policy) (tracker : Tracker) (context : List (String × Value))
    (bindings : List Binding) : Program Result := do
  let start : Grants := { index := BindingIndex.ofList bindings }
  let grants ← fold policy.clusterPermissions start fun grants role =>
    ensure context none (Binding.onCluster role policy) grants
  let tracker ← upsert tracker (granted .clusterRoleBindingCreated policy.clusterPermissions)
  recordGrants policy policy.clusterPermissions clusterScope
  if !grants.created.isEmpty || policy.permissions.isEmpty then
    writeStatus policy tracker "update status after creating ClusterRoleBindings"
    return {
      outcome := .clusterBindingsCreated
      requeue := !policy.permissions.isEmpty
      created := grants.created }
  grantInNamespaces policy tracker context

/-- Grants what a checked policy asks for, if every role exists. -/
def grant (policy : Policy) (tracker : Tracker) (context : List (String × Value)) :
    Program Result := do
  let roles ← inStep "list ClusterRoles" (ask .listClusterRoles)
  let bindings ← inStep "list ClusterRoleBindings" (ask .listClusterRoleBindings)
  let onCluster ← ofExcept (missingRoles policy.clusterPermissions roles)
  let inNamespaces ← ofExcept (missingRoles policy.permissionRoles roles)
  if !onCluster.isEmpty || !inNamespaces.isEmpty then
    recordMissing policy tracker context onCluster inNamespaces
  else if !policy.clusterPermissions.isEmpty then
    grantOnCluster policy tracker context bindings
  else if !policy.permissions.isEmpty then
    grantInNamespaces policy tracker context
  else do
    writeChanges policy tracker
    return { outcome := .upToDate }

/-- Fetches a policy, checks it, and grants what it asks for unless it is being deleted. -/
def work (space name : Value) (context : List (String × Value)) : Program Result := do
  let found ← find "fetch PermissionPolicy" context
    "PermissionPolicy not found, assuming it was deleted" (ask (.getPolicy space name))
  match found with
  | none => return { outcome := .notFound }
  | some policy =>
    let tracker ← check policy context
    if policy.isDeleting then
      release policy
      return { outcome := .deleted }
    grant policy tracker context

/-- Counts how a pass ended. Failures that are neither the policy's nor the store's are not
counted. -/
def countEnd : Except Failure Result → Program Unit
  | .ok result => count (.passes controller result.outcome.name)
  | .error (.invalidPolicy _ _) => count (.passes controller "Invalid")
  | .error (.store _ _) => count (.passes controller "Error")
  | .error _ => return ()

def run (space name : Value) : Program Result := do
  let context := [("policy", Value.text s!"{space.plain}/{name.plain}")]
  log context .info "Reconciling PermissionPolicy"
  let ended ← (timed controller (work space name context)).attempt
  countEnd ended
  let result ← ofExcept ended
  log context .info (Log.eventText "reconcile_finished" result.summary)
  return result

end PolicyPass

end RoleGrants
