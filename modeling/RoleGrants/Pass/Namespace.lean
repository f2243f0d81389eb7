import RoleGrants.Pass.Basic
import RoleGrants.Policy.Validity

/-! A pass over one namespace that is new or has changed. It grants there what every policy asks
for in it, and passes over the policies that cannot be granted. A policy whose permissions are now
granted in all the namespaces that they select has its condition set. -/

namespace RoleGrants.NamespacePass

open Program Pass

/-- The namespace of a pass, the bindings created in it, and whether it was passed over. -/
structure Result where
  space : Value
  created : List Binding := []
  skipped : Bool := false
  deriving Inhabited

def controller : String := "namespace"

/-- Creates a binding and says whether it is new. -/
def create (binding : Binding) (context : List (String × Value)) : Program Bool := do
  let isNew ← inStep "create RoleBinding" do
    match ← (ask (.createBinding binding)).attempt with
    | .ok _ => return true
    | .error (.store .alreadyExists _) =>
      count (.creations binding.kind "exists")
      return false
    | .error failure => fail failure
  if isNew then
    count (.creations binding.kind "created")
    log context .info s!"RoleBinding {binding.name.plain} created successfully"
  return isNew

/-- Grants one permission of a policy in a namespace, if its role exists and it selects the
namespace. -/
def grantPermission (policy : Policy) (space : Value) (roles : List Value)
    (context : List (String × Value)) (grants : Grants) (permission : Permission) :
    Program Grants := do
  ofExcept (Value.requireKeys [permission.role])
  if !roles.contains permission.role then
    log context .info
      s!"ClusterRole '{permission.role.plain}' does not exist, skipping permission"
    return grants
  let targets ← selected permission [space]
  if !targets.contains space then return grants
  let binding := Binding.inNamespace permission.role policy space
  if grants.index.exists? binding.name (some space) then return grants
  return grants.add binding (← create binding context)

/-- Whether every permission selects some namespaces and has its binding in each of them. -/
def isGranted (policy : Policy) (names : List Value) (index : BindingIndex) :
    List Permission → Except Failure Bool
  | [] => .ok true
  | permission :: rest => do
    let targets ← Safelist.resolve permission.allowed permission.denied names
    let name := Value.text (Binding.nameOf permission.role policy.subjectName)
    if !targets.isEmpty && targets.all fun target => index.exists? name (some target) then
      isGranted policy names index rest
    else return false

def fullyGranted (policy : Policy) : Program Bool := do
  let spaces ← inStep "list Namespaces" do validNamespaces (← ask .listNamespaces)
  let bindings ← inStep "list RoleBindings" (ask (.listRoleBindings none))
  ofExcept
    (isGranted policy (spaces.map (·.name)) (BindingIndex.ofList bindings) policy.permissions)

/-- Sets the condition of a policy that is granted everywhere. -/
def recordGranted (policy : Policy) : Program Unit := do
  let roles := policy.permissionRoles
  let tracker ← upsert (Tracker.start policy.conditions) (granted .roleBindingCreated roles)
  recordGrants policy roles namespaceScope
  if tracker.changed then writeStatus policy tracker "update PermissionPolicy status"

def grant (policy : Policy) (space : Value) (roles : List Value)
    (context : List (String × Value)) (index : BindingIndex) : Program Grants := do
  let start : Grants := { index }
  let grants ← fold policy.permissions start (grantPermission policy space roles context)
  if grants.created.isEmpty || !policy.permissionRoles.all roles.contains then return grants
  if ← fullyGranted policy then
    recordGranted policy
  else
    log context .info "Other namespaces still lack RoleBindings, status left as is"
  return grants

/-- Grants a policy in a namespace, unless it is being deleted or breaks a rule. -/
def apply (space : Value) (roles : List Value) (before : Grants) (policy : Policy) :
    Program Grants := do
  let context := [("namespace", space), ("policy", .text policy.key)]
  if policy.isDeleting then
    log context .debug "PermissionPolicy is being deleted, skipping"
    return before
  match policy.validate with
  | .error (.invalidPolicy message _) =>
    log context .warning s!"Skipping invalid PermissionPolicy: {message}"
    return before
  | .error failure => fail failure
  | .ok () =>
    let after ← grant policy space roles context before.index
    return { after with created := before.created ++ after.created }

def applyAll (space : Value) (context : List (String × Value)) : Program Result := do
  let policies ← inStep "list PermissionPolicies" (ask .listPolicies)
  if policies.isEmpty then return { space }
  let roles ← inStep "list ClusterRoles" do
    let roles ← ask .listClusterRoles
    ofExcept (Value.requireKeys roles)
    return roles
  let bindings ← inStep "list RoleBindings" (ask (.listRoleBindings (some space)))
  let start : Grants := { index := BindingIndex.ofList bindings }
  let grants ← fold policies start (apply space roles)
  if !grants.created.isEmpty then
    log context .info s!"Created {grants.created.length} RoleBindings"
  return { space, created := grants.created }

/-- Fetches a namespace and grants all policies in it, unless it cannot receive bindings. -/
def work (name : Value) (context : List (String × Value)) : Program Result := do
  let found ← find "fetch Namespace" context "Namespace not found, nothing to do"
    (ask (.getNamespace name))
  match found with
  | none => return { space := name, skipped := true }
  | some found =>
    if !found.isValid then
      log context .info "Namespace is terminating, skipping"
      return { space := name, skipped := true }
    applyAll name context

/-- Counts how a pass ended. Failures that are not the store's are not counted. -/
def countEnd : Except Failure Result → Program Unit
  | .ok result => count (.passes controller (if result.skipped then "Skipped" else "Evaluated"))
  | .error (.store _ _) => count (.passes controller "Error")
  | .error _ => return ()

def run (name : Value) : Program Result := do
  let context := [("namespace", name)]
  let ended ← (timed controller (work name context)).attempt
  countEnd ended
  ofExcept ended

end RoleGrants.NamespacePass
