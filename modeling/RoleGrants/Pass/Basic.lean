import RoleGrants.Program.Basic
import RoleGrants.Safelist

/-! What the passes over policies and over namespaces share: the conditions that they set when all
bindings of a scope exist, the creation of bindings that are not there yet, and the metrics of what
is granted. -/

namespace RoleGrants.Pass

open Program

/-- The verdict on a scope in which every binding of some roles exists. -/
def granted (type : ConditionType) (roles : List Value) : Verdict where
  type := type
  state := .created
  status := true
  message :=
    match type with
    | .clusterRoleBindingCreated => "Successfully created all ClusterRoleBindings"
    | .roleBindingCreated => "Successfully created all RoleBindings"
  roles := roles

/-- Runs the work of a controller and counts that its time was taken, however it ends. -/
def timed (controller : String) (work : Program α) : Program α := do
  let result ← work.attempt
  count (.timings controller)
  ofExcept result

/-- Runs a step that finds an object. When the store has none, a line is logged and that is no
failure. -/
def find (description : String) (context : List (String × Value)) (absent : String)
    (step : Program α) : Program (Option α) :=
  inStep description do
    match ← step.attempt with
    | .ok found => return some found
    | .error (.store .notFound _) =>
      log context .info absent
      return none
    | .error failure => fail failure

def series (policy : Policy) (scope : String) (role : Value) : Series :=
  ⟨policy.subjectName, .text policy.key, role, .text scope⟩

/-- Records that a policy grants some roles in a scope, each once. -/
def recordGrants (policy : Policy) (roles : List Value) (scope : String) : Program Unit := do
  ofExcept (Value.requireKeys roles)
  forEach (Value.distinct roles) fun role => record (series policy scope role)

def releaseGrants (policy : Policy) (roles : List Value) (scope : String) : Program Unit := do
  ofExcept (Value.requireKeys roles)
  forEach (Value.distinct roles) fun role => clear (series policy scope role)

/-- Releases all metrics of a policy. Its bindings are left in place. -/
def release (policy : Policy) : Program Unit := do
  log [("policy", .text policy.key)] .info "Removing Prometheus metrics for PermissionPolicy"
  releaseGrants policy policy.clusterPermissions clusterScope
  releaseGrants policy policy.permissionRoles namespaceScope

def selected (permission : Permission) (names : List Value) : Program (List Value) :=
  ofExcept (Safelist.resolve permission.allowed permission.denied names)

def writeStatus (policy : Policy) (tracker : Tracker) (description : String) : Program Unit :=
  inStep description (ask (.updateStatus { policy with conditions := tracker.current }))

/-- The bindings that a pass knows to exist, and among them those that it created. -/
structure Grants where
  index : BindingIndex
  created : List Binding := []
  deriving Inhabited

namespace Grants

def add (grants : Grants) (binding : Binding) (isNew : Bool) : Grants where
  index := grants.index.add binding
  created := if isNew then grants.created ++ [binding] else grants.created

end Grants

end RoleGrants.Pass
