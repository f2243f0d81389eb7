import RoleGrants.Program.Basic
import RoleGrants.Value.Order

/-! A cluster as a store of objects in memory. Policies are kept under their namespace and name, and
bindings too; those on the whole cluster have no namespace. Objects stay in the order in which they
came, and one that is written again keeps its place. -/

namespace RoleGrants

structure Cluster where
  policies : List Policy := []
  namespaces : List Namespace := []
  roles : List Value := []
  bindings : List Binding := []
  deriving Inhabited

namespace Cluster

def isPolicy (space name : Value) (policy : Policy) : Bool :=
  policy.space == space && policy.name == name

/-- Whether a binding is kept under a namespace and a name. -/
def isBinding (space name : Value) (binding : Binding) : Bool :=
  binding.space == space && binding.name == name

/-- The items with one of them put under a test: in the place of the first that passes it, and at
the end if none does. -/
def put (test : α → Bool) (item : α) : List α → List α
  | [] => [item]
  | other :: rest => if test other then item :: rest else other :: put test item rest

/-- The cluster with one more policy, or another in its place. -/
def putPolicy (cluster : Cluster) (policy : Policy) : Except Failure Cluster := do
  Value.requireKeys [policy.space, policy.name]
  return { cluster with
    policies := put (isPolicy policy.space policy.name) policy cluster.policies }

def putBinding (cluster : Cluster) (binding : Binding) : Except Failure Cluster := do
  Value.requireKeys [binding.space, binding.name]
  return { cluster with
    bindings := put (isBinding binding.space binding.name) binding cluster.bindings }

/-- The cluster with some of its policies changed. -/
def changePolicy (cluster : Cluster) (space name : Value) (change : Policy → Policy) : Cluster :=
  { cluster with
    policies := cluster.policies.map fun policy =>
      if isPolicy space name policy then change policy else policy }

def getPolicy (cluster : Cluster) (space name : Value) : Except Failure Policy := do
  Value.requireKeys [space, name]
  match cluster.policies.find? (isPolicy space name) with
  | some policy => return policy
  | none =>
    throw (.store .notFound s!"PermissionPolicy {space.plain}/{name.plain} not found")

/-- The first namespace of a name. -/
def getNamespace (cluster : Cluster) (name : Value) : Except Failure Namespace :=
  match cluster.namespaces.find? fun space => space.name == name with
  | some space => .ok space
  | none => .error (.store .notFound s!"Namespace {name.plain} not found")

def clusterRoleBindings (cluster : Cluster) : List Binding :=
  cluster.bindings.filter fun binding => !binding.space.isTrue

def roleBindings (cluster : Cluster) (space : Option Value) : List Binding :=
  cluster.bindings.filter fun binding =>
    binding.space.isTrue && space.all fun space => binding.space == space

/-- The cluster with a binding that it does not have yet. -/
def createBinding (cluster : Cluster) (binding : Binding) : Except Failure Cluster := do
  Value.requireKeys [binding.space, binding.name]
  require (!cluster.bindings.any (isBinding binding.space binding.name))
    (.store .alreadyExists s!"{binding.kind} {binding.name.plain} already exists")
  return { cluster with bindings := cluster.bindings ++ [binding] }

/-- The cluster with the conditions of a policy written to the one kept. Nothing else of the policy
is written. -/
def updateStatus (cluster : Cluster) (policy : Policy) : Except Failure Cluster := do
  Value.requireKeys [policy.space, policy.name]
  require (cluster.policies.any (isPolicy policy.space policy.name))
    (.store .notFound s!"PermissionPolicy {policy.key} not found")
  return cluster.changePolicy policy.space policy.name fun kept =>
    { kept with conditions := policy.conditions }

/-- The answer of the cluster to a call, and the cluster after it. -/
def answer (cluster : Cluster) : (call : StoreCall) → Except Failure call.Answer × Cluster
  | .getPolicy space name => (cluster.getPolicy space name, cluster)
  | .listPolicies => (.ok cluster.policies, cluster)
  | .listClusterRoles => (.ok cluster.roles, cluster)
  | .listClusterRoleBindings => (.ok cluster.clusterRoleBindings, cluster)
  | .listRoleBindings space => (.ok (cluster.roleBindings space), cluster)
  | .getNamespace name => (cluster.getNamespace name, cluster)
  | .listNamespaces => (.ok cluster.namespaces, cluster)
  | .createBinding binding =>
    match cluster.createBinding binding with
    | .ok after => (.ok binding, after)
    | .error failure => (.error failure, cluster)
  | .updateStatus policy =>
    match cluster.updateStatus policy with
    | .ok after => (.ok (), after)
    | .error failure => (.error failure, cluster)

/-- The names of the bindings in a namespace in ascending order. -/
def roleBindingNames (cluster : Cluster) (space : Value) : Except Failure (List Value) :=
  Value.sorted ((cluster.bindings.filter fun binding => binding.space == space).map (·.name))

def clusterRoleBindingNames (cluster : Cluster) : Except Failure (List Value) :=
  Value.sorted (cluster.clusterRoleBindings.map (·.name))

end Cluster

end RoleGrants
