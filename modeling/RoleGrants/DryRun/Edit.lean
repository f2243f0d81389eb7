import RoleGrants.DryRun.World

/-! Changes of a world between two runs: what owners of policies, administrators of the cluster and
time itself do, and the failures that are asked for. -/

namespace RoleGrants.DryRun

inductive FaultKind where
  | store (fault : StoreFault)
  | operator
  | outside
  deriving DecidableEq, Inhabited

def FaultKind.failure (message : String) : FaultKind → Failure
  | .store fault => .store fault message
  | .operator => .operator message
  | .outside => .outside message

/-- The fault that an operation fails after some more calls. Its message names the operation unless
another is given. -/
def Fault.of (operation : String) (kind : FaultKind) (message : Option String) (after : Nat) :
    Fault where
  operation := operation
  failure := kind.failure (message.getD s!"{operation} failed")
  after := after

namespace World

def ofBodies (clock : Int) (policies namespaces roles bindings : List Value) :
    Except Failure World := do
  let policies ← policies.mapM Policy.ofValue
  let namespaces ← namespaces.mapM Namespace.ofValue
  let bindings ← bindings.mapM Binding.ofValue
  let cluster : Cluster := { namespaces, roles }
  let cluster ← policies.foldlM Cluster.putPolicy cluster
  let cluster ← bindings.foldlM Cluster.putBinding cluster
  return { cluster, clock }

def addPolicy (world : World) (body : Value) : Except Failure World := do
  let cluster ← world.cluster.putPolicy (← Policy.ofValue body)
  return { world with cluster }

def removePolicy (world : World) (space name : Value) : World :=
  let kept := world.cluster.policies.filter fun policy => !Cluster.isPolicy space name policy
  { world with cluster := { world.cluster with policies := kept } }

/-- Replaces the part of a policy that its owner writes. -/
def setSpec (world : World) (space name spec : Value) : Except Failure World := do
  let policies ← world.cluster.policies.mapM fun policy =>
    if Cluster.isPolicy space name policy then policy.withSpec (spec.orElse (.object []))
    else .ok policy
  return { world with cluster := { world.cluster with policies } }

/-- Marks a policy as being deleted since some time. -/
def markDeleted (world : World) (space name time : Value) : World :=
  { world with
    cluster := world.cluster.changePolicy space name fun policy =>
      { policy with deletionTimestamp := time } }

/-- Puts a namespace at the end of those of the cluster, even if there is one of its name. -/
def addNamespace (world : World) (body : Value) : Except Failure World := do
  let namespaces := world.cluster.namespaces ++ [← Namespace.ofValue body]
  return { world with cluster := { world.cluster with namespaces } }

/-- Changes the phase of all namespaces of a name. -/
def setPhase (world : World) (name phase : Value) : World :=
  let namespaces := world.cluster.namespaces.map fun space =>
    if space.name == name then { space with phase } else space
  { world with cluster := { world.cluster with namespaces } }

def removeNamespace (world : World) (name : Value) : World :=
  let namespaces := world.cluster.namespaces.filter fun space => space.name != name
  { world with cluster := { world.cluster with namespaces } }

def addRole (world : World) (role : Value) : World :=
  { world with cluster := { world.cluster with roles := world.cluster.roles ++ [role] } }

def removeRole (world : World) (role : Value) : World :=
  let roles := world.cluster.roles.filter fun other => other != role
  { world with cluster := { world.cluster with roles } }

/-- Takes a binding out of the cluster, if it is there. -/
def deleteBinding (world : World) (space name : Value) : World :=
  let bindings := world.cluster.bindings.filter fun binding =>
    !Cluster.isBinding space name binding
  { world with cluster := { world.cluster with bindings } }

def advance (world : World) (seconds : Int) : World :=
  { world with clock := world.clock + seconds }

def mend (world : World) (operation : String) : World :=
  { world with faults := world.faults.filter fun fault => fault.operation != operation }

/-- Asks for a failure, in the place of an earlier one of its operation. -/
def disrupt (world : World) (fault : Fault) : World :=
  { world with faults := fault :: (world.mend fault.operation).faults }

end World

end RoleGrants.DryRun
