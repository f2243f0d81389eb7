import RoleGrants.Api.Request

/-! Replies of the API server, and the answers to calls of the store that are read from them. -/

namespace RoleGrants.Api

/-- A reply of the API server: an object, a list of objects, or a refusal with a status and a
reason. -/
inductive Reply where
  | object (body : Value)
  | items (bodies : Value)
  | refused (status reason : Value)
  deriving Inhabited

def purpose : StoreCall → String
  | .getPolicy space name => s!"get PermissionPolicy {space.plain}/{name.plain}"
  | .listPolicies => "list PermissionPolicies"
  | .listClusterRoles => "list ClusterRoles"
  | .listClusterRoleBindings => "list ClusterRoleBindings"
  | .listRoleBindings _ => "list RoleBindings"
  | .getNamespace name => s!"get Namespace {name.plain}"
  | .listNamespaces => "list Namespaces"
  | .createBinding binding => s!"create {binding.kind} {binding.name.plain}"
  | .updateStatus policy => s!"update status of PermissionPolicy {policy.key}"

def faultOf (status : Value) : StoreFault :=
  if status == .int 404 then .notFound
  else if status == .int 409 then .alreadyExists
  else .general

def refusal (call : StoreCall) (status reason : Value) : Failure :=
  .store (faultOf status) s!"{purpose call}: {status.plain} {reason.plain}"

namespace Reply

/-- The object of a reply about a custom resource. A list of them is an object too. -/
def custom : Reply → Value
  | .object body => body
  | .items bodies => .object [("items", bodies)]
  | .refused _ _ => .null

def single : Reply → Except Failure Value
  | .object body => .ok body
  | _ => .error .notAnObject

/-- The objects of a reply that lists resources of the cluster itself. -/
def listed : Reply → Except Failure (List Value)
  | .items bodies => bodies.elements
  | .object (.object _) => .error .wrongType
  | _ => .error .notAnObject

def roleName (body : Value) : Except Failure Value := do
  (← body.required "metadata").required "name"

def read (reply : Reply) : (call : StoreCall) → Except Failure call.Answer
  | .getPolicy _ _ => Policy.ofValue reply.custom
  | .listPolicies => do
    (← (← reply.custom.fieldOr "items" (.list [])).elements).mapM Policy.ofValue
  | .listClusterRoles => do (← reply.listed).mapM roleName
  | .listClusterRoleBindings => do (← reply.listed).mapM Binding.ofValue
  | .listRoleBindings _ => do (← reply.listed).mapM Binding.ofValue
  | .getNamespace _ => do Namespace.ofValue (← reply.single)
  | .listNamespaces => do (← reply.listed).mapM Namespace.ofValue
  | .createBinding _ => do Binding.ofValue (← reply.single)
  | .updateStatus _ => .ok ()

/-- The answer to a call in a reply. -/
def answer (reply : Reply) (call : StoreCall) : Except Failure call.Answer :=
  match reply with
  | .refused status reason => .error (refusal call status reason)
  | reply => reply.read call

end Reply

end RoleGrants.Api
