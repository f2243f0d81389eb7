import RoleGrants.Settings.Basic
import RoleGrants.Program.Basic

/-! Requests to the API server of a cluster. Policies are custom resources; bindings, roles and
namespaces are resources of the cluster itself. -/

namespace RoleGrants.Api

/-- The resource under which policies are kept. -/
structure CustomResource where
  group : String
  version : String
  plural : String
  deriving DecidableEq, Inhabited

def CustomResource.ofSettings (settings : Settings) : CustomResource :=
  ⟨settings.group, settings.version, settings.plural⟩

def CustomResource.fields (resource : CustomResource) : List (String × Value) :=
  [("group", .text resource.group), ("version", .text resource.version),
    ("plural", .text resource.plural)]

/-- A request to the API server. -/
inductive Request where
  | readCustom (resource : CustomResource) (space name : Value)
  | listCustomIn (resource : CustomResource) (space : Value)
  | listCustom (resource : CustomResource)
  | patchCustomStatus (resource : CustomResource) (space name body : Value)
  | listClusterRoles
  | listClusterRoleBindings
  | listRoleBindingsIn (space : Value)
  | listRoleBindings
  | createRoleBinding (space body : Value)
  | createClusterRoleBinding (body : Value)
  | readNamespace (name : Value)
  | listNamespaces
  deriving Inhabited

namespace Request

def part : Request → String
  | .readCustom .. | .listCustomIn .. | .listCustom .. | .patchCustomStatus .. => "custom"
  | .readNamespace .. | .listNamespaces => "core"
  | _ => "rbac"

def name : Request → String
  | .readCustom .. => "get_namespaced_custom_object"
  | .listCustomIn .. => "list_namespaced_custom_object"
  | .listCustom .. => "list_cluster_custom_object"
  | .patchCustomStatus .. => "patch_namespaced_custom_object_status"
  | .listClusterRoles => "list_cluster_role"
  | .listClusterRoleBindings => "list_cluster_role_binding"
  | .listRoleBindingsIn .. => "list_namespaced_role_binding"
  | .listRoleBindings => "list_role_binding_for_all_namespaces"
  | .createRoleBinding .. => "create_namespaced_role_binding"
  | .createClusterRoleBinding .. => "create_cluster_role_binding"
  | .readNamespace .. => "read_namespace"
  | .listNamespaces => "list_namespace"

def arguments : Request → List Value
  | .listRoleBindingsIn space => [space]
  | .createRoleBinding space body => [space, body]
  | .createClusterRoleBinding body => [body]
  | .readNamespace name => [name]
  | _ => []

def namedArguments : Request → List (String × Value)
  | .readCustom resource space name =>
    [("namespace", space), ("name", name)] ++ resource.fields
  | .listCustomIn resource space => ("namespace", space) :: resource.fields
  | .listCustom resource => resource.fields
  | .patchCustomStatus resource space name body =>
    [("namespace", space), ("name", name), ("body", body)] ++ resource.fields
  | _ => []

def body : Request → Value
  | .createRoleBinding _ body => body
  | .createClusterRoleBinding body => body
  | .patchCustomStatus _ _ _ body => body
  | _ => .null

/-- The request for a call to the store, in the namespace that is watched if there is one. -/
def ofCall (settings : Settings) : StoreCall → Request
  | .getPolicy space name => .readCustom (.ofSettings settings) space name
  | .listPolicies =>
    match settings.watched with
    | some space => .listCustomIn (.ofSettings settings) (.text space)
    | none => .listCustom (.ofSettings settings)
  | .listClusterRoles => .listClusterRoles
  | .listClusterRoleBindings => .listClusterRoleBindings
  | .listRoleBindings none => .listRoleBindings
  | .listRoleBindings (some space) =>
    if space.isTrue then .listRoleBindingsIn space else .listRoleBindings
  | .getNamespace name => .readNamespace name
  | .listNamespaces => .listNamespaces
  | .createBinding binding =>
    if binding.space.isTrue then .createRoleBinding binding.space binding.toValue
    else .createClusterRoleBinding binding.toValue
  | .updateStatus policy =>
    .patchCustomStatus (.ofSettings settings) policy.space policy.name
      (.object [("status", policy.statusToValue)])

end Request

end RoleGrants.Api
