import RoleGrants.Binding.Index
import RoleGrants.Namespace

/-! Calls to the store of cluster objects, each with the type of its answer. -/

namespace RoleGrants

/-- A call to the store of cluster objects. Without a namespace, role bindings of all of them are
listed. -/
inductive StoreCall where
  | getPolicy (space name : Value)
  | listPolicies
  | listClusterRoles
  | listClusterRoleBindings
  | listRoleBindings (space : Option Value)
  | getNamespace (name : Value)
  | listNamespaces
  | createBinding (binding : Binding)
  | updateStatus (policy : Policy)

namespace StoreCall

abbrev Answer : StoreCall → Type
  | .getPolicy _ _ => Policy
  | .listPolicies => List Policy
  | .listClusterRoles => List Value
  | .listClusterRoleBindings => List Binding
  | .listRoleBindings _ => List Binding
  | .getNamespace _ => Namespace
  | .listNamespaces => List Namespace
  | .createBinding _ => Binding
  | .updateStatus _ => Unit

def operation : StoreCall → String
  | .getPolicy _ _ => "get_policy"
  | .listPolicies => "list_policies"
  | .listClusterRoles => "list_cluster_roles"
  | .listClusterRoleBindings => "list_cluster_role_bindings"
  | .listRoleBindings _ => "list_role_bindings"
  | .getNamespace _ => "get_namespace"
  | .listNamespaces => "list_namespaces"
  | .createBinding _ => "create_binding"
  | .updateStatus _ => "update_status"

def mutations : List String :=
  ["create_binding", "update_status"]

end StoreCall

end RoleGrants
