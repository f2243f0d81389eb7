import RoleGrants.Policy.Basic

/-! Bindings: the objects that grant a role to subjects, in one namespace or, without a namespace,
on the whole cluster. A binding is read from a body and written as a manifest. -/

namespace RoleGrants

def accessGroup : String := "rbac.authorization.k8s.io"

structure RoleRef where
  name : Value
  kind : Value := "ClusterRole"
  group : Value := .text accessGroup
  deriving Inhabited

structure Subject where
  kind : Value
  name : Value
  space : Value := ""
  deriving Inhabited

/-- A grant of a role to subjects. It holds in the namespace `space`, or on the whole cluster if
that is not present. -/
structure Binding where
  name : Value
  role : RoleRef
  subjects : List Subject := []
  space : Value := .null
  deriving Inhabited

namespace RoleRef

def toValue (role : RoleRef) : Value :=
  .object [("apiGroup", role.group), ("kind", role.kind), ("name", role.name)]

end RoleRef

namespace Subject

/-- The body of a subject. Users and groups belong to the group that governs access; service
accounts do not. -/
def toValue (subject : Subject) : Value :=
  .object ([("kind", subject.kind), ("name", subject.name)] ++
    (if subject.kind == .text "ServiceAccount" then [] else [("apiGroup", .text accessGroup)]) ++
    optionalField "namespace" subject.space)

def ofValue (body : Value) : Except Failure Subject := do
  let kind ← body.presentOr "kind" ""
  let name ← body.presentOr "name" ""
  let space ← body.presentOr "namespace" ""
  return { kind, name, space }

def same (a b : Subject) : Bool :=
  a.kind == b.kind && a.name == b.name && a.space == b.space

/-- The subject of a policy, with its home namespace. -/
def ofPolicy (policy : Policy) : Subject :=
  ⟨policy.subjectKind, policy.subjectName, policy.homeNamespace⟩

end Subject

namespace Binding

def kind (binding : Binding) : String :=
  if binding.space.isTrue then "RoleBinding" else "ClusterRoleBinding"

def toValue (binding : Binding) : Value :=
  .object [
    ("apiVersion", .text (accessGroup ++ "/v1")),
    ("kind", .text binding.kind),
    ("metadata", .object (("name", binding.name) :: optionalField "namespace" binding.space)),
    ("subjects", .list (binding.subjects.map Subject.toValue)),
    ("roleRef", binding.role.toValue)]

def ofValue (body : Value) : Except Failure Binding := do
  let metadata ← body.presentOr "metadata" (.object [])
  let role ← body.presentOr "roleRef" (.object [])
  let name ← metadata.presentOr "name" ""
  let space ← metadata.presentOr "namespace" .null
  let roleName ← role.presentOr "name" ""
  let roleKind ← role.presentOr "kind" "ClusterRole"
  let roleGroup ← role.presentOr "apiGroup" (.text accessGroup)
  let subjects ← (← body.elementsOf "subjects").mapM Subject.ofValue
  return { name, space, role := ⟨roleName, roleKind, roleGroup⟩, subjects }

def same (a b : Binding) : Bool :=
  a.name == b.name && a.space == b.space && a.role.name == b.role.name &&
    a.role.kind == b.role.kind && a.role.group == b.role.group &&
    a.subjects.length == b.subjects.length &&
    (a.subjects.zip b.subjects).all fun (x, y) => x.same y

/-- The name of the binding of a role to a subject. Different pairs can have the same name. -/
def nameOf (role subject : Value) : String :=
  s!"{role.plain}-{subject.plain}"

/-- The binding that grants a role to the subject of a policy on the whole cluster. -/
def onCluster (role : Value) (policy : Policy) : Binding where
  name := .text (nameOf role policy.subjectName)
  role := ⟨role, "ClusterRole", .text accessGroup⟩
  subjects := [Subject.ofPolicy policy]

/-- The binding that grants a role to the subject of a policy in one namespace. -/
def inNamespace (role : Value) (policy : Policy) (space : Value) : Binding :=
  { onCluster role policy with space }

end Binding

end RoleGrants
