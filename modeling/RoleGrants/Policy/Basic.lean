import RoleGrants.Condition.Basic

/-! Policies: which roles a subject is granted, on the whole cluster and in the namespaces that
patterns choose. A policy is read from a body and written back. Fields of the wrong type are kept as
they are, so that validation can speak of them. -/

namespace RoleGrants

/-- A role granted in every namespace that one pattern allows and another does not deny. -/
structure Permission where
  role : Value
  allowed : Value := ""
  denied : Value := ""
  deriving Inhabited

/-- What a subject is granted. The namespace that holds the policy is its `space`. -/
structure Policy where
  name : Value
  space : Value
  subjectKind : Value
  subjectName : Value
  subjectNamespace : Value := ""
  clusterPermissions : List Value := []
  permissions : List Permission := []
  conditions : List Condition := []
  deletionTimestamp : Value := .null
  resourceVersion : Value := .null
  deriving Inhabited

/-- The field of an object, if it is present. -/
def optionalField (name : String) (value : Value) : List (String × Value) :=
  if value.isTrue then [(name, value)] else []

namespace Permission

/-- The body of a permission. A pattern that is not present is left out. -/
def toValue (permission : Permission) : Value :=
  .object (("clusterRoleName", permission.role) ::
    optionalField "namespacesAllowedRegex" permission.allowed ++
    optionalField "namespacesDeniedRegex" permission.denied)

def ofValue (body : Value) : Except Failure Permission := do
  let role ← body.presentOr "clusterRoleName" ""
  let allowed ← body.presentOr "namespacesAllowedRegex" ""
  let denied ← body.presentOr "namespacesDeniedRegex" ""
  return { role, allowed, denied }

def same (a b : Permission) : Bool :=
  a.role == b.role && a.allowed == b.allowed && a.denied == b.denied

end Permission

namespace Policy

/-- The namespace and the name of a policy in one text. -/
def key (policy : Policy) : String :=
  s!"{policy.space.plain}/{policy.name.plain}"

/-- Whether the policy is being deleted: it has a deletion time, of whatever kind. -/
def isDeleting (policy : Policy) : Bool :=
  match policy.deletionTimestamp with
  | .null => false
  | _ => true

/-- The namespace of the subject. A service account has that of its policy unless it names one; a
user or a group has none. -/
def homeNamespace (policy : Policy) : Value :=
  if policy.subjectNamespace.isTrue then policy.subjectNamespace
  else if policy.subjectKind == .text "ServiceAccount" then policy.space
  else ""

/-- The roles of the permissions in namespaces, in order and with repetitions. -/
def permissionRoles (policy : Policy) : List Value :=
  policy.permissions.map (·.role)

/-- The body of the part of a policy that its owner writes. -/
def specToValue (policy : Policy) : Value :=
  .object ([("subjectKind", policy.subjectKind), ("subjectName", policy.subjectName)] ++
    optionalField "subjectNamespace" policy.subjectNamespace ++
    optionalField "clusterPermissions" (.list policy.clusterPermissions) ++
    optionalField "permissions" (.list (policy.permissions.map Permission.toValue)))

/-- The body of the part of a policy that the operator writes. -/
def statusToValue (policy : Policy) : Value :=
  .object [("conditions", .list (policy.conditions.map Condition.toValue))]

def toValue (policy : Policy) : Value :=
  .object [
    ("metadata", .object ([("name", policy.name), ("namespace", policy.space)] ++
      optionalField "deletionTimestamp" policy.deletionTimestamp ++
      optionalField "resourceVersion" policy.resourceVersion)),
    ("spec", policy.specToValue),
    ("status", policy.statusToValue)]

/-- The policy with the part that its owner writes taken from `spec`. -/
def withSpec (policy : Policy) (spec : Value) : Except Failure Policy := do
  let subjectKind ← spec.presentOr "subjectKind" ""
  let subjectName ← spec.presentOr "subjectName" ""
  let subjectNamespace ← spec.presentOr "subjectNamespace" ""
  let clusterPermissions ← spec.elementsOf "clusterPermissions"
  let permissions ← (← spec.elementsOf "permissions").mapM Permission.ofValue
  return { policy with
    subjectKind, subjectName, subjectNamespace, clusterPermissions, permissions }

/-- Reads a policy from its body. Conditions of unknown type are passed over. -/
def ofValue (body : Value) : Except Failure Policy := do
  let metadata ← body.presentOr "metadata" (.object [])
  let spec ← body.presentOr "spec" (.object [])
  let status ← body.presentOr "status" (.object [])
  let name ← metadata.fieldOr "name" ""
  let space ← metadata.fieldOr "namespace" ""
  let bare : Policy := { name, space, subjectKind := "", subjectName := "" }
  let policy ← bare.withSpec spec
  let conditions ← Condition.listOfValues (← status.elementsOf "conditions")
  let deletionTimestamp ← metadata.fieldOr "deletionTimestamp" .null
  let resourceVersion ← metadata.fieldOr "resourceVersion" .null
  return { policy with conditions, deletionTimestamp, resourceVersion }

def same (a b : Policy) : Bool :=
  a.name == b.name && a.space == b.space && a.subjectKind == b.subjectKind &&
    a.subjectName == b.subjectName && a.subjectNamespace == b.subjectNamespace &&
    Value.sameItems a.clusterPermissions b.clusterPermissions &&
    a.permissions.length == b.permissions.length &&
    (a.permissions.zip b.permissions).all (fun (x, y) => x.same y) &&
    a.conditions.length == b.conditions.length &&
    (a.conditions.zip b.conditions).all (fun (x, y) => x.same y) &&
    a.deletionTimestamp == b.deletionTimestamp && a.resourceVersion == b.resourceVersion

end Policy

end RoleGrants
