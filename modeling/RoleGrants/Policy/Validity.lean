import RoleGrants.Policy.Basic
import RoleGrants.Safelist

/-! Validation of a policy, which comes before anything is written for it. The first rule that a
policy breaks is reported, with the condition types that the breach is recorded against: both for
the subject, and for a grant that of its scope. -/

namespace RoleGrants.Policy

def subjectKinds : List Value :=
  ["User", "Group", "ServiceAccount"]

/-- Checks the pattern in the field `name` of the permission at `place`. A pattern that is refused
for its size, and not for a fault, is not the policy's breach. -/
def checkPattern (place name : String) (pattern : Value) : Except Failure Unit :=
  if !pattern.isTrue then .ok ()
  else
    match Safelist.compile pattern with
    | .ok _ => .ok ()
    | .error failure =>
      match failure with
      | .badPattern source (.malformed fault position) =>
        .error (.invalidPolicy
          (s!"{place}: invalid {name} '{pattern.plain}': " ++
            (Pattern.Error.malformed fault position).message source)
          [.roleBindingCreated])
      | _ => .error failure

/-- Checks the roles granted on the whole cluster from the one at `index` on. -/
def checkClusterPermissions (index : Nat) : List Value → Except Failure Unit
  | [] => .ok ()
  | role :: rest => do
    require role.isTrue (.invalidPolicy
      s!"clusterPermissions[{index}]: clusterRoleName cannot be empty"
      [.clusterRoleBindingCreated])
    checkClusterPermissions (index + 1) rest

def checkPermission (place : String) (permission : Permission) : Except Failure Unit := do
  require permission.role.isTrue
    (.invalidPolicy s!"{place}: clusterRoleName cannot be empty" [.roleBindingCreated])
  checkPattern place "namespacesAllowedRegex" permission.allowed
  checkPattern place "namespacesDeniedRegex" permission.denied

def checkPermissions (index : Nat) : List Permission → Except Failure Unit
  | [] => .ok ()
  | permission :: rest => do
    checkPermission s!"permissions[{index}]" permission
    checkPermissions (index + 1) rest

def validate (policy : Policy) : Except Failure Unit := do
  require policy.subjectName.isTrue
    (.invalidPolicy "subjectName cannot be empty" ConditionType.all)
  require (subjectKinds.contains policy.subjectKind) (.invalidPolicy
    (s!"subjectKind must be one of {(Value.list subjectKinds).quoted}, " ++
      s!"got '{policy.subjectKind.plain}'")
    ConditionType.all)
  checkClusterPermissions 0 policy.clusterPermissions
  checkPermissions 0 policy.permissions

end RoleGrants.Policy
