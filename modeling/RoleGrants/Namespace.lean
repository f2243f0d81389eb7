import RoleGrants.Value.Access

/-! Namespaces as they are listed: a name and a phase. -/

namespace RoleGrants

structure Namespace where
  name : Value
  phase : Value := "Active"
  deriving Inhabited

namespace Namespace

/-- Reads a namespace from its body. A namespace without a phase is active. -/
def ofValue (body : Value) : Except Failure Namespace := do
  let metadata ← body.presentOr "metadata" (.object [])
  let status ← body.presentOr "status" (.object [])
  let name ← metadata.presentOr "name" ""
  let phase ← status.presentOr "phase" "Active"
  return { name, phase }

def isTerminating (space : Namespace) : Bool :=
  space.phase == .text "Terminating"

/-- Whether the namespace can receive bindings: it has a name and is not going away. -/
def isValid (space : Namespace) : Bool :=
  space.name.isTrue && !space.isTerminating

/-- The line that is logged of a namespace that cannot receive bindings. -/
def passedOver (space : Namespace) : String :=
  s!"Namespace '{space.name.plain}' doesn't exist or is terminating"

end Namespace

end RoleGrants
