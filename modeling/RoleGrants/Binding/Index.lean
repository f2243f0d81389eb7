import RoleGrants.Binding.Basic

/-! Which bindings exist, by name and by namespace and name. The names of all bindings count when no
namespace is asked for, also those of bindings in namespaces. -/

namespace RoleGrants

/-- The names of some bindings, and the namespaces and names of those in a namespace. -/
structure BindingIndex where
  names : List Value := []
  places : List (Value × Value) := []
  deriving Inhabited

namespace BindingIndex

/-- The list with an item at its end, unless it has an equal one. -/
def putNew [BEq α] (items : List α) (item : α) : List α :=
  if items.contains item then items else items ++ [item]

def add (index : BindingIndex) (binding : Binding) : BindingIndex where
  names := putNew index.names binding.name
  places :=
    if binding.space.isTrue then putNew index.places (binding.space, binding.name)
    else index.places

def ofList (bindings : List Binding) : BindingIndex :=
  bindings.foldl add {}

/-- Whether a binding with a name exists, in a namespace if one is given. -/
def exists? (index : BindingIndex) (name : Value) (space : Option Value) : Bool :=
  match space with
  | none => index.names.contains name
  | some space => index.places.contains (space, name)

theorem any_putNew [BEq α] (items : List α) (item : α) (test : α → Bool)
    (h : ∀ other, item == other → test other = test item) :
    (putNew items item).any test = (items.any test || test item) := by
  unfold putNew
  split
  · next found =>
    cases ht : test item
    · simp
    · obtain ⟨other, mem, same⟩ := List.contains_iff_exists_mem_beq.mp found
      simpa using ⟨other, mem, (h other same).trans ht⟩
  · simp [List.any_append]

@[simp] theorem exists?_add_none (index : BindingIndex) (binding : Binding) (name : String) :
    (index.add binding).exists? (.text name) none =
      (index.exists? (.text name) none || Value.text name == binding.name) := by
  simp only [exists?, add, List.contains_eq_any_beq]
  exact any_putNew _ _ _ fun _ h => Value.text_beq_congr h

@[simp] theorem exists?_add_some (index : BindingIndex) (binding : Binding) (space name : String) :
    (index.add binding).exists? (.text name) (some (.text space)) =
      (index.exists? (.text name) (some (.text space)) ||
        (binding.space.isTrue && Value.text space == binding.space &&
          Value.text name == binding.name)) := by
  simp only [exists?, add, List.contains_eq_any_beq]
  split
  · next h =>
    rw [h, Bool.true_and]
    refine any_putNew _ _ _ fun other same => ?_
    obtain ⟨hs, hn⟩ := Bool.and_eq_true_iff.mp same
    change (Value.text space == other.1 && Value.text name == other.2) = _
    rw [Value.text_beq_congr hs, Value.text_beq_congr hn]
    rfl
  · next h => simp [h]

def size (index : BindingIndex) : Nat :=
  index.names.length

end BindingIndex

/-- The requested roles that do not exist, each once and in the order requested. -/
def missingRoles (requested existing : List Value) : Except Failure (List Value) := do
  Value.requireKeys existing
  Value.requireKeys requested
  return Value.distinct (requested.filter fun role => !existing.contains role)

end RoleGrants
