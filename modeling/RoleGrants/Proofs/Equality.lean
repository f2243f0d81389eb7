import RoleGrants.Proofs.Keys

/-! Values that are equal to themselves. Objects are compared by looking up the fields of one in the
other, so a value is equal to itself if its objects have one field for each key, as those of a body
do. What is read of such a value is such a value again. -/

namespace RoleGrants.Value

/-- Whether all objects in a value have one field for each key. -/
inductive IsKeyed : Value → Prop
  | atom {value : Value} (h : value.isKey = true) : IsKeyed value
  | list {items : List Value} (h : ∀ item ∈ items, IsKeyed item) : IsKeyed (.list items)
  | object {fields : List (String × Value)} (hkeys : (fields.map Prod.fst).Nodup)
      (h : ∀ field ∈ fields, IsKeyed field.2) : IsKeyed (.object fields)

variable {fields : List (String × Value)} {items : List Value} {name : String}
  {body value default : Value}

@[simp] theorem isKeyed_null : IsKeyed .null := .atom rfl

@[simp] theorem isKeyed_bool (b : Bool) : IsKeyed (.bool b) := .atom rfl

@[simp] theorem isKeyed_int (n : Int) : IsKeyed (.int n) := .atom rfl

@[simp] theorem isKeyed_text (text : String) : IsKeyed (.text text) := .atom rfl

@[simp] theorem isKeyed_list : (Value.list items).IsKeyed ↔ ∀ item ∈ items, item.IsKeyed := by
  refine ⟨fun h => ?_, .list⟩
  cases h with
  | atom h => cases h
  | list h => exact h

@[simp] theorem isKeyed_object : (Value.object fields).IsKeyed ↔
    (fields.map Prod.fst).Nodup ∧ ∀ field ∈ fields, field.2.IsKeyed := by
  refine ⟨fun h => ?_, fun h => .object h.1 h.2⟩
  cases h with
  | atom h => cases h
  | object hkeys h => exact ⟨hkeys, h⟩

/-! ### Equality of such values to themselves -/

/-- Among fields with different keys each is found under its own. -/
theorem lookup_eq_some_of_mem {field : String × Value} (hkeys : (fields.map Prod.fst).Nodup)
    (h : field ∈ fields) : fields.lookup field.1 = some field.2 := by
  obtain ⟨before, after, rfl⟩ := List.append_of_mem h
  rw [List.map_append, List.map_cons, List.nodup_append] at hkeys
  refine List.lookup_eq_some_iff.mpr ⟨before, after, rfl, fun other hother => ?_⟩
  exact bne_iff_ne.mpr
    (hkeys.2.2 other.1 (List.mem_map_of_mem hother) field.1 List.mem_cons_self).symm

theorem sameFields_of_mem {others : List (String × Value)}
    (h : ∀ field ∈ fields, others.lookup field.1 = some field.2 ∧ (field.2 == field.2) = true) :
    sameFields fields others = true := by
  induction fields with
  | nil => rfl
  | cons field rest ih =>
    obtain ⟨⟨hfound, hsame⟩, hrest⟩ := List.forall_mem_cons.mp h
    rw [sameFields, hfound]
    exact Bool.and_eq_true_iff.mpr ⟨hsame, ih hrest⟩

theorem IsKeyed.beq_self (h : value.IsKeyed) : (value == value) = true := by
  induction h with
  | atom h => exact beq_self_of_isKey h
  | list _ ih => exact sameItems_refl ih
  | @object fields hkeys _ ih =>
    refine Bool.and_eq_true_iff.mpr ⟨beq_self_eq_true fields.length, sameFields_of_mem ?_⟩
    exact fun field hmem => ⟨lookup_eq_some_of_mem hkeys hmem, ih field hmem⟩

/-! ### Parts of such values -/

theorem IsKeyed.of_lookup (h : (Value.object fields).IsKeyed)
    (hfound : fields.lookup name = some value) : value.IsKeyed := by
  obtain ⟨before, after, rfl, -⟩ := List.lookup_eq_some_iff.mp hfound
  exact (isKeyed_object.mp h).2 (name, value) (List.mem_append_right _ List.mem_cons_self)

theorem IsKeyed.of_fieldOr (h : body.IsKeyed) (hdefault : default.IsKeyed)
    (hread : body.fieldOr name default = .ok value) : value.IsKeyed := by
  cases body with
  | object fields =>
    cases hread
    cases hfound : fields.lookup name with
    | none => exact hdefault
    | some value => exact h.of_lookup hfound
  | _ => cases hread

theorem IsKeyed.of_presentOr (h : body.IsKeyed) (hdefault : default.IsKeyed)
    (hread : body.presentOr name default = .ok value) : value.IsKeyed := by
  obtain ⟨field, hfield, hread⟩ := exists_of_bind_ok hread
  cases hread
  unfold orElse
  split
  · exact h.of_fieldOr isKeyed_null hfield
  · exact hdefault

theorem IsKeyed.of_elementsOf (h : body.IsKeyed) (hread : body.elementsOf name = .ok items) :
    ∀ item ∈ items, item.IsKeyed := by
  obtain ⟨field, hfield, hread⟩ := exists_of_bind_ok hread
  have hkeyed : field.IsKeyed := h.of_presentOr (by simp) hfield
  cases field with
  | list items =>
    cases hread
    exact isKeyed_list.mp hkeyed
  | text text =>
    cases hread
    exact List.forall_mem_map.mpr fun c _ => isKeyed_text (String.singleton c)
  | object fields =>
    cases hread
    exact List.forall_mem_map.mpr fun field _ => isKeyed_text field.1
  | _ => cases hread

end RoleGrants.Value
