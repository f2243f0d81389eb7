import Mathlib.Data.List.Forall2
import RoleGrants.Proofs.Server

/-! What is read back of what is written. A condition is read back as it was, and so is a binding
but for the parts that are not present, which come back as their defaults; bindings for policies
that pass the check have no such parts. Conditions that are merged into the body of a policy take
the place of those it had and leave the rest of the policy as it is read. -/

namespace RoleGrants

/-- Reading items one after another gives what reading each of them gives. -/
theorem mapM_eq_ok {α β : Type} {read : α → Except Failure β} {items : List α} {values : List β} :
    items.mapM read = .ok values ↔
      List.Forall₂ (fun item value => read item = .ok value) items values := by
  induction items generalizing values with
  | nil =>
    rw [List.forall₂_nil_left_iff]
    exact ⟨fun h => (Except.ok.inj h).symm, fun h => h ▸ rfl⟩
  | cons item rest ih =>
    rw [List.mapM_cons, List.forall₂_cons_left_iff]
    constructor
    · intro h
      obtain ⟨value, hvalue, h⟩ := exists_of_bind_ok h
      obtain ⟨others, hothers, h⟩ := exists_of_bind_ok h
      exact ⟨value, others, hvalue, ih.mp hothers, (Except.ok.inj h).symm⟩
    · rintro ⟨value, others, hvalue, hothers, rfl⟩
      rw [hvalue, ih.mpr hothers]
      rfl

theorem mapM_map_eq_ok {α β γ : Type} {read : β → Except Failure γ} {write : α → β} {back : α → γ}
    (h : ∀ item, read (write item) = .ok (back item)) (items : List α) :
    (items.map write).mapM read = .ok (items.map back) := by
  rw [mapM_eq_ok, List.forall₂_map_left_iff, List.forall₂_map_right_iff, List.forall₂_same]
  exact fun item _ => h item

namespace Value

variable {fields : List (String × Value)} {name key : String} {value default : Value}

theorem presentOr_object : (object fields).presentOr name default =
    .ok (((fields.lookup name).getD .null).orElse default) := rfl

theorem fieldOr_object :
    (object fields).fieldOr name default = .ok ((fields.lookup name).getD default) := rfl

theorem orElse_of_isTrue (h : value.isTrue = true) : value.orElse default = value := if_pos h

@[simp] theorem text_orElse_empty {text : String} : (Value.text text).orElse "" = .text text := by
  by_cases h : text = ""
  · subst h
    rfl
  · exact orElse_of_isTrue (isTrue_text.mpr h)

@[simp] theorem list_orElse_empty {items : List Value} :
    (Value.list items).orElse (.list []) = .list items := by
  cases items <;> rfl

theorem elementsOf_list {items : List Value} (h : fields.lookup name = some (.list items)) :
    (object fields).elementsOf name = .ok items := by
  rw [elementsOf, presentOr_object, h, Option.getD_some, list_orElse_empty]
  rfl

theorem isTrue_object_of_lookup (h : fields.lookup name = some value) :
    (object fields).isTrue = true := by
  cases fields with
  | nil => cases h
  | cons field rest => rfl

theorem exists_of_presentOr_ok {body result : Value}
    (h : body.presentOr name default = .ok result) : ∃ fields, body = .object fields := by
  cases body with
  | object fields => exact ⟨fields, rfl⟩
  | _ => cases h

end Value

open Value

namespace Condition

theorem isKnown_toValue (condition : Condition) : isKnown condition.toValue = .ok true := by
  simp [isKnown, toValue, fieldOr_object, require, isKey, bind, Except.bind, pure, Except.pure]

/-- A condition is read as it was written. -/
theorem ofValue_toValue (condition : Condition) : ofValue condition.toValue = .ok condition := by
  have hroles : condition.toValue.elementsOf "clusterRoleName" = .ok condition.roles :=
    elementsOf_list rfl
  have htype : condition.toValue.required "type" = .ok (.text condition.type.name) := rfl
  have hstate : condition.toValue.fieldOr "state" "Failed" = .ok (.text condition.state.name) := rfl
  unfold ofValue
  rw [htype, hstate, hroles]
  simp only [bind, Except.bind, ConditionType.ofValue, ConditionState.ofValue,
    ConditionType.ofName?_name, ConditionState.ofName?_name]
  rfl

theorem listOfValues_map_toValue (conditions : List Condition) :
    listOfValues (conditions.map toValue) = .ok conditions := by
  induction conditions with
  | nil => rfl
  | cons condition rest ih =>
    rw [List.map_cons, listOfValues, isKnown_toValue, ofValue_toValue, ih]
    rfl

end Condition

/-! ### Bindings -/

/-- A subject with the defaults of the parts that are not present. -/
def Subject.filled (subject : Subject) : Subject :=
  ⟨subject.kind.orElse "", subject.name.orElse "", subject.space.orElse ""⟩

def RoleRef.filled (role : RoleRef) : RoleRef :=
  ⟨role.name.orElse "", role.kind.orElse "ClusterRole", role.group.orElse (.text accessGroup)⟩

def Binding.filled (binding : Binding) : Binding :=
  ⟨binding.name.orElse "", binding.role.filled, binding.subjects.map Subject.filled,
    binding.space.orElse .null⟩

theorem lookup_optionalField (name : String) (value : Value) :
    (optionalField name value).lookup name = if value.isTrue then some value else none := by
  unfold optionalField
  split
  · rw [List.lookup_cons_self]
  · rfl

theorem lookup_optionalField_of_ne {name other : String} (value : Value) (h : other ≠ name) :
    (optionalField name value).lookup other = none := by
  unfold optionalField
  split
  · simp [List.lookup_cons, beq_false_of_ne h]
  · rfl

/-- An optional field is read as its value, if no field before it has its name. -/
theorem presentOr_optionalField {fields : List (String × Value)} {name : String}
    (h : fields.lookup name = none) (value default : Value) :
    (object (fields ++ optionalField name value)).presentOr name default =
      .ok (value.orElse default) := by
  rw [presentOr_object, List.lookup_append, h, Option.none_or, lookup_optionalField, orElse, orElse]
  cases hvalue : value.isTrue with
  | true => simp [hvalue]
  | false => rfl

theorem Subject.ofValue_toValue (subject : Subject) :
    ofValue subject.toValue = .ok subject.filled := by
  have hspace : subject.toValue.presentOr "namespace" "" = .ok (subject.space.orElse "") := by
    refine presentOr_optionalField ?_ _ _
    split <;> rfl
  unfold ofValue
  rw [hspace]
  rfl

/-- A binding is read as it was written, with the defaults of the parts that are not present. -/
theorem Binding.ofValue_toValue (binding : Binding) :
    ofValue binding.toValue = .ok binding.filled := by
  have hspace : (object ([("name", binding.name)] ++
      optionalField "namespace" binding.space)).presentOr "namespace" .null =
      .ok (binding.space.orElse .null) := presentOr_optionalField rfl _ _
  have hsubjects : binding.toValue.elementsOf "subjects" =
      .ok (binding.subjects.map Subject.toValue) := elementsOf_list rfl
  have hread := mapM_map_eq_ok Subject.ofValue_toValue binding.subjects
  have hmetadata : binding.toValue.presentOr "metadata" (.object []) =
      .ok (object ([("name", binding.name)] ++ optionalField "namespace" binding.space)) := rfl
  have hrole : binding.toValue.presentOr "roleRef" (.object []) = .ok binding.role.toValue := rfl
  unfold ofValue
  simp only [hmetadata, hrole, hspace, hsubjects, hread, bind, Except.bind]
  rfl

/-- The place of a binding is that of the body written of it. -/
theorem Binding.place?_toValue {binding : Binding} {place : Place} (h : binding.IsAt place) :
    binding.toValue.place? = some place := by
  obtain ⟨space, name⟩ := place
  obtain ⟨hname, hspace⟩ := h
  cases space with
  | none =>
    have hspace : binding.space.isTrue = false := hspace
    have hnull : Value.null.orElse .null = .null := rfl
    simp [toValue, place?, optionalField, List.lookup_cons, hname, hspace, hnull]
  | some space =>
    obtain ⟨hne, hspace⟩ := hspace
    simp [toValue, place?, optionalField, List.lookup_cons, hname, hspace, hne, Value.orElse]

namespace Policy

theorem homeNamespace_orElse {policy : Policy} (h : policy.space.IsText) :
    policy.homeNamespace.orElse "" = policy.homeNamespace := by
  obtain ⟨space, hspace⟩ := h
  unfold homeNamespace
  split
  · next hpresent => exact orElse_of_isTrue hpresent
  · split
    · rw [hspace, text_orElse_empty]
    · rfl

/-- The subject of a policy that passes the check is of one of three kinds. -/
theorem subjectKind_of_validate {policy : Policy} (h : policy.validate = .ok ()) :
    policy.subjectKind = "User" ∨ policy.subjectKind = "Group" ∨
      policy.subjectKind = "ServiceAccount" := by
  obtain ⟨_, _, h⟩ := exists_of_bind_ok h
  obtain ⟨_, hkind, -⟩ := exists_of_bind_ok h
  obtain ⟨kind, hmem, hsame⟩ := List.contains_iff_exists_mem_beq.mp (of_require_ok hkind)
  simp only [subjectKinds, List.mem_cons, List.not_mem_nil, or_false] at hmem
  rcases hmem with rfl | rfl | rfl
  · exact .inl (beq_text_iff.mp hsame)
  · exact .inr (.inl (beq_text_iff.mp hsame))
  · exact .inr (.inr (beq_text_iff.mp hsame))

/-- The subject of a policy that passes the check has a kind and a name. -/
theorem filled_ofPolicy {policy : Policy} (h : policy.validate = .ok ())
    (hspace : policy.space.IsText) :
    (Subject.ofPolicy policy).filled = Subject.ofPolicy policy := by
  have hkind : policy.subjectKind.isTrue = true := by
    rcases subjectKind_of_validate h with heq | heq | heq <;> rw [heq] <;> rfl
  obtain ⟨_, hname, -⟩ := exists_of_bind_ok h
  simp only [Subject.ofPolicy, Subject.filled, orElse_of_isTrue hkind,
    orElse_of_isTrue (of_require_ok hname), homeNamespace_orElse hspace]

/-- The binding of a role to the subject of such a policy is read as it was written. -/
theorem filled_inNamespace {policy : Policy} (h : policy.validate = .ok ())
    (hspace : policy.space.IsText) (role : String) (space : Value) :
    (Binding.inNamespace (.text role) policy space).filled =
      Binding.inNamespace (.text role) policy (space.orElse .null) := by
  simp only [Binding.filled, Binding.inNamespace, Binding.onCluster, RoleRef.filled, List.map_cons,
    List.map_nil, filled_ofPolicy h hspace, text_orElse_empty]
  rfl

end Policy

/-! ### Statuses -/

/-- The patch that writes the status of a policy. -/
def Policy.statusPatch (policy : Policy) : Value := .object [("status", policy.statusToValue)]

/-- The patch of a status sets one field of the body, and in it the conditions. -/
theorem merged_statusPatch (fields : List (String × Value)) (policy : Policy) :
    ∃ status, (object fields).merged policy.statusPatch =
        .object (putField fields "status" (.object status)) ∧
      status.lookup "conditions" = some (.list (policy.conditions.map Condition.toValue)) := by
  refine ⟨putField ((fields.lookup "status").getD .null).fields "conditions"
    (.list (policy.conditions.map Condition.toValue)), rfl, ?_⟩
  rw [lookup_putField]
  rfl

theorem place?_merged {body : Value} {place : Place} (h : body.place? = some place)
    (policy : Policy) : (body.merged policy.statusPatch).place? = some place := by
  obtain ⟨fields, metadata, rfl, hmetadata, -⟩ := place?_eq_some h
  obtain ⟨status, hmerged, -⟩ := merged_statusPatch fields policy
  rw [hmerged, ← h]
  simp only [place?, lookup_putField]
  rfl

theorem Policy.eq_of_withSpec_ok {policy after : Policy} {spec : Value}
    (h : policy.withSpec spec = .ok after) :
    after = { after with
      name := policy.name
      space := policy.space
      conditions := policy.conditions
      deletionTimestamp := policy.deletionTimestamp
      resourceVersion := policy.resourceVersion } := by
  obtain ⟨_, _, h⟩ := exists_of_bind_ok h
  obtain ⟨_, _, h⟩ := exists_of_bind_ok h
  obtain ⟨_, _, h⟩ := exists_of_bind_ok h
  obtain ⟨_, _, h⟩ := exists_of_bind_ok h
  obtain ⟨_, _, h⟩ := exists_of_bind_ok h
  obtain ⟨_, _, h⟩ := exists_of_bind_ok h
  cases h
  rfl

/-- What a body holds that is read as a policy, but for its conditions. -/
theorem Policy.ofValue_ok {body : Value} {policy : Policy} (h : ofValue body = .ok policy) :
    ∃ fields metadata spec, body = .object fields ∧
      (object fields).presentOr "metadata" (.object []) = .ok metadata ∧
      (object fields).presentOr "spec" (.object []) = .ok spec ∧
      metadata.fieldOr "name" "" = .ok policy.name ∧
      metadata.fieldOr "namespace" "" = .ok policy.space ∧
      ({ name := policy.name, space := policy.space, subjectKind := "", subjectName := "" } :
        Policy).withSpec spec =
        .ok { policy with conditions := [], deletionTimestamp := .null, resourceVersion := .null } ∧
      metadata.fieldOr "deletionTimestamp" .null = .ok policy.deletionTimestamp ∧
      metadata.fieldOr "resourceVersion" .null = .ok policy.resourceVersion := by
  obtain ⟨metadata, hmetadata, h⟩ := exists_of_bind_ok h
  obtain ⟨spec, hspec, h⟩ := exists_of_bind_ok h
  obtain ⟨_, _, h⟩ := exists_of_bind_ok h
  obtain ⟨name, hname, h⟩ := exists_of_bind_ok h
  obtain ⟨space, hspace, h⟩ := exists_of_bind_ok h
  obtain ⟨owned, howned, h⟩ := exists_of_bind_ok h
  obtain ⟨_, _, h⟩ := exists_of_bind_ok h
  obtain ⟨_, _, h⟩ := exists_of_bind_ok h
  obtain ⟨_, hdeletion, h⟩ := exists_of_bind_ok h
  obtain ⟨_, hversion, hpolicy⟩ := exists_of_bind_ok h
  cases hpolicy
  obtain ⟨fields, hfields⟩ := exists_of_presentOr_ok hmetadata
  have hkept := eq_of_withSpec_ok howned
  obtain rfl : owned.name = name := congrArg Policy.name hkept
  obtain rfl : owned.space = space := congrArg Policy.space hkept
  subst hfields
  exact ⟨fields, metadata, spec, rfl, hmetadata, hspec, hname, hspace,
    howned.trans (congrArg Except.ok hkept), hdeletion, hversion⟩

/-- A body whose status is written is read as the policy with the conditions that are written. -/
theorem Policy.ofValue_merged {body : Value} {policy written : Policy}
    (h : ofValue body = .ok policy) :
    ofValue (body.merged written.statusPatch) =
      .ok { policy with conditions := written.conditions } := by
  obtain ⟨fields, metadata, spec, rfl, hmetadata, hspec, hname, hspace, howned, hdeletion,
    hversion⟩ := ofValue_ok h
  obtain ⟨status, hmerged, hconditions⟩ := merged_statusPatch fields written
  have hother : ∀ name, name ≠ "status" → ∀ default,
      (object (putField fields "status" (.object status))).presentOr name default =
        (object fields).presentOr name default := by
    intro name hne default
    rw [presentOr_object, presentOr_object, lookup_putField, if_neg (by simpa using hne)]
  have hstatus : (object (putField fields "status" (.object status))).presentOr "status"
      (.object []) = .ok (.object status) := by
    rw [presentOr_object, lookup_putField]
    exact congrArg _ (orElse_of_isTrue (isTrue_object_of_lookup hconditions))
  unfold ofValue
  rw [hmerged, hother "metadata" (by decide), hother "spec" (by decide), hstatus, hmetadata, hspec]
  simp only [bind, Except.bind, hname, hspace, howned, elementsOf_list hconditions,
    Condition.listOfValues_map_toValue, hdeletion, hversion]
  rfl

/-! ### Names and namespaces -/

/-- The metadata of an object are read as they are if they give a place. -/
theorem presentOr_metadata {body : Value} {place : Place} (h : body.place? = some place) :
    ∃ metadata, body.presentOr "metadata" (.object []) = .ok (.object metadata) ∧
      metadata.lookup "name" = some (.text place.name) ∧
      ((metadata.lookup "namespace").getD .null).orElse .null = place.spaceValue := by
  obtain ⟨fields, metadata, rfl, hmetadata, hname, hspace⟩ := place?_eq_some h
  refine ⟨metadata, ?_, hname, hspace⟩
  rw [presentOr_object, hmetadata]
  exact congrArg _ (orElse_of_isTrue (isTrue_object_of_lookup hname))

theorem Policy.key_of_ofValue {body : Value} {policy : Policy} {space name : String}
    (h : ofValue body = .ok policy) (hplace : body.place? = some ⟨some space, name⟩) :
    policy.space = .text space ∧ policy.name = .text name := by
  obtain ⟨_, _, _, rfl, hmetadata, _, hname, hspace, _⟩ := ofValue_ok h
  obtain ⟨metadata, hplaced, hlabel, hhome⟩ := presentOr_metadata hplace
  cases hmetadata.symm.trans hplaced
  rw [fieldOr_object, hlabel] at hname
  rw [fieldOr_object] at hspace
  have hhome := (of_orElse_null hhome).1
  cases hlookup : metadata.lookup "namespace" with
  | none =>
    rw [hlookup] at hhome
    cases hhome
  | some home =>
    rw [hlookup] at hspace hhome
    exact ⟨(Except.ok.inj hspace).symm.trans hhome, (Except.ok.inj hname).symm⟩

theorem Namespace.name_of_ofValue {body : Value} {space : Namespace} {place : Place}
    (h : ofValue body = .ok space) (hplace : body.place? = some place) :
    space.name = .text place.name := by
  obtain ⟨metadata, hplaced, hlabel, -⟩ := presentOr_metadata hplace
  obtain ⟨_, hmetadata, h⟩ := exists_of_bind_ok h
  obtain ⟨_, _, h⟩ := exists_of_bind_ok h
  obtain ⟨_, hname, h⟩ := exists_of_bind_ok h
  obtain ⟨_, _, h⟩ := exists_of_bind_ok h
  cases h
  cases hmetadata.symm.trans hplaced
  rw [presentOr_object, hlabel, Option.getD_some, text_orElse_empty] at hname
  exact (Except.ok.inj hname).symm

theorem Binding.key_of_ofValue {body : Value} {binding : Binding} {place : Place}
    (h : ofValue body = .ok binding) (hplace : body.place? = some place) :
    binding.space = place.spaceValue ∧ binding.name = .text place.name := by
  obtain ⟨metadata, hplaced, hlabel, hhome⟩ := presentOr_metadata hplace
  obtain ⟨_, hmetadata, h⟩ := exists_of_bind_ok h
  obtain ⟨_, _, h⟩ := exists_of_bind_ok h
  obtain ⟨_, hname, h⟩ := exists_of_bind_ok h
  obtain ⟨_, hspace, h⟩ := exists_of_bind_ok h
  obtain ⟨_, _, h⟩ := exists_of_bind_ok h
  obtain ⟨_, _, h⟩ := exists_of_bind_ok h
  obtain ⟨_, _, h⟩ := exists_of_bind_ok h
  obtain ⟨_, _, h⟩ := exists_of_bind_ok h
  obtain ⟨_, _, h⟩ := exists_of_bind_ok h
  cases h
  cases hmetadata.symm.trans hplaced
  rw [presentOr_object, hlabel, Option.getD_some, text_orElse_empty] at hname
  rw [presentOr_object, hhome] at hspace
  exact ⟨(Except.ok.inj hspace).symm, (Except.ok.inj hname).symm⟩

end RoleGrants
