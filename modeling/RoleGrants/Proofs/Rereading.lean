import RoleGrants.Proofs.Equality
import RoleGrants.Proofs.RoundTrip

/-! Policies that are read of what was written of a policy. Writing fills in the defaults of the
parts that are not present, and a policy that was read has these already, whatever its body was. So
it is read back as it is, but for a time of deletion and a version of the object that are neither
null nor present, which are not written. -/

namespace RoleGrants

open Value

/-- A permission with the defaults of the parts that are not present. -/
def Permission.filled (permission : Permission) : Permission :=
  ⟨permission.role.orElse "", permission.allowed.orElse "", permission.denied.orElse ""⟩

/-- A policy with the defaults of the parts that are not present. -/
def Policy.filled (policy : Policy) : Policy :=
  { policy with
    subjectKind := policy.subjectKind.orElse ""
    subjectName := policy.subjectName.orElse ""
    subjectNamespace := policy.subjectNamespace.orElse ""
    permissions := policy.permissions.map Permission.filled
    deletionTimestamp := policy.deletionTimestamp.orElse .null
    resourceVersion := policy.resourceVersion.orElse .null }

/-! ### What is read of what is written -/

section Among

variable (fields more : List (String × Value)) {name : String} (value : Value)

/-- An optional field is read as its value, if no other field has its name. -/
theorem fieldOr_among (hbefore : fields.lookup name = none) (hafter : more.lookup name = none) :
    (object (fields ++ optionalField name value ++ more)).fieldOr name .null =
      .ok (value.orElse .null) := by
  rw [fieldOr_object, List.lookup_append, List.lookup_append, hbefore, hafter, Option.none_or,
    Option.or_none, lookup_optionalField, orElse]
  cases value.isTrue <;> rfl

theorem presentOr_among (hbefore : fields.lookup name = none) (hafter : more.lookup name = none)
    (default : Value) :
    (object (fields ++ optionalField name value ++ more)).presentOr name default =
      .ok (value.orElse default) := by
  rw [← presentOr_optionalField hbefore, presentOr_object, presentOr_object, List.lookup_append,
    hafter, Option.or_none]

theorem elementsOf_among (hbefore : fields.lookup name = none) (hafter : more.lookup name = none)
    (items : List Value) :
    (object (fields ++ optionalField name (.list items) ++ more)).elementsOf name = .ok items := by
  rw [elementsOf, presentOr_among _ _ _ hbefore hafter, list_orElse_empty]
  rfl

end Among

theorem Permission.ofValue_toValue (permission : Permission) :
    ofValue permission.toValue = .ok permission.filled := by
  have hallowed : permission.toValue.presentOr "namespacesAllowedRegex" "" =
      .ok (permission.allowed.orElse "") :=
    presentOr_among [_] _ _ rfl (lookup_optionalField_of_ne _ (by decide)) _
  have hdenied : permission.toValue.presentOr "namespacesDeniedRegex" "" =
      .ok (permission.denied.orElse "") := by
    refine presentOr_optionalField ?_ _ _
    exact lookup_optionalField_of_ne _ (by decide)
  unfold ofValue
  rw [hallowed, hdenied]
  rfl

namespace Policy

theorem withSpec_specToValue (policy other : Policy) :
    other.withSpec policy.specToValue = .ok { other with
      subjectKind := policy.filled.subjectKind
      subjectName := policy.filled.subjectName
      subjectNamespace := policy.filled.subjectNamespace
      clusterPermissions := policy.clusterPermissions
      permissions := policy.filled.permissions } := by
  have hnamespace : policy.specToValue.presentOr "subjectNamespace" "" =
      .ok (policy.subjectNamespace.orElse "") := by
    rw [specToValue, List.append_assoc]
    refine presentOr_among _ _ _ rfl ?_ _
    simp [List.lookup_append, lookup_optionalField_of_ne, -List.lookup_eq_none_iff]
  have hroles : policy.specToValue.elementsOf "clusterPermissions" =
      .ok policy.clusterPermissions :=
    elementsOf_among _ _ (lookup_optionalField_of_ne _ (by decide))
      (lookup_optionalField_of_ne _ (by decide)) _
  have hpermissions : policy.specToValue.elementsOf "permissions" =
      .ok (policy.permissions.map Permission.toValue) := by
    rw [specToValue, ← List.append_nil (_ ++ optionalField "permissions" _)]
    refine elementsOf_among _ [] ?_ rfl _
    rw [List.lookup_append, List.lookup_append, lookup_optionalField_of_ne _ (by decide),
      lookup_optionalField_of_ne _ (by decide)]
    rfl
  unfold withSpec
  simp only [hnamespace, hroles, hpermissions,
    mapM_map_eq_ok Permission.ofValue_toValue policy.permissions, bind, Except.bind]
  rfl

/-- A policy is read as it was written, with the defaults of the parts that are not present. -/
theorem ofValue_toValue (policy : Policy) : ofValue policy.toValue = .ok policy.filled := by
  have hmetadata : policy.toValue.presentOr "metadata" (.object []) =
      .ok (.object ([("name", policy.name), ("namespace", policy.space)] ++
        optionalField "deletionTimestamp" policy.deletionTimestamp ++
        optionalField "resourceVersion" policy.resourceVersion)) := rfl
  have hspec : policy.toValue.presentOr "spec" (.object []) = .ok policy.specToValue := rfl
  have hstatus : policy.toValue.presentOr "status" (.object []) = .ok policy.statusToValue := rfl
  have hconditions : policy.statusToValue.elementsOf "conditions" =
      .ok (policy.conditions.map Condition.toValue) := elementsOf_list rfl
  have hafter : (optionalField "resourceVersion" policy.resourceVersion).lookup
      "deletionTimestamp" = none := lookup_optionalField_of_ne _ (by decide)
  have hdeletion := fieldOr_among [("name", policy.name), ("namespace", policy.space)]
    (optionalField "resourceVersion" policy.resourceVersion) policy.deletionTimestamp rfl hafter
  have hversion : (object ([("name", policy.name), ("namespace", policy.space)] ++
      optionalField "deletionTimestamp" policy.deletionTimestamp ++
      optionalField "resourceVersion" policy.resourceVersion)).fieldOr "resourceVersion" .null =
      .ok (policy.resourceVersion.orElse .null) := by
    rw [← List.append_nil (_ ++ optionalField "resourceVersion" _)]
    refine fieldOr_among _ [] _ ?_ rfl
    exact lookup_optionalField_of_ne _ (by decide)
  unfold ofValue
  simp only [hmetadata, hspec, hstatus, hdeletion, hversion, hconditions,
    Condition.listOfValues_map_toValue, withSpec_specToValue, bind, Except.bind]
  rfl

end Policy

/-! ### What was read has its defaults -/

/-- Whether a value is null or present. Such a value comes back from an optional field. -/
def Value.IsNullOrTrue (value : Value) : Prop := value = .null ∨ value.isTrue = true

namespace Value

theorem orElse_orElse (value default : Value) :
    (value.orElse default).orElse default = value.orElse default := by
  cases h : value.isTrue with
  | true => rw [orElse_of_isTrue h, orElse_of_isTrue h]
  | false => simp [orElse, h]

theorem orElse_of_presentOr {body value default : Value} {name : String}
    (h : body.presentOr name default = .ok value) : value.orElse default = value := by
  obtain ⟨field, -, h⟩ := exists_of_bind_ok h
  cases h
  exact orElse_orElse field default

theorem orElse_null_eq_iff {value : Value} : value.orElse .null = value ↔ value.IsNullOrTrue := by
  unfold orElse IsNullOrTrue
  split
  · next h => simp [h]
  · next h => simp [h, eq_comm]

/-- What is not null and not present is not equal to the null that is read in its place. -/
theorem isNullOrTrue_of_beq {value : Value} (h : (value.orElse .null == value) = true) :
    value.IsNullOrTrue := by
  unfold orElse at h
  split at h
  · next htrue => exact .inr htrue
  · cases value with
    | null => exact .inl rfl
    | _ => cases h

theorem optionalField_orElse (name : String) (value : Value) :
    optionalField name (value.orElse .null) = optionalField name value := by
  cases h : value.isTrue with
  | true => rw [orElse_of_isTrue h]
  | false =>
    have hnull : value.orElse .null = .null := by simp [orElse, h]
    have hnone : optionalField name value = [] := by simp [optionalField, h]
    rw [hnull, hnone]
    rfl

end Value

theorem Permission.filled_of_ofValue {body : Value} {permission : Permission}
    (h : ofValue body = .ok permission) : permission.filled = permission := by
  obtain ⟨_, hrole, h⟩ := exists_of_bind_ok h
  obtain ⟨_, hallowed, h⟩ := exists_of_bind_ok h
  obtain ⟨_, hdenied, h⟩ := exists_of_bind_ok h
  cases h
  simp only [filled, orElse_of_presentOr hrole, orElse_of_presentOr hallowed,
    orElse_of_presentOr hdenied]

theorem Permission.filled_of_mapM {bodies : List Value} {permissions : List Permission}
    (h : bodies.mapM ofValue = .ok permissions) : permissions.map filled = permissions := by
  replace h := mapM_eq_ok.mp h
  induction h with
  | nil => rfl
  | cons hread _ ih => rw [List.map_cons, filled_of_ofValue hread, ih]

namespace Policy

variable {policy : Policy} {body : Value}

/-- A policy but for a time of deletion and a version that are neither null nor present. -/
def kept (policy : Policy) : Policy :=
  { policy with
    deletionTimestamp := policy.deletionTimestamp.orElse .null
    resourceVersion := policy.resourceVersion.orElse .null }

/-- A policy that was read has the defaults of the parts that its body does not have. -/
theorem filled_of_ofValue (h : ofValue body = .ok policy) : policy.filled = policy.kept := by
  obtain ⟨_, _, spec, _, _, _, _, _, howned, _, _⟩ := ofValue_ok h
  obtain ⟨_, hkind, howned⟩ := exists_of_bind_ok howned
  obtain ⟨_, hname, howned⟩ := exists_of_bind_ok howned
  obtain ⟨_, hspace, howned⟩ := exists_of_bind_ok howned
  obtain ⟨_, _, howned⟩ := exists_of_bind_ok howned
  obtain ⟨_, _, howned⟩ := exists_of_bind_ok howned
  obtain ⟨_, hpermissions, howned⟩ := exists_of_bind_ok howned
  simp only [pure, Except.pure, Except.ok.injEq, mk.injEq] at howned
  obtain ⟨-, -, rfl, rfl, rfl, -, rfl, -⟩ := howned
  simp only [filled, kept, orElse_of_presentOr hkind, orElse_of_presentOr hname,
    orElse_of_presentOr hspace, Permission.filled_of_mapM hpermissions]

theorem toValue_kept (policy : Policy) : policy.kept.toValue = policy.toValue := by
  simp only [toValue, kept, optionalField_orElse]
  rfl

theorem kept_eq_iff : policy.kept = policy ↔
    policy.deletionTimestamp.IsNullOrTrue ∧ policy.resourceVersion.IsNullOrTrue := by
  rw [← orElse_null_eq_iff, ← orElse_null_eq_iff]
  constructor
  · exact fun h => ⟨congrArg deletionTimestamp h, congrArg resourceVersion h⟩
  · rintro ⟨hdeletion, hversion⟩
    rw [kept, hdeletion, hversion]

end Policy

/-! ### Equality of what was read to itself -/

theorem Permission.same_self {body : Value} {permission : Permission} (hbody : body.IsKeyed)
    (h : ofValue body = .ok permission) : permission.same permission = true := by
  obtain ⟨_, hrole, h⟩ := exists_of_bind_ok h
  obtain ⟨_, hallowed, h⟩ := exists_of_bind_ok h
  obtain ⟨_, hdenied, h⟩ := exists_of_bind_ok h
  cases h
  have hempty : IsKeyed "" := isKeyed_text ""
  simp only [same, (hbody.of_presentOr hempty hrole).beq_self,
    (hbody.of_presentOr hempty hallowed).beq_self, (hbody.of_presentOr hempty hdenied).beq_self,
    Bool.and_self]

theorem Condition.isKeyed_toValue {condition : Condition}
    (htime : condition.lastTransitionTime.IsKeyed) (hmessage : condition.message.IsKeyed)
    (hroles : ∀ role ∈ condition.roles, role.IsKeyed) : condition.toValue.IsKeyed := by
  simpa [toValue, htime, hmessage] using hroles

theorem Condition.same_self {body : Value} {condition : Condition} (hbody : body.IsKeyed)
    (h : ofValue body = .ok condition) : condition.same condition = true := by
  obtain ⟨_, _, h⟩ := exists_of_bind_ok h
  obtain ⟨_, _, h⟩ := exists_of_bind_ok h
  obtain ⟨_, _, h⟩ := exists_of_bind_ok h
  obtain ⟨_, _, h⟩ := exists_of_bind_ok h
  obtain ⟨_, _, h⟩ := exists_of_bind_ok h
  obtain ⟨_, htime, h⟩ := exists_of_bind_ok h
  obtain ⟨_, hmessage, h⟩ := exists_of_bind_ok h
  obtain ⟨_, hroles, h⟩ := exists_of_bind_ok h
  cases h
  have hempty : IsKeyed "" := isKeyed_text ""
  refine IsKeyed.beq_self (isKeyed_toValue ?_ ?_ ?_)
  · exact hbody.of_fieldOr hempty htime
  · exact hbody.of_fieldOr hempty hmessage
  · exact hbody.of_elementsOf hroles

theorem Condition.same_self_of_listOfValues {bodies : List Value} {conditions : List Condition}
    (hbodies : ∀ body ∈ bodies, body.IsKeyed) (h : listOfValues bodies = .ok conditions) :
    ∀ condition ∈ conditions, condition.same condition = true := by
  induction bodies generalizing conditions with
  | nil =>
    cases h
    exact fun _ hmem => absurd hmem List.not_mem_nil
  | cons body rest ih =>
    obtain ⟨hbody, hrest⟩ := List.forall_mem_cons.mp hbodies
    obtain ⟨known, _, h⟩ := exists_of_bind_ok h
    cases known with
    | false => exact ih hrest h
    | true =>
      obtain ⟨condition, hcondition, h⟩ := exists_of_bind_ok h
      obtain ⟨others, hothers, h⟩ := exists_of_bind_ok h
      cases h
      exact List.forall_mem_cons.mpr ⟨same_self hbody hcondition, ih hrest hothers⟩

theorem Permission.same_self_of_mapM {bodies : List Value} {permissions : List Permission}
    (hbodies : ∀ body ∈ bodies, body.IsKeyed) (h : bodies.mapM ofValue = .ok permissions) :
    ∀ permission ∈ permissions, permission.same permission = true := by
  replace h := mapM_eq_ok.mp h
  induction h with
  | nil => exact fun _ hmem => absurd hmem List.not_mem_nil
  | cons hread _ ih =>
    obtain ⟨hbody, hrest⟩ := List.forall_mem_cons.mp hbodies
    exact List.forall_mem_cons.mpr ⟨same_self hbody hread, ih hrest⟩

theorem all_zip_self {α : Type} {same : α → α → Bool} {items : List α}
    (h : ∀ item ∈ items, same item item = true) :
    (items.zip items).all (fun (x, y) => same x y) = true := by
  induction items with
  | nil => rfl
  | cons item rest ih =>
    obtain ⟨hitem, hrest⟩ := List.forall_mem_cons.mp h
    exact Bool.and_eq_true_iff.mpr ⟨hitem, ih hrest⟩

namespace Policy

variable {policy : Policy} {body : Value}

/-- A policy that was read of a body is equal to itself. -/
theorem same_self (hbody : body.IsKeyed) (h : ofValue body = .ok policy) :
    policy.same policy = true := by
  have hempty : IsKeyed "" := isKeyed_text ""
  have hobject : IsKeyed (.object []) := by simp
  obtain ⟨metadata, hmetadata, h⟩ := exists_of_bind_ok h
  obtain ⟨spec, hspec, h⟩ := exists_of_bind_ok h
  obtain ⟨status, hstatus, h⟩ := exists_of_bind_ok h
  obtain ⟨_, hlabel, h⟩ := exists_of_bind_ok h
  obtain ⟨_, hhome, h⟩ := exists_of_bind_ok h
  obtain ⟨_, howned, h⟩ := exists_of_bind_ok h
  obtain ⟨_, hkind, howned⟩ := exists_of_bind_ok howned
  obtain ⟨_, hname, howned⟩ := exists_of_bind_ok howned
  obtain ⟨_, hspace, howned⟩ := exists_of_bind_ok howned
  obtain ⟨_, hroles, howned⟩ := exists_of_bind_ok howned
  obtain ⟨_, hlisted, howned⟩ := exists_of_bind_ok howned
  obtain ⟨_, hpermissions, howned⟩ := exists_of_bind_ok howned
  cases howned
  obtain ⟨_, hitems, h⟩ := exists_of_bind_ok h
  obtain ⟨_, hconditions, h⟩ := exists_of_bind_ok h
  obtain ⟨_, hdeletion, h⟩ := exists_of_bind_ok h
  obtain ⟨_, hversion, h⟩ := exists_of_bind_ok h
  cases h
  replace hmetadata := hbody.of_presentOr hobject hmetadata
  replace hspec := hbody.of_presentOr hobject hspec
  replace hstatus := hbody.of_presentOr hobject hstatus
  have hrolesSame := sameItems_refl fun role hmem => (hspec.of_elementsOf hroles role hmem).beq_self
  simp only [same, (hmetadata.of_fieldOr hempty hlabel).beq_self,
    (hmetadata.of_fieldOr hempty hhome).beq_self, (hspec.of_presentOr hempty hkind).beq_self,
    (hspec.of_presentOr hempty hname).beq_self, (hspec.of_presentOr hempty hspace).beq_self,
    hrolesSame,
    all_zip_self (Permission.same_self_of_mapM (hspec.of_elementsOf hlisted) hpermissions),
    all_zip_self (Condition.same_self_of_listOfValues (hstatus.of_elementsOf hitems) hconditions),
    (hmetadata.of_fieldOr isKeyed_null hdeletion).beq_self,
    (hmetadata.of_fieldOr isKeyed_null hversion).beq_self, beq_self_eq_true, Bool.and_self]

/-- A policy that was read is written to a body that is read again, and what is read of it is
written to the same body. It is the policy but for a time of deletion and a version that are neither
null nor present, of which nothing is written, and it is equal to the policy just if there are
none. -/
theorem rereads (h : ofValue body = .ok policy) :
    ∃ reread, ofValue policy.toValue = .ok reread ∧ reread.toValue = policy.toValue ∧
      reread = { policy with
        deletionTimestamp := policy.deletionTimestamp.orElse .null
        resourceVersion := policy.resourceVersion.orElse .null } ∧
      (reread = policy ↔
        policy.deletionTimestamp.IsNullOrTrue ∧ policy.resourceVersion.IsNullOrTrue) ∧
      (body.IsKeyed → (reread.same policy = true ↔
        policy.deletionTimestamp.IsNullOrTrue ∧ policy.resourceVersion.IsNullOrTrue)) := by
  refine ⟨policy.kept, (ofValue_toValue policy).trans (congrArg _ (filled_of_ofValue h)),
    toValue_kept policy, rfl, kept_eq_iff, fun hbody => ⟨fun hsame => ?_, fun hkept => ?_⟩⟩
  · simp only [same, Bool.and_eq_true] at hsame
    exact ⟨isNullOrTrue_of_beq hsame.1.2, isNullOrTrue_of_beq hsame.2⟩
  · rw [kept_eq_iff.mpr hkept]
    exact same_self hbody h

/-- A body with an empty time of deletion, a version that is a number, roles that are given by a
text, and a condition of unknown type. -/
def markedBody : Value := .object [
  ("metadata", .object [("name", "access"), ("deletionTimestamp", ""),
    ("resourceVersion", .int 7)]),
  ("spec", .object [("subjectKind", .null), ("subjectName", "devs"), ("clusterPermissions", "ab"),
    ("permissions", .list [.object [("clusterRoleName", "view")]])]),
  ("status", .object [("conditions", .list [.object [("type", "Other")],
    .object [("type", "RoleBindingCreated"), ("status", .int 1)]])])]

def marked : Policy where
  name := "access"
  space := ""
  subjectKind := ""
  subjectName := "devs"
  clusterPermissions := ["a", "b"]
  permissions := [{ role := "view" }]
  conditions := [⟨.roleBindingCreated, .failed, true, "", "", []⟩]
  deletionTimestamp := ""
  resourceVersion := .int 7

theorem rereads_marked : ofValue markedBody = .ok marked ∧ markedBody.IsKeyed ∧
    ∃ reread, ofValue marked.toValue = .ok reread ∧ reread.toValue = marked.toValue ∧
      reread = { marked with deletionTimestamp := .null } ∧ reread.same marked = false := by
  have hread : ofValue markedBody = .ok marked := by rfl
  have hkeyed : markedBody.IsKeyed := by simp [markedBody]
  obtain ⟨reread, hreread, hwritten, hkept, -, hsame⟩ := rereads hread
  refine ⟨hread, hkeyed, reread, hreread, hwritten, hkept, Bool.eq_false_iff.mpr fun hequal => ?_⟩
  rcases ((hsame hkeyed).mp hequal).1 with hnull | htrue
  · cases hnull
  · cases htrue

end Policy

end RoleGrants
