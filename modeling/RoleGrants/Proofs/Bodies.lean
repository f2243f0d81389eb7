import RoleGrants.Proofs.Selection

/-! Bodies whose fields have the types that are declared for them. Each field may be left out, and
what is in it does not matter, but for two kinds of texts: a pattern has to compile or to break a
rule of the syntax, and the state of a condition has to be known. Such a body is always read, and as
a sound policy. -/

namespace RoleGrants

namespace Value

variable {body default : Value} {name : String} {kind : Value → Prop}

/-- Whether a value is an object whose field of a name, if it has one, is of a kind. -/
def Declares (body : Value) (name : String) (kind : Value → Prop) : Prop :=
  ∃ fields, body = .object fields ∧ ∀ value, fields.lookup name = some value → kind value

def IsListOf (kind : Value → Prop) (value : Value) : Prop :=
  ∃ items, value = .list items ∧ ∀ item ∈ items, kind item

@[simp] theorem declares_empty : (object []).Declares name kind := ⟨[], rfl, nofun⟩

theorem Declares.fieldOr (h : body.Declares name kind) (hdefault : kind default) :
    ∃ value, body.fieldOr name default = .ok value ∧ kind value := by
  obtain ⟨fields, rfl, hfields⟩ := h
  refine ⟨(fields.lookup name).getD default, rfl, ?_⟩
  cases hfound : fields.lookup name with
  | none => exact hdefault
  | some value => exact hfields value hfound

/-- A field of which nothing is declared may have any value. -/
theorem Declares.fieldOr_any (h : body.Declares name kind) (other : String) (default : Value) :
    ∃ value, body.fieldOr other default = .ok value := by
  obtain ⟨fields, rfl, -⟩ := h
  exact ⟨_, rfl⟩

theorem Declares.presentOr (h : body.Declares name kind) (hdefault : kind default) :
    ∃ value, body.presentOr name default = .ok value ∧ kind value := by
  obtain ⟨fields, rfl, hfields⟩ := h
  refine ⟨((fields.lookup name).getD .null).orElse default, rfl, ?_⟩
  unfold orElse
  cases hfound : fields.lookup name with
  | none => exact hdefault
  | some value =>
    split
    · exact hfields value hfound
    · exact hdefault

theorem Declares.elementsOf (h : body.Declares name (IsListOf kind)) :
    ∃ items, body.elementsOf name = .ok items ∧ ∀ item ∈ items, kind item := by
  have hempty : (list []).IsListOf kind := ⟨[], rfl, fun _ hnone => absurd hnone List.not_mem_nil⟩
  obtain ⟨_, hpresent, items, rfl, hitems⟩ := h.presentOr hempty
  refine ⟨items, ?_, hitems⟩
  rw [Value.elementsOf, hpresent]
  rfl

@[simp] theorem declares_cons {fields : List (String × Value)} {key : String} {value : Value} :
    (object ((key, value) :: fields)).Declares name kind ↔
      if name = key then kind value else (object fields).Declares name kind := by
  simp only [Declares, object.injEq, exists_eq_left', List.lookup_cons]
  cases hkey : name == key with
  | true => simp [eq_of_beq hkey]
  | false => simp [ne_of_beq_false hkey]

theorem isText_empty : (text "").IsText := ⟨"", rfl⟩

/-! ### The bodies of policies and of their parts -/

def IsPattern (pattern : Value) : Prop := pattern.IsText ∧ Safelist.IsPlain pattern

structure IsPermissionBody (body : Value) : Prop where
  role : body.Declares "clusterRoleName" IsText
  allowed : body.Declares "namespacesAllowedRegex" IsPattern
  denied : body.Declares "namespacesDeniedRegex" IsPattern

/-- Whether a value is a body of a condition. The state of a condition of unknown type may be any,
since the condition is passed over. -/
structure IsConditionBody (body : Value) : Prop where
  type : body.Declares "type" IsText
  state : Condition.isKnown body = .ok true →
    body.Declares "state" fun value => ∃ state : ConditionState, value = .text state.name
  status : body.Declares "status" fun value => ∃ flag, value = .bool flag
  time : body.Declares "lastTransitionTime" IsText
  message : body.Declares "message" IsText
  roles : body.Declares "clusterRoleName" (IsListOf IsText)

structure IsMetadata (body : Value) : Prop where
  name : body.Declares "name" IsText
  space : body.Declares "namespace" IsText

structure IsSpec (body : Value) : Prop where
  subjectKind : body.Declares "subjectKind" IsText
  subjectName : body.Declares "subjectName" IsText
  subjectNamespace : body.Declares "subjectNamespace" IsText
  clusterPermissions : body.Declares "clusterPermissions" (IsListOf IsText)
  permissions : body.Declares "permissions" (IsListOf IsPermissionBody)

/-- Whether a value is a body of a policy. The times and the version that the cluster sets may be of
any type. -/
structure IsPolicyBody (body : Value) : Prop where
  metadata : body.Declares "metadata" IsMetadata
  spec : body.Declares "spec" IsSpec
  status : body.Declares "status" fun status =>
    status.Declares "conditions" (IsListOf IsConditionBody)

end Value

open Value

theorem Safelist.isPlain_empty : IsPlain (.text "") := by decide +kernel

theorem Permission.ofValue_isTextual {body : Value} (h : body.IsPermissionBody) :
    ∃ permission, ofValue body = .ok permission ∧ permission.IsTextual ∧
      Safelist.IsPlain permission.allowed ∧ Safelist.IsPlain permission.denied := by
  have hempty : (Value.text "").IsPattern := ⟨isText_empty, Safelist.isPlain_empty⟩
  obtain ⟨role, hrole, hroleText⟩ := h.role.presentOr isText_empty
  obtain ⟨allowed, hallowed, hallowedText, hallowedPlain⟩ := h.allowed.presentOr hempty
  obtain ⟨denied, hdenied, hdeniedText, hdeniedPlain⟩ := h.denied.presentOr hempty
  refine ⟨{ role, allowed, denied }, ?_, ⟨hroleText, hallowedText, hdeniedText⟩, hallowedPlain,
    hdeniedPlain⟩
  rw [ofValue, hrole, hallowed, hdenied]
  rfl

/-- Reading items one after another succeeds if each of them can be read. -/
theorem mapM_ok {α β : Type} {read : α → Except Failure β} {kind : β → Prop}
    {items : List α} (h : ∀ item ∈ items, ∃ value, read item = .ok value ∧ kind value) :
    ∃ values, items.mapM read = .ok values ∧ ∀ value ∈ values, kind value := by
  induction items with
  | nil => exact ⟨[], rfl, fun _ hnone => absurd hnone List.not_mem_nil⟩
  | cons item rest ih =>
    obtain ⟨value, hvalue, hkind⟩ := h item List.mem_cons_self
    obtain ⟨values, hvalues, hkinds⟩ := ih fun other hmem => h other (List.mem_cons_of_mem _ hmem)
    refine ⟨value :: values, ?_, ?_⟩
    · rw [List.mapM_cons, hvalue, hvalues]
      rfl
    · rintro other hmem
      rcases List.mem_cons.mp hmem with rfl | hmem
      · exact hkind
      · exact hkinds other hmem

namespace Condition

theorem isKnown_ok {body : Value} (h : body.Declares "type" IsText) :
    ∃ known, isKnown body = .ok known ∧ (known = true → ∃ type : ConditionType,
      body.required "type" = .ok (.text type.name)) := by
  obtain ⟨fields, rfl, hfields⟩ := h
  unfold isKnown fieldOr field? required
  dsimp only
  cases hfound : fields.lookup "type" with
  | none => exact ⟨false, rfl, nofun⟩
  | some value =>
    obtain ⟨name, rfl⟩ := hfields value hfound
    refine ⟨(ConditionType.ofName? name).isSome, rfl, fun hsome => ?_⟩
    obtain ⟨type, htype⟩ := Option.isSome_iff_exists.mp hsome
    have hname : type.name = name := by simpa using List.find?_some htype
    exact ⟨type, by rw [hname]⟩

theorem ofValue_isWorded {body : Value} (h : body.IsConditionBody)
    (hknown : isKnown body = .ok true) :
    ∃ condition, ofValue body = .ok condition ∧ condition.message.IsText := by
  obtain ⟨known, heq, htype⟩ := isKnown_ok h.type
  obtain ⟨type, htype⟩ := htype (Except.ok.inj (heq.symm.trans hknown))
  have hfailed : ∃ state : ConditionState, Value.text "Failed" = .text state.name := ⟨.failed, rfl⟩
  have hunset : ∃ flag, Value.bool false = .bool flag := ⟨false, rfl⟩
  obtain ⟨_, hstate, state, rfl⟩ := (h.state hknown).fieldOr hfailed
  obtain ⟨status, hstatus, -⟩ := h.status.fieldOr hunset
  obtain ⟨time, htime, -⟩ := h.time.fieldOr isText_empty
  obtain ⟨message, hmessage, hworded⟩ := h.message.fieldOr isText_empty
  obtain ⟨roles, hroles, -⟩ := h.roles.elementsOf
  refine ⟨⟨type, state, status.isTrue, time, message, roles⟩, ?_, hworded⟩
  have hreadType : ConditionType.ofValue (.text type.name) = .ok type := by
    simp [ConditionType.ofValue]
  have hreadState : ConditionState.ofValue (.text state.name) = .ok state := by
    simp [ConditionState.ofValue]
  unfold ofValue
  simp only [htype, hreadType, hstate, hreadState, hstatus, htime, hmessage, hroles, bind,
    Except.bind, pure, Except.pure]

theorem listOfValues_isWorded {bodies : List Value} (h : ∀ body ∈ bodies, body.IsConditionBody) :
    ∃ conditions, listOfValues bodies = .ok conditions ∧
      ∀ condition ∈ conditions, condition.message.IsText := by
  induction bodies with
  | nil => exact ⟨[], rfl, fun _ hnone => absurd hnone List.not_mem_nil⟩
  | cons body rest ih =>
    have hbody := h body List.mem_cons_self
    obtain ⟨conditions, hrest, hworded⟩ :=
      ih fun other hmem => h other (List.mem_cons_of_mem _ hmem)
    obtain ⟨known, hknown, -⟩ := isKnown_ok hbody.type
    cases known with
    | false =>
      refine ⟨conditions, ?_, hworded⟩
      rw [listOfValues, hknown]
      exact hrest
    | true =>
      obtain ⟨condition, hcondition, hmessage⟩ := ofValue_isWorded hbody hknown
      refine ⟨condition :: conditions, ?_, ?_⟩
      · rw [listOfValues, hknown, hcondition, hrest]
        rfl
      · rintro other hmem
        rcases List.mem_cons.mp hmem with rfl | hmem
        · exact hmessage
        · exact hworded other hmem

end Condition

namespace Policy

theorem withSpec_ok {spec : Value} (h : spec.IsSpec) (policy : Policy) :
    ∃ after, policy.withSpec spec = .ok after ∧
      (policy.name.IsText → policy.space.IsText → after.IsTextual) ∧
      ∀ permission ∈ after.permissions,
        Safelist.IsPlain permission.allowed ∧ Safelist.IsPlain permission.denied := by
  obtain ⟨subjectKind, hkind, hkindText⟩ := h.subjectKind.presentOr isText_empty
  obtain ⟨subjectName, hname, hnameText⟩ := h.subjectName.presentOr isText_empty
  obtain ⟨subjectNamespace, hhome, hhomeText⟩ := h.subjectNamespace.presentOr isText_empty
  obtain ⟨clusterPermissions, hroles, hroleTexts⟩ := h.clusterPermissions.elementsOf
  obtain ⟨bodies, hbodies, hpermissions⟩ := h.permissions.elementsOf
  obtain ⟨permissions, hread, htextual⟩ := mapM_ok fun body hmem =>
    Permission.ofValue_isTextual (hpermissions body hmem)
  refine ⟨{ policy with
    subjectKind, subjectName, subjectNamespace, clusterPermissions, permissions }, ?_,
    fun hlabel hspace => ⟨hlabel, hspace, hkindText, hnameText, hhomeText, hroleTexts,
      fun permission hmem => (htextual permission hmem).1⟩,
    fun permission hmem => (htextual permission hmem).2⟩
  unfold withSpec
  simp only [hkind, hname, hhome, hroles, hbodies, hread, bind, Except.bind, pure, Except.pure]

/-- A body whose fields are as declared is read as a sound policy. -/
theorem ofValue_isSound {body : Value} (h : body.IsPolicyBody) :
    ∃ policy, ofValue body = .ok policy ∧ policy.IsSound := by
  obtain ⟨metadata, hmetadata, hmeta⟩ :=
    h.metadata.presentOr ⟨declares_empty, declares_empty⟩
  obtain ⟨spec, hspec, hdeclared⟩ := h.spec.presentOr
    ⟨declares_empty, declares_empty, declares_empty, declares_empty, declares_empty⟩
  obtain ⟨status, hstatus, hconditions⟩ := h.status.presentOr declares_empty
  obtain ⟨name, hname, hnameText⟩ := hmeta.name.fieldOr isText_empty
  obtain ⟨space, hspace, hspaceText⟩ := hmeta.space.fieldOr isText_empty
  obtain ⟨bodies, hbodies, hconditions⟩ := hconditions.elementsOf
  obtain ⟨conditions, hread, hworded⟩ := Condition.listOfValues_isWorded hconditions
  obtain ⟨after, hafter, htextual, hplain⟩ := withSpec_ok hdeclared
    { name, space, subjectKind := "", subjectName := "" }
  obtain ⟨deletionTimestamp, hdeletion⟩ := hmeta.name.fieldOr_any "deletionTimestamp" .null
  obtain ⟨resourceVersion, hversion⟩ := hmeta.name.fieldOr_any "resourceVersion" .null
  have htextual := htextual hnameText hspaceText
  refine ⟨{ after with conditions, deletionTimestamp, resourceVersion }, ?_,
    ⟨⟨htextual.name, htextual.space, htextual.subjectKind, htextual.subjectName,
      htextual.subjectNamespace, htextual.clusterPermissions, htextual.permissions⟩, hplain,
      hworded⟩⟩
  unfold ofValue
  simp only [hmetadata, hspec, hstatus, hname, hspace, hafter, hbodies, hread, hdeletion, hversion,
    bind, Except.bind, pure, Except.pure]

end Policy

/-- The body of a policy that grants a role to a user in the namespaces that a pattern chooses. -/
def Value.grantBody (name subject pattern : String) : Value :=
  .object [
    ("metadata", .object [("name", name), ("namespace", "team")]),
    ("spec", .object [("subjectKind", "User"), ("subjectName", subject),
      ("permissions", .list [
        .object [("clusterRoleName", "edit"), ("namespacesAllowedRegex", pattern)]])])]

theorem Value.grantBody_isPolicyBody {name subject pattern : String}
    (h : Safelist.IsPlain (.text pattern)) : (grantBody name subject pattern).IsPolicyBody := by
  have htext : ∀ source : String, (Value.text source).IsText := fun source => ⟨source, rfl⟩
  have hpermission : (Value.object [("clusterRoleName", "edit"),
      ("namespacesAllowedRegex", .text pattern)]).IsPermissionBody :=
    ⟨by simp [htext], by simp [IsPattern, htext, h], by simp⟩
  have hmetadata : (Value.object [("name", .text name), ("namespace", "team")]).IsMetadata :=
    ⟨by simp [htext], by simp [htext]⟩
  have hspec : (Value.object [("subjectKind", "User"), ("subjectName", .text subject),
      ("permissions", .list [.object [("clusterRoleName", "edit"),
        ("namespacesAllowedRegex", .text pattern)]])]).IsSpec :=
    ⟨by simp [htext], by simp [htext], by simp, by simp, by simpa [IsListOf] using hpermission⟩
  unfold grantBody
  exact ⟨by simpa using hmetadata, by simpa using hspec, by simp⟩

end RoleGrants
