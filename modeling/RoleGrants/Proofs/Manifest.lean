import RoleGrants.Proofs.RoundTrip

/-! The manifests of the bindings that policies ask for. Such a manifest is read back as the
binding, refers to the role as one of the cluster, and names one subject, that of the policy. A
service account stands in a namespace and outside the group that governs access, and a user or a
group stands in that group; these have a namespace only if the policy gives them one. -/

namespace RoleGrants

/-- The part of a value under some names, one inside the other, if it is there. -/
def Value.at? (value : Value) : List String → Option Value
  | [] => some value
  | name :: rest => (value.fields.lookup name).bind (·.at? rest)

/-- Whether a value is a subject as access control knows them: a service account in a namespace and
outside the group that governs access, or a user or a group of that group and in no namespace. -/
inductive Value.IsSubject (subject : Value) : Prop
  | account (space : String) : subject.at? ["kind"] = some "ServiceAccount" →
      subject.at? ["apiGroup"] = none → space ≠ "" →
      subject.at? ["namespace"] = some (.text space) → IsSubject subject
  | member : subject.at? ["kind"] = some "User" ∨ subject.at? ["kind"] = some "Group" →
      subject.at? ["apiGroup"] = some (.text accessGroup) →
      subject.at? ["namespace"] = none → IsSubject subject

/-- Whether a manifest grants a role of the cluster: in a namespace, as a `RoleBinding`, or on the
whole cluster. -/
structure Value.IsGrantOf (manifest role : Value) : Prop where
  scope : manifest.at? ["kind"] = some "RoleBinding" ∧
      (manifest.at? ["metadata", "namespace"]).isSome = true ∨
    manifest.at? ["kind"] = some "ClusterRoleBinding" ∧
      manifest.at? ["metadata", "namespace"] = none
  roleKind : manifest.at? ["roleRef", "kind"] = some "ClusterRole"
  roleName : manifest.at? ["roleRef", "name"] = some role
  roleGroup : manifest.at? ["roleRef", "apiGroup"] = some (.text accessGroup)

open Value

namespace Subject

theorem at?_apiGroup (subject : Subject) : subject.toValue.at? ["apiGroup"] =
    if subject.kind == .text "ServiceAccount" then none else some (.text accessGroup) := by
  have hspace : (optionalField "namespace" subject.space).lookup "apiGroup" = none :=
    lookup_optionalField_of_ne _ (by decide)
  simp only [Value.at?, toValue, Value.fields, List.lookup_append, hspace]
  split <;> rfl

theorem at?_namespace (subject : Subject) : subject.toValue.at? ["namespace"] =
    if subject.space.isTrue then some subject.space else none := by
  have hgroup : (if subject.kind == .text "ServiceAccount" then []
      else [("apiGroup", Value.text accessGroup)]).lookup "namespace" = none := by
    split <;> rfl
  simp only [Value.at?, toValue, Value.fields, List.lookup_append, hgroup, lookup_optionalField]
  split <;> rfl

end Subject

theorem Binding.isGrantOf (binding : Binding) (hkind : binding.role.kind = "ClusterRole")
    (hgroup : binding.role.group = .text accessGroup) :
    binding.toValue.IsGrantOf binding.role.name := by
  have hspace : binding.toValue.at? ["metadata", "namespace"] =
      if binding.space.isTrue then some binding.space else none := by
    have hmetadata : binding.toValue.at? ["metadata", "namespace"] =
        ((optionalField "namespace" binding.space).lookup "namespace").bind (·.at? []) := rfl
    rw [hmetadata, lookup_optionalField]
    split <;> rfl
  refine ⟨?_, congrArg some hkind, rfl, congrArg some hgroup⟩
  have hscope : binding.toValue.at? ["kind"] = some (.text binding.kind) := rfl
  rw [hspace, hscope, kind]
  cases binding.space.isTrue with
  | true => exact .inl ⟨rfl, rfl⟩
  | false => exact .inr ⟨rfl, rfl⟩

namespace Policy

variable {policy : Policy}

/-- A service account has a home. -/
theorem exists_homeNamespace (h : policy.IsTextual) (hspace : policy.space ≠ "")
    (hkind : policy.subjectKind = "ServiceAccount") :
    ∃ space, policy.homeNamespace = .text space ∧ space ≠ "" := by
  obtain ⟨named, hnamed⟩ := h.subjectNamespace
  obtain ⟨space, hown⟩ := h.space
  have hempty : space ≠ "" := fun heq => hspace (hown.trans (congrArg Value.text heq))
  by_cases hhome : named = ""
  · exact ⟨space, by simp [homeNamespace, hnamed, hhome, hkind, hown], hempty⟩
  · exact ⟨named, by simp [homeNamespace, hnamed, hhome], hhome⟩

/-- A user or a group has the namespace that the policy gives it, and no other. -/
theorem homeNamespace_of_ne (h : policy.subjectNamespace.IsText)
    (hkind : policy.subjectKind ≠ "ServiceAccount") :
    policy.homeNamespace = policy.subjectNamespace := by
  obtain ⟨named, hnamed⟩ := h
  have hother : (policy.subjectKind == .text "ServiceAccount") = false :=
    Bool.eq_false_iff.mpr fun hsame => hkind (Value.beq_text_iff.mp hsame)
  by_cases hhome : named = ""
  · simp [homeNamespace, hnamed, hhome, hother]
  · simp [homeNamespace, hnamed, hhome]

/-- The subject of a policy that passes the check is as access control knows subjects if and only
if it is a service account or is given no namespace. -/
theorem isSubject_iff (h : policy.IsTextual) (hvalid : policy.validate = .ok ())
    (hspace : policy.space ≠ "") : (Subject.ofPolicy policy).toValue.IsSubject ↔
      policy.subjectKind = "ServiceAccount" ∨ policy.subjectNamespace = "" := by
  have hkind : (Subject.ofPolicy policy).toValue.at? ["kind"] = some policy.subjectKind := rfl
  have hgroup := (Subject.ofPolicy policy).at?_apiGroup
  have hhome := (Subject.ofPolicy policy).at?_namespace
  change _ = if policy.subjectKind == .text "ServiceAccount" then _ else _ at hgroup
  change _ = if policy.homeNamespace.isTrue then some policy.homeNamespace else _ at hhome
  by_cases haccount : policy.subjectKind = "ServiceAccount"
  · obtain ⟨space, hnamed, hempty⟩ := exists_homeNamespace h hspace haccount
    rw [hnamed, if_pos (Value.isTrue_text.mpr hempty)] at hhome
    rw [if_pos (Value.beq_text_iff.mpr haccount)] at hgroup
    exact ⟨fun _ => .inl haccount, fun _ =>
      .account space (hkind.trans (congrArg some haccount)) hgroup hempty hhome⟩
  · have hmember : policy.subjectKind = "User" ∨ policy.subjectKind = "Group" := by
      rcases subjectKind_of_validate hvalid with hkind | hkind | hkind
      · exact .inl hkind
      · exact .inr hkind
      · exact absurd hkind haccount
    rw [homeNamespace_of_ne h.subjectNamespace haccount] at hhome
    rw [if_neg (mt Value.beq_text_iff.mp haccount)] at hgroup
    obtain ⟨named, hnamed⟩ := h.subjectNamespace
    rw [hnamed] at hhome ⊢
    by_cases hempty : named = ""
    · subst hempty
      refine ⟨fun _ => .inr rfl, fun _ => .member ?_ hgroup hhome⟩
      exact hmember.imp (hkind.trans ∘ congrArg some) (hkind.trans ∘ congrArg some)
    · rw [if_pos (Value.isTrue_text.mpr hempty)] at hhome
      refine ⟨fun hsubject => ?_, fun hexcept => ?_⟩
      · cases hsubject with
        | account space hother => exact absurd (Option.some.inj (hkind.symm.trans hother)) haccount
        | member _ _ hnone => exact nomatch hhome.symm.trans hnone
      · exact absurd (Value.text.inj (hexcept.resolve_left haccount)) hempty

/-- The binding that a policy asks for is read back of its manifest, which grants the role to the
subject of the policy alone. A user or a group to which the policy gives a namespace keeps it there,
and every other subject is as access control knows subjects. -/
theorem manifest_readsBack (h : policy.IsTextual) (hvalid : policy.validate = .ok ())
    (hspace : policy.space ≠ "") (role : String) {binding : Binding}
    (hbinding : binding = .onCluster (.text role) policy ∨
      ∃ space : String, space ≠ "" ∧ binding = .inNamespace (.text role) policy (.text space)) :
    Binding.ofValue binding.toValue = .ok binding ∧
      binding.toValue.IsGrantOf (.text role) ∧
      ∃ subject, binding.toValue.at? ["subjects"] = some (.list [subject]) ∧
        subject.at? ["kind"] = some policy.subjectKind ∧
        subject.at? ["name"] = some policy.subjectName ∧
        (subject.IsSubject ↔
          policy.subjectKind = "ServiceAccount" ∨ policy.subjectNamespace = "") ∧
        (policy.subjectKind ≠ "ServiceAccount" →
          subject.at? ["apiGroup"] = some (.text accessGroup) ∧
          (policy.subjectNamespace ≠ "" →
            subject.at? ["namespace"] = some policy.subjectNamespace)) := by
  -- A binding on the whole cluster is one whose namespace is null.
  obtain ⟨target, hbuilt, htarget⟩ : ∃ target, binding = .inNamespace (.text role) policy target ∧
      target.orElse .null = target := by
    rcases hbinding with rfl | ⟨space, hempty, rfl⟩
    · exact ⟨.null, rfl, rfl⟩
    · exact ⟨.text space, rfl, orElse_of_isTrue (isTrue_text.mpr hempty)⟩
  subst hbuilt
  refine ⟨?_, Binding.isGrantOf _ rfl rfl, (Subject.ofPolicy policy).toValue, rfl, rfl, rfl,
    isSubject_iff h hvalid hspace, fun hkind => ⟨?_, fun hnamed => ?_⟩⟩
  · rw [Binding.ofValue_toValue, filled_inNamespace hvalid h.space, htarget]
  · exact (Subject.at?_apiGroup _).trans (if_neg (mt beq_text_iff.mp hkind))
  · obtain ⟨named, heq⟩ := h.subjectNamespace
    have hhome : (Subject.ofPolicy policy).space = policy.subjectNamespace :=
      homeNamespace_of_ne h.subjectNamespace hkind
    rw [Subject.at?_namespace, hhome]
    refine if_pos ?_
    rw [heq]
    exact isTrue_text.mpr fun hempty => hnamed (heq.trans (congrArg Value.text hempty))

/-- A service account without a namespace of its own. -/
def account : Policy where
  name := "access"
  space := "team"
  subjectKind := "ServiceAccount"
  subjectName := "deployer"

theorem manifest_readsBack_account :
    account.IsTextual ∧ account.validate = .ok () ∧ account.space ≠ "" ∧
      ∃ subject, (Binding.inNamespace "view" account "web").toValue.at? ["subjects"] =
        some (.list [subject]) ∧ subject.IsSubject := by
  have htextual : account.IsTextual :=
    ⟨⟨_, rfl⟩, ⟨_, rfl⟩, ⟨_, rfl⟩, ⟨_, rfl⟩, ⟨_, rfl⟩, by simp [account], by simp [account]⟩
  have hvalid : account.validate = .ok () := rfl
  have hspace : account.space ≠ "" := by simp [account]
  obtain ⟨-, -, subject, hsubjects, -, -, hsubject, -⟩ :=
    manifest_readsBack htextual hvalid hspace "view" (.inr ⟨"web", by simp, rfl⟩)
  exact ⟨htextual, hvalid, hspace, subject, hsubjects, hsubject.mpr (.inl rfl)⟩

/-- A group to which its policy gives a namespace. -/
def placed : Policy := { account with subjectKind := "Group", subjectNamespace := "ci" }

/-- The manifest for such a group names a subject in that namespace. -/
theorem manifest_places_group : placed.IsTextual ∧ placed.validate = .ok () ∧
    placed.space ≠ "" ∧ ∃ subject, (Binding.onCluster "view" placed).toValue.at? ["subjects"] =
      some (.list [subject]) ∧ subject.at? ["kind"] = some "Group" ∧
        subject.at? ["namespace"] = some "ci" := by
  have htextual : placed.IsTextual :=
    ⟨⟨_, rfl⟩, ⟨_, rfl⟩, ⟨_, rfl⟩, ⟨_, rfl⟩, ⟨_, rfl⟩, by simp [placed, account],
      by simp [placed, account]⟩
  exact ⟨htextual, rfl, by simp [placed, account], _, rfl, rfl, rfl⟩

end Policy

end RoleGrants
