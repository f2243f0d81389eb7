import RoleGrants.Proofs.PolicyPass
import RoleGrants.Proofs.NamespacePass

/-! The two kinds of pass under one name: what triggers a pass, the pass that follows, and what it
keeps to. Whatever the answers are, every binding that a pass asks the store to create is one that
those answers justify. -/

namespace RoleGrants

inductive Trigger where
  | ofPolicy (space name : String)
  | ofNamespace (name : String)

namespace Trigger

open Program

/-- The pass that follows, with the answer whether another should follow it. -/
def pass : Trigger → Program Bool
  | .ofPolicy space name => do return (← PolicyPass.run (.text space) (.text name)).requeue
  | .ofNamespace name => do
    let _ ← NamespacePass.run (.text name)
    return false

def contract : Trigger → Contract
  | .ofPolicy space name => PolicyPass.contract (.text space) (.text name)
  | .ofNamespace name => NamespacePass.contract name

def Ended (past : List Event) : Trigger → Bool → Prop
  | .ofPolicy _ _, requeue => PolicyPass.Ended past requeue
  | .ofNamespace name, requeue => requeue = false ∧ NamespacePass.Ended past name

theorem meets_pass (trigger : Trigger) :
    trigger.pass.Meets trigger.contract (fun past requeue => trigger.Ended past requeue) [] := by
  cases trigger with
  | ofPolicy space name =>
    exact (PolicyPass.meets_run (.text space) (.text name)).bind fun _ _ h => h
  | ofNamespace name => exact (NamespacePass.meets_run name).bind fun _ _ h => ⟨rfl, h⟩

theorem meets_after {trigger : Trigger} {past : List Event} {rest : Program Bool}
    (hafter : trigger.pass.After past rest) (htyped : ∀ event ∈ past, event.IsTyped) :
    rest.Meets trigger.contract (fun past requeue => trigger.Ended past requeue) past :=
  trigger.meets_pass.after hafter htyped

end Trigger

def Policy.IsAnswered (policy : Policy) (past : List Event) : Prop :=
  (∃ space name, .called (.getPolicy space name) (.ok policy) ∈ past) ∨
    ∃ policies, .called .listPolicies (.ok policies) ∈ past ∧ policy ∈ policies

def Namespace.IsAnswered (space : Namespace) (past : List Event) : Prop :=
  (∃ name, .called (.getNamespace name) (.ok space) ∈ past) ∨
    ∃ spaces, .called .listNamespaces (.ok spaces) ∈ past ∧ space ∈ spaces

structure Binding.IsAskedOnCluster (binding : Binding) (policy : Policy) : Prop where
  kind : binding.kind = "ClusterRoleBinding"
  space : binding.space = .null
  role : binding.role.name ∈ policy.clusterPermissions

/-- Whether a binding is in a namespace that was answered as one that can receive bindings, and a
permission of the policy has its role and selects the namespace. -/
structure Binding.IsAskedInNamespace (binding : Binding) (policy : Policy) (past : List Event) :
    Prop where
  kind : binding.kind = "RoleBinding"
  space : ∃ name, binding.space = .text name ∧ name ≠ "" ∧
    (∃ space : Namespace, space.IsAnswered past ∧ space.name = .text name ∧
      space.isTerminating = false) ∧
    ∃ permission ∈ policy.permissions, permission.role = binding.role.name ∧
      permission.Selects name

/-- What justifies the creation of a binding by a pass, in the answers that the pass was given. -/
structure Binding.IsJustified (binding : Binding) (trigger : Trigger) (past : List Event)
    (policy : Policy) : Prop where
  answered : policy.IsAnswered past
  valid : policy.validate = .ok ()
  active : policy.isDeleting = false
  subjects : binding.subjects = [Subject.ofPolicy policy]
  roles : ∃ roles, .called .listClusterRoles (.ok roles) ∈ past ∧ binding.role.name ∈ roles ∧
    ∀ space name, trigger = .ofPolicy space name →
      ∀ role ∈ policy.clusterPermissions ++ policy.permissionRoles, role ∈ roles
  scope : (∃ space name, trigger = .ofPolicy space name) ∧ binding.IsAskedOnCluster policy ∨
    binding.IsAskedInNamespace policy past

theorem Binding.inNamespace_kind (role : Value) (policy : Policy) {name : String} (h : name ≠ "") :
    (Binding.inNamespace role policy (.text name)).kind = "RoleBinding" := by
  have htrue : (Binding.inNamespace role policy (.text name)).space.isTrue = true :=
    Value.isTrue_text.mpr h
  rw [Binding.kind, htrue]
  rfl

theorem PolicyPass.Warranted.isJustified {past : List Event} {binding : Binding}
    (space name : String) (h : PolicyPass.Warranted past binding) :
    ∃ policy, binding.IsJustified (.ofPolicy space name) past policy := by
  cases h with
  | @onCluster policy role hentitled hrole =>
    obtain ⟨roles, hlisted, hroles⟩ := hentitled.roles
    refine ⟨policy, .inl hentitled.fetched, hentitled.valid, hentitled.active, rfl, ?_, ?_⟩
    · exact ⟨roles, hlisted, hroles role (List.mem_append_left _ hrole), fun _ _ _ => hroles⟩
    · exact .inl ⟨⟨space, name, rfl⟩, rfl, rfl, hrole⟩
  | @inNamespace policy permission spaces target text hentitled hmem hspaces htarget hvalid hname
      hselects =>
    obtain ⟨roles, hlisted, hroles⟩ := hentitled.roles
    obtain ⟨hne, hterminating⟩ := Namespace.ne_empty_of_isValid hvalid hname
    have hrole : permission.role ∈ policy.permissionRoles := List.mem_map_of_mem hmem
    refine ⟨policy, .inl hentitled.fetched, hentitled.valid, hentitled.active, rfl, ?_, ?_⟩
    · exact ⟨roles, hlisted, hroles _ (List.mem_append_right _ hrole), fun _ _ _ => hroles⟩
    · exact .inr ⟨Binding.inNamespace_kind _ policy hne, text, rfl, hne,
        ⟨target, .inr ⟨spaces, hspaces, htarget⟩, hname, hterminating⟩,
        permission, hmem, rfl, hselects⟩

theorem NamespacePass.Warranted.isJustified {past : List Event} {binding : Binding} (space : String)
    (h : NamespacePass.Warranted past binding) :
    ∃ policy, binding.IsJustified (.ofNamespace space) past policy := by
  cases h with
  | @inNamespace policies policy permission roles text hpolicies hlisted hvalid hactive hmem hroles
      hrole hvisited hselects =>
    obtain ⟨target, htarget, htargetValid, hname⟩ := hvisited
    obtain ⟨hne, hterminating⟩ := Namespace.ne_empty_of_isValid htargetValid hname
    refine ⟨policy, .inr ⟨policies, hpolicies, hlisted⟩, hvalid, hactive, rfl, ?_, ?_⟩
    · exact ⟨roles, hroles, hrole, nofun⟩
    · exact .inr ⟨Binding.inNamespace_kind _ policy hne, text, rfl, hne,
        ⟨target, .inl ⟨_, htarget⟩, hname, hterminating⟩, permission, hmem, rfl, hselects⟩

/-- Whatever a pass is answered, it creates a binding only for a policy that it was answered, which
is valid and not being deleted, with that policy's subject, for a role that was listed, and where
the policy asks for it. -/
theorem Trigger.createBinding_isJustified {trigger : Trigger} {past : List Event}
    {binding : Binding} {next : Except Failure Binding → Program Bool}
    (hafter : trigger.pass.After past (.call (.createBinding binding) next))
    (htyped : ∀ event ∈ past, event.IsTyped) :
    ∃ policy, binding.IsJustified trigger past policy := by
  have hdemand := (Trigger.meets_after hafter htyped).1
  cases trigger with
  | ofPolicy space name => exact PolicyPass.Warranted.isJustified space name hdemand
  | ofNamespace name => exact NamespacePass.Warranted.isJustified name hdemand

/-- A policy that grants one role to a user on the whole cluster. -/
def Policy.viewer : Policy where
  name := "viewer"
  space := "team"
  subjectKind := "User"
  subjectName := "ann"
  clusterPermissions := [.text "view"]

theorem Policy.viewer_isTextual : viewer.IsTextual where
  name := ⟨_, rfl⟩
  space := ⟨_, rfl⟩
  subjectKind := ⟨_, rfl⟩
  subjectName := ⟨_, rfl⟩
  subjectNamespace := ⟨_, rfl⟩
  clusterPermissions := fun _ hmem => ⟨"view", List.mem_singleton.mp hmem⟩
  permissions := fun _ hmem => absurd hmem List.not_mem_nil

/-- The pass over that policy comes to its binding when its role is listed. -/
theorem Trigger.createBinding_isJustified_viewer :
    ∃ past next, (Trigger.ofPolicy "team" "viewer").pass.After past
        (.call (.createBinding (.onCluster (.text "view") Policy.viewer)) next) ∧
      (∀ event ∈ past, event.IsTyped) ∧
      ∃ policy, (Binding.onCluster (.text "view") Policy.viewer).IsJustified
        (.ofPolicy "team" "viewer") past policy := by
  have hreached : ∃ past next, (Trigger.ofPolicy "team" "viewer").pass.After past
      (.call (.createBinding (.onCluster (.text "view") Policy.viewer)) next) ∧
      ∀ event ∈ past, event.IsTyped := by
    have h₀ : (Trigger.ofPolicy "team" "viewer").pass.After [] _ := .start
    have h₁ := h₀.step (.report (.ok ()))
    have h₂ := h₁.step (.call (.ok Policy.viewer))
    have h₃ := h₂.step (.call (.ok [.text "view"]))
    have h₄ := h₃.step (.call (.ok []))
    refine ⟨_, _, h₄, typed_concat (typed_concat (typed_concat (typed_concat ?_ ?_) ?_) ?_) ?_⟩
    · exact fun _ hmem => absurd hmem List.not_mem_nil
    · trivial
    · rintro policy ⟨⟩
      exact Policy.viewer_isTextual
    · trivial
    · trivial
  obtain ⟨past, next, hafter, htyped⟩ := hreached
  exact ⟨past, next, hafter, htyped, Trigger.createBinding_isJustified hafter htyped⟩

end RoleGrants
