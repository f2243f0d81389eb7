import RoleGrants.Proofs.NamespaceChart
import RoleGrants.Proofs.Steps

/-! What a pass over one namespace does, whatever the store answers. It creates bindings only in the
namespace that it was answered, for policies that were listed and roles that exist, and writes the
status of a policy only when the bindings of the policy are confirmed in all namespaces. When
nothing goes wrong, all that can be granted in its namespace is confirmed at the end. -/

namespace RoleGrants.NamespacePass

open Program Pass

/-- What holds of the policies that a pass has listed. -/
structure Reading (past : List Event) (policies : List Policy) : Prop where
  listed : .called .listPolicies (.ok policies) ∈ past
  only : ∀ answer, .called .listPolicies answer ∈ past → answer = .ok policies
  textual : ∀ policy ∈ policies, policy.IsTextual

theorem Reading.steadily {past later : List Event} {policies : List Policy}
    (h : Reading past policies) (hlater : Steadily past later) : Reading later policies where
  listed := hlater.subset h.listed
  only answer hmem := h.only answer (hlater.mem_of_not hmem id)
  textual := h.textual

def Visited (past : List Event) (name : String) : Prop :=
  ∃ space, .called (.getNamespace (.text name)) (.ok space) ∈ past ∧ space.isValid = true ∧
    space.name = .text name

/-- Whether the events before the creation of a binding warrant it. -/
inductive Warranted (past : List Event) : Binding → Prop
  | inNamespace {policies : List Policy} {policy : Policy} {permission : Permission}
      {roles : List Value} {name : String} : .called .listPolicies (.ok policies) ∈ past →
      policy ∈ policies → policy.validate = .ok () → policy.isDeleting = false →
      permission ∈ policy.permissions → .called .listClusterRoles (.ok roles) ∈ past →
      permission.role ∈ roles → Visited past name → permission.Selects name →
      Warranted past (.inNamespace permission.role policy (.text name))

/-- Whether no statuses were written but those of some policies. -/
def WroteOnly (past : List Event) (policies : List Policy) : Prop :=
  ∀ written answer, .called (.updateStatus written) answer ∈ past →
    ∃ policy ∈ policies, written.space = policy.space ∧ written.name = policy.name

theorem WroteOnly.quietly {past later : List Event} {policies : List Policy}
    (h : WroteOnly past policies) (hlater : Quietly past later) : WroteOnly later policies :=
  fun written answer hmem => h written answer (hlater.mem_of_not hmem id)

theorem WroteOnly.step {past : List Event} {policies : List Policy} {event : Event}
    (h : WroteOnly past policies) (hevent : ∀ written answer,
      event = .called (.updateStatus written) answer →
      ∃ policy ∈ policies, written.space = policy.space ∧ written.name = policy.name) :
    WroteOnly (past ++ [event]) policies := by
  intro written answer hmem
  rcases List.mem_append.mp hmem with hmem | hmem
  · exact h written answer hmem
  · exact hevent written answer (List.mem_singleton.mp hmem).symm

theorem WroteOnly.append {past : List Event} {policies : List Policy} (h : WroteOnly past policies)
    (more : List Policy) : WroteOnly past (policies ++ more) := by
  intro written answer hmem
  obtain ⟨policy, hpolicy, hkey⟩ := h written answer hmem
  exact ⟨policy, List.mem_append_left _ hpolicy, hkey⟩

/-- What holds when the status of a policy is written: the bindings of the policy are confirmed, and
the status is the one that was listed with that verdict. Only statuses of policies that were listed
before it were written. -/
structure Concluded (past : List Event) (policy written : Policy) : Prop where
  read : ∃ policies done, Reading past policies ∧ done ++ [policy] <+: policies ∧
    WroteOnly past done
  granted : policy.IsGranted past .roleBindingCreated
  judged : ∃ moment tracker,
    .judged (Pass.granted .roleBindingCreated policy.permissionRoles) moment ∈ past ∧
    (Tracker.start policy.conditions).upsert moment
      (Pass.granted .roleBindingCreated policy.permissionRoles) = .ok tracker ∧
    written = { policy with conditions := tracker.current }

/-- What a pass over the namespace `home` keeps to. No failure is excused. -/
def contract (home : String) : Contract where
  judges verdict := verdict.type = .roleBindingCreated ∧ verdict.message.IsText
  demands past request :=
    match request with
    | .getPolicy _ _ => False
    | .getNamespace space => space = .text home
    | .listPolicies => ∀ answer, .called .listPolicies answer ∉ past
    | .createBinding binding => Warranted past binding
    | .updateStatus written => ∃ policy, Concluded past policy written
    | _ => True
  excuses _ _ := False
  keeps h := h.elim

/-- Whether all that a policy asks for in a namespace, of the roles that exist, is confirmed. -/
def Served (past : List Event) (name : String) (policy : Policy) : Prop :=
  ∃ roles, .called .listClusterRoles (.ok roles) ∈ past ∧
    ∀ permission ∈ policy.permissions, permission.role ∈ roles → permission.Selects name →
      Confirmed past (policy.namespacePlace permission.role name)

/-- How a pass ends that does not fail: with a namespace that is not there or cannot receive
bindings, or with every policy served that is valid and not being deleted. -/
inductive Ended (past : List Event) (name : String) : Prop
  | absent {message : String} :
      .called (.getNamespace (.text name)) (.error (.store .notFound message)) ∈ past →
      Ended past name
  | invalid {space : Namespace} : .called (.getNamespace (.text name)) (.ok space) ∈ past →
      space.isValid = false → Ended past name
  | served {policies : List Policy} : .called .listPolicies (.ok policies) ∈ past →
      (∀ policy ∈ policies, policy.isDeleting = false → policy.validate = .ok () →
        Served past name policy) → Ended past name

theorem Served.mono {past later : List Event} {name : String} {policy : Policy}
    (h : Served past name policy) (hsub : past ⊆ later) : Served later name policy := by
  obtain ⟨roles, hroles, hserved⟩ := h
  refine ⟨roles, hsub hroles, fun permission hmem hrole hselects => ?_⟩
  exact (hserved permission hmem hrole hselects).mono hsub

theorem Ended.mono {past later : List Event} {name : String} (h : Ended past name)
    (hsub : past ⊆ later) : Ended later name := by
  cases h with
  | absent hmem => exact .absent (hsub hmem)
  | invalid hmem hinvalid => exact .invalid (hsub hmem) hinvalid
  | served hmem hserved =>
    refine .served (hsub hmem) fun policy hpolicy hactive hvalid => ?_
    exact (hserved policy hpolicy hactive hvalid).mono hsub

theorem Visited.mono {past later : List Event} {name : String} (h : Visited past name)
    (hsub : past ⊆ later) : Visited later name := by
  obtain ⟨space, hmem, hvalid⟩ := h
  exact ⟨space, hsub hmem, hvalid⟩

theorem Visited.ne_empty {past : List Event} {name : String} (h : Visited past name) :
    name ≠ "" := by
  obtain ⟨space, -, hvalid, hname⟩ := h
  exact (Namespace.ne_empty_of_isValid hvalid hname).1

variable {home name : String} {past later : List Event} {policy : Policy}

/-! ### What a pass has learned -/

/-- What holds of a pass that has read no policy. -/
structure Fresh (past : List Event) : Prop where
  unread : ∀ answer, .called .listPolicies answer ∉ past
  wrote : WroteOnly past []

theorem Fresh.quietly (h : Fresh past) (hlater : Quietly past later) : Fresh later where
  unread answer hmem := h.unread answer (hlater.mem_of_not hmem id)
  wrote := h.wrote.quietly hlater

/-- What a pass has learned before it comes to a policy. -/
structure Serving (past : List Event) (name : String) (policies : List Policy)
    (roles : List Value) : Prop where
  visited : Visited past name
  reading : Reading past policies
  roles : .called .listClusterRoles (.ok roles) ∈ past

theorem Serving.steadily {policies : List Policy} {roles : List Value}
    (h : Serving past name policies roles) (hlater : Steadily past later) :
    Serving later name policies roles where
  visited := h.visited.mono hlater.subset
  reading := h.reading.steadily hlater
  roles := hlater.subset h.roles

/-- What has come of the policies of a pass so far. -/
structure Tending (past : List Event) (name : String) (policies : List Policy)
    (roles : List Value) (done : List Policy) (index : BindingIndex) : Prop
    extends Serving past name policies roles where
  known : index.KnowsNamespaces past
  served : ∀ policy ∈ done, policy.isDeleting = false → policy.validate = .ok () →
    Served past name policy
  wrote : WroteOnly past done

namespace Tending

variable {policies done : List Policy} {roles : List Value} {index : BindingIndex}

/-- However the policies are treated, none is read, and those done before stay served. -/
theorem steadily (h : Tending past name policies roles done index) (hlater : Steadily past later)
    (hwrote : WroteOnly later done) : Tending later name policies roles done index where
  toServing := h.toServing.steadily hlater
  known := h.known.mono hlater.subset
  served policy hmem hactive hvalid := (h.served policy hmem hactive hvalid).mono hlater.subset
  wrote := hwrote

theorem quietly (h : Tending past name policies roles done index) (hlater : Quietly past later) :
    Tending later name policies roles done index :=
  h.steadily hlater.steadily (h.wrote.quietly hlater)

theorem next (h : Tending past name policies roles done index)
    (hserved : policy.isDeleting = false → policy.validate = .ok () → Served past name policy) :
    Tending past name policies roles (done ++ [policy]) index where
  toServing := h.toServing
  known := h.known
  served other hmem hactive hvalid := by
    rcases List.mem_append.mp hmem with hmem | hmem
    · exact h.served other hmem hactive hvalid
    · cases List.mem_singleton.mp hmem
      exact hserved hactive hvalid
  wrote := h.wrote.append [policy]

end Tending

/-- How far the permissions of a policy have come in the namespace of the pass. -/
structure Attending (past : List Event) (name : String) (visit : Visit) (done : List Permission)
    (grants : Grants) : Prop
    extends Tending past name visit.policies visit.roles visit.done grants.index where
  part : visit.done ++ [visit.policy] <+: visit.policies
  valid : visit.policy.validate = .ok ()
  active : visit.policy.isDeleting = false
  confirmed : ∀ permission ∈ done, permission.role ∈ visit.roles → permission.Selects name →
    Confirmed past (visit.policy.namespacePlace permission.role name)

namespace Attending

variable {visit : Visit} {done : List Permission} {permission : Permission} {grants after : Grants}

theorem listed (h : Attending past name visit done grants) : visit.policy ∈ visit.policies :=
  h.part.subset List.mem_concat_self

theorem textual (h : Attending past name visit done grants) : visit.policy.IsTextual :=
  h.reading.textual visit.policy h.listed

theorem steadily (h : Attending past name visit done grants) (hlater : Steadily past later)
    (hwrote : WroteOnly later visit.done) : Attending later name visit done grants where
  toTending := h.toTending.steadily hlater hwrote
  part := h.part
  valid := h.valid
  active := h.active
  confirmed permission hmem hrole hselects :=
    (h.confirmed permission hmem hrole hselects).mono hlater.subset

theorem quietly (h : Attending past name visit done grants) (hlater : Quietly past later) :
    Attending later name visit done grants :=
  h.steadily hlater.steadily (h.wrote.quietly hlater)

theorem next (h : Attending past name visit done grants)
    (hknown : after.index.KnowsNamespaces past)
    (hnew : permission.role ∈ visit.roles → permission.Selects name →
      Confirmed past (visit.policy.namespacePlace permission.role name)) :
    Attending past name visit (done ++ [permission]) after where
  toServing := h.toServing
  known := hknown
  served := h.served
  wrote := h.wrote
  part := h.part
  valid := h.valid
  active := h.active
  confirmed other hmem hrole hselects := by
    rcases List.mem_append.mp hmem with hmem | hmem
    · exact h.confirmed other hmem hrole hselects
    · cases List.mem_singleton.mp hmem
      exact hnew hrole hselects

/-- A policy whose permissions are done is served. -/
theorem tended (h : Attending past name visit visit.policy.permissions grants) :
    Tending past name visit.policies visit.roles (visit.done ++ [visit.policy]) grants.index :=
  h.toTending.next fun _ _ => ⟨visit.roles, h.roles, h.confirmed⟩

/-- The role of a permission is a text, so a list of roles that contains its equal has it. -/
theorem contains_role (h : Attending past name visit done grants)
    (hmem : permission ∈ visit.policy.permissions) :
    visit.roles.contains permission.role = true ↔ permission.role ∈ visit.roles := by
  obtain ⟨role, hrole⟩ := (h.textual.permissions permission hmem).role
  rw [hrole, Value.contains_text]

/-- The only name to choose from is that of the namespace, so it is a target if it is selected. -/
theorem chooses (h : Attending past name visit done grants)
    (hmem : permission ∈ visit.policy.permissions) : ∃ targets,
      Safelist.resolve permission.allowed permission.denied [.text name] = .ok targets ∧
      (targets.contains (.text name) = true ↔ permission.Selects name) := by
  obtain ⟨targets, htargets⟩ := visit.policy.resolve_of_validate h.valid hmem
    fun value hvalue => ⟨name, List.mem_singleton.mp hvalue⟩
  refine ⟨targets, htargets, ?_⟩
  rw [Value.contains_text, Safelist.mem_resolve htargets]
  simp

theorem warranted (h : Attending past name visit done grants)
    (hmem : permission ∈ visit.policy.permissions) (hrole : permission.role ∈ visit.roles)
    (hselects : permission.Selects name) :
    Warranted past (.inNamespace permission.role visit.policy (.text name)) :=
  .inNamespace h.reading.listed h.listed h.valid h.active hmem h.roles hrole h.visited hselects

theorem isAt (h : Attending past name visit done grants) (role : Value) :
    (Binding.inNamespace role visit.policy (.text name)).IsAt
      (visit.policy.namespacePlace role name) :=
  visit.policy.inNamespace_isAt role h.visited.ne_empty

end Attending

/-- Whether the conditions of a policy are those that were listed, with the verdict that its
bindings are created. -/
def Judged (past : List Event) (policy : Policy) (tracker : Tracker) : Prop :=
  ∃ moment, .judged (Pass.granted .roleBindingCreated policy.permissionRoles) moment ∈ past ∧
    (Tracker.start policy.conditions).upsert moment
      (Pass.granted .roleBindingCreated policy.permissionRoles) = .ok tracker

theorem Judged.mono {tracker : Tracker} (h : Judged past policy tracker) (hsub : past ⊆ later) :
    Judged later policy tracker := by
  obtain ⟨moment, hmem, hupsert⟩ := h
  exact ⟨moment, hsub hmem, hupsert⟩

/-- What a pass has learned by the points that it comes to. -/
def Learned (home : String) : Point → List Event → Prop
  | .opened, past => Fresh past
  | .found space, past => (Fresh past ∧ .called (.getNamespace (.text home)) (.ok space) ∈ past) ∧
    space.name = .text home
  | .visited, past => Fresh past ∧ Visited past home
  | .read policies, past => (Visited past home ∧ Reading past policies) ∧ WroteOnly past []
  | .supplying policies roles, past | .supplied policies roles, past =>
    Serving past home policies roles ∧ WroteOnly past []
  | .serving policies roles finished grants, past =>
    Tending past home policies roles finished grants.index
  | .granting visit finished grants, past => Attending past home visit finished grants
  | .choosing visit finished permission grants, past =>
    Attending past home visit finished grants ∧ permission ∈ visit.policy.permissions
  | .chosen visit finished permission grants targets, past =>
    Attending past home visit finished grants ∧ (permission ∈ visit.policy.permissions ∧
      permission.role ∈ visit.roles) ∧
      (targets.contains (.text home) = true ↔ permission.Selects home)
  | .located visit grants spaces, past =>
    Attending past home visit visit.policy.permissions grants ∧
      .called .listNamespaces (.ok spaces) ∈ past
  | .compared visit grants spaces bindings, past =>
    Attending past home visit visit.policy.permissions grants ∧
      .called .listNamespaces (.ok spaces) ∈ past ∧
      .called (.listRoleBindings none) (.ok bindings) ∈ past
  | .answered visit grants isFull, past =>
    Attending past home visit visit.policy.permissions grants ∧
      (isFull = true → visit.policy.IsGranted past .roleBindingCreated)
  | .judged visit grants tracker, past | .recording visit grants tracker _, past =>
    Attending past home visit visit.policy.permissions grants ∧
      visit.policy.IsGranted past .roleBindingCreated ∧ Judged past visit.policy tracker
  | .granted visit grants, past =>
    Tending past home visit.policies visit.roles (visit.done ++ [visit.policy]) grants.index
  | .ended _, past => Ended past home

/-- Quiet events do not change what a pass has learned. -/
theorem Learned.quietly {point : Point} (h : Learned home point past)
    (hlater : Quietly past later) : Learned home point later := by
  have hsub := hlater.subset
  cases point with
  | opened => exact Fresh.quietly h hlater
  | found => exact ⟨⟨h.1.1.quietly hlater, hsub h.1.2⟩, h.2⟩
  | visited => exact ⟨h.1.quietly hlater, h.2.mono hsub⟩
  | read => exact ⟨⟨h.1.1.mono hsub, h.1.2.steadily hlater.steadily⟩, h.2.quietly hlater⟩
  | supplying | supplied => exact ⟨h.1.steadily hlater.steadily, h.2.quietly hlater⟩
  | serving | granted => exact Tending.quietly h hlater
  | granting => exact Attending.quietly h hlater
  | choosing | chosen => exact ⟨h.1.quietly hlater, h.2⟩
  | located => exact ⟨h.1.quietly hlater, hsub h.2⟩
  | compared => exact ⟨h.1.quietly hlater, hsub h.2.1, hsub h.2.2⟩
  | answered => exact ⟨h.1.quietly hlater, fun hfull => (h.2 hfull).mono hsub⟩
  | judged | recording => exact ⟨h.1.quietly hlater, h.2.1.mono hsub, h.2.2.mono hsub⟩
  | ended => exact Ended.mono h hsub

/-! ### The edges -/

/-- The permissions of a policy are granted by an index if each selects some namespaces and has a
known binding in each of them. -/
theorem isGranted_iff {names : List Value} {index : BindingIndex} {permissions : List Permission} :
    isGranted policy names index permissions = .ok true ↔
      ∀ permission ∈ permissions, ∃ targets,
        Safelist.resolve permission.allowed permission.denied names = .ok targets ∧
        targets ≠ [] ∧ ∀ target ∈ targets,
          index.exists? (.text (Binding.nameOf permission.role policy.subjectName)) (some target) =
            true := by
  induction permissions with
  | nil => exact ⟨fun _ _ hmem => absurd hmem List.not_mem_nil, fun _ => rfl⟩
  | cons permission rest ih =>
    rw [isGranted, List.forall_mem_cons, ← ih]
    cases Safelist.resolve permission.allowed permission.denied names with
    | error failure => simp [Bind.bind, Except.bind]
    | ok targets =>
      simp only [Bind.bind, Except.bind, Except.ok.injEq, exists_eq_left']
      split
      · next hall =>
        rw [Bool.and_eq_true, List.all_eq_true] at hall
        exact (and_iff_right ⟨by simpa using hall.1, hall.2⟩).symm
      · next hsome =>
        refine iff_of_false nofun fun h => hsome ?_
        rw [Bool.and_eq_true, List.all_eq_true]
        exact ⟨by simpa using h.1.1, h.1.2⟩

theorem isGranted_ok (index : BindingIndex) {names : List Value} {permissions : List Permission}
    (h : ∀ permission ∈ permissions, ∃ targets,
      Safelist.resolve permission.allowed permission.denied names = .ok targets) :
    ∃ answer, isGranted policy names index permissions = .ok answer := by
  induction permissions with
  | nil => exact ⟨true, rfl⟩
  | cons permission rest ih =>
    obtain ⟨targets, htargets⟩ := h permission List.mem_cons_self
    obtain ⟨answer, hanswer⟩ := ih fun other hmem => h other (List.mem_cons_of_mem _ hmem)
    rw [isGranted, htargets]
    simp only [Bind.bind, Except.bind]
    split
    · exact ⟨answer, hanswer⟩
    · exact ⟨false, rfl⟩

/-- A policy that an index grants in the namespaces that were listed is granted. -/
theorem isGranted_of_index {spaces : List Namespace} {bindings : List Binding}
    (hlisted : .called .listNamespaces (.ok spaces) ∈ past)
    (hbindings : .called (.listRoleBindings none) (.ok bindings) ∈ past)
    (h : isGranted policy (validNames spaces) (.ofList bindings) policy.permissions = .ok true) :
    policy.IsGranted past .roleBindingCreated := by
  intro permission hmem
  refine ⟨spaces, hlisted, fun space hspace hspaceValid name hname hselects => ?_⟩
  obtain ⟨targets, htargets, -, hexists⟩ := isGranted_iff.mp h permission hmem
  have htarget : .text name ∈ targets := by
    refine (Safelist.mem_resolve htargets).mpr ⟨?_, name, rfl, hselects⟩
    exact mem_validNames.mpr ⟨space, hspace, hspaceValid, hname⟩
  exact BindingIndex.knowsNamespaces_ofList hbindings name _ (hexists _ htarget)

/-- The policies are read once. -/
theorem meets_reads {purpose : String} (h : Fresh past) (hvisited : Visited past home) :
    (Edge.asks purpose .listPolicies Point.read).Keeps (contract home).logic (Learned home)
      (contract home).Forgives past := by
  refine meets_asks _ h.unread (fun policies htyped => ?_) ?_
  · have hsub : past ⊆ past ++ [.called .listPolicies (.ok policies)] :=
      List.subset_append_left ..
    refine ⟨⟨hvisited.mono hsub, List.mem_concat_self, fun answer hmem => ?_, htyped _ rfl⟩,
      h.wrote.step (by rintro _ _ ⟨⟩)⟩
    rcases List.mem_append.mp hmem with hmem | hmem
    · exact absurd hmem (h.unread answer)
    · cases List.mem_singleton.mp hmem
      rfl
  · rintro failure ⟨policies, heq, -⟩
    cases heq

/-- The patterns of a policy that passes the check resolve, unless a name that was listed is no
text. -/
theorem meets_compares {visit : Visit} {grants : Grants} {spaces : List Namespace}
    {bindings : List Binding} (h : Attending past home visit visit.policy.permissions grants)
    (hlisted : .called .listNamespaces (.ok spaces) ∈ past)
    (hbindings : .called (.listRoleBindings none) (.ok bindings) ∈ past) :
    (Edge.tries (isGranted visit.policy (validNames spaces) (.ofList bindings)
      visit.policy.permissions) (Point.answered visit grants)).Keeps (contract home).logic
        (Learned home) (contract home).Forgives past := by
  refine meets_tries hlisted (fun answer hanswer => ⟨h, ?_⟩) fun failure hfailure => ?_
  · rintro rfl
    exact isGranted_of_index hlisted hbindings hanswer
  · rintro ⟨others, heq, htexts⟩
    cases heq
    obtain ⟨answer, hanswer⟩ := isGranted_ok (.ofList bindings) fun permission hmem =>
      visit.policy.resolve_of_validate h.valid hmem (validNames_texts htexts)
    rw [hfailure] at hanswer
    cases hanswer

/-- The status of a policy is written once its bindings are confirmed, and its policies before it
have been done. -/
theorem meets_writes {purpose : String} {visit : Visit} {grants : Grants} {tracker : Tracker}
    (h : Attending past home visit visit.policy.permissions grants)
    (hgranted : visit.policy.IsGranted past .roleBindingCreated)
    (hjudged : Judged past visit.policy tracker) :
    (Edge.asks purpose (writing visit.policy tracker) fun _ => Point.granted visit grants).Keeps
      (contract home).logic (Learned home) (contract home).Forgives past := by
  obtain ⟨moment, hmem, hupsert⟩ := hjudged
  refine meets_asks _ ⟨visit.policy, ⟨visit.policies, visit.done, h.reading, h.part, h.wrote⟩,
    hgranted, moment, tracker, hmem, hupsert, rfl⟩
    (fun _ _ => h.tended.steadily ((Extends.refl past).step trivial) ?_) fun _ => by rintro ⟨⟩
  refine (h.wrote.append [visit.policy]).step ?_
  rintro written answer ⟨⟩
  exact ⟨visit.policy, List.mem_concat_self, rfl, rfl⟩

theorem meets_outline (home : String) :
    Outline (contract home).logic (Flows (.text home)) (Learned home)
      (contract home).Forgives := by
  refine ⟨fun _ => Contract.rests fun hlater h => h.quietly hlater, Contract.forgives_rests, ?_⟩
  intro point edge hedge past h
  have hsub : ∀ event, past ⊆ past ++ [event] := fun event => List.subset_append_left ..
  cases hedge with
  | fetch =>
    refine meets_finds _ rfl (fun space htyped => ?_) (fun message => .absent List.mem_concat_self)
      fun failure hregular => hregular _ rfl
    exact ⟨⟨Fresh.quietly h ((Quietly.refl past).step trivial), List.mem_concat_self⟩,
      htyped space rfl⟩
  | passOver hinvalid => exact .invalid h.1.2 hinvalid
  | @visit space hvalid => exact ⟨h.1.1, space, h.1.2, hvalid, h.2⟩
  | policies => exact meets_reads h.1 h.2
  | none hempty =>
    refine .served h.1.2.listed fun policy hmem => ?_
    rw [List.isEmpty_iff.mp hempty] at hmem
    exact absurd hmem List.not_mem_nil
  | roles =>
    exact meets_lists _ trivial trivial fun roles later hlater hmem =>
      ⟨⟨h.1.1.mono hlater.subset, h.1.2.steadily hlater.steadily, hmem⟩,
        h.2.quietly hlater⟩
  | keys =>
    refine meets_tries h.1.roles (fun _ _ => h) fun failure hfailure => ?_
    rintro ⟨roles, heq, hkeys⟩
    cases heq
    exact not_requireKeys hfailure hkeys
  | bindings =>
    exact meets_lists _ trivial trivial fun bindings later hlater hmem =>
      ⟨h.1.steadily hlater.steadily, BindingIndex.knowsNamespaces_ofList hmem,
        fun _ hdone => absurd hdone List.not_mem_nil, h.2.quietly hlater⟩
  | deleting hpart hdeleting =>
    refine Tending.next h fun hactive => ?_
    rw [hdeleting] at hactive
    cases hactive
  | invalid hpart hinvalid =>
    refine Tending.next h fun _ hvalid => ?_
    rw [hinvalid] at hvalid
    cases hvalid
  | @«break» policies finished roles grants policy failure hpart hfailure hother =>
    have htended : Tending past home policies roles finished grants.index := h
    refine meets_tries htended.reading.listed nofun fun _ heq hregular => ?_
    obtain ⟨others, heq, hsound⟩ := hregular
    cases heq
    obtain ⟨message, types, rfl⟩ :=
      (hsound policy (hpart.subset List.mem_concat_self)).isVerdict _ hfailure
    exact hother message types rfl
  | start hpart hactive hvalid =>
    exact ⟨h, hpart, hvalid, hactive, fun _ hmem => absurd hmem List.not_mem_nil⟩
  | @key visit finished permission grants hpart =>
    have hattending : Attending past home visit finished grants := h
    have hmem := hpart.subset List.mem_concat_self
    refine meets_keys (fun role hrole => ?_) ⟨hattending, hmem⟩
    cases List.mem_singleton.mp hrole
    exact (hattending.textual.permissions permission hmem).role
  | lack hlack =>
    refine h.1.next h.1.known fun hrole => ?_
    rw [(h.1.contains_role h.2).mpr hrole] at hlack
    cases hlack
  | choose hrole =>
    obtain ⟨targets, htargets, hselected⟩ := h.1.chooses h.2
    exact Edge.keeps_tries htargets ⟨h.1, ⟨h.2, (h.1.contains_role h.2).mp hrole⟩, hselected⟩
  | leave hother =>
    refine h.1.next h.1.known fun _ hselects => ?_
    rw [h.2.2.mpr hselects] at hother
    cases hother
  | known htarget hknown => exact h.1.next h.1.known fun _ _ => h.1.known _ _ hknown
  | create htarget hnew =>
    have hwarrant := h.1.warranted h.2.1.1 h.2.1.2 (h.2.2.mp htarget)
    refine meets_creates hwarrant fun isNew later hobtained => ?_
    have hconfirmed := hobtained.confirmed (h.1.isAt _)
    have hlater := h.1.quietly hobtained.1
    exact hlater.next (hlater.known.add (h.1.isAt _) hconfirmed) fun _ _ => hconfirmed
  | finish => exact Attending.tended h
  | namespaces =>
    exact meets_lists _ trivial trivial fun spaces later hlater hmem =>
      ⟨Attending.quietly h hlater, hmem⟩
  | allBindings =>
    exact meets_lists _ trivial trivial fun bindings later hlater hmem =>
      ⟨h.1.quietly hlater, hlater.subset h.2, hmem⟩
  | compare => exact meets_compares h.1 h.2.1 h.2.2
  | others => exact h.1.tended
  | judge =>
    refine meets_judges ⟨rfl, _, rfl⟩ h.1.textual.permissionRoles fun moment after hupsert => ?_
    exact ⟨h.1.steadily ((Extends.refl past).step trivial) (h.1.wrote.step (by rintro _ _ ⟨⟩)),
      (h.2 rfl).mono (hsub _), moment, List.mem_concat_self, hupsert⟩
  | recordKeys => exact meets_keys h.1.textual.permissionRoles h
  | record hpart =>
    exact meets_reports (isKeyed_series h.1.textual h.1.textual.permissionRoles hpart)
      fun later hlater => ⟨h.1.quietly hlater, h.2.1.mono hlater.subset, h.2.2.mono hlater.subset⟩
  | write => exact meets_writes h.1 h.2.1 h.2.2
  | keep => exact h.1.tended
  | next => exact h
  | @finishAll policies roles grants =>
    have htended : Tending past home policies roles policies grants.index := h
    exact .served htended.reading.listed htended.served

/-- A pass meets its contract, and serves its namespace if it does not fail. -/
theorem meets_run (home : String) :
    (run (.text home)).Meets (contract home) (fun past _ => Ended past home) [] := by
  have hfresh : Fresh [] :=
    ⟨fun _ => List.not_mem_nil, fun _ _ hmem => absurd hmem List.not_mem_nil⟩
  refine holds_run (meets_outline home) hfresh fun ended later hended => ?_
  have hcounted : ∀ counter, (count counter).Meets (contract home) (fun last _ =>
      (done ended).Meets (contract home) (fun past _ => Ended past home) last) later := fun _ =>
    meets_counts (fun hquiet h => h.mono hquiet.subset) hended
  cases ended with
  | ok result => exact hcounted _
  | error failure =>
    cases failure with
    | store fault message => exact hcounted _
    | _ => exact hended

end RoleGrants.NamespacePass
