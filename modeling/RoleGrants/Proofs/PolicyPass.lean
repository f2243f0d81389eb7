import RoleGrants.Proofs.PolicyChart
import RoleGrants.Proofs.Steps

/-! What a pass over one policy does, whatever the store answers. Each binding that it creates is
warranted by what it was answered before, each status that it writes is that of the policy fetched
with the verdicts of the pass, and a verdict that tells of created bindings is given only when all
of them are confirmed. When nothing goes wrong it ends in one of five ways. -/

namespace RoleGrants.PolicyPass

open Program Pass

def Fetched (past : List Event) (policy : Policy) : Prop :=
  ∃ space name, .called (.getPolicy space name) (.ok policy) ∈ past

/-- The conditions that a pass starts from: those of the policy, without those of breaches if it
breaks no rule now. -/
def opening (policy : Policy) : Except Failure Tracker :=
  match policy.validate with
  | .ok () => forgetBreaches (Tracker.start policy.conditions) ConditionType.all
  | .error _ => .ok (Tracker.start policy.conditions)

/-- What holds of the policy that a pass works on, and of its conditions so far. -/
structure Working (past : List Event) (policy : Policy) (tracker : Tracker) : Prop where
  fetched : Fetched past policy
  only : ∀ space name answer, .called (.getPolicy space name) answer ∈ past → answer = .ok policy
  textual : policy.IsTextual
  honest : ∀ verdict moment, .judged verdict moment ∈ past → verdict.state = .created →
    policy.IsGranted past verdict.type
  tracks : ∃ initial, opening policy = .ok initial ∧
    initial.replay (verdicts past) = .ok tracker
  unwritten : ∀ written answer, .called (.updateStatus written) answer ∉ past

theorem Fetched.mono {past later : List Event} {policy : Policy} (h : Fetched past policy)
    (hsub : past ⊆ later) : Fetched later policy := by
  obtain ⟨space, name, hmem⟩ := h
  exact ⟨space, name, hsub hmem⟩

theorem Working.quietly {past later : List Event} {policy : Policy} {tracker : Tracker}
    (h : Working past policy tracker) (hq : Quietly past later) : Working later policy tracker where
  fetched := h.fetched.mono hq.subset
  only space name answer hmem := h.only space name answer (hq.mem_of_not hmem id)
  textual := h.textual
  honest verdict moment hmem hstate :=
    (h.honest verdict moment (hq.mem_of_not hmem id) hstate).mono hq.subset
  tracks := hq.verdicts_eq ▸ h.tracks
  unwritten written answer hmem := h.unwritten written answer (hq.mem_of_not hmem id)

theorem Working.opened {past later : List Event} {space name : Value} {policy : Policy}
    {tracker : Tracker} (hpast : Quietly [] past) (htextual : policy.IsTextual)
    (hlater : Quietly (past ++ [.called (.getPolicy space name) (.ok policy)]) later)
    (hopening : opening policy = .ok tracker) : Working later policy tracker where
  fetched := ⟨space, name, hlater.subset List.mem_concat_self⟩
  only otherSpace otherName answer hmem := by
    cases hlater.eq_of_not hpast hmem id
    rfl
  textual := htextual
  honest verdict moment hmem hstate := by cases hlater.eq_of_not hpast hmem id
  tracks := by
    refine ⟨tracker, hopening, ?_⟩
    rw [hlater.verdicts_eq, verdicts_called, hpast.verdicts_eq]
    rfl
  unwritten written answer hmem := by cases hlater.eq_of_not hpast hmem id

/-- A verdict is in order if it does not tell of created bindings, or they are all confirmed. -/
theorem Working.judged {past : List Event} {policy : Policy} {tracker after : Tracker}
    {verdict : Verdict} {moment : Int} (h : Working past policy tracker)
    (hupsert : tracker.upsert moment verdict = .ok after)
    (hgranted : verdict.state = .created → policy.IsGranted past verdict.type) :
    Working (past ++ [.judged verdict moment]) policy after where
  fetched := h.fetched.mono (List.subset_append_left ..)
  only space name answer hmem := by
    rcases List.mem_append.mp hmem with hmem | hmem
    · exact h.only space name answer hmem
    · cases List.mem_singleton.mp hmem
  textual := h.textual
  honest other time hmem hstate := by
    refine Policy.IsGranted.mono ?_ (List.subset_append_left ..)
    rcases List.mem_append.mp hmem with hmem | hmem
    · exact h.honest other time hmem hstate
    · cases List.mem_singleton.mp hmem
      exact hgranted hstate
  tracks := by
    obtain ⟨initial, hopening, hreplay⟩ := h.tracks
    exact ⟨initial, hopening, by rw [verdicts_judged]; exact Tracker.replay_append hreplay hupsert⟩
  unwritten written answer hmem := by
    rcases List.mem_append.mp hmem with hmem | hmem
    · exact h.unwritten written answer hmem
    · cases List.mem_singleton.mp hmem

/-- What holds of a policy when bindings are created for it. -/
structure Entitled (past : List Event) (policy : Policy) : Prop where
  fetched : Fetched past policy
  valid : policy.validate = .ok ()
  active : policy.isDeleting = false
  roles : ∃ roles, .called .listClusterRoles (.ok roles) ∈ past ∧
    ∀ role ∈ policy.clusterPermissions ++ policy.permissionRoles, role ∈ roles

theorem Entitled.mono {past later : List Event} {policy : Policy} (h : Entitled past policy)
    (hsub : past ⊆ later) : Entitled later policy where
  fetched := h.fetched.mono hsub
  valid := h.valid
  active := h.active
  roles := by
    obtain ⟨roles, hmem, hroles⟩ := h.roles
    exact ⟨roles, hsub hmem, hroles⟩

/-- Whether the events before the creation of a binding warrant it. -/
inductive Warranted (past : List Event) : Binding → Prop
  | onCluster {policy : Policy} {role : Value} : Entitled past policy →
      role ∈ policy.clusterPermissions → Warranted past (.onCluster role policy)
  | inNamespace {policy : Policy} {permission : Permission} {spaces : List Namespace}
      {space : Namespace} {name : String} : Entitled past policy →
      permission ∈ policy.permissions → .called .listNamespaces (.ok spaces) ∈ past →
      space ∈ spaces → space.isValid = true → space.name = .text name →
      permission.Selects name →
      Warranted past (.inNamespace permission.role policy (.text name))

/-- How a pass ends that does not fail: with a policy that is not there or is being deleted, with a
role missing, with all bindings confirmed, or, to be followed by another, with those on the whole
cluster confirmed, of which one was not listed before. -/
inductive Ended (past : List Event) : Bool → Prop
  | absent {space name : Value} {message : String} :
      .called (.getPolicy space name) (.error (.store .notFound message)) ∈ past → Ended past false
  | deleting {policy : Policy} : Fetched past policy → policy.isDeleting = true → Ended past false
  | missing {policy : Policy} {roles : List Value} {role : Value} : Fetched past policy →
      .called .listClusterRoles (.ok roles) ∈ past →
      role ∈ policy.clusterPermissions ++ policy.permissionRoles → role ∉ roles → Ended past false
  | granted {policy : Policy} : Fetched past policy → (∀ type, policy.IsGranted past type) →
      Ended past false
  | again {policy : Policy} {bindings : List Binding} {role : Value} : Fetched past policy →
      policy.IsGranted past .clusterRoleBindingCreated →
      .called .listClusterRoleBindings (.ok bindings) ∈ past → role ∈ policy.clusterPermissions →
      (∀ binding ∈ bindings, binding.name ≠ .text (policy.clusterPlace role).name) →
      Ended past true

theorem Ended.mono {past later : List Event} {requeue : Bool} (h : Ended past requeue)
    (hsub : past ⊆ later) : Ended later requeue := by
  cases h with
  | absent hmem => exact .absent (hsub hmem)
  | deleting hfetched hdeleting => exact .deleting (hfetched.mono hsub) hdeleting
  | missing hfetched hroles hrole hmissing =>
    exact .missing (hfetched.mono hsub) (hsub hroles) hrole hmissing
  | granted hfetched hgranted =>
    exact .granted (hfetched.mono hsub) fun type => (hgranted type).mono hsub
  | again hfetched hgranted hlisted hrole hnew =>
    exact .again (hfetched.mono hsub) (hgranted.mono hsub) (hsub hlisted) hrole hnew

/-- What a pass over the policy `label` in the namespace `home` keeps to. -/
def contract (home label : Value) : Contract where
  judges verdict := verdict.message.IsText
  demands past request :=
    match request with
    | .getPolicy space name => space = home ∧ name = label ∧
        ∀ space name answer, .called (.getPolicy space name) answer ∉ past
    | .listPolicies => False
    | .getNamespace _ => False
    | .createBinding binding => Warranted past binding
    | .updateStatus written => ∃ policy tracker, Working past policy tracker ∧
        written = { policy with conditions := tracker.current }
    | _ => True
  excuses past failure := (∃ message types, failure = .invalidPolicy message types) ∧
    ∃ policy, Fetched past policy ∧ policy.validate ≠ .ok ()
  keeps := by
    rintro past failure ⟨hfailure, policy, hfetched, hinvalid⟩ more
    exact ⟨hfailure, policy, hfetched.mono (List.subset_append_left ..), hinvalid⟩

variable {home label : Value} {past later : List Event} {policy : Policy} {tracker : Tracker}

/-! ### What a pass has learned -/

/-- An active policy that breaks no rule, with the roles that exist. -/
structure Consulted (past : List Event) (policy : Policy) (tracker : Tracker)
    (roles : List Value) : Prop where
  working : Working past policy tracker
  valid : policy.validate = .ok ()
  active : policy.isDeleting = false
  listed : .called .listClusterRoles (.ok roles) ∈ past

theorem Consulted.quietly {roles : List Value} (h : Consulted past policy tracker roles)
    (hlater : Quietly past later) : Consulted later policy tracker roles :=
  ⟨h.working.quietly hlater, h.valid, h.active, hlater.subset h.listed⟩

/-- Whether some roles are those requested that do not exist. -/
structure Lacks (requested roles missing : List Value) : Prop where
  absent : ∀ role ∈ missing, role ∈ requested ∧ role ∉ roles
  present : missing.isEmpty = true → ∀ role ∈ requested, role ∈ roles

/-- A pass in which a role is missing ends so. -/
theorem Consulted.ended {roles onCluster inNamespaces : List Value}
    (h : Consulted past policy tracker roles) (honCluster : Lacks policy.clusterPermissions roles
      onCluster) (hinNamespaces : Lacks policy.permissionRoles roles inNamespaces)
    (hsome : (!onCluster.isEmpty || !inNamespaces.isEmpty) = true) : Ended past false := by
  cases onCluster with
  | cons role rest =>
    obtain ⟨hrole, hmissing⟩ := honCluster.absent role List.mem_cons_self
    exact .missing h.working.fetched h.listed (List.mem_append_left _ hrole) hmissing
  | nil =>
    cases inNamespaces with
    | cons role rest =>
      obtain ⟨hrole, hmissing⟩ := hinNamespaces.absent role List.mem_cons_self
      exact .missing h.working.fetched h.listed (List.mem_append_right _ hrole) hmissing
    | nil => cases hsome

/-- A policy for which bindings are created. -/
structure Entrusted (past : List Event) (policy : Policy) (tracker : Tracker) : Prop where
  working : Working past policy tracker
  entitled : Entitled past policy

theorem Entrusted.quietly (h : Entrusted past policy tracker) (hlater : Quietly past later) :
    Entrusted later policy tracker :=
  ⟨h.working.quietly hlater, h.entitled.mono hlater.subset⟩

/-- Bindings are created for a policy of which no role is missing. -/
theorem Consulted.entrusted {roles onCluster inNamespaces : List Value}
    (h : Consulted past policy tracker roles) (honCluster : Lacks policy.clusterPermissions roles
      onCluster) (hinNamespaces : Lacks policy.permissionRoles roles inNamespaces)
    (hnone : (!onCluster.isEmpty || !inNamespaces.isEmpty) = false) :
    Entrusted past policy tracker := by
  have hempty : onCluster.isEmpty = true ∧ inNamespaces.isEmpty = true := by simpa using hnone
  refine ⟨h.working, h.working.fetched, h.valid, h.active, roles, h.listed, fun role hmem => ?_⟩
  exact (List.mem_append.mp hmem).elim (honCluster.present hempty.1 role)
    (hinNamespaces.present hempty.2 role)

/-- How far the roles on the whole cluster have come, with the bindings that were listed before. -/
structure ClusterProgress (policy : Policy) (bindings : List Binding) (done : List Value)
    (past : List Event) (grants : Grants) : Prop where
  asked : .called .listClusterRoleBindings (.ok bindings) ∈ past
  known : grants.index.KnowsCluster past
  confirmed : ∀ role ∈ done, Confirmed past (policy.clusterPlace role)
  listed : ∀ name, (BindingIndex.ofList bindings).exists? (.text name) none = true →
    grants.index.exists? (.text name) none = true
  created : grants.created ≠ [] → ∃ role ∈ policy.clusterPermissions,
    ∀ binding ∈ bindings, binding.name ≠ .text (policy.clusterPlace role).name

namespace ClusterProgress

variable {bindings : List Binding} {done : List Value} {grants after : Grants} {role : Value}

theorem mono (h : ClusterProgress policy bindings done past grants) (hsub : past ⊆ later) :
    ClusterProgress policy bindings done later grants where
  asked := hsub h.asked
  known := h.known.mono hsub
  confirmed role hmem := (h.confirmed role hmem).mono hsub
  listed := h.listed
  created := h.created

theorem ensured (h : ClusterProgress policy bindings done past grants)
    (hrole : role ∈ policy.clusterPermissions)
    (hensured : Ensured past none (Binding.onCluster role policy) grants later after) :
    ClusterProgress policy bindings (done ++ [role]) later after where
  asked := hensured.quietly.subset h.asked
  known := hensured.knowsCluster h.known (policy.onCluster_isAt role)
  confirmed := by
    intro other hmem
    rcases List.mem_append.mp hmem with hmem | hmem
    · exact (h.confirmed other hmem).mono hensured.quietly.subset
    · cases List.mem_singleton.mp hmem
      exact hensured.confirmedCluster h.known (policy.onCluster_isAt role)
  listed := by
    intro name hname
    cases hensured with
    | known hknown => exact h.listed name hname
    | obtained isNew hunknown hobtained =>
      rw [Grants.add, BindingIndex.exists?_add_none, h.listed name hname, Bool.true_or]
  created := by
    cases hensured with
    | known hknown => exact h.created
    | obtained isNew hunknown hobtained =>
      refine fun _ => ⟨role, hrole, fun binding hmem hname => ?_⟩
      have hlisted := h.listed _ (BindingIndex.exists?_ofList_none.mpr ⟨binding, hmem, hname⟩)
      exact Bool.false_ne_true (hunknown.symm.trans hlisted)

/-- After the roles on the whole cluster, the pass ends with another to follow if a binding had to
be created and there is work in namespaces. -/
theorem ended (h : ClusterProgress policy bindings policy.clusterPermissions past grants)
    (hfetched : Fetched past policy)
    (hstop : (!grants.created.isEmpty || policy.permissions.isEmpty) = true) :
    Ended past (!policy.permissions.isEmpty) := by
  have hcluster : policy.IsGranted past .clusterRoleBindingCreated := h.confirmed
  cases hpermissions : policy.permissions with
  | nil =>
    have hnamespaces : policy.IsGranted past .roleBindingCreated :=
      Policy.isGranted_of_permissions_nil hpermissions
    exact .granted hfetched (Policy.isGranted_of_both hcluster hnamespaces)
  | cons permission rest =>
    -- With work left in namespaces, the pass stops only if it had to create a binding.
    have hcreated : grants.created ≠ [] := by
      intro hnone
      simp [hnone, hpermissions] at hstop
    obtain ⟨role, hrole, hnew⟩ := h.created hcreated
    exact .again hfetched hcluster h.asked hrole hnew

end ClusterProgress

/-- What is left to do for a policy when its bindings on the whole cluster are confirmed, in the
namespaces that were listed. -/
structure Located (past : List Event) (policy : Policy) (tracker : Tracker)
    (spaces : List Namespace) : Prop extends Entrusted past policy tracker where
  onCluster : policy.IsGranted past .clusterRoleBindingCreated
  listed : .called .listNamespaces (.ok spaces) ∈ past

theorem Located.quietly {spaces : List Namespace} (h : Located past policy tracker spaces)
    (hlater : Quietly past later) : Located later policy tracker spaces :=
  ⟨h.toEntrusted.quietly hlater, h.onCluster.mono hlater.subset, hlater.subset h.listed⟩

/-- How far one permission has come in the namespaces that it selects. -/
structure TargetProgress (policy : Policy) (permission : Permission) (done : List Value)
    (past : List Event) (grants : Grants) : Prop where
  known : grants.index.KnowsNamespaces past
  confirmed : ∀ name, .text name ∈ done →
    Confirmed past (policy.namespacePlace permission.role name)

namespace TargetProgress

variable {permission : Permission} {done : List Value} {grants after : Grants} {target : String}

theorem mono (h : TargetProgress policy permission done past grants) (hsub : past ⊆ later) :
    TargetProgress policy permission done later grants :=
  ⟨h.known.mono hsub, fun name hmem => (h.confirmed name hmem).mono hsub⟩

theorem ensured (h : TargetProgress policy permission done past grants) (htarget : target ≠ "")
    (hensured : Ensured past (some (.text target))
      (Binding.inNamespace permission.role policy (.text target)) grants later after) :
    TargetProgress policy permission (done ++ [.text target]) later after where
  known := hensured.knowsNamespaces h.known (policy.inNamespace_isAt permission.role htarget)
  confirmed := by
    intro name hmem
    rcases List.mem_append.mp hmem with hmem | hmem
    · exact (h.confirmed name hmem).mono hensured.quietly.subset
    · cases List.mem_singleton.mp hmem
      exact hensured.confirmedNamespace h.known (policy.inNamespace_isAt permission.role htarget)

end TargetProgress

/-- How far some permissions have come in the namespaces that were listed. -/
structure PermissionProgress (policy : Policy) (spaces : List Namespace) (done : List Permission)
    (past : List Event) : Prop where
  granted : ∀ permission ∈ done, ∀ space ∈ spaces, space.isValid = true → ∀ name,
    space.name = .text name → permission.Selects name →
    Confirmed past (policy.namespacePlace permission.role name)

/-- Whether a permission selects some targets of the namespaces that were listed. -/
def Targets (spaces : List Namespace) (permission : Permission) (targets : List Value) : Prop :=
  ∀ target, target ∈ targets ↔ target ∈ validNames spaces ∧
    ∃ name, target = .text name ∧ permission.Selects name

namespace PermissionProgress

variable {spaces : List Namespace} {done : List Permission} {permission : Permission}
  {targets : List Value} {grants : Grants}

theorem mono (h : PermissionProgress policy spaces done past) (hsub : past ⊆ later) :
    PermissionProgress policy spaces done later :=
  ⟨fun permission hmem space hspace hvalid name hname hselects =>
    (h.granted permission hmem space hspace hvalid name hname hselects).mono hsub⟩

/-- A namespace that a permission selects is among the targets, so it is enough to do those. -/
theorem next (h : PermissionProgress policy spaces done past)
    (htargets : Targets spaces permission targets)
    (hprogress : TargetProgress policy permission targets past grants) :
    PermissionProgress policy spaces (done ++ [permission]) past := by
  refine ⟨fun other hother space hspace hvalid name hname hselects => ?_⟩
  rcases List.mem_append.mp hother with hother | hother
  · exact h.granted other hother space hspace hvalid name hname hselects
  · cases List.mem_singleton.mp hother
    refine hprogress.confirmed name ((htargets _).mpr ⟨?_, name, rfl, hselects⟩)
    exact mem_validNames.mpr ⟨space, hspace, hvalid, hname⟩

end PermissionProgress

/-- A policy is granted in namespaces once each of its permissions is done. -/
theorem Located.isGranted {spaces : List Namespace} (h : Located past policy tracker spaces)
    (hprogress : PermissionProgress policy spaces policy.permissions past) :
    policy.IsGranted past .roleBindingCreated :=
  fun permission hmem => ⟨spaces, h.listed, hprogress.granted permission hmem⟩

theorem Located.ended {spaces : List Namespace} (h : Located past policy tracker spaces)
    (hprogress : PermissionProgress policy spaces policy.permissions past) : Ended past false :=
  .granted h.working.fetched (Policy.isGranted_of_both h.onCluster (h.isGranted hprogress))

/-- A binding is warranted in each target of a permission. -/
theorem Located.warranted {spaces : List Namespace} {permission : Permission}
    {targets : List Value} {target : Value} (h : Located past policy tracker spaces)
    (hpermission : permission ∈ policy.permissions) (htargets : Targets spaces permission targets)
    (htarget : target ∈ targets) : ∃ name, target = .text name ∧ name ≠ "" ∧
      Warranted past (.inNamespace permission.role policy target) := by
  obtain ⟨hname, name, rfl, hselects⟩ := (htargets target).mp htarget
  obtain ⟨space, hspace, hvalid, hspaceName⟩ := mem_validNames.mp hname
  refine ⟨name, rfl, (Namespace.ne_empty_of_isValid hvalid hspaceName).1, ?_⟩
  exact .inNamespace h.entitled hpermission h.listed hspace hvalid hspaceName hselects

/-- What a pass has learned by the points that it comes to. -/
def Learned (home label : Value) : Point → List Event → Prop
  | .opened, past => Quietly [] past
  | .fetched policy, past => policy.IsTextual ∧ ∃ before, Quietly [] before ∧
    Quietly (before ++ [.called (.getPolicy home label) (.ok policy)]) past
  | .refusing policy tracker _ _ _, past => Working past policy tracker ∧ policy.validate ≠ .ok ()
  | .checked policy tracker, past => Working past policy tracker ∧ policy.validate = .ok ()
  | .releasingOnCluster policy tracker _, past | .releasingInNamespaces policy tracker _, past =>
    Working past policy tracker ∧ policy.isDeleting = true
  | .listed policy tracker roles, past => Consulted past policy tracker roles
  | .surveyed policy tracker roles bindings, past => Consulted past policy tracker roles ∧
    .called .listClusterRoleBindings (.ok bindings) ∈ past
  | .compared policy tracker roles bindings onCluster, past =>
    (Consulted past policy tracker roles ∧
      .called .listClusterRoleBindings (.ok bindings) ∈ past) ∧
      Lacks policy.clusterPermissions roles onCluster
  | .decided policy tracker roles bindings onCluster inNamespaces, past =>
    (Consulted past policy tracker roles ∧
      .called .listClusterRoleBindings (.ok bindings) ∈ past) ∧
      Lacks policy.clusterPermissions roles onCluster ∧
      Lacks policy.permissionRoles roles inNamespaces
  | .lacking policy tracker onCluster inNamespaces, past =>
    (Working past policy tracker ∧ Ended past false) ∧
      (∀ role ∈ onCluster, role.IsText) ∧ ∀ role ∈ inNamespaces, role.IsText
  | .lackingInNamespaces policy tracker inNamespaces, past =>
    (Working past policy tracker ∧ Ended past false) ∧ ∀ role ∈ inNamespaces, role.IsText
  | .lacked policy tracker, past | .grantedInNamespaces policy tracker _, past
    | .recordingInNamespaces policy tracker _ _, past =>
    Working past policy tracker ∧ Ended past false
  | .onCluster policy tracker bindings finished grants, past => Entrusted past policy tracker ∧
    ClusterProgress policy bindings finished past grants
  | .grantedOnCluster policy tracker bindings grants, past
    | .recordingOnCluster policy tracker bindings grants _, past =>
    Entrusted past policy tracker ∧
      ClusterProgress policy bindings policy.clusterPermissions past grants
  | .ready policy tracker, past => Entrusted past policy tracker ∧
    policy.IsGranted past .clusterRoleBindingCreated
  | .located policy tracker spaces, past => Located past policy tracker spaces
  | .inNamespaces policy tracker spaces finished progress, past =>
    Located past policy tracker spaces ∧ progress.1.index.KnowsNamespaces past ∧
      PermissionProgress policy spaces finished past
  | .inTargets policy tracker spaces before permission _ targets finished grants, past =>
    (permission ∈ policy.permissions ∧ Targets spaces permission targets) ∧
      Located past policy tracker spaces ∧
      TargetProgress policy permission finished past grants ∧
      PermissionProgress policy spaces before past
  | .settled policy tracker result, past =>
    Working past policy tracker ∧ Ended past result.requeue
  | .ended result, past => Ended past result.requeue

/-- Quiet events do not change what a pass has learned. -/
theorem Learned.quietly {point : Point} (h : Learned home label point past)
    (hlater : Quietly past later) : Learned home label point later := by
  have hsub := hlater.subset
  cases point with
  | opened => exact h.trans hlater
  | fetched policy =>
    obtain ⟨htextual, before, hbefore, hfetched⟩ := h
    exact ⟨htextual, before, hbefore, hfetched.trans hlater⟩
  | refusing | checked | releasingOnCluster | releasingInNamespaces =>
    exact ⟨h.1.quietly hlater, h.2⟩
  | listed => exact Consulted.quietly h hlater
  | surveyed => exact ⟨h.1.quietly hlater, hsub h.2⟩
  | compared | decided => exact ⟨⟨h.1.1.quietly hlater, hsub h.1.2⟩, h.2⟩
  | lacking | lackingInNamespaces => exact ⟨⟨h.1.1.quietly hlater, h.1.2.mono hsub⟩, h.2⟩
  | lacked | grantedInNamespaces | recordingInNamespaces | settled =>
    exact ⟨h.1.quietly hlater, h.2.mono hsub⟩
  | onCluster | grantedOnCluster | recordingOnCluster | ready =>
    exact ⟨h.1.quietly hlater, h.2.mono hsub⟩
  | located => exact Located.quietly h hlater
  | inNamespaces => exact ⟨h.1.quietly hlater, h.2.1.mono hsub, h.2.2.mono hsub⟩
  | inTargets => exact ⟨h.1, h.2.1.quietly hlater, h.2.2.1.mono hsub, h.2.2.2.mono hsub⟩
  | ended => exact Ended.mono h hsub

/-! ### The edges -/

theorem forgetBreaches_ok (types : List ConditionType) (tracker : Tracker)
    (h : ∀ condition ∈ tracker.current, condition.message.IsText) :
    ∃ after, forgetBreaches tracker types = .ok after := by
  induction types generalizing tracker with
  | nil => exact ⟨tracker, rfl⟩
  | cons type rest ih =>
    have htells : ∃ mended, tellsOfBreach (tracker.get? type) = .ok mended := by
      cases hget : tracker.get? type with
      | none => exact ⟨false, rfl⟩
      | some condition =>
        obtain ⟨message, hmessage⟩ := h condition (List.mem_of_find?_eq_some hget)
        refine ⟨breach.toList.isPrefixOf message.toList, ?_⟩
        simp only [tellsOfBreach, hmessage]
    obtain ⟨mended, hmended⟩ := htells
    have hrest : ∃ after, forgetBreaches (if mended then tracker.remove type else tracker) rest =
        .ok after := by
      refine ih _ fun condition hmem => h condition ?_
      cases mended with
      | true => exact (List.mem_filter.mp hmem).1
      | false => exact hmem
    obtain ⟨after, hafter⟩ := hrest
    exact ⟨after, by rw [forgetBreaches, hmended]; exact hafter⟩

/-- A pass that writes the status of its policy ends. -/
theorem meets_writes {purpose : String} {requeue : Bool} (h : Working past policy tracker)
    (hended : Ended past requeue) :
    (ask (writing policy tracker)).Holds (contract home label).logic
      (fun later _ => Ended later requeue)
      (fun later failure => (contract home label).Forgives later (failure.within purpose)) past :=
  meets_asks _ ⟨policy, tracker, h, rfl⟩ (fun _ _ => hended.mono (List.subset_append_left ..))
    fun _ => by rintro ⟨⟩

/-- A look for missing roles fails only if some role that exists is no key. -/
theorem meets_compares {requested roles : List Value} {next : List Value → Prop}
    (hrequested : ∀ role ∈ requested, role.IsText)
    (hlisted : .called .listClusterRoles (.ok roles) ∈ past)
    (hnext : ∀ missing, Lacks requested roles missing → next missing) :
    (∀ missing, missingRoles requested roles = .ok missing → next missing) ∧
      ∀ failure, missingRoles requested roles = .error failure →
        (contract home label).Forgives past failure := by
  refine meets_tries hlisted (fun missing hmissing => ?_) fun failure hfailure hregular => ?_
  · obtain ⟨habsent, hpresent⟩ := mem_missingRoles hrequested hmissing
    exact hnext missing ⟨habsent, hpresent⟩
  · obtain ⟨others, heq, hkeys⟩ := hregular
    cases heq
    exact not_missingRoles hrequested hfailure hkeys

/-- Breaches are forgotten unless a message of the policy is no text. -/
theorem meets_forgets (h : Learned home label (.fetched policy) past)
    (hvalid : policy.validate = .ok ()) :
    (Edge.tries (forgetBreaches (.start policy.conditions) ConditionType.all)
      (Point.checked policy)).Keeps (contract home label).logic (Learned home label)
        (contract home label).Forgives past := by
  obtain ⟨htextual, before, hbefore, hfetched⟩ := h
  refine meets_tries (hfetched.subset List.mem_concat_self) (fun tracker htracker =>
    ⟨.opened hbefore htextual hfetched ?_, hvalid⟩) fun failure hfailure hregular => ?_
  · rw [opening, hvalid]
    exact htracker
  · have hmessages := (hregular.2 policy rfl).messages
    obtain ⟨after, hafter⟩ := forgetBreaches_ok ConditionType.all (.start policy.conditions)
      fun condition hmem => hmessages condition (Tracker.mem_of_mem_firstOfType hmem)
    rw [hafter] at hfailure
    cases hfailure

/-- The check of a sound policy ends with a verdict. -/
theorem meets_breaks {failure : Failure} {next : Tracker → Prop}
    (h : Learned home label (.fetched policy) past) (hfailure : policy.validate = .error failure)
    (hother : ∀ message types, failure ≠ .invalidPolicy message types) :
    (∀ tracker, .error failure = (.ok tracker : Except Failure Tracker) → next tracker) ∧
      ∀ cause, .error failure = (.error cause : Except Failure Tracker) →
        (contract home label).Forgives past cause := by
  obtain ⟨-, before, -, hfetched⟩ := h
  refine meets_tries (hfetched.subset List.mem_concat_self) nofun fun _ _ hregular => ?_
  obtain ⟨message, types, rfl⟩ := (hregular.2 policy rfl).isVerdict _ hfailure
  exact hother message types rfl

/-- A policy that breaks a rule is refused, and the refusal is excused. -/
theorem meets_refuses {message : String} {types : List ConditionType}
    (h : Working past policy tracker) (hinvalid : policy.validate ≠ .ok ()) :
    (.refuses (writing policy tracker) (.invalidPolicy message types) : Edge Point).Keeps
      (contract home label).logic (Learned home label) (contract home label).Forgives past := by
  have hexcused : ∀ event,
      (contract home label).Forgives (past ++ [event]) (.invalidPolicy message types) :=
    fun event => .inr ⟨⟨message, types, rfl⟩, policy,
      h.fetched.mono (List.subset_append_left ..), hinvalid⟩
  refine ⟨⟨policy, tracker, h, rfl⟩, ?_⟩
  rintro (cause | value) -
  -- That the store refuses the record does not hide the breach; any other failure is irregular.
  · exact ⟨fun _ => hexcused _, fun _ => Contract.forgives_last (by rintro ⟨⟩) _⟩
  · exact hexcused _

/-- The patterns of a policy that passes the check resolve, unless a name that was listed is no
text. -/
theorem meets_selects {spaces : List Namespace} {permission : Permission}
    {next : List Value → Prop} (h : Located past policy tracker spaces)
    (hmem : permission ∈ policy.permissions)
    (hnext : ∀ targets, Targets spaces permission targets → next targets) :
    (∀ targets, Safelist.resolve permission.allowed permission.denied (validNames spaces) =
      .ok targets → next targets) ∧
      ∀ failure, Safelist.resolve permission.allowed permission.denied (validNames spaces) =
        .error failure → (contract home label).Forgives past failure := by
  refine meets_tries h.listed (fun targets htargets =>
    hnext targets fun target => Safelist.mem_resolve htargets) fun failure hfailure => ?_
  rintro ⟨others, heq, htexts⟩
  cases heq
  obtain ⟨targets, htargets⟩ :=
    policy.resolve_of_validate h.entitled.valid hmem (validNames_texts htexts)
  rw [htargets] at hfailure
  cases hfailure

theorem meets_outline (home label : Value) :
    Outline (contract home label).logic (Flows home label) (Learned home label)
      (contract home label).Forgives := by
  refine ⟨fun _ => Contract.rests fun hlater h => h.quietly hlater, Contract.forgives_rests, ?_⟩
  intro point edge hedge past h
  have hsub : ∀ event, past ⊆ past ++ [event] := fun event => List.subset_append_left ..
  cases hedge with
  | fetch =>
    have hpast : Quietly [] past := h
    refine meets_finds _ ⟨rfl, rfl, fun space name answer hmem => ?_⟩
      (fun policy htyped => ⟨htyped policy rfl, past, hpast, .refl _⟩)
      (fun message => .absent List.mem_concat_self) fun failure hregular => hregular.1 _ rfl
    exact absurd (hpast.mem_of_not hmem id) List.not_mem_nil
  | forget hvalid => exact meets_forgets h hvalid
  | «break» hfailure hother => exact meets_breaks h hfailure hother
  | breach hinvalid =>
    obtain ⟨htextual, before, hbefore, hfetched⟩ := h
    refine ⟨.opened hbefore htextual hfetched ?_, ?_⟩
    · rw [opening, hinvalid]
    · rw [hinvalid]
      exact nofun
  | note hpart =>
    exact meets_judges ⟨_, rfl⟩ (fun role hmem => absurd hmem List.not_mem_nil)
      fun moment after hupsert => ⟨h.1.judged hupsert (by rintro ⟨⟩), h.2⟩
  | refuse => exact meets_refuses h.1 h.2
  | releaseOnCluster hdeleting =>
    exact meets_keys h.1.textual.clusterPermissions ⟨h.1, hdeleting⟩
  | clearOnCluster hpart =>
    exact meets_reports (isKeyed_series h.1.textual h.1.textual.clusterPermissions hpart)
      fun later hlater => ⟨h.1.quietly hlater, h.2⟩
  | releaseInNamespaces => exact meets_keys h.1.textual.permissionRoles h
  | clearInNamespaces hpart =>
    exact meets_reports (isKeyed_series h.1.textual h.1.textual.permissionRoles hpart)
      fun later hlater => ⟨h.1.quietly hlater, h.2⟩
  | released => exact .deleting h.1.fetched h.2
  | roles hactive =>
    exact meets_lists _ trivial trivial fun roles later hlater hmem =>
      ⟨h.1.quietly hlater, h.2, hactive, hmem⟩
  | clusterBindings =>
    exact meets_lists _ trivial trivial fun bindings later hlater hmem =>
      ⟨Consulted.quietly h hlater, hmem⟩
  | compareOnCluster =>
    exact meets_compares h.1.working.textual.clusterPermissions h.1.listed
      fun missing hlacks => ⟨h, hlacks⟩
  | compareInNamespaces =>
    exact meets_compares h.1.1.working.textual.permissionRoles h.1.1.listed
      fun missing hlacks => ⟨h.1, h.2, hlacks⟩
  | lack hsome =>
    obtain ⟨⟨hconsulted, -⟩, honCluster, hinNamespaces⟩ := h
    have htextual := hconsulted.working.textual
    exact ⟨⟨hconsulted.working, hconsulted.ended honCluster hinNamespaces hsome⟩,
      fun role hmem => htextual.clusterPermissions role (honCluster.absent role hmem).1,
      fun role hmem => htextual.permissionRoles role (hinNamespaces.absent role hmem).1⟩
  | lackOnCluster =>
    exact meets_judges ⟨_, rfl⟩ h.2.1 fun moment after hupsert =>
      ⟨⟨h.1.1.judged hupsert (by rintro ⟨⟩), h.1.2.mono (hsub _)⟩, h.2.2⟩
  | completeOnCluster => exact ⟨h.1, h.2.2⟩
  | lackInNamespaces =>
    exact meets_judges ⟨_, rfl⟩ h.2 fun moment after hupsert =>
      ⟨h.1.1.judged hupsert (by rintro ⟨⟩), h.1.2.mono (hsub _)⟩
  | completeInNamespaces => exact h.1
  | writeLack => exact meets_writes h.1 h.2
  | startOnCluster hcomplete hroles =>
    obtain ⟨⟨hconsulted, hasked⟩, honCluster, hinNamespaces⟩ := h
    exact ⟨hconsulted.entrusted honCluster hinNamespaces hcomplete, hasked,
      BindingIndex.knowsCluster_ofList hasked, fun _ hmem => absurd hmem List.not_mem_nil,
      fun _ hname => hname, fun hcreated => absurd rfl hcreated⟩
  | knownOnCluster hpart hknown =>
    exact ⟨h.1, h.2.ensured (hpart.subset List.mem_concat_self) (.known hknown)⟩
  | createOnCluster hpart hnew =>
    have hrole := hpart.subset List.mem_concat_self
    exact meets_creates (.onCluster h.1.entitled hrole) fun isNew later hobtained =>
      ⟨h.1.quietly hobtained.1, h.2.ensured hrole (.obtained isNew hnew hobtained)⟩
  | judgeOnCluster =>
    exact meets_judges ⟨_, rfl⟩ h.1.working.textual.clusterPermissions fun moment after hupsert =>
      ⟨⟨h.1.working.judged hupsert fun _ => h.2.confirmed, h.1.entitled.mono (hsub _)⟩,
        h.2.mono (hsub _)⟩
  | keysOnCluster => exact meets_keys h.1.working.textual.clusterPermissions h
  | recordOnCluster hpart =>
    have htextual := h.1.working.textual
    exact meets_reports (isKeyed_series htextual htextual.clusterPermissions hpart)
      fun later hlater => ⟨h.1.quietly hlater, h.2.mono hlater.subset⟩
  | writeOnCluster hstop => exact meets_writes h.1.working (h.2.ended h.1.working.fetched hstop)
  | goOn => exact ⟨h.1, h.2.confirmed⟩
  | startInNamespaces hcomplete hroles =>
    exact ⟨h.1.1.entrusted h.2.1 h.2.2 hcomplete,
      Policy.isGranted_of_clusterPermissions_nil (List.isEmpty_iff.mp hroles)⟩
  | upToDate hcomplete hroles hpermissions =>
    exact ⟨h.1.1.working, .granted h.1.1.working.fetched (Policy.isGranted_of_both
      (Policy.isGranted_of_clusterPermissions_nil (List.isEmpty_iff.mp hroles))
      (Policy.isGranted_of_permissions_nil (List.isEmpty_iff.mp hpermissions)))⟩
  | namespaces =>
    exact meets_lists _ trivial trivial fun spaces later hlater hmem =>
      ⟨h.1.quietly hlater, h.2.mono hlater.subset, hmem⟩
  | bindings =>
    exact meets_lists _ trivial trivial fun bindings later hlater hmem =>
      ⟨Located.quietly h hlater, BindingIndex.knowsNamespaces_ofList hmem,
        ⟨fun _ hdone => absurd hdone List.not_mem_nil⟩⟩
  | select hpart =>
    have hpermission := hpart.subset List.mem_concat_self
    exact meets_selects h.1 hpermission fun targets htargets => ⟨⟨hpermission, htargets⟩, h.1,
      ⟨h.2.1, fun _ hmem => absurd hmem List.not_mem_nil⟩, h.2.2⟩
  | selectNone | leaveTargets =>
    exact ⟨h.2.1, h.2.2.1.known, h.2.2.2.next h.1.2 h.2.2.1⟩
  | knownInTarget hpart hknown =>
    obtain ⟨name, rfl, hne, -⟩ := h.2.1.warranted h.1.1 h.1.2 (hpart.subset List.mem_concat_self)
    exact ⟨h.1, h.2.1, h.2.2.1.ensured hne (.known hknown), h.2.2.2⟩
  | createInTarget hpart hnew =>
    obtain ⟨name, rfl, hne, hwarrant⟩ :=
      h.2.1.warranted h.1.1 h.1.2 (hpart.subset List.mem_concat_self)
    exact meets_creates hwarrant fun isNew later hobtained =>
      ⟨h.1, h.2.1.quietly hobtained.1, h.2.2.1.ensured hne (.obtained isNew hnew hobtained),
        h.2.2.2.mono hobtained.1.subset⟩
  | incomplete => exact ⟨h.1.working, h.1.ended h.2.2⟩
  | judgeInNamespaces =>
    exact meets_judges ⟨_, rfl⟩ h.1.working.textual.permissionRoles fun moment after hupsert =>
      ⟨h.1.working.judged hupsert fun _ => h.1.isGranted h.2.2, (h.1.ended h.2.2).mono (hsub _)⟩
  | keysInNamespaces => exact meets_keys h.1.textual.permissionRoles h
  | recordInNamespaces hpart =>
    exact meets_reports (isKeyed_series h.1.textual h.1.textual.permissionRoles hpart)
      fun later hlater => ⟨h.1.quietly hlater, h.2.mono hlater.subset⟩
  | writeInNamespaces => exact meets_writes h.1 h.2
  | writeChanges => exact meets_writes h.1 h.2
  | keep => exact h.2

/-- A pass meets its contract, and ends in one of the five ways if it does not fail. -/
theorem meets_run (home label : Value) :
    (run home label).Meets (contract home label)
      (fun past result => Ended past result.requeue) [] := by
  refine holds_run (meets_outline home label)
    (fun _ => Contract.rests fun hlater h => h.mono hlater.subset)
    (fun item hline => (meets_outline home label).points .opened item hline [] (Quietly.refl []))
    fun ended later hended => ?_
  have hcounted : ∀ counter, (count counter).Meets (contract home label) (fun last _ =>
      (done ended).Meets (contract home label) (fun past result => Ended past result.requeue) last)
      later := fun _ => meets_counts (fun hquiet h => h.mono hquiet.subset) hended
  cases ended with
  | ok result => exact hcounted _
  | error failure =>
    cases failure with
    | invalidPolicy message types => exact hcounted _
    | store fault message => exact hcounted _
    | _ => exact hended

end RoleGrants.PolicyPass
