import RoleGrants.Proofs.Conclusions

/-! How far a pass has come in which nothing fails. `PolicyPass.Reached` says what has become of the
scene at each point of a pass over a policy, up to the end that `PolicyPass.Concludes` tells of. -/

namespace RoleGrants

open DryRun Program Pass

namespace PolicyPass

variable {scene later : Scene} {policy : Policy} {tracker : Tracker}

/-! ### Where a pass has come to -/

/-- A policy that a pass has found and that breaks no rule. -/
structure Opened (scene : Scene) (space name : Value) (policy : Policy) : Prop where
  found : scene.cluster.getPolicy space name = .ok policy
  valid : policy.validate = .ok ()
  isOpen : policy.IsOpen

/-- An active policy that a pass has done nothing about. -/
structure Waiting (scene : Scene) (space name : Value) (policy : Policy) (tracker : Tracker)
    (roles : List Value) (later : Scene) : Prop extends Opened scene space name policy where
  active : policy.isDeleting = false
  tracker : tracker = policy.openedTracker
  roles : roles = scene.cluster.roles
  scene : later = scene

/-- How far the release of a policy has come: the series that are cleared. -/
structure Releasing (scene : Scene) (space name : Value) (policy : Policy) (cleared : List Series)
    (later : Scene) : Prop extends Opened scene space name policy where
  deleting : policy.isDeleting = true
  onCluster : ∀ role ∈ policy.clusterPermissions, role.isKey = true
  subject : cleared ≠ [] → policy.subjectName.isKey = true
  scene : later = { scene with sink := scene.sink.clearAll cleared }

/-- How far a pass has come with an active policy whose roles it has compared with those that exist:
the verdicts that it has given and the series that it has recorded. -/
structure Underway (scene : Scene) (space name : Value) (policy : Policy) (tracker : Tracker)
    (verdicts : List Verdict) (recorded : List Series) (later : Scene) : Prop
    extends Opened scene space name policy where
  active : policy.isDeleting = false
  existing : ∀ role ∈ scene.cluster.roles, role.isKey = true
  onCluster : ∀ role ∈ policy.clusterPermissions, role.isKey = true
  inNamespaces : ∀ role ∈ policy.permissionRoles, role.isKey = true
  given : ∃ given, given.map Prod.fst = verdicts ∧ policy.openedTracker.replay given = .ok tracker
  sink : later.sink = scene.sink.recordAll recorded
  subject : recorded ≠ [] → policy.subjectName.isKey = true

/-- Whether a deed is done but for the conditions, which may still have to be written. -/
structure Settled (scene : Scene) (space name : Value) (policy : Policy) (tracker : Tracker)
    (deed : Deed) (later : Scene) : Prop
    extends Underway scene space name policy tracker deed.verdicts deed.recorded later where
  isDeed : policy.deed scene.cluster = deed
  cluster : later.cluster = scene.cluster.extend deed.result.created
  resolves : deed.result.outcome.isPlaced = true →
    policy.Resolves (validNames scene.cluster.namespaces)

/-- How far a pass has come on the whole cluster. -/
structure Granting (scene : Scene) (space name : Value) (policy : Policy) (tracker : Tracker)
    (verdicts : List Verdict) (recorded : List Series) (wanted : List Binding) (grants : Grants)
    (later : Scene) : Prop
    extends Underway scene space name policy tracker verdicts recorded later where
  deed : policy.deed scene.cluster = policy.deedOnCluster scene.cluster
  filled : Filled scene.cluster (· = none) wanted later.cluster grants

/-- Whether what is left of the deed of a policy is to be done in namespaces. -/
def IsPlacing (scene : Scene) (space name : Value) (policy : Policy) (tracker : Tracker)
    (later : Scene) : Prop :=
  ∃ verdicts recorded, Underway scene space name policy tracker verdicts recorded later ∧
    policy.deed scene.cluster = (policy.deedInNamespaces scene.cluster).following verdicts recorded

/-- How far a pass has come in namespaces: with some of the permissions, and with the bindings that
they want. -/
structure Spreading (scene : Scene) (space name : Value) (policy : Policy) (tracker : Tracker)
    (before : List Permission) (isComplete : Bool) (wanted : List Binding) (grants : Grants)
    (later : Scene) : Prop where
  placing : IsPlacing scene space name policy tracker later
  filled : Filled scene.cluster (· ≠ none) wanted later.cluster grants
  resolves : ∀ permission ∈ before, ∃ targets, Safelist.resolve permission.allowed
    permission.denied (validNames scene.cluster.namespaces) = .ok targets
  isComplete : isComplete = before.all fun permission =>
    (validNames scene.cluster.namespaces).any permission.chooses

/-- How far a pass has come that has found all bindings in namespaces in place: with the series of
some roles. -/
structure Closing (scene : Scene) (space name : Value) (policy : Policy) (tracker : Tracker)
    (grants : Grants) (finished : List Value) (later : Scene) : Prop where
  underway : ∃ verdicts recorded,
    Underway scene space name policy tracker (verdicts ++ [policy.grantedInNamespaces])
      (recorded ++ finished.map (series policy namespaceScope)) later ∧
    policy.deed scene.cluster = Deed.following verdicts recorded {
      result := { outcome := .roleBindingsCreated, created := grants.created }
      verdicts := [policy.grantedInNamespaces]
      recorded := policy.seriesOf policy.permissionRoles namespaceScope }
  cluster : later.cluster = scene.cluster.extend grants.created
  resolves : policy.Resolves (validNames scene.cluster.namespaces)

/-- What has become of a scene at each point of a pass in which nothing fails. -/
def Reached (scene : Scene) (space name : Value) : Point → Scene → Prop
  | .opened, later => later = scene
  | .fetched policy, later => later = scene ∧ scene.cluster.getPolicy space name = .ok policy
  | .refusing policy tracker message types finished, later =>
    (later = scene ∧ scene.cluster.getPolicy space name = .ok policy) ∧
      policy.validate = .error (.invalidPolicy message types) ∧ ∃ given,
        given.map Prod.fst = finished.map (breached message) ∧
          (Tracker.start policy.conditions).replay given = .ok tracker
  | .checked policy tracker, later =>
    later = scene ∧ tracker = policy.openedTracker ∧ Opened scene space name policy
  | .releasingOnCluster policy _ finished, later =>
    Releasing scene space name policy (finished.map (series policy clusterScope)) later
  | .releasingInNamespaces policy _ finished, later =>
    (∀ role ∈ policy.permissionRoles, role.isKey = true) ∧ Releasing scene space name policy
      (policy.seriesOf policy.clusterPermissions clusterScope ++
        finished.map (series policy namespaceScope)) later
  | .listed policy tracker roles, later => Waiting scene space name policy tracker roles later
  | .surveyed policy tracker roles bindings, later =>
    Waiting scene space name policy tracker roles later ∧
      bindings = scene.cluster.clusterRoleBindings
  | .compared policy tracker roles bindings onCluster, later =>
    (Waiting scene space name policy tracker roles later ∧
      bindings = scene.cluster.clusterRoleBindings) ∧
      missingRoles policy.clusterPermissions roles = .ok onCluster
  | .decided policy tracker _ bindings onCluster inNamespaces, later =>
    Underway scene space name policy tracker [] [] later ∧ later = scene ∧
      bindings = scene.cluster.clusterRoleBindings ∧
      onCluster = lackingRoles policy.clusterPermissions scene.cluster.roles ∧
      inNamespaces = lackingRoles policy.permissionRoles scene.cluster.roles
  | .lacking policy tracker onCluster inNamespaces, later =>
    Underway scene space name policy tracker [] [] later ∧ later.cluster = scene.cluster ∧
      policy.deed scene.cluster = .onMissing onCluster inNamespaces ∧
      (∀ role ∈ onCluster, role.isKey = true) ∧ ∀ role ∈ inNamespaces, role.isKey = true
  | .lackingInNamespaces policy tracker inNamespaces, later => ∃ onCluster,
    Underway scene space name policy tracker (lackings .clusterRoleBindingCreated onCluster) []
      later ∧ later.cluster = scene.cluster ∧
      policy.deed scene.cluster = .onMissing onCluster inNamespaces ∧
      ∀ role ∈ inNamespaces, role.isKey = true
  | .lacked policy tracker, later => ∃ onCluster inNamespaces,
    Settled scene space name policy tracker (.onMissing onCluster inNamespaces) later
  | .onCluster policy tracker _ finished grants, later =>
    Granting scene space name policy tracker [] [] (finished.map (.onCluster · policy)) grants later
  | .grantedOnCluster policy tracker _ grants, later =>
    Granting scene space name policy tracker [policy.grantedOnCluster] [] policy.wantedOnCluster
      grants later
  | .recordingOnCluster policy tracker _ grants finished, later =>
    Granting scene space name policy tracker [policy.grantedOnCluster]
      (finished.map (series policy clusterScope)) policy.wantedOnCluster grants later
  | .ready policy tracker, later =>
    IsPlacing scene space name policy tracker later ∧ later.cluster = scene.cluster
  | .located policy tracker spaces, later =>
    (IsPlacing scene space name policy tracker later ∧ later.cluster = scene.cluster) ∧
      spaces = scene.cluster.namespaces
  | .inNamespaces policy tracker spaces finished (grants, isComplete), later =>
    spaces = scene.cluster.namespaces ∧
      Spreading scene space name policy tracker finished isComplete
        (finished.flatMap (policy.wantedBy (validNames scene.cluster.namespaces))) grants later
  | .inTargets policy tracker spaces before permission isComplete targets finished grants, later =>
    (spaces = scene.cluster.namespaces ∧ permission ∈ policy.permissions ∧
      Safelist.resolve permission.allowed permission.denied
        (validNames scene.cluster.namespaces) = .ok targets) ∧
      Spreading scene space name policy tracker before isComplete
        (before.flatMap (policy.wantedBy (validNames scene.cluster.namespaces)) ++
          finished.map (.inNamespace permission.role policy)) grants later
  | .grantedInNamespaces policy tracker grants, later =>
    Closing scene space name policy tracker grants [] later
  | .recordingInNamespaces policy tracker grants finished, later =>
    Closing scene space name policy tracker grants finished later
  | .settled policy tracker result, later => ∃ deed,
    Settled scene space name policy tracker deed later ∧ deed.isSure = false ∧ deed.result = result
  | .ended result, later => Concludes scene space name later (.ok result)

variable {space name : Value} {failure : Failure}

/-- A pass that needs some roles as keys goes on unless it should not. -/
theorem keeps_keys {roles : List Value} {point : Prop} {bad : Failure → Prop}
    (hpoint : (∀ role ∈ roles, role.isKey = true) → point)
    (hbad : ¬ (∀ role ∈ roles, role.isKey = true) → bad .wrongType) :
    (∀ value, Value.requireKeys roles = .ok value → point) ∧
      ∀ failure, Value.requireKeys roles = .error failure → bad failure := by
  refine ⟨fun _ hkeys => hpoint (Value.requireKeys_iff.mp hkeys), fun failure hfailure => ?_⟩
  cases requireKeys_failed hfailure
  refine hbad fun hkeys => ?_
  cases (Value.requireKeys_iff.mpr hkeys).symm.trans hfailure

theorem ne_nil_of_seriesOf {roles : List Value} {scope : String} {recorded : List Series}
    (hsome : roles ≠ []) (hsubset : policy.seriesOf roles scope ⊆ recorded) : recorded ≠ [] :=
  fun hnone => seriesOf_ne_nil.mpr hsome (List.subset_nil.mp (hnone ▸ hsubset))

namespace Opened

theorem breaks (h : Opened scene space name policy) (hrough : ¬ policy.IsSmooth scene.cluster)
    (hinternal : failure.IsInternal) : Breaks scene space name later failure :=
  breaks_of_found h.found hrough hinternal

/-- A pass over an active policy fails only if it is not fit for its deed. -/
theorem breaks_of_unfit (h : Opened scene space name policy) (hactive : policy.isDeleting = false)
    (hunfit : ¬ policy.IsFit scene.cluster) (hinternal : failure.IsInternal) :
    Breaks scene space name later failure :=
  h.breaks (fun hsmooth => hunfit (hsmooth.fit h.valid hactive)) hinternal

theorem isKept (h : Opened scene space name policy) : policy.IsKept scene.cluster :=
  (Cluster.isKept_of_getPolicy h.found).1

end Opened

/-- A pass that compares roles of a policy with those that exist fails only if it should. -/
theorem Waiting.keeps_missing {roles requested : List Value} {point : List Value → Prop}
    (h : Waiting scene space name policy tracker roles later)
    (hkeys : policy.IsFit scene.cluster → ∀ role ∈ requested, role.isKey = true)
    (hpoint : ∀ missing, missingRoles requested roles = .ok missing → point missing) :
    (∀ missing, missingRoles requested roles = .ok missing → point missing) ∧
      ∀ failure, missingRoles requested roles = .error failure →
        Breaks scene space name later failure := by
  refine ⟨hpoint, fun failure hfailure => ?_⟩
  refine h.breaks_of_unfit h.active (fun hfit => ?_) (missingRoles_failsOnly _ _ failure hfailure)
  rw [h.roles] at hfailure
  cases (missingRoles_eq hfit.existing (hkeys hfit)).symm.trans hfailure

/-- With its roles compared, the deed of a policy is begun. -/
theorem Waiting.underway {roles onCluster inNamespaces : List Value}
    (h : Waiting scene space name policy tracker roles later)
    (honCluster : missingRoles policy.clusterPermissions roles = .ok onCluster)
    (hinNamespaces : missingRoles policy.permissionRoles roles = .ok inNamespaces) :
    Underway scene space name policy tracker [] [] later ∧
      onCluster = lackingRoles policy.clusterPermissions scene.cluster.roles ∧
      inNamespaces = lackingRoles policy.permissionRoles scene.cluster.roles := by
  obtain ⟨hexisting, hkeysOnCluster, rfl⟩ := of_missingRoles_ok honCluster
  obtain ⟨-, hkeys, rfl⟩ := of_missingRoles_ok hinNamespaces
  obtain ⟨hopened, hactive, rfl, rfl, rfl⟩ := h
  exact ⟨⟨hopened, hactive, hexisting, hkeysOnCluster, hkeys, ⟨[], rfl, rfl⟩, rfl,
    fun hsome => absurd rfl hsome⟩, rfl, rfl⟩

namespace Releasing

variable {cleared : List Series}

theorem breaks (h : Releasing scene space name policy cleared later) {roles : List Value}
    (hroles : policy.IsSmooth scene.cluster → policy.CanRecord roles)
    (hcannot : ¬ policy.CanRecord roles) {after : Scene} :
    Breaks scene space name after .wrongType :=
  h.toOpened.breaks (fun hsmooth => hcannot (hroles hsmooth)) Failure.isInternal_wrongType

/-- Another series is cleared, if the subject of the policy can be a key. -/
theorem leaves_clear {role : Value} {roles : List Value} {scope : String} {good : Scene → Prop}
    (h : Releasing scene space name policy cleared later) (hmem : role ∈ roles)
    (hroles : policy.IsSmooth scene.cluster → policy.CanRecord roles)
    (hgood : ∀ after, Releasing scene space name policy (cleared ++ [series policy scope role])
      after → good after) :
    (Program.report (.clear (series policy scope role)) .done).Leaves (fun after _ => good after)
      (Breaks scene space name) later := by
  refine leaves_report (fun hresult => hgood _ ?_) fun failure hfailure => ?_
  · refine ⟨h.toOpened, h.deleting, h.onCluster, fun _ => (requireKeys_parts.mp hresult).1, ?_⟩
    rw [Sink.clearAll_append, h.scene]
    rfl
  · cases Report.result_failed hfailure
    refine h.breaks hroles fun hcan => ?_
    have hsubject := hcan.subject (List.ne_nil_of_mem hmem)
    cases (requireKeys_parts.mpr ⟨hsubject, hcan.keys role hmem⟩).symm.trans hfailure

theorem concludes (h : Releasing scene space name policy policy.released later)
    (hkeys : ∀ role ∈ policy.permissionRoles, role.isKey = true) :
    Concludes scene space name later (.ok { outcome := .deleted }) := by
  have hsubject : ∀ {roles scope}, policy.seriesOf roles scope ⊆ policy.released →
      roles ≠ [] → policy.subjectName.isKey = true := fun hsubset hsome =>
    h.subject (ne_nil_of_seriesOf hsome hsubset)
  cases h.scene
  exact .released h.found h.valid h.deleting h.isOpen
    ⟨h.onCluster, hsubject (List.subset_append_left _ _)⟩
    ⟨hkeys, hsubject (List.subset_append_right _ _)⟩

end Releasing

namespace Underway

variable {verdicts : List Verdict} {recorded : List Series}

theorem judged {verdict : Verdict} {moment : Int} {after : Tracker}
    (h : Underway scene space name policy tracker verdicts recorded later)
    (hset : tracker.upsert moment verdict = .ok after) :
    Underway scene space name policy after (verdicts ++ [verdict]) recorded later := by
  obtain ⟨given, hgiven, hreplay⟩ := h.given
  refine { h with given := ⟨given ++ [(verdict, moment)], ?_, Tracker.replay_append hreplay hset⟩ }
  rw [List.map_append, hgiven]
  rfl

/-- What is made of the cluster does not matter. -/
theorem making (h : Underway scene space name policy tracker verdicts recorded later)
    (new : List Binding) :
    Underway scene space name policy tracker verdicts recorded (later.making new) :=
  { h with }

theorem breaks (h : Underway scene space name policy tracker verdicts recorded later)
    (hunfit : ¬ (policy.deed scene.cluster).IsFit policy scene.cluster)
    (hinternal : failure.IsInternal) {after : Scene} : Breaks scene space name after failure :=
  h.toOpened.breaks_of_unfit h.active (fun hfit => hunfit hfit.deed) hinternal

/-- Another series is recorded, if the subject of the policy can be a key. -/
theorem leaves_record {role : Value} {scope : String} {good : Scene → Prop}
    (h : Underway scene space name policy tracker verdicts recorded later)
    (hkey : role.isKey = true) (hrecords : (policy.deed scene.cluster).recorded ≠ [])
    (hgood : ∀ after, after.cluster = later.cluster → Underway scene space name policy tracker
      verdicts (recorded ++ [series policy scope role]) after → good after) :
    (Program.report (.record (series policy scope role) true) .done).Leaves
      (fun after _ => good after) (Breaks scene space name) later := by
  refine leaves_report (fun hresult => hgood _ rfl ?_) fun failure hfailure => ?_
  · refine { h with sink := ?_, subject := fun _ => (requireKeys_parts.mp hresult).1 }
    rw [Sink.recordAll_append, ← h.sink]
    rfl
  · cases Report.result_failed hfailure
    refine h.breaks (fun hfit => ?_) Failure.isInternal_wrongType
    cases (requireKeys_parts.mpr ⟨hfit.subject hrecords, hkey⟩).symm.trans hfailure

/-- The verdicts that tell of missing roles are all of the deed where a role is missing. -/
theorem settled {onCluster inNamespaces : List Value}
    (h : Underway scene space name policy tracker (lackings .clusterRoleBindingCreated onCluster ++
      lackings .roleBindingCreated inNamespaces) [] later)
    (hcluster : later.cluster = scene.cluster)
    (hdeed : policy.deed scene.cluster = .onMissing onCluster inNamespaces) :
    Settled scene space name policy tracker (.onMissing onCluster inNamespaces) later where
  toUnderway := h
  isDeed := hdeed
  cluster := hcluster.trans Cluster.extend_nil.symm
  resolves := by rintro ⟨⟩

end Underway

namespace Settled

variable {deed : Deed}

theorem concludes {after : Scene} (h : Settled scene space name policy tracker deed later)
    (hsink : after.sink = later.sink)
    (hcluster : after.cluster = later.cluster.noted deed.isSure policy tracker) :
    Concludes scene space name after (.ok deed.result) := by
  obtain ⟨given, hgiven, hreplay⟩ := h.given
  have hfit : (policy.deed scene.cluster).IsFit policy scene.cluster :=
    h.isDeed ▸ ⟨h.subject, h.resolves⟩
  refine .done h.found h.valid h.active h.isOpen
    ⟨h.existing, h.onCluster, h.inNamespaces, hfit⟩ ?_
  rw [h.isDeed]
  exact ⟨rfl, hsink.trans h.sink, given, tracker, hgiven, hreplay, h.cluster ▸ hcluster⟩

theorem leaves_written {bad : Scene → Failure → Prop}
    (h : Settled scene space name policy tracker deed later)
    (hsure : (deed.isSure || tracker.changed) = true) :
    (ask (writing policy tracker)).Leaves
      (fun after _ => Concludes scene space name after (.ok deed.result)) bad later := by
  refine leaves_write (h.cluster ▸ h.isKept.extend _) (h.concludes rfl ?_)
  rw [Cluster.noted, if_pos hsure]
  rfl

end Settled

/-! ### What a policy is granted -/

namespace Granting

variable {grants : Grants}

/-- A pass that has created bindings on the whole cluster stops there, as does one that has nothing
to do in namespaces. -/
theorem settled
    (h : Granting scene space name policy tracker [policy.grantedOnCluster]
      (policy.seriesOf policy.clusterPermissions clusterScope) policy.wantedOnCluster grants later)
    (hlast : (!grants.created.isEmpty || policy.permissions.isEmpty) = true) :
    Settled scene space name policy tracker {
      result := {
        outcome := .clusterBindingsCreated
        requeue := !policy.permissions.isEmpty
        created := grants.created }
      verdicts := [policy.grantedOnCluster]
      recorded := policy.seriesOf policy.clusterPermissions clusterScope } later where
  toUnderway := h.toUnderway
  isDeed := by
    rw [h.filled.created] at hlast ⊢
    exact h.deed.trans (if_pos hlast)
  cluster := by
    rw [h.filled.created]
    exact h.filled.grown
  resolves := nofun

theorem placing
    (h : Granting scene space name policy tracker [policy.grantedOnCluster]
      (policy.seriesOf policy.clusterPermissions clusterScope) policy.wantedOnCluster grants later)
    (hmore : (!grants.created.isEmpty || policy.permissions.isEmpty) = false) :
    IsPlacing scene space name policy tracker later ∧ later.cluster = scene.cluster := by
  rw [h.filled.created] at hmore
  refine ⟨⟨_, _, h.toUnderway, h.deed.trans (if_neg (Bool.eq_false_iff.mp hmore))⟩, ?_⟩
  have hnone : Binding.missing scene.cluster.bindings policy.wantedOnCluster = [] := by
    simpa using (Bool.or_eq_false_iff.mp hmore).1
  rw [h.filled.grown, hnone, Cluster.extend_nil]

/-- The series of another role on the whole cluster is recorded. -/
theorem leaves_record {done : List Value} {role : Value} {good : Scene → Prop}
    (h : Granting scene space name policy tracker [policy.grantedOnCluster]
      (done.map (series policy clusterScope)) policy.wantedOnCluster grants later)
    (hpart : done ++ [role] <+: Value.distinct policy.clusterPermissions)
    (hgood : ∀ after, Granting scene space name policy tracker [policy.grantedOnCluster]
      ((done ++ [role]).map (series policy clusterScope)) policy.wantedOnCluster grants after →
        good after) :
    (Program.report (.record (series policy clusterScope role) true) .done).Leaves
      (fun after _ => good after) (Breaks scene space name) later := by
  have hmem := mem_of_mem_distinct (hpart.subset List.mem_concat_self)
  refine h.toUnderway.leaves_record (h.onCluster role hmem) ?_ fun after hcluster hafter =>
    hgood after ⟨?_, h.deed, hcluster ▸ h.filled⟩
  · rw [h.deed]
    exact ne_nil_of_seriesOf (List.ne_nil_of_mem hmem)
      (recorded_deedOnCluster policy scene.cluster).subset
  · rw [List.map_append]
    exact hafter

end Granting

/-- A pass that comes to the namespaces knows the bindings that stand there. -/
theorem IsPlacing.spreading (h : IsPlacing scene space name policy tracker later)
    (hcluster : later.cluster = scene.cluster) :
    Spreading scene space name policy tracker [] true []
      { index := .ofList (scene.cluster.roleBindings none) } later := by
  refine ⟨h, ?_, fun _ hnone => absurd hnone List.not_mem_nil, rfl⟩
  rw [hcluster]
  refine .start fun scope hscope => ?_
  obtain ⟨space, rfl⟩ := Option.ne_none_iff_exists'.mp hscope
  exact BindingIndex.mirrors_inNamespace (by rintro _ ⟨⟩)

namespace Spreading

variable {before : List Permission} {isComplete : Bool} {wanted : List Binding} {grants : Grants}
  {permission : Permission} {targets : List Value}

theorem valid (h : Spreading scene space name policy tracker before isComplete wanted grants
    later) : policy.validate = .ok () := by
  obtain ⟨_, _, hunderway, -⟩ := h.placing
  exact hunderway.valid

/-- A pass fails if a permission cannot be tried on the namespaces. -/
theorem breaks
    (h : Spreading scene space name policy tracker before isComplete wanted grants later)
    (hmem : permission ∈ policy.permissions) (hfailure : Safelist.resolve permission.allowed
      permission.denied (validNames scene.cluster.namespaces) = .error failure) :
    Breaks scene space name later failure := by
  obtain ⟨verdicts, recorded, hunderway, hdeed⟩ := h.placing
  refine hunderway.breaks (fun hfit => ?_) (Safelist.resolve_failsOnly _ _ _ failure hfailure)
  rw [hdeed] at hfit
  obtain ⟨targets, htargets⟩ :=
    hfit.resolves (isPlaced_deedInNamespaces policy scene.cluster) permission hmem
  cases htargets.symm.trans hfailure

/-- What a permission selects are names of namespaces. -/
theorem exists_text
    (h : Spreading scene space name policy tracker before isComplete wanted grants later)
    (hmem : permission ∈ policy.permissions) (hresolved : Safelist.resolve permission.allowed
      permission.denied (validNames scene.cluster.namespaces) = .ok targets) {target : Value}
    (htarget : target ∈ targets) : ∃ text, text ≠ "" ∧ target = .text text := by
  obtain ⟨rfl, htexts⟩ := Policy.of_resolve_ok h.valid hmem hresolved
  obtain ⟨text, rfl⟩ := htexts target htarget
  have htrue := isTrue_of_mem_validNames _ (List.mem_filter.mp htarget).1
  exact ⟨text, Value.isTrue_text.mp htrue, rfl⟩

/-- A permission is done when what it wants in all namespaces that it selects is. -/
theorem next {complete : Bool}
    (h : Spreading scene space name policy tracker before isComplete
      (before.flatMap (policy.wantedBy (validNames scene.cluster.namespaces)) ++
        targets.map (.inNamespace permission.role policy)) grants later)
    (hmem : permission ∈ policy.permissions) (hresolved : Safelist.resolve permission.allowed
      permission.denied (validNames scene.cluster.namespaces) = .ok targets)
    (hcomplete : complete = (isComplete && !targets.isEmpty)) :
    Spreading scene space name policy tracker (before ++ [permission]) complete
      ((before ++ [permission]).flatMap
        (policy.wantedBy (validNames scene.cluster.namespaces))) grants later := by
  obtain ⟨htargets, -⟩ := Policy.of_resolve_ok h.valid hmem hresolved
  have hany : (validNames scene.cluster.namespaces).any permission.chooses = !targets.isEmpty := by
    rw [htargets, Bool.eq_iff_iff]
    simp
  refine ⟨h.placing, ?_, fun other hother => ?_, ?_⟩
  · rw [List.flatMap_append, List.flatMap_singleton, Policy.wantedBy, ← htargets]
    exact h.filled
  · rcases List.mem_append.mp hother with hother | hother
    · exact h.resolves other hother
    · exact ⟨targets, List.mem_singleton.mp hother ▸ hresolved⟩
  · rw [hcomplete, h.isComplete, List.all_append, ← hany]
    simp

variable {target : Value}

theorem known
    (h : Spreading scene space name policy tracker before isComplete wanted grants later)
    (hmem : permission ∈ policy.permissions) (hresolved : Safelist.resolve permission.allowed
      permission.denied (validNames scene.cluster.namespaces) = .ok targets)
    (htarget : target ∈ targets) (hknown : grants.index.exists?
      (Binding.inNamespace permission.role policy target).name (some target) = true) :
    Spreading scene space name policy tracker before isComplete
      (wanted ++ [.inNamespace permission.role policy target]) grants later := by
  obtain ⟨text, hne, rfl⟩ := h.exists_text hmem hresolved htarget
  have hat := policy.inNamespace_isAt permission.role hne
  exact { h with filled := h.filled.of_exists? (Option.some_ne_none text) hat hknown }

theorem leaves_create {purpose : String} {isCounted : Bool} {next : Bool → Scene → Prop}
    {bad : Scene → Failure → Prop}
    (h : Spreading scene space name policy tracker before isComplete wanted grants later)
    (hmem : permission ∈ policy.permissions) (hresolved : Safelist.resolve permission.allowed
      permission.denied (validNames scene.cluster.namespaces) = .ok targets)
    (htarget : target ∈ targets) (hnew : grants.index.exists?
      (Binding.inNamespace permission.role policy target).name (some target) = false)
    (hnext : ∀ after, Spreading scene space name policy tracker before isComplete
      (wanted ++ [.inNamespace permission.role policy target])
      (grants.add (.inNamespace permission.role policy target) true) after → next true after) :
    Scene.logic.call later (.createBinding (.inNamespace permission.role policy target))
      fun answer after => Attempted Scene.logic bad purpose
        (.inNamespace permission.role policy target) isCounted next answer after := by
  obtain ⟨text, hne, rfl⟩ := h.exists_text hmem hresolved htarget
  have hat := policy.inNamespace_isAt permission.role hne
  obtain ⟨verdicts, recorded, hunderway, hdeed⟩ := h.placing
  exact h.filled.leaves_create (Option.some_ne_none text) hat (fun hnone => absurd rfl hnone)
    ⟨.inr ⟨_, rfl⟩, _, rfl⟩ hnew fun hfilled => hnext _
      ⟨⟨verdicts, recorded, hunderway.making _, hdeed⟩, hfilled, h.resolves, h.isComplete⟩

/-- If some permission selects no namespace, the deed is done with the last of them. -/
theorem settled (h : Spreading scene space name policy tracker policy.permissions false
      (policy.wantedIn (validNames scene.cluster.namespaces)) grants later) : ∃ deed,
    Settled scene space name policy tracker deed later ∧ deed.isSure = false ∧
      deed.result = { outcome := .incomplete, created := grants.created } := by
  obtain ⟨verdicts, recorded, hunderway, hdeed⟩ := h.placing
  rw [deedInNamespaces_of_not_all h.isComplete.symm] at hdeed
  refine ⟨_, ⟨?_, hdeed, h.filled.grown, fun _ => h.resolves⟩, rfl, ?_⟩
  · dsimp only [Deed.following]
    rw [List.append_nil, List.append_nil]
    exact hunderway
  · rw [h.filled.created]
    rfl

/-- If each permission selects some namespace, the verdict on them is given after the last. -/
theorem leaves_judge {good : Scene → Tracker → Prop}
    (h : Spreading scene space name policy tracker policy.permissions true
      (policy.wantedIn (validNames scene.cluster.namespaces)) grants later)
    (hgood : ∀ after, Closing scene space name policy after grants [] later → good later after) :
    (upsert tracker policy.grantedInNamespaces).Leaves good (Breaks scene space name) later := by
  obtain ⟨verdicts, recorded, hunderway, hdeed⟩ := h.placing
  rw [deedInNamespaces_of_all h.isComplete.symm, ← h.filled.created] at hdeed
  refine Pass.leaves_judge hunderway.inNamespaces fun moment after hset =>
    hgood after ⟨⟨verdicts, recorded, ?_, hdeed⟩, ?_, h.resolves⟩
  · rw [List.map_nil, List.append_nil]
    exact hunderway.judged hset
  · rw [h.filled.created]
    exact h.filled.grown

end Spreading

namespace Closing

variable {grants : Grants} {done : List Value}

theorem inNamespaces (h : Closing scene space name policy tracker grants done later) :
    ∀ role ∈ policy.permissionRoles, role.isKey = true := by
  obtain ⟨_, _, hunderway, -⟩ := h.underway
  exact hunderway.inNamespaces

/-- The series of another role in namespaces is recorded. -/
theorem leaves_record {role : Value} {good : Scene → Prop}
    (h : Closing scene space name policy tracker grants done later)
    (hpart : done ++ [role] <+: Value.distinct policy.permissionRoles)
    (hgood : ∀ after, Closing scene space name policy tracker grants (done ++ [role]) after →
      good after) :
    (Program.report (.record (series policy namespaceScope role) true) .done).Leaves
      (fun after _ => good after) (Breaks scene space name) later := by
  have hmem := mem_of_mem_distinct (hpart.subset List.mem_concat_self)
  have hkey := h.inNamespaces role hmem
  obtain ⟨⟨verdicts, recorded, hunderway, hdeed⟩, hextended, hresolves⟩ := h
  refine hunderway.leaves_record hkey ?_ fun after hcluster hafter =>
    hgood after ⟨⟨verdicts, recorded, ?_, hdeed⟩, hcluster.trans hextended, hresolves⟩
  · rw [hdeed]
    exact ne_nil_of_seriesOf (List.ne_nil_of_mem hmem) (List.subset_append_right recorded _)
  · rw [List.map_append, ← List.append_assoc]
    exact hafter

/-- When the series of all roles are recorded the deed is done. -/
theorem settled (h : Closing scene space name policy tracker grants
      (Value.distinct policy.permissionRoles) later) : ∃ deed,
    Settled scene space name policy tracker deed later ∧ deed.isSure = true ∧
      deed.result = { outcome := .roleBindingsCreated, created := grants.created } := by
  obtain ⟨verdicts, recorded, hunderway, hdeed⟩ := h.underway
  exact ⟨_, ⟨hunderway, hdeed, h.cluster, fun _ => h.resolves⟩, rfl, rfl⟩

end Closing

/-! ### The edges -/

/-- A policy is looked up, and the pass ends if it is not there. -/
theorem keeps_fetch (scene : Scene) (space name : Value) (purpose : String) :
    (Edge.finds purpose (.getPolicy space name) Point.fetched
      (.ended { outcome := .notFound })).Keeps Scene.logic (Reached scene space name)
        (Breaks scene space name) scene := by
  refine (leaves_read (.getPolicy space name) rfl).mpr ?_
  rw [Cluster.answer]
  cases hfound : scene.cluster.getPolicy space name with
  | ok policy => exact ⟨rfl, hfound⟩
  | error failure =>
    rcases Cluster.getPolicy_failed hfound with rfl | ⟨message, rfl⟩
    · refine ⟨by rintro _ ⟨⟩, fun _ => .inr ⟨?_, Failure.isInternal_wrongType⟩⟩
      rintro (⟨message, habsent⟩ | ⟨other, hother, -⟩)
      · cases hfound.symm.trans habsent
      · cases hfound.symm.trans hother
    · exact ⟨fun _ _ => .notFound hfound, fun hother => absurd rfl (hother message)⟩

theorem keeps_forget (hfound : scene.cluster.getPolicy space name = .ok policy)
    (hvalid : policy.validate = .ok ()) :
    (Edge.tries (forgetBreaches (.start policy.conditions) ConditionType.all)
      (Point.checked policy)).Keeps Scene.logic (Reached scene space name)
        (Breaks scene space name) scene := by
  refine ⟨fun tracker hforgets => ?_, fun failure hfailure => ?_⟩
  · have hopen := of_forgetBreaches_ok hforgets
    rw [forgetBreaches_open hopen] at hforgets
    cases hforgets
    exact ⟨rfl, rfl, hfound, hvalid, hopen⟩
  · refine breaks_of_found hfound (fun hsmooth => ?_)
      (forgetBreaches_failsOnly _ _ failure hfailure)
    cases (forgetBreaches_open (hsmooth.isOpen hvalid)).symm.trans hfailure

theorem reached_outline (scene : Scene) (space name : Value) :
    Outline Scene.logic (Flows space name) (Reached scene space name)
      (Breaks scene space name) := by
  refine .of_isCalm fun {point edge} hedge later h => ?_
  cases hedge with
  | fetch =>
    cases h
    exact keeps_fetch scene space name _
  | forget hvalid =>
    obtain ⟨rfl, hfound⟩ := h
    exact keeps_forget hfound hvalid
  | «break» hfailure hother =>
    refine ⟨by rintro _ ⟨⟩, ?_⟩
    rintro failure ⟨⟩
    refine breaks_of_found h.2 (fun hsmooth => ?_)
      (Policy.isInternal_of_validate hfailure hother)
    obtain ⟨message, types, heq⟩ := hsmooth.verdict _ hfailure
    exact hother message types heq
  | breach hinvalid => exact ⟨h, hinvalid, [], rfl, rfl⟩
  | note =>
    obtain ⟨hscene, hinvalid, given, hgiven, hreplay⟩ := h
    refine leaves_judge (fun _ hmem => absurd hmem List.not_mem_nil) fun moment after hset => ?_
    refine ⟨hscene, hinvalid, given ++ [(_, moment)], ?_, Tracker.replay_append hreplay hset⟩
    rw [List.map_append, List.map_append, hgiven]
    rfl
  | refuse =>
    obtain ⟨⟨rfl, hfound⟩, hinvalid, given, hgiven, hreplay⟩ := h
    refine leaves_write (Cluster.isKept_of_getPolicy hfound).1 ?_
    exact .inl (.declined hfound hinvalid ⟨rfl, rfl, given, _, hgiven, hreplay, rfl⟩)
  | releaseOnCluster hdeleting =>
    obtain ⟨rfl, -, hopened⟩ := h
    refine keeps_keys (fun hkeys => ?_) fun hnot => ?_
    · exact ⟨hopened, hdeleting, hkeys, fun hsome => absurd rfl hsome, rfl⟩
    · exact hopened.breaks (fun hsmooth => hnot (hsmooth.released hopened.valid hdeleting).1.keys)
        Failure.isInternal_wrongType
  | clearOnCluster hpart =>
    refine h.leaves_clear (mem_of_mem_distinct (hpart.subset List.mem_concat_self))
      (fun hsmooth => (hsmooth.released h.valid h.deleting).1) fun after hafter => ?_
    rwa [← List.map_singleton, ← List.map_append] at hafter
  | releaseInNamespaces =>
    refine keeps_keys (fun hkeys => ⟨hkeys, ?_⟩) fun hnot => ?_
    · rw [List.map_nil, List.append_nil]
      exact h
    · exact h.toOpened.breaks
        (fun hsmooth => hnot (hsmooth.released h.valid h.deleting).2.keys)
        Failure.isInternal_wrongType
  | clearInNamespaces hpart =>
    refine h.2.leaves_clear (mem_of_mem_distinct (hpart.subset List.mem_concat_self))
      (fun hsmooth => (hsmooth.released h.2.valid h.2.deleting).2)
      fun after hafter => ⟨h.1, ?_⟩
    rwa [← List.map_singleton, List.append_assoc, ← List.map_append] at hafter
  | released => exact h.2.concludes h.1
  | roles hactive =>
    obtain ⟨rfl, rfl, hopened⟩ := h
    exact (leaves_read .listClusterRoles rfl).mpr ⟨hopened, hactive, rfl, rfl, rfl⟩
  | clusterBindings =>
    refine (leaves_read .listClusterRoleBindings rfl).mpr ⟨h, ?_⟩
    rw [h.scene]
  | compareOnCluster =>
    exact h.1.keeps_missing Policy.IsFit.onCluster fun missing hmissing => ⟨h, hmissing⟩
  | compareInNamespaces =>
    obtain ⟨⟨hwaiting, rfl⟩, honCluster⟩ := h
    refine hwaiting.keeps_missing Policy.IsFit.inNamespaces fun missing hmissing => ?_
    obtain ⟨hunderway, hlacks⟩ := hwaiting.underway honCluster hmissing
    exact ⟨hunderway, hwaiting.scene, rfl, hlacks⟩
  | lack hlack =>
    obtain ⟨hunderway, rfl, rfl, rfl, rfl⟩ := h
    exact ⟨hunderway, rfl, if_pos hlack,
      fun role hmem => hunderway.onCluster role (mem_of_mem_lackingRoles hmem),
      fun role hmem => hunderway.inNamespaces role (mem_of_mem_lackingRoles hmem)⟩
  | lackOnCluster hsome =>
    obtain ⟨hunderway, hcluster, hdeed, honCluster, hkeys⟩ := h
    refine leaves_judge honCluster fun moment after hset => ⟨_, ?_, hcluster, hdeed, hkeys⟩
    rw [lackings_of_some hsome]
    exact hunderway.judged hset
  | completeOnCluster hnone =>
    obtain ⟨hunderway, hcluster, hdeed, -, hkeys⟩ := h
    refine ⟨_, ?_, hcluster, hdeed, hkeys⟩
    rw [lackings_of_none hnone]
    exact hunderway
  | lackInNamespaces hsome =>
    obtain ⟨onCluster, hunderway, hcluster, hdeed, hkeys⟩ := h
    refine leaves_judge hkeys fun moment after hset =>
      ⟨onCluster, _, Underway.settled ?_ hcluster hdeed⟩
    rw [lackings_of_some hsome]
    exact hunderway.judged hset
  | completeInNamespaces hnone =>
    obtain ⟨onCluster, hunderway, hcluster, hdeed, hkeys⟩ := h
    refine ⟨onCluster, _, Underway.settled ?_ hcluster hdeed⟩
    rw [lackings_of_none hnone, List.append_nil]
    exact hunderway
  | writeLack =>
    obtain ⟨onCluster, inNamespaces, hsettled⟩ := h
    exact hsettled.leaves_written rfl
  | startOnCluster hcomplete hroles =>
    obtain ⟨hunderway, rfl, rfl, rfl, rfl⟩ := h
    refine ⟨hunderway, ?_, .start fun scope hscope => hscope ▸ BindingIndex.mirrors_onCluster⟩
    rw [Policy.deed, if_neg (Bool.eq_false_iff.mp hcomplete), hroles]
    rfl
  | @knownOnCluster policy _ _ _ _ role _ hknown =>
    refine { h with filled := ?_ }
    rw [List.map_append]
    exact h.filled.of_exists? rfl (policy.onCluster_isAt role) hknown
  | @createOnCluster policy _ _ _ _ role _ hnew =>
    refine h.filled.leaves_create rfl (policy.onCluster_isAt role) (fun _ => rfl)
      ⟨.inl rfl, _, rfl⟩ hnew fun hfilled => ⟨h.toUnderway.making _, h.deed, ?_⟩
    rw [List.map_append]
    exact hfilled
  | judgeOnCluster =>
    refine leaves_judge h.onCluster fun moment after hset => ?_
    exact ⟨h.toUnderway.judged hset, h.deed, h.filled⟩
  | keysOnCluster => exact keeps_keys (fun _ => h) fun hnot => absurd h.onCluster hnot
  | recordOnCluster hpart => exact h.leaves_record hpart fun _ hafter => hafter
  | writeOnCluster hlast => exact (h.settled hlast).leaves_written rfl
  | goOn hmore => exact h.placing hmore
  | startInNamespaces hcomplete hroles hpermissions =>
    obtain ⟨hunderway, rfl, -, rfl, rfl⟩ := h
    refine ⟨⟨[], [], hunderway, ?_⟩, rfl⟩
    rw [Policy.deed, if_neg (Bool.eq_false_iff.mp hcomplete), hroles, hpermissions]
    rfl
  | upToDate hcomplete hroles hpermissions =>
    obtain ⟨hunderway, rfl, -, rfl, rfl⟩ := h
    refine ⟨{ result := { outcome := .upToDate }, isSure := false },
      ⟨hunderway, ?_, Cluster.extend_nil.symm, by rintro ⟨⟩⟩, rfl, rfl⟩
    rw [Policy.deed, if_neg (Bool.eq_false_iff.mp hcomplete), hroles, hpermissions]
    rfl
  | namespaces => exact (leaves_read .listNamespaces rfl).mpr ⟨h, congrArg Cluster.namespaces h.2⟩
  | bindings =>
    obtain ⟨⟨hplacing, hcluster⟩, hspaces⟩ := h
    refine (leaves_read (.listRoleBindings none) rfl).mpr ⟨hspaces, ?_⟩
    rw [hcluster]
    exact hplacing.spreading hcluster
  | select hpart =>
    obtain ⟨rfl, hspreading⟩ := h
    have hmem := hpart.subset List.mem_concat_self
    refine ⟨fun targets hresolved => ⟨⟨rfl, hmem, hresolved⟩, ?_⟩,
      fun failure hfailure => hspreading.breaks hmem hfailure⟩
    rw [List.map_nil, List.append_nil]
    exact hspreading
  | selectNone =>
    obtain ⟨⟨rfl, hmem, hresolved⟩, hspreading⟩ := h
    exact ⟨rfl, hspreading.next hmem hresolved (Bool.and_false _).symm⟩
  | knownInTarget hpart hknown =>
    obtain ⟨⟨rfl, hmem, hresolved⟩, hspreading⟩ := h
    refine ⟨⟨rfl, hmem, hresolved⟩, ?_⟩
    rw [List.map_append, ← List.append_assoc]
    exact hspreading.known hmem hresolved (hpart.subset List.mem_concat_self) hknown
  | createInTarget hpart hnew =>
    obtain ⟨⟨rfl, hmem, hresolved⟩, hspreading⟩ := h
    refine hspreading.leaves_create hmem hresolved (hpart.subset List.mem_concat_self) hnew
      fun after hafter => ⟨⟨rfl, hmem, hresolved⟩, ?_⟩
    rw [List.map_append, ← List.append_assoc]
    exact hafter
  | leaveTargets hsome =>
    obtain ⟨⟨rfl, hmem, hresolved⟩, hspreading⟩ := h
    refine ⟨rfl, hspreading.next hmem hresolved ?_⟩
    rw [hsome, Bool.not_false, Bool.and_true]
  | incomplete => exact h.2.settled
  | judgeInNamespaces => exact h.2.leaves_judge fun _ hclosing => hclosing
  | keysInNamespaces => exact keeps_keys (fun _ => h) fun hnot => absurd h.inNamespaces hnot
  | recordInNamespaces hpart => exact h.leaves_record hpart fun _ hafter => hafter
  | writeInNamespaces =>
    obtain ⟨deed, hsettled, hsure, hresult⟩ := h.settled
    rw [← hresult]
    exact hsettled.leaves_written (by rw [hsure, Bool.true_or])
  | writeChanges hchanged =>
    obtain ⟨deed, hsettled, -, rfl⟩ := h
    refine hsettled.leaves_written ?_
    rw [hchanged, Bool.or_true]
  | keep hsame =>
    obtain ⟨deed, hsettled, hsure, rfl⟩ := h
    refine hsettled.concludes rfl ?_
    rw [Cluster.noted, hsure, hsame]
    rfl

end PolicyPass

end RoleGrants
