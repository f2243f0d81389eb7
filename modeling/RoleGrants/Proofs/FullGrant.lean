import RoleGrants.Proofs.Success
import RoleGrants.Proofs.Visiting

/-! Two ways to tell that a policy is granted in all namespaces. A pass over a namespace asks
whether each permission selects some and each has its binding; a pass over the policy creates what
is missing and looks whether it had to. Over one cluster they agree: the answer is yes exactly when
the pass over the policy would say that it created all and creates nothing. Both then set one
condition and record one series for each role. -/

namespace RoleGrants

open DryRun Program Pass

/-! ### The gauges of one scope -/

namespace Sink

variable {sink : Sink} {series : Series} {recorded : List Series} {scope other : String}

/-- The gauges of the series in a scope. -/
def gaugesIn (sink : Sink) (scope : String) : List (List String × Bool) :=
  sink.gauges.filter fun gauge => gauge.1[3]? == some scope

/-- To record a series sets its gauge among those of its scope, and leaves those of others. -/
theorem gaugesIn_record (hscope : series.scope = .text other) :
    (sink.record series true).2.gaugesIn scope =
      if other = scope then setGauge (sink.gaugesIn scope) series.labels true
      else sink.gaugesIn scope := by
  have hlabel : (series.labels[3]? == some scope) = (other == scope) := by
    simp [Series.labels, Series.parts, hscope]
  rw [gaugesIn, record_gauges]
  refine (filter_setGauge fun labels => labels[3]? == some scope).trans ?_
  rw [hlabel]
  simp only [beq_iff_eq, gaugesIn]

theorem gaugesIn_recordAll_of_ne (hscope : ∀ series ∈ recorded, series.scope = .text other)
    (hne : other ≠ scope) : (sink.recordAll recorded).gaugesIn scope = sink.gaugesIn scope := by
  induction recorded generalizing sink with
  | nil => rfl
  | cons first rest ih =>
    obtain ⟨hfirst, hrest⟩ := List.forall_mem_cons.mp hscope
    exact (ih hrest).trans ((gaugesIn_record hfirst).trans (if_neg hne))

/-- What gauges of a scope there are once some of its series are recorded depends on those gauges
only. -/
theorem gaugesIn_recordAll_congr {one : Sink}
    (hscope : ∀ series ∈ recorded, series.scope = .text scope)
    (h : one.gaugesIn scope = sink.gaugesIn scope) :
    (one.recordAll recorded).gaugesIn scope = (sink.recordAll recorded).gaugesIn scope := by
  induction recorded generalizing one sink with
  | nil => exact h
  | cons first rest ih =>
    obtain ⟨hfirst, hrest⟩ := List.forall_mem_cons.mp hscope
    refine ih hrest ?_
    rw [gaugesIn_record hfirst, gaugesIn_record hfirst, h]

end Sink

namespace Policy

variable {policy : Policy} {cluster : Cluster}

theorem scope_seriesOf {roles : List Value} {scope : String} :
    ∀ series ∈ policy.seriesOf roles scope, series.scope = .text scope := by
  intro series hmem
  obtain ⟨role, -, rfl⟩ := List.mem_map.mp hmem
  rfl

/-! ### Policies that are granted everywhere -/

/-- Whether a policy is granted in all namespaces of a cluster: each permission chooses some of the
valid ones, and no binding that one wants is missing. -/
structure IsFull (policy : Policy) (cluster : Cluster) : Prop where
  resolves : policy.Resolves (validNames cluster.namespaces)
  chosen : ∀ permission ∈ policy.permissions,
    (validNames cluster.namespaces).any permission.chooses = true
  held : Binding.missing cluster.bindings (policy.wantedIn (validNames cluster.namespaces)) = []

/-- Whether all that a policy of a cluster needs to be granted in namespaces is there: it is active
and breaks no rule, its roles exist, and its bindings on the whole cluster stand. No value that a
pass over it looks at before it comes to the namespaces is of a wrong type. -/
structure IsAnchored (policy : Policy) (cluster : Cluster) : Prop where
  valid : policy.validate = .ok ()
  active : policy.isDeleting = false
  permissions : policy.permissions ≠ []
  existing : ∀ role ∈ cluster.roles, role.isKey = true
  roles : ∀ role ∈ policy.clusterPermissions ++ policy.permissionRoles,
    role.isKey = true ∧ cluster.roles.contains role = true
  held : ∀ role ∈ policy.clusterPermissions, cluster.Holds (policy.clusterPlace role)
  isOpen : policy.IsOpen
  subject : policy.subjectName.isKey = true

namespace IsAnchored

theorem lackingRoles_eq_nil {requested existing : List Value}
    (h : ∀ role ∈ requested, existing.contains role = true) :
    lackingRoles requested existing = [] := by
  have hnone : requested.filter (fun role => !existing.contains role) = [] :=
    List.filter_eq_nil_iff.mpr fun role hmem => by simp [h role hmem]
  rw [lackingRoles, hnone]
  rfl

/-- The deed of such a policy is the one in namespaces, after the verdict on its bindings on the
whole cluster. -/
theorem deed_eq (h : policy.IsAnchored cluster) : policy.deed cluster =
    (policy.deedInNamespaces cluster).following
      (if policy.clusterPermissions.isEmpty then [] else [policy.grantedOnCluster])
      (policy.seriesOf policy.clusterPermissions clusterScope) := by
  have honCluster : lackingRoles policy.clusterPermissions cluster.roles = [] :=
    lackingRoles_eq_nil fun role hmem => (h.roles role (List.mem_append_left _ hmem)).2
  have hinNamespaces : lackingRoles policy.permissionRoles cluster.roles = [] :=
    lackingRoles_eq_nil fun role hmem => (h.roles role (List.mem_append_right _ hmem)).2
  have hnone : Binding.missing cluster.bindings policy.wantedOnCluster = [] :=
    PolicyPass.missing_wantedOnCluster_eq_nil.mpr h.held
  unfold deed
  rw [honCluster, hinNamespaces]
  cases hempty : policy.clusterPermissions with
  | nil =>
    simp [h.permissions, seriesOf, Value.distinct, PolicyPass.Deed.following]
  | cons first rest =>
    have hdeed : policy.deedOnCluster cluster = _ := if_neg (by simp [hnone, h.permissions])
    rw [← hempty]
    simp [hdeed, hempty]

theorem result_deed (h : policy.IsAnchored cluster) :
    (policy.deed cluster).result = (policy.deedInNamespaces cluster).result := by
  rw [h.deed_eq]
  rfl

/-- The deed of such a policy that is granted everywhere creates nothing and says that it is. -/
theorem deed_full (h : policy.IsAnchored cluster) (hfull : policy.IsFull cluster) :
    policy.deed cluster = {
      result := { outcome := .roleBindingsCreated }
      verdicts := (if policy.clusterPermissions.isEmpty then [] else [policy.grantedOnCluster]) ++
        [policy.grantedInNamespaces]
      recorded := policy.seriesOf policy.clusterPermissions clusterScope ++
        policy.seriesOf policy.permissionRoles namespaceScope } := by
  have hdeed : policy.deedInNamespaces cluster = _ := if_pos (List.all_eq_true.mpr hfull.chosen)
  rw [h.deed_eq, hdeed, hfull.held]
  rfl

theorem canRecord (h : policy.IsAnchored cluster) :
    policy.CanRecord policy.clusterPermissions ∧ policy.CanRecord policy.permissionRoles :=
  ⟨⟨fun role hmem => (h.roles role (List.mem_append_left _ hmem)).1, fun _ => h.subject⟩,
    fun role hmem => (h.roles role (List.mem_append_right _ hmem)).1, fun _ => h.subject⟩

theorem isSmooth (h : policy.IsAnchored cluster)
    (hresolves : policy.Resolves (validNames cluster.namespaces)) : policy.IsSmooth cluster where
  verdict _ hfailure := by cases h.valid.symm.trans hfailure
  isOpen _ := h.isOpen
  released _ hdeleting := by cases h.active.symm.trans hdeleting
  fit _ _ :=
    { existing := h.existing
      onCluster := h.canRecord.1.keys
      inNamespaces := h.canRecord.2.keys
      deed := ⟨fun _ => h.subject, fun _ => hresolves⟩ }

end IsAnchored

/-- A deed in namespaces finds a policy granted everywhere if it ends so and creates nothing. -/
theorem deedInNamespaces_full :
    (policy.deedInNamespaces cluster).result.outcome = .roleBindingsCreated ∧
        (policy.deedInNamespaces cluster).result.created = [] ↔
      (∀ permission ∈ policy.permissions,
          (validNames cluster.namespaces).any permission.chooses = true) ∧
        Binding.missing cluster.bindings
          (policy.wantedIn (validNames cluster.namespaces)) = [] := by
  rw [created_deedInNamespaces, ← List.all_eq_true]
  refine and_congr_left fun _ => ?_
  unfold deedInNamespaces
  dsimp only
  split
  · next hall => exact iff_of_true rfl hall
  · next hsome => exact iff_of_false nofun hsome

end Policy

/-- A world in which the editor has its bindings, but no condition that tells so. -/
def DryRun.World.stocked : World where
  cluster := { World.web.cluster with
    bindings := [.onCluster (.text "view") .editor,
      .inNamespace (.text "edit") .editor (.text "web")] }

/-! ### The two answers -/

namespace NamespacePass

variable {policy : Policy} {cluster : Cluster} {world : World}

/-- A permission of a policy has a known binding in a namespace if the one that it wants there is
covered. -/
theorem exists?_inNamespace {role : Value} {space : String} (hspace : space ≠ "") :
    (BindingIndex.ofList (cluster.roleBindings none)).exists?
        (.text (Binding.nameOf role policy.subjectName)) (some (.text space)) = true ↔
      Binding.isCovered cluster.bindings (.inNamespace role policy (.text space)) = true := by
  rw [Cluster.isCovered_iff (policy.inNamespace_isAt role hspace)]
  exact BindingIndex.mirrors_inNamespace (fun _ hnone => by cases hnone) _

/-- All permissions of a policy are granted by the bindings of a cluster if it is granted everywhere
there. -/
theorem isGranted_iff_full (hvalid : policy.validate = .ok ()) :
    isGranted policy (validNames cluster.namespaces) (.ofList (cluster.roleBindings none))
      policy.permissions = .ok true ↔ policy.IsFull cluster := by
  have hne : ∀ {text}, .text text ∈ validNames cluster.namespaces → text ≠ "" := fun hlisted =>
    Value.isTrue_text.mp (PolicyPass.isTrue_of_mem_validNames _ hlisted)
  rw [isGranted_iff]
  constructor
  · intro h
    refine ⟨fun permission hmem => ?_, fun permission hmem => ?_,
      Binding.missing_eq_nil.mpr fun binding hwanted => ?_⟩
    · obtain ⟨targets, htargets, -⟩ := h permission hmem
      exact ⟨targets, htargets⟩
    · obtain ⟨targets, htargets, hsome, -⟩ := h permission hmem
      obtain ⟨rfl, -⟩ := Policy.of_resolve_ok hvalid hmem htargets
      rw [List.any_eq_true]
      simpa [List.filter_eq_nil_iff] using hsome
    · obtain ⟨permission, hmem, name, hlisted, hchooses, rfl⟩ := Policy.mem_wantedIn.mp hwanted
      obtain ⟨targets, htargets, -, hexists⟩ := h permission hmem
      obtain ⟨rfl, htexts⟩ := Policy.of_resolve_ok hvalid hmem htargets
      have htarget := List.mem_filter.mpr ⟨hlisted, hchooses⟩
      obtain ⟨text, rfl⟩ := htexts name htarget
      exact (exists?_inNamespace (hne hlisted)).mp (hexists _ htarget)
  · intro h permission hmem
    obtain ⟨targets, htargets⟩ := h.resolves permission hmem
    obtain ⟨rfl, htexts⟩ := Policy.of_resolve_ok hvalid hmem htargets
    refine ⟨_, htargets, ?_, fun target htarget => ?_⟩
    · have hany := h.chosen permission hmem
      rw [List.any_eq_true] at hany
      simpa [List.filter_eq_nil_iff] using hany
    · obtain ⟨text, rfl⟩ := htexts target htarget
      obtain ⟨hlisted, hchooses⟩ := List.mem_filter.mp htarget
      refine (exists?_inNamespace (hne hlisted)).mpr (Binding.missing_eq_nil.mp h.held _ ?_)
      exact Policy.mem_wantedIn.mpr ⟨permission, hmem, _, hlisted, hchooses, rfl⟩

/-- To ask whether a policy is granted everywhere leaves a scene as it is. -/
theorem leaves_fullyGranted {scene : Scene} {good : Scene → Bool → Prop}
    {bad : Scene → Failure → Prop} :
    (fullyGranted policy).Leaves good bad scene ↔
      (ofExcept (isGranted policy (validNames scene.cluster.namespaces)
        (.ofList (scene.cluster.roleBindings none)) policy.permissions)).Leaves good bad scene := by
  unfold fullyGranted
  simp only [bind_eq, holds_bind, holds_inStep]
  exact (leaves_read .listNamespaces rfl).trans
    (holds_validNamespaces.trans (leaves_read (.listRoleBindings none) rfl))

theorem fullyGranted_iff (clock : Clock) (hfresh : world.isStale = false)
    (hvalid : policy.validate = .ok ()) :
    (clock.calm.play world (fullyGranted policy)).result = .ok true ↔
      policy.IsFull world.cluster := by
  have hasked : (fullyGranted policy).Leaves
      (fun _ answer => isGranted policy (validNames world.cluster.namespaces)
        (.ofList (world.cluster.roleBindings none)) policy.permissions = .ok answer)
      (fun _ failure => isGranted policy (validNames world.cluster.namespaces)
        (.ofList (world.cluster.roleBindings none)) policy.permissions = .error failure)
      world.scene := leaves_fullyGranted.mpr (holds_ofExcept.mpr ⟨fun _ => id, fun _ => id⟩)
  obtain ⟨later, -, hended⟩ := clock.leaves_play hasked hfresh
  rw [← isGranted_iff_full hvalid]
  generalize (clock.calm.play world (fullyGranted policy)).result = ended at hended
  cases ended with
  | ok answer =>
    have hanswer : isGranted _ _ _ _ = .ok answer := hended
    rw [hanswer]
  | error failure =>
    have hfailure : isGranted _ _ _ _ = .error failure := hended
    rw [hfailure]

end NamespacePass

namespace PolicyPass

variable {policy : Policy} {world : World} {space name : Value}

/-- A pass over an anchored policy finds it granted everywhere if it ends so and creates nothing. -/
theorem run_iff_full (clock : Clock) (hfresh : world.isStale = false)
    (hfound : world.cluster.getPolicy space name = .ok policy)
    (h : policy.IsAnchored world.cluster) :
    (∃ result, (clock.calm.play world (run space name)).result = .ok result ∧
        result.outcome = .roleBindingsCreated ∧ result.created = []) ↔
      policy.IsFull world.cluster := by
  have hresult : (policy.deed world.scene.cluster).result =
      (policy.deedInNamespaces world.scene.cluster).result := h.result_deed
  obtain ⟨later, -, hended⟩ := concludes_play clock hfresh space name
  constructor
  · rintro ⟨result, hok, houtcome, hcreated⟩
    rw [hok] at hended
    rcases hended with hconcludes | ⟨-, failure, -, hfailed⟩
    · cases hconcludes with
      | notFound => cases houtcome
      | released => cases houtcome
      | done hother _ _ _ hfit hdone =>
        cases hfound.symm.trans hother
        obtain ⟨rfl, -, -⟩ := hdone
        have hplaced : (policy.deed world.scene.cluster).result.outcome.isPlaced = true := by
          rw [houtcome]
          rfl
        rw [hresult] at houtcome hcreated
        obtain ⟨hchosen, hheld⟩ := Policy.deedInNamespaces_full.mp ⟨houtcome, hcreated⟩
        exact ⟨hfit.deed.resolves hplaced, hchosen, hheld⟩
    · cases hfailed
  · intro hfull
    rcases hended with hconcludes | ⟨hrough, -⟩
    · obtain ⟨result, hok, rfl, -⟩ := hconcludes.of_active hfound h.valid h.active
      refine ⟨_, hok, ?_⟩
      rw [hresult]
      exact Policy.deedInNamespaces_full.mpr ⟨hfull.chosen, hfull.held⟩
    · exact absurd (.inr ⟨policy, hfound, h.isSmooth hfull.resolves⟩) hrough

end PolicyPass

/-! ### What the two leave -/

/-- A condition that says what a verdict does has the body that the verdict sets, but for the
time. -/
theorem Condition.Echoes.same {condition : Condition} {verdict : Verdict}
    (h : condition.Echoes verdict) (htext : verdict.message.IsText) :
    verdict.condition.same condition.undated = true := by
  obtain ⟨text, htext⟩ := htext
  change Value.same verdict.condition.toValue condition.undated.toValue = true
  cases hstatus : verdict.status <;>
    simp [Verdict.condition, undated, toValue, Value.same, Value.sameFields, Value.asInt?,
      List.lookup_cons, h.type, h.state, h.status, h.message, htext, h.roles, hstatus]

theorem Condition.Echoes.undated_eq {condition : Condition} {verdict : Verdict}
    (h : condition.Echoes verdict) (htexts : ∀ role ∈ verdict.roles, role.IsText) :
    condition.undated = verdict.condition := by
  have hroles := h.roles_eq htexts
  obtain ⟨htype, hstate, hstatus, hmessage, -⟩ := h
  simp only [undated, Verdict.condition, htype, hstate, hstatus, hmessage, hroles]

namespace Policy

variable {policy : Policy} {world : World} {space name : Value}

/-- Whether two worlds show the same of a policy in namespaces: its condition but for the time, and
the gauges. Roles of the conditions may be other values that are equal. -/
structure ShowsAlike (policy : Policy) (space name : Value) (one other : World) : Prop where
  conditions : ∃ first second : List Condition, ∃ condition found,
    one.cluster.getPolicy space name = .ok { policy with conditions := first } ∧
    other.cluster.getPolicy space name = .ok { policy with conditions := second } ∧
    { policy with conditions := first }.condition? .roleBindingCreated = some condition ∧
    { policy with conditions := second }.condition? .roleBindingCreated = some found ∧
    found.undated.same condition.undated = true ∧
    ((∀ role ∈ policy.permissionRoles, role.IsText) → condition.undated = found.undated)
  gauges : one.sink.gaugesIn namespaceScope = other.sink.gaugesIn namespaceScope

end Policy

namespace NamespacePass

variable {policy : Policy} {world : World} {space name : Value}

/-- To record that a policy is granted everywhere sets its condition, and records the series of its
roles. -/
theorem leaves_recordGranted {scene : Scene} {good : Scene → Unit → Prop}
    {bad : Scene → Failure → Prop} (hkept : policy.IsKept scene.cluster)
    (hcan : policy.CanRecord policy.permissionRoles)
    (hgood : ∀ (moment : Int) (tracker : Tracker) (later : Scene),
      (Tracker.start policy.conditions).upsert moment policy.grantedInNamespaces = .ok tracker →
      later.sink = scene.sink.recordAll (policy.seriesOf policy.permissionRoles namespaceScope) →
      later.cluster = scene.cluster.noted false policy tracker → good later ()) :
    (recordGranted policy).Leaves good bad scene := by
  have htells : Scene.logic.Tells bad (· = scene)
      (fun done later => later.cluster = scene.cluster ∧
        later.sink = scene.sink.recordAll (done.map (series policy namespaceScope)))
      (fun role => .record (series policy namespaceScope role) true) policy.permissionRoles := by
    refine ⟨?_, fun done role hpart later hlater => leaves_report (fun _ => ⟨hlater.1, ?_⟩) ?_⟩
    · rw [Value.requireKeys_iff.mpr hcan.keys]
      exact fun _ hscene => ⟨fun _ _ => hscene ▸ ⟨rfl, rfl⟩, nofun⟩
    · rw [List.map_append, Sink.recordAll_append, ← hlater.2]
      rfl
    · intro failure hfailure
      have hmem := mem_of_mem_distinct (hpart.subset List.mem_concat_self)
      have hsubject := hcan.subject (List.ne_nil_of_mem hmem)
      cases (requireKeys_parts.mpr ⟨hsubject, hcan.keys role hmem⟩).symm.trans hfailure
  unfold recordGranted
  refine holds_bind.mpr (leaves_judge hcan.keys fun moment tracker hset => ?_)
  refine (Pass.holds_series htells rfl).bind fun later _ hlater => ?_
  split
  · next hchanged =>
    refine holds_inStep.mpr (leaves_write (hlater.1 ▸ hkept) ?_)
    refine hgood moment tracker _ hset hlater.2 ?_
    rw [Cluster.noted, hchanged, ← hlater.1]
    rfl
  · next hsame =>
    refine hgood moment tracker _ hset hlater.2 ?_
    rw [Cluster.noted, Bool.eq_false_iff.mpr hsame, hlater.1]
    rfl

theorem recordGranted_play (clock : Clock) (hfresh : world.isStale = false)
    (hfound : world.cluster.getPolicy space name = .ok policy)
    (hcan : policy.CanRecord policy.permissionRoles) :
    (clock.calm.play world (recordGranted policy)).result = .ok () ∧
      (clock.calm.play world (recordGranted policy)).world.sink =
        world.sink.recordAll (policy.seriesOf policy.permissionRoles namespaceScope) ∧
      ∃ (conditions : List Condition) (condition : Condition),
        (clock.calm.play world (recordGranted policy)).world.cluster.getPolicy space name =
          .ok { policy with conditions } ∧
        { policy with conditions }.condition? .roleBindingCreated = some condition ∧
        condition.Echoes policy.grantedInNamespaces := by
  have hruns : (recordGranted policy).Leaves (fun later _ =>
      later.sink = world.sink.recordAll (policy.seriesOf policy.permissionRoles namespaceScope) ∧
      ∃ moment tracker,
        (Tracker.start policy.conditions).replay [(policy.grantedInNamespaces, moment)] =
          .ok tracker ∧
        later.cluster = world.scene.cluster.noted false policy tracker)
      (fun _ _ => False) world.scene :=
    leaves_recordGranted (Cluster.isKept_of_getPolicy hfound).1 hcan
      fun moment tracker later hset hsink hcluster => ⟨hsink, moment, tracker,
        Tracker.replay_append (Tracker.replay_nil _) hset, hcluster⟩
  obtain ⟨later, hshows, hended⟩ := clock.leaves_play hruns hfresh
  rw [hshows.sink, hshows.cluster]
  generalize (clock.calm.play world (recordGranted policy)).result = ended at hended
  cases ended with
  | error failure => exact hended.elim
  | ok value =>
    obtain ⟨hsink, moment, tracker, hreplay, hcluster⟩ := hended
    have hplain : PlainVerdicts
        ([(policy.grantedInNamespaces, moment)].map Prod.fst) :=
      PlainVerdicts.nil.consGranted fun _ hmem => absurd hmem List.not_mem_nil
    obtain ⟨condition, hcondition, hechoes, -⟩ :=
      Policy.echo_noted false rfl (Tracker.pairwise_firstOfType _) hplain hreplay _
        (List.mem_singleton_self _)
    exact ⟨rfl, hsink, _, condition, hcluster ▸ Policy.getPolicy_noted false tracker hfound,
      hcondition, hechoes⟩

end NamespacePass

namespace PolicyPass

variable {policy : Policy} {world : World} {space name : Value}

/-- What a pass over a policy leaves that is granted everywhere. -/
theorem run_full (clock : Clock) (hfresh : world.isStale = false)
    (hfound : world.cluster.getPolicy space name = .ok policy)
    (h : policy.IsAnchored world.cluster) (hfull : policy.IsFull world.cluster) :
    (clock.calm.play world (run space name)).world.sink =
        (world.sink.recordAll (policy.seriesOf policy.clusterPermissions clusterScope)).recordAll
          (policy.seriesOf policy.permissionRoles namespaceScope) ∧
      ∃ (conditions : List Condition) (condition : Condition),
        (clock.calm.play world (run space name)).world.cluster.getPolicy space name =
          .ok { policy with conditions } ∧
        { policy with conditions }.condition? .roleBindingCreated = some condition ∧
        condition.undated = policy.grantedInNamespaces.condition := by
  obtain ⟨later, hshows, hconcludes | ⟨hrough, -⟩⟩ := concludes_play clock hfresh space name
  · obtain ⟨_, -, -, hsink, given, after, hgiven, hreplay, hlater⟩ :=
      hconcludes.of_active hfound h.valid h.active
    have hdeed : policy.deed world.scene.cluster = _ := h.deed_full hfull
    have hplain : PlainVerdicts (given.map Prod.fst) := hgiven ▸ policy.plainVerdicts_deed _
    have hstored : (world.scene.cluster.extend
        (policy.deed world.scene.cluster).result.created).getPolicy space name = .ok policy :=
      hfound
    obtain ⟨conditions, hnow, hsaid, -⟩ :=
      Policy.conditions_noted (policy.deed world.scene.cluster).isSure hplain hreplay hstored
    have hmem : policy.grantedInNamespaces ∈ given.map Prod.fst := by
      rw [hgiven, hdeed]
      exact List.mem_append_right _ (List.mem_singleton_self _)
    obtain ⟨condition, hcondition, -, hsure⟩ := hsaid _ hmem
    rw [hshows.sink, hshows.cluster, hsink, hlater]
    refine ⟨?_, conditions, condition, hnow, hcondition, hsure ?_⟩
    · rw [hdeed]
      exact Sink.recordAll_append _ _
    · rw [hdeed]
  · exact absurd (.inr ⟨policy, hfound, h.isSmooth hfull.resolves⟩) hrough

end PolicyPass

namespace NamespacePass

/-- Over a cluster in which an anchored policy is stored, a pass over a namespace finds the policy
granted everywhere exactly when a pass over the policy would say so and create nothing. Then both
leave the same condition, but for the time, and the same gauges of the policy in namespaces. -/
theorem fullyGranted_agrees (first second third : Clock) {world : World} {policy : Policy}
    {space name : Value} (hfresh : world.isStale = false)
    (hfound : world.cluster.getPolicy space name = .ok policy)
    (h : policy.IsAnchored world.cluster) :
    ((first.calm.play world (fullyGranted policy)).result = .ok true ↔
      ∃ result, (second.calm.play world (PolicyPass.run space name)).result = .ok result ∧
        result.outcome = .roleBindingsCreated ∧ result.created = []) ∧
    ((first.calm.play world (fullyGranted policy)).result = .ok true →
      (third.calm.play world (recordGranted policy)).result = .ok () ∧
      policy.ShowsAlike space name (third.calm.play world (recordGranted policy)).world
        (second.calm.play world (PolicyPass.run space name)).world) := by
  rw [fullyGranted_iff first hfresh h.valid, PolicyPass.run_iff_full second hfresh hfound h]
  refine ⟨Iff.rfl, fun hfull => ?_⟩
  obtain ⟨hended, hsink, before, condition, hbefore, hcondition, hechoes⟩ :=
    recordGranted_play third hfresh hfound h.canRecord.2
  obtain ⟨hother, after, found, hafter, hcondition', hundated⟩ :=
    PolicyPass.run_full second hfresh hfound h hfull
  refine ⟨hended, ⟨before, after, condition, found, hbefore, hafter, hcondition, hcondition', ?_,
    fun htexts => ?_⟩, ?_⟩
  · rw [hundated]
    exact hechoes.same ⟨_, rfl⟩
  · rw [hundated]
    exact hechoes.undated_eq htexts
  · rw [hsink, hother]
    refine Sink.gaugesIn_recordAll_congr Policy.scope_seriesOf ?_
    exact (Sink.gaugesIn_recordAll_of_ne Policy.scope_seriesOf (by decide)).symm

/-- Where the editor has its bindings both passes find it granted everywhere, and set a condition
that was not there. -/
theorem fullyGranted_agrees_stocked :
    (World.stocked.isStale = false ∧ World.stocked.cluster.getPolicy "team" "editor" = .ok .editor ∧
      Policy.editor.IsAnchored World.stocked.cluster) ∧
    (Course.unwritable.toClock.calm.play .stocked (fullyGranted .editor)).result = .ok true ∧
    (∃ result, (Course.later.toClock.calm.play .stocked
        (PolicyPass.run "team" "editor")).result = .ok result ∧
      result.outcome = .roleBindingsCreated ∧ result.created = []) ∧
    Policy.editor.ShowsAlike "team" "editor"
      (Course.unwritable.toClock.calm.play .stocked (recordGranted .editor)).world
      (Course.later.toClock.calm.play .stocked (PolicyPass.run "team" "editor")).world := by
  have hfresh : World.stocked.isStale = false := rfl
  have hfound : World.stocked.cluster.getPolicy "team" "editor" = .ok .editor :=
    Cluster.getPolicy_eq.mpr ⟨rfl, List.find?_cons_of_pos (by decide +kernel)⟩
  have hanchored : Policy.editor.IsAnchored World.stocked.cluster :=
    { valid := Policy.editor_isServable.valid
      active := rfl
      permissions := List.cons_ne_nil _ _
      existing := by decide +kernel
      roles := by decide +kernel
      held := by decide +kernel
      isOpen := fun _ hmem => absurd hmem List.not_mem_nil
      subject := rfl }
  have hanswer : ((Course.unwritable.toClock.calm.play .stocked
      (fullyGranted .editor)).result.toOption.any id) = true := by
    decide +kernel
  obtain ⟨_, hasked, rfl⟩ := exists_ok_of_any hanswer
  obtain ⟨hiff, halike⟩ := fullyGranted_agrees Course.unwritable.toClock Course.later.toClock
    Course.unwritable.toClock hfresh hfound hanchored
  exact ⟨⟨hfresh, hfound, hanchored⟩, hasked, hiff.mp hasked, (halike hasked).2⟩

end NamespacePass

end RoleGrants
