import RoleGrants.Proofs.Granted
import RoleGrants.Proofs.Renewing
import RoleGrants.Proofs.Stages

/-! What the conditions that tell of created bindings are worth after a pass. A scope that the pass
has come to grant has such a condition, its roles are the ones that the policy asks for now, and
their bindings are there. In another scope a pass only leaves such a condition if it has found it,
whatever has changed since it was written. -/

namespace RoleGrants

open DryRun Pass

namespace Policy

open PolicyPass

variable {policy : Policy} {cluster later : Cluster} {type : ConditionType}

/-- Whether a cluster holds a binding under the name of each role that a policy asks for in the
scope of a condition type, and where it asks for it. -/
def IsHeldIn (policy : Policy) (cluster : Cluster) (type : ConditionType) : Prop :=
  policy.Throughout cluster
    (fun space role => cluster.Holds ⟨space, Binding.nameOf role policy.subjectName⟩) type

/-- Whether all that a policy asks for in a scope is there, and in namespaces each permission
selects one at least. -/
structure IsServedIn (policy : Policy) (cluster : Cluster) (type : ConditionType) : Prop where
  held : policy.IsHeldIn cluster type
  placed : type = .roleBindingCreated → IsPlaced policy cluster

/-! ### The bindings after a deed -/

/-- What a deed wants on the whole cluster is there once it is done, if no role is missing. -/
theorem isHeldIn_onCluster (hroles : (policy.deed cluster).result.outcome ≠ .rolesMissing)
    (hlater : later.bindings = cluster.bindings ++ (policy.deed cluster).result.created) :
    policy.IsHeldIn later .clusterRoleBindingCreated := by
  intro role hmem
  have hwanted : Binding.onCluster role policy ∈ policy.wantedOnCluster := List.mem_map_of_mem hmem
  refine (Cluster.isCovered_iff (policy.onCluster_isAt role)).mp ?_
  rw [hlater]
  have hsome : (!policy.clusterPermissions.isEmpty) = true := by simp [List.ne_nil_of_mem hmem]
  unfold deed at hroles ⊢
  dsimp only at hroles ⊢
  split at hroles
  · exact absurd rfl hroles
  next hcomplete =>
  rw [if_neg hcomplete, if_pos hsome]
  unfold deedOnCluster
  dsimp only
  split
  · rw [Binding.isCovered_fill, Binding.isCovered_of_mem hwanted, Bool.or_true]
  · next hheld =>
    have hnone : Binding.missing cluster.bindings policy.wantedOnCluster = [] := by
      simp only [Bool.or_eq_true, not_or, Bool.not_eq_true', Bool.not_eq_false] at hheld
      exact List.isEmpty_iff.mp hheld.1
    rw [Binding.isCovered_append, Binding.missing_eq_nil.mp hnone _ hwanted, Bool.true_or]

theorem created_deedInNamespaces : (policy.deedInNamespaces cluster).result.created =
    Binding.missing cluster.bindings (policy.wantedIn (validNames cluster.namespaces)) := by
  unfold deedInNamespaces
  dsimp only
  split <;> rfl

/-- A deed that tries the permissions in namespaces creates what is missing there, and its outcome
says whether each of them chose some. -/
theorem deed_of_isPlaced (h : (policy.deed cluster).result.outcome.isPlaced = true) :
    (policy.deed cluster).result = (policy.deedInNamespaces cluster).result := by
  unfold deed at h ⊢
  dsimp only at h ⊢
  split at h
  · cases h
  next hcomplete =>
  rw [if_neg hcomplete]
  split at h
  · next hcluster =>
    rw [if_pos hcluster]
    unfold deedOnCluster at h ⊢
    dsimp only at h ⊢
    split at h
    · cases h
    · next hheld => rw [if_neg hheld, Deed.following]
  next hcluster =>
  rw [if_neg hcluster]
  split at h
  · next hpermissions => rw [if_pos hpermissions]
  · cases h

/-- What a deed wants in namespaces is there once it is done, if it came to try them. -/
theorem isHeldIn_inNamespaces (hvalid : policy.validate = .ok ())
    (hplaced : (policy.deed cluster).result.outcome.isPlaced = true)
    (hnamespaces : later.namespaces = cluster.namespaces)
    (hlater : later.bindings = cluster.bindings ++ (policy.deed cluster).result.created) :
    policy.IsHeldIn later .roleBindingCreated := by
  intro permission hmem space hspace hspaceValid name hname hselects
  rw [hnamespaces] at hspace
  have hlisted : Value.text name ∈ validNames cluster.namespaces :=
    mem_validNames.mpr ⟨space, hspace, hspaceValid, hname⟩
  have hwanted : Binding.inNamespace permission.role policy (.text name) ∈
      policy.wantedIn (validNames cluster.namespaces) :=
    mem_wantedIn.mpr ⟨permission, hmem, _, hlisted, (chooses_iff hvalid hmem).mpr hselects, rfl⟩
  have hne : name ≠ "" := (Namespace.ne_empty_of_isValid hspaceValid hname).1
  refine (Cluster.isCovered_iff (policy.inNamespace_isAt permission.role hne)).mp ?_
  rw [hlater, deed_of_isPlaced hplaced, created_deedInNamespaces, Binding.isCovered_fill,
    Binding.isCovered_of_mem hwanted, Bool.or_true]

/-- If patterns can be tried on the names of the valid namespaces, and each permission chooses one
of these, each selects a valid namespace. -/
theorem isPlaced_of_any (hvalid : policy.validate = .ok ())
    (hresolves : policy.Resolves (validNames cluster.namespaces))
    (hany : ∀ permission ∈ policy.permissions,
      (validNames cluster.namespaces).any permission.chooses = true) :
    IsPlaced policy cluster := by
  intro permission hmem
  obtain ⟨name, hlisted, hchooses⟩ := List.any_eq_true.mp (hany permission hmem)
  obtain ⟨targets, htargets⟩ := hresolves permission hmem
  obtain ⟨rfl, htexts⟩ := of_resolve_ok hvalid hmem htargets
  obtain ⟨text, rfl⟩ := htexts name (List.mem_filter.mpr ⟨hlisted, hchooses⟩)
  obtain ⟨space, hspace, hspaceValid, hname⟩ := mem_validNames.mp hlisted
  exact ⟨space, hspace, text, hname, hspaceValid, (chooses_iff hvalid hmem).mp hchooses⟩

theorem isPlaced_deed (hvalid : policy.validate = .ok ())
    (hfit : (policy.deed cluster).IsFit policy cluster)
    (h : (policy.deed cluster).result.outcome = .roleBindingsCreated) :
    IsPlaced policy cluster := by
  have hplaced : (policy.deed cluster).result.outcome.isPlaced = true := by rw [h]; rfl
  refine isPlaced_of_any hvalid (hfit.resolves hplaced) ?_
  rw [deed_of_isPlaced hplaced] at h
  unfold deedInNamespaces at h
  dsimp only at h
  split at h
  · next hall => exact List.all_eq_true.mp hall
  · cases h

/-! ### The verdicts of a deed -/

theorem outcome_deedInNamespaces {verdict : Verdict}
    (h : verdict ∈ (policy.deedInNamespaces cluster).verdicts) :
    (policy.deedInNamespaces cluster).result.outcome = .roleBindingsCreated := by
  unfold deedInNamespaces at h ⊢
  dsimp only at h ⊢
  split at h
  · next hall => rw [if_pos hall]
  · exact absurd h List.not_mem_nil

theorem outcome_deedOnCluster_ne :
    (policy.deedOnCluster cluster).result.outcome ≠ .rolesMissing := by
  have hplaced := isPlaced_deedInNamespaces policy cluster
  unfold deedOnCluster
  dsimp only
  split
  · exact nofun
  · intro hmissing
    rw [show (policy.deedInNamespaces cluster).result.outcome = .rolesMissing from hmissing]
      at hplaced
    cases hplaced

/-- A deed that says that the roles of a scope are granted has come to grant them. -/
theorem grants_of_mem
    (h : Pass.granted type (policy.rolesIn type) ∈ (policy.deed cluster).verdicts) :
    (policy.deed cluster).result.Grants policy type := by
  unfold deed at h ⊢
  dsimp only at h ⊢
  split at h
  · rcases mem_verdicts_onMissing h with ⟨-, heq⟩ | ⟨-, heq⟩ <;>
      exact absurd (congrArg Verdict.state heq) nofun
  next hcomplete =>
  rw [if_neg hcomplete]
  split at h
  · next hcluster =>
    rw [if_pos hcluster]
    cases type with
    | clusterRoleBindingCreated => exact ⟨by simpa using hcluster, outcome_deedOnCluster_ne⟩
    | roleBindingCreated =>
      unfold Result.Grants deedOnCluster
      unfold deedOnCluster at h
      dsimp only at h ⊢
      split at h
      · exact absurd (congrArg Verdict.type (List.mem_singleton.mp h)) nofun
      · next hheld =>
        rw [if_neg hheld]
        rcases List.mem_cons.mp h with heq | h
        · exact absurd (congrArg Verdict.type heq) nofun
        · exact outcome_deedInNamespaces h
  next hcluster =>
  rw [if_neg hcluster]
  split at h
  · next hpermissions =>
    rw [if_pos hpermissions]
    cases type with
    | clusterRoleBindingCreated =>
      exact absurd (congrArg Verdict.type (mem_verdicts_deedInNamespaces h)) nofun
    | roleBindingCreated => exact outcome_deedInNamespaces h
  · exact absurd h List.not_mem_nil

end Policy

/-- The bindings that a policy of a cluster wants in the scope of a condition type. -/
def Policy.wantedFor (policy : Policy) (cluster : Cluster) : ConditionType → List Binding
  | .clusterRoleBindingCreated => policy.wantedOnCluster
  | .roleBindingCreated => policy.wantedIn (validNames cluster.namespaces)

/-- Whether the condition of a scope tells of created bindings although it lists other roles than
are asked for, or a binding is not there, or a permission selects no namespace. -/
def Cluster.Overstates (cluster : Cluster) (space name : Value) (type : ConditionType) : Prop :=
  ∃ policy ∈ (cluster.getPolicy space name).toOption, ∃ condition ∈ policy.condition? type,
    condition.state = .created ∧
      (Value.sameItems (Value.distinct (policy.rolesIn type)) condition.roles = false ∨
        (∃ binding ∈ policy.wantedFor cluster type,
          Binding.isCovered cluster.bindings binding = false) ∨
        type = .roleBindingCreated ∧ ∃ permission ∈ policy.permissions,
          (validNames cluster.namespaces).any permission.chooses = false)

instance (cluster : Cluster) (space name : Value) (type : ConditionType) :
    Decidable (cluster.Overstates space name type) :=
  inferInstanceAs (Decidable (∃ policy ∈ _, ∃ condition ∈ _, _ ∧ (_ ∨ _ ∨ _ ∧ _)))

namespace PolicyPass

variable {policy renewed : Policy} {later : Cluster} {result : Result}

/-- What a pass that ended with a result makes of the conditions of a policy that tell of created
bindings, and what stands for the policy then. -/
structure Vouches (policy renewed : Policy) (later : Cluster) (result : Result) : Prop where
  granted : ∀ type, result.Grants policy type → policy.IsServedIn later type ∧
    ∃ condition, renewed.condition? type = some condition ∧
      condition.Echoes (Pass.granted type (policy.rolesIn type))
  kept : ∀ type, ¬ result.Grants policy type → ∀ condition,
    renewed.condition? type = some condition → condition.state = .created →
    policy.condition? type = some condition ∧ lackingRoles (policy.rolesIn type) later.roles = []
  onCluster : result.outcome ≠ .rolesMissing → policy.IsHeldIn later .clusterRoleBindingCreated
  inNamespaces : result.outcome.isPlaced = true → policy.IsHeldIn later .roleBindingCreated

/-- Once the deed of a policy is done, its conditions that tell of created bindings are true or as
they were. -/
theorem vouches_done {space name : Value} {scene last : Scene} (hvalid : policy.validate = .ok ())
    (hfound : scene.cluster.getPolicy space name = .ok policy) (hfit : policy.IsFit scene.cluster)
    (hdone : (policy.deed scene.cluster).IsDone policy policy.openedTracker scene last result) :
    ∃ conditions, last.cluster.getPolicy space name = .ok { policy with conditions } ∧
      Vouches policy { policy with conditions } last.cluster result := by
  obtain ⟨rfl, -, given, after, hgiven, hreplay, hlast⟩ := hdone
  have hplain : PlainVerdicts (given.map Prod.fst) := hgiven ▸ policy.plainVerdicts_deed _
  have hstored : (scene.cluster.extend (policy.deed scene.cluster).result.created).getPolicy space
      name = .ok policy := hfound
  obtain ⟨conditions, hnow, hsaid, hkept⟩ :=
    Policy.conditions_noted (policy.deed scene.cluster).isSure hplain hreplay hstored
  rw [← hlast] at hnow
  rw [hgiven] at hsaid hkept
  have hroles : last.cluster.roles = scene.cluster.roles := by
    rw [hlast, Cluster.roles_noted]
    rfl
  have hnamespaces : last.cluster.namespaces = scene.cluster.namespaces := by
    rw [hlast, Cluster.namespaces_noted]
    rfl
  have hbindings : last.cluster.bindings =
      scene.cluster.bindings ++ (policy.deed scene.cluster).result.created := by
    rw [hlast, Cluster.bindings_noted]
    rfl
  have honCluster : (policy.deed scene.cluster).result.outcome ≠ .rolesMissing →
      policy.IsHeldIn last.cluster .clusterRoleBindingCreated :=
    fun hcomplete => Policy.isHeldIn_onCluster hcomplete hbindings
  have hinNamespaces : (policy.deed scene.cluster).result.outcome.isPlaced = true →
      policy.IsHeldIn last.cluster .roleBindingCreated :=
    fun hplaced => Policy.isHeldIn_inNamespaces hvalid hplaced hnamespaces hbindings
  refine ⟨conditions, hnow, fun type hgrants => ⟨?_, ?_⟩, fun type hnot condition hcondition
    hcreated => ?_, honCluster, hinNamespaces⟩
  · cases type with
    | clusterRoleBindingCreated => exact ⟨honCluster hgrants.2, nofun⟩
    | roleBindingCreated =>
      have houtcome : (policy.deed scene.cluster).result.outcome = .roleBindingsCreated := hgrants
      refine ⟨hinNamespaces (by rw [houtcome]; rfl), fun _ => ?_⟩
      have hplaced := Policy.isPlaced_deed hvalid hfit.deed houtcome
      unfold IsPlaced at hplaced ⊢
      rwa [hnamespaces]
  · obtain ⟨condition, hcondition, hechoes, -⟩ := hsaid _ (Policy.granted_mem_verdicts hgrants)
    exact ⟨condition, hcondition, hechoes⟩
  · rw [hroles]
    by_cases hnone : lackingRoles (policy.rolesIn type) scene.cluster.roles = []
    · refine ⟨hkept type (fun verdict hmem htype => hnot ?_) condition hcondition, hnone⟩
      exact Policy.grants_of_mem (Policy.verdict_of_complete hnone verdict hmem htype ▸ hmem)
    · obtain ⟨-, -, hmem⟩ := Policy.deed_of_lacking hnone
      obtain ⟨other, hother, hechoes, -⟩ := hsaid _ hmem
      cases hcondition.symm.trans hother
      cases hcreated.symm.trans hechoes.state

/-- After a pass over a policy that stays, a scope that the pass has come to grant is granted, and
its condition tells exactly of it. A condition that tells of created bindings in another scope was
stored before, and that scope misses no role. -/
theorem vouches_play (clock : Clock) {world : World} {space name : Value}
    (hfresh : world.isStale = false)
    (hresult : (clock.calm.play world (run space name)).result = .ok result)
    (hpresent : result.outcome ≠ .notFound) (hactive : result.outcome ≠ .deleted) :
    ∃ policy conditions, world.cluster.getPolicy space name = .ok policy ∧
      (clock.calm.play world (run space name)).world.cluster.getPolicy space name =
        .ok { policy with conditions } ∧
      Vouches policy { policy with conditions }
        (clock.calm.play world (run space name)).world.cluster result := by
  obtain ⟨policy, later, hshows, hfound, hvalid, -, hfit, hdone⟩ :=
    done_of_result clock hfresh hresult hpresent hactive
  obtain ⟨conditions, hnow, hvouches⟩ := vouches_done hvalid hfound hfit hdone
  rw [← hshows.cluster] at hnow hvouches
  exact ⟨policy, conditions, hfound, hnow, hvouches⟩

/-- The pass over the viewer grants its role on the whole cluster, and the condition says so. -/
theorem vouches_play_viewed :
    (World.viewed.isStale = false ∧ ∃ result,
      (Course.unwritable.toClock.calm.play .viewed (run "team" "viewer")).result = .ok result ∧
      result.outcome ≠ .notFound ∧ result.outcome ≠ .deleted) ∧
    ∃ conditions condition,
      { Policy.viewer with conditions }.condition? .clusterRoleBindingCreated = some condition ∧
      condition.state = .created ∧ condition.roles = [.text "view"] ∧
      (Course.unwritable.toClock.calm.play .viewed
        (run "team" "viewer")).world.cluster.Holds ⟨none, "view-ann"⟩ := by
  have hfresh : World.viewed.isStale = false := rfl
  have hends : ((Course.unwritable.toClock.calm.play .viewed
      (run "team" "viewer")).result.toOption.any fun result =>
        result.outcome == .clusterBindingsCreated) = true := by
    decide +kernel
  obtain ⟨result, hresult, hends⟩ := exists_ok_of_any hends
  have houtcome : result.outcome = .clusterBindingsCreated := eq_of_beq hends
  have hpresent : result.outcome ≠ .notFound := fun h => by cases houtcome.symm.trans h
  have hactive : result.outcome ≠ .deleted := fun h => by cases houtcome.symm.trans h
  have hviewer : World.viewed.cluster.getPolicy "team" "viewer" = .ok .viewer :=
    Cluster.getPolicy_eq.mpr ⟨rfl, List.find?_cons_of_pos (by decide +kernel)⟩
  obtain ⟨policy, conditions, hfound, -, hvouches⟩ :=
    vouches_play Course.unwritable.toClock hfresh hresult hpresent hactive
  cases hviewer.symm.trans hfound
  have hgrants : result.Grants Policy.viewer .clusterRoleBindingCreated :=
    ⟨List.cons_ne_nil _ _, fun h => by cases houtcome.symm.trans h⟩
  obtain ⟨hserved, condition, hcondition, hechoes⟩ := hvouches.granted _ hgrants
  refine ⟨⟨hfresh, result, hresult, hpresent, hactive⟩, conditions, condition, hcondition,
    hechoes.state, hechoes.roles_eq Policy.viewer_isTextual.clusterPermissions, ?_⟩
  exact hserved.held (.text "view") (List.mem_singleton_self _)

/-- A condition can outlive the success that it tells of. The editor has been granted its roles.
Once its pattern selects no namespace, a pass ends as incomplete and the condition on the role in
namespaces stays. It stays too when a pass finds the role on the whole cluster missing, while there
is a namespace more. Once the viewer wants no role on the whole cluster, a pass leaves the condition
on these as it was. -/
theorem keeps_success :
    (let once := (Course.unwritable.toClock.calm.play .web (run "team" "editor")).world
      let granted := (Course.unwritable.toClock.calm.play once (run "team" "editor")).world
      let narrowed : World := { granted with
        cluster := granted.cluster.changePolicy "team" "editor" fun policy =>
          { policy with permissions := [{ role := "edit", allowed := "shop" }] } }
      let widened : World := { granted.removeRole "view" with
        cluster := { (granted.removeRole "view").cluster with
          namespaces := granted.cluster.namespaces ++ [{ name := "web-two" }] } }
      let incomplete := Course.later.toClock.calm.play narrowed (run "team" "editor")
      let missing := Course.later.toClock.calm.play widened (run "team" "editor")
      incomplete.result.toOption.map Result.outcome = some .incomplete ∧
        incomplete.world.cluster.Overstates "team" "editor" .roleBindingCreated ∧
        missing.result.toOption.map Result.outcome = some .rolesMissing ∧
        missing.world.cluster.Overstates "team" "editor" .roleBindingCreated) ∧
    (let granted := (Course.unwritable.toClock.calm.play .viewed (run "team" "viewer")).world
      let narrowed : World := { granted with
        cluster := granted.cluster.changePolicy "team" "viewer" fun policy =>
          { policy with clusterPermissions := [] } }
      let ended := Course.later.toClock.calm.play narrowed (run "team" "viewer")
      ended.result.toOption.map Result.outcome = some .upToDate ∧
        ended.world.cluster.Overstates "team" "viewer" .clusterRoleBindingCreated) := by
  decide +kernel

end PolicyPass

end RoleGrants
