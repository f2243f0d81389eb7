import RoleGrants.DryRun.Edit
import RoleGrants.Proofs.Overwriting
import RoleGrants.Proofs.Repeating

/-! What the conditions that tell of missing roles are worth after a pass. A scope that misses a
role has its condition set with exactly the roles that are missing, and the pass goes no further. A
scope that misses none has such a condition only if an earlier pass has left it there and this pass
did not come to grant the scope. -/

namespace RoleGrants

open DryRun

namespace Value

theorem distinct_eq_self {values : List Value}
    (h : values.Pairwise fun a b => (b == a) = false) : distinct values = values := by
  induction values with
  | nil => rfl
  | cons first rest ih =>
    obtain ⟨hfirst, hrest⟩ := List.pairwise_cons.mp h
    have hkept : rest.filter (fun value => !value == first) = rest :=
      List.filter_eq_self.mpr fun value hmem => by rw [hfirst value hmem]; rfl
    rw [distinct, List.eraseDups_cons, hkept]
    exact congrArg _ (ih hrest)

theorem pairwise_distinct (values : List Value) :
    (distinct values).Pairwise fun a b => (b == a) = false := by
  match values with
  | [] => exact .nil
  | first :: rest =>
    rw [distinct, List.eraseDups_cons]
    refine .cons (fun value hmem => ?_) (pairwise_distinct _)
    have hkept := Pass.mem_of_mem_distinct hmem
    simpa using (List.mem_filter.mp hkept).2
termination_by values.length
decreasing_by
  have hshort := List.length_filter_le (fun value => !value == first) rest
  simp only [List.length_cons]
  omega

theorem distinct_distinct (values : List Value) : distinct (distinct values) = distinct values :=
  distinct_eq_self (pairwise_distinct values)

end Value

/-- Whether a condition tells that roles of its scope are missing. -/
def Condition.TellsOfLack (condition : Condition) : Prop :=
  condition.state = .failed ∧ condition.message = .text (lackMessage condition.type)

/-- The roles that a policy grants in the scope of a condition type. -/
def Policy.rolesIn (policy : Policy) : ConditionType → List Value
  | .clusterRoleBindingCreated => policy.clusterPermissions
  | .roleBindingCreated => policy.permissionRoles

/-- Whether a pass over a policy that ended so has come to grant its roles in the scope of a
condition type. -/
def PolicyPass.Result.Grants (result : Result) (policy : Policy) : ConditionType → Prop
  | .clusterRoleBindingCreated =>
    policy.clusterPermissions ≠ [] ∧ result.outcome ≠ .rolesMissing
  | .roleBindingCreated => result.outcome = .roleBindingsCreated

namespace Policy

open PolicyPass

variable {policy : Policy} {cluster : Cluster} {given : List (Verdict × Int)} {after : Tracker}
  {type : ConditionType}

/-! ### The conditions after some verdicts -/

theorem condition?_of_opened {condition : Condition}
    (h : policy.openedTracker.get? type = some condition) :
    policy.condition? type = some condition := by
  have hmem : condition ∈ Tracker.firstOfType policy.conditions :=
    (List.mem_filter.mp (List.mem_of_find?_eq_some h)).1
  have hfirst : (Tracker.start policy.conditions).get? condition.type = some condition :=
    Tracker.get?_of_mem (Tracker.pairwise_firstOfType _) hmem
  rw [Tracker.get?_start, Tracker.type_of_get? h] at hfirst
  exact hfirst

/-- The conditions of a policy after those of a tracker were written, for sure or if they have
changed. -/
def noted (policy : Policy) (isSure : Bool) (tracker : Tracker) : List Condition :=
  if isSure || tracker.changed then tracker.current else policy.conditions

theorem getPolicy_noted {space name : Value} (isSure : Bool) (tracker : Tracker)
    (hfound : cluster.getPolicy space name = .ok policy) :
    (cluster.noted isSure policy tracker).getPolicy space name =
      .ok { policy with conditions := policy.noted isSure tracker } := by
  unfold noted Cluster.noted
  split
  · exact Cluster.getPolicy_report hfound
  · exact hfound

/-- After some verdicts there is a condition for each of them that says as much, also if nothing was
written. -/
theorem echo_noted {tracker : Tracker} (isSure : Bool)
    (hinitial : tracker.initial = Tracker.firstOfType policy.conditions)
    (htypes : tracker.current.Pairwise fun a b => a.type ≠ b.type)
    (hplain : PlainVerdicts (given.map Prod.fst)) (hreplay : tracker.replay given = .ok after) :
    ∀ verdict ∈ given.map Prod.fst, ∃ condition,
      { policy with conditions := policy.noted isSure after }.condition? verdict.type =
          some condition ∧
        condition.Echoes verdict ∧ (isSure = true → condition.undated = verdict.condition) := by
  intro verdict hmem
  unfold noted
  split
  · obtain ⟨condition, hcondition, hstands⟩ :=
      Tracker.exists_of_replay hreplay hplain.eq_of_type hmem
    have hechoes := Condition.Echoes.of_undated hstands (Tracker.keys_replay hreplay verdict hmem)
    refine ⟨condition, ?_, hechoes, fun _ => hstands⟩
    rw [← hechoes.type]
    exact Tracker.get?_of_mem (Tracker.types_replay hreplay htypes) hcondition
  · next hunwritten =>
    rw [Bool.or_eq_true, not_or, Bool.not_eq_true, Bool.not_eq_true] at hunwritten
    obtain ⟨hunsure, hsame⟩ := hunwritten
    obtain ⟨found, hfound, hechoes⟩ :=
      Tracker.exists_echo hreplay hsame hplain.eq_of_type hmem (hplain.texts verdict hmem)
    rw [hinitial] at hfound
    refine ⟨found, ?_, hechoes, fun hsure => by cases hunsure.symm.trans hsure⟩
    rw [← hechoes.type]
    exact (Tracker.get?_start _ _).symm.trans
      (Tracker.get?_of_mem (Tracker.pairwise_firstOfType _) hfound)

/-- What the conditions of a policy say after the verdicts of a pass: of the types of these what
they say, and of other types no more than before. -/
theorem conditions_noted {space name : Value} (isSure : Bool)
    (hplain : PlainVerdicts (given.map Prod.fst))
    (hreplay : policy.openedTracker.replay given = .ok after)
    (hfound : cluster.getPolicy space name = .ok policy) :
    ∃ conditions, (cluster.noted isSure policy after).getPolicy space name =
        .ok { policy with conditions } ∧
      (∀ verdict ∈ given.map Prod.fst, ∃ condition,
        { policy with conditions }.condition? verdict.type = some condition ∧
          condition.Echoes verdict ∧
          (isSure = true → condition.undated = verdict.condition)) ∧
      ∀ type, (∀ verdict ∈ given.map Prod.fst, verdict.type ≠ type) → ∀ condition,
        { policy with conditions }.condition? type = some condition →
          policy.condition? type = some condition := by
  refine ⟨policy.noted isSure after, getPolicy_noted isSure after hfound,
    echo_noted isSure rfl (Tracker.isTidy_tidy _).types hplain hreplay,
    fun type hne condition hcondition => ?_⟩
  unfold noted at hcondition
  split at hcondition
  · have hget : after.get? type = some condition := hcondition
    rw [Tracker.get?_replay_of_ne hreplay fun item hmem =>
      hne item.1 (List.mem_map_of_mem hmem)] at hget
    exact condition?_of_opened hget
  · exact hcondition

/-! ### The verdicts of a deed -/

theorem mem_verdicts_onMissing {verdict : Verdict} {onCluster inNamespaces : List Value} :
    verdict ∈ (Deed.onMissing onCluster inNamespaces).verdicts →
      (onCluster ≠ [] ∧ verdict = lacking .clusterRoleBindingCreated onCluster) ∨
        (inNamespaces ≠ [] ∧ verdict = lacking .roleBindingCreated inNamespaces) := fun h =>
  (List.mem_append.mp h).imp eq_of_mem_lackings eq_of_mem_lackings

theorem mem_verdicts_deedInNamespaces {verdict : Verdict}
    (h : verdict ∈ (policy.deedInNamespaces cluster).verdicts) :
    verdict = policy.grantedInNamespaces := by
  unfold deedInNamespaces at h
  dsimp only at h
  split at h
  · exact List.mem_singleton.mp h
  · exact absurd h List.not_mem_nil

theorem mem_verdicts_deedOnCluster {verdict : Verdict}
    (h : verdict ∈ (policy.deedOnCluster cluster).verdicts) :
    verdict = policy.grantedOnCluster ∨ verdict = policy.grantedInNamespaces := by
  unfold deedOnCluster at h
  dsimp only at h
  split at h
  · exact .inl (List.mem_singleton.mp h)
  · exact (List.mem_append.mp h).imp List.mem_singleton.mp mem_verdicts_deedInNamespaces

/-- A scope that misses no role has no verdict, or the one that its roles are granted. -/
theorem verdict_of_complete (hnone : lackingRoles (policy.rolesIn type) cluster.roles = []) :
    ∀ verdict ∈ (policy.deed cluster).verdicts, verdict.type = type →
      verdict = Pass.granted type (policy.rolesIn type) := by
  have hgranted : ∀ verdict, verdict = policy.grantedOnCluster ∨
      verdict = policy.grantedInNamespaces → verdict.type = type →
      verdict = Pass.granted type (policy.rolesIn type) := by
    rintro verdict (rfl | rfl) rfl <;> rfl
  intro verdict hmem htype
  unfold deed at hmem
  dsimp only at hmem
  split at hmem
  · rcases mem_verdicts_onMissing hmem with ⟨hsome, rfl⟩ | ⟨hsome, rfl⟩ <;> subst htype <;>
      exact absurd hnone hsome
  split at hmem
  · exact hgranted verdict (mem_verdicts_deedOnCluster hmem) htype
  split at hmem
  · exact hgranted verdict (.inr (mem_verdicts_deedInNamespaces hmem)) htype
  · exact absurd hmem List.not_mem_nil

theorem granted_mem_deedInNamespaces
    (h : (policy.deedInNamespaces cluster).result.outcome = .roleBindingsCreated) :
    policy.grantedInNamespaces ∈ (policy.deedInNamespaces cluster).verdicts := by
  unfold deedInNamespaces at h ⊢
  dsimp only at h ⊢
  split at h
  · next hall =>
    rw [if_pos hall]
    exact List.mem_singleton_self _
  · cases h

theorem granted_mem_deedOnCluster :
    policy.grantedOnCluster ∈ (policy.deedOnCluster cluster).verdicts := by
  unfold deedOnCluster
  dsimp only
  split <;> exact List.mem_cons_self

/-- A scope that a pass has come to grant has the verdict that its roles are granted. -/
theorem granted_mem_verdicts (h : (policy.deed cluster).result.Grants policy type) :
    Pass.granted type (policy.rolesIn type) ∈ (policy.deed cluster).verdicts := by
  unfold deed at h ⊢
  dsimp only at h ⊢
  cases type with
  | clusterRoleBindingCreated =>
    obtain ⟨hsome, hroles⟩ := h
    split at hroles
    · exact absurd rfl hroles
    · next hcomplete =>
      rw [if_neg hcomplete, if_pos (by simpa using hsome)]
      exact granted_mem_deedOnCluster
  | roleBindingCreated =>
    unfold Result.Grants at h
    dsimp only at h
    split at h
    · cases h
    next hcomplete =>
    rw [if_neg hcomplete]
    split at h
    · next hcluster =>
      rw [if_pos hcluster]
      unfold deedOnCluster at h ⊢
      dsimp only at h ⊢
      split at h
      · cases h
      · next hheld =>
        rw [if_neg hheld]
        exact List.mem_cons_of_mem _ (granted_mem_deedInNamespaces h)
    next hcluster =>
    rw [if_neg hcluster]
    split at h
    · next hpermissions =>
      rw [if_pos hpermissions]
      exact granted_mem_deedInNamespaces h
    · cases h

/-- A scope that misses roles has the verdict that tells of them, and no other scope is granted. -/
theorem deed_of_lacking (hsome : lackingRoles (policy.rolesIn type) cluster.roles ≠ []) :
    (policy.deed cluster).result.outcome = .rolesMissing ∧ (policy.deed cluster).isSure = true ∧
      lacking type (lackingRoles (policy.rolesIn type) cluster.roles) ∈
        (policy.deed cluster).verdicts := by
  have hmissing : (!(lackingRoles policy.clusterPermissions cluster.roles).isEmpty ||
      !(lackingRoles policy.permissionRoles cluster.roles).isEmpty) = true := by
    rw [Bool.or_eq_true, Bool.not_eq_true', Bool.not_eq_true', List.isEmpty_eq_false_iff,
      List.isEmpty_eq_false_iff]
    cases type with
    | clusterRoleBindingCreated => exact .inl hsome
    | roleBindingCreated => exact .inr hsome
  have hdeed : policy.deed cluster = .onMissing _ _ := if_pos hmissing
  rw [hdeed]
  refine ⟨rfl, rfl, ?_⟩
  have hlacking : ∀ (type : ConditionType) (missing : List Value), missing ≠ [] →
      lacking type missing ∈ lackings type missing := by
    intro type missing hsome
    rw [lackings, if_neg (by simpa using hsome)]
    exact List.mem_singleton_self _
  cases type with
  | clusterRoleBindingCreated => exact List.mem_append_left _ (hlacking _ _ hsome)
  | roleBindingCreated => exact List.mem_append_right _ (hlacking _ _ hsome)

end Policy

/-! ### A whole pass -/

/-- Whether the condition of a scope tells of missing roles although the scope misses none. -/
def Cluster.Misreports (cluster : Cluster) (space name : Value) (type : ConditionType) : Prop :=
  ∃ policy ∈ (cluster.getPolicy space name).toOption,
    lackingRoles (policy.rolesIn type) cluster.roles = [] ∧
      ∃ condition ∈ policy.condition? type, condition.TellsOfLack ∧ condition.roles ≠ []

instance (value : Value) (text : String) : Decidable (value = .text text) :=
  decidable_of_iff _ Value.text_beq_iff

instance (condition : Condition) : Decidable condition.TellsOfLack :=
  inferInstanceAs (Decidable (_ ∧ _))

instance (cluster : Cluster) (space name : Value) (type : ConditionType) :
    Decidable (cluster.Misreports space name type) :=
  inferInstanceAs (Decidable (∃ policy ∈ _, _ ∧ ∃ condition ∈ _, _))

/-- A policy that wants a role on the whole cluster, and one that wants a role in a namespace too,
where no role exists. -/
def DryRun.World.roleless : World where
  cluster := { policies := [Policy.viewer, Policy.editor] }

namespace PolicyPass

variable {policy renewed : Policy} {cluster : Cluster} {result : Result}

/-- What a pass that ended with a result makes of the conditions of a policy that tell of missing
roles. -/
structure RenewsLacks (policy renewed : Policy) (cluster : Cluster) (result : Result) : Prop where
  told : ∀ type, lackingRoles (policy.rolesIn type) cluster.roles ≠ [] →
    result.outcome = .rolesMissing ∧
      ∃ condition, renewed.condition? type = some condition ∧ condition.TellsOfLack ∧
        condition.roles = lackingRoles (policy.rolesIn type) cluster.roles
  kept : ∀ type condition, renewed.condition? type = some condition → condition.TellsOfLack →
    lackingRoles (policy.rolesIn type) cluster.roles = [] →
      policy.condition? type = some condition ∧ ¬ result.Grants policy type

theorem type_of_condition? {type : ConditionType} {condition : Condition}
    (h : policy.condition? type = some condition) : condition.type = type :=
  eq_of_beq (List.find?_some (p := fun condition : Condition => condition.type == type) h)

/-- The roles of a scope are not told to be missing by the verdict that they are granted. -/
theorem granted_message_ne (type : ConditionType) (roles : List Value) :
    (Pass.granted type roles).message ≠ .text (lackMessage type) := by
  cases type <;> exact fun h => absurd (Value.text.inj h) (by decide)

/-- Once its deed is done, the conditions of a policy that tell of missing roles are renewed. -/
theorem renewsLacks_done {space name : Value} {tracker : Tracker} {scene later : Scene}
    (htracker : tracker = policy.openedTracker)
    (hfound : scene.cluster.getPolicy space name = .ok policy)
    (hdone : (policy.deed scene.cluster).IsDone policy tracker scene later result) :
    ∃ conditions, later.cluster.getPolicy space name = .ok { policy with conditions } ∧
      RenewsLacks policy { policy with conditions } scene.cluster result := by
  subst htracker
  obtain ⟨rfl, -, given, after, hgiven, hreplay, hlater⟩ := hdone
  have hplain : PlainVerdicts (given.map Prod.fst) := hgiven ▸ policy.plainVerdicts_deed _
  have hstored : (scene.cluster.extend (policy.deed scene.cluster).result.created).getPolicy space
      name = .ok policy := hfound
  obtain ⟨conditions, hnow, hsaid, hkept⟩ :=
    Policy.conditions_noted (policy.deed scene.cluster).isSure hplain hreplay hstored
  rw [hgiven] at hsaid hkept
  refine ⟨conditions, hlater ▸ hnow, fun type hsome => ?_,
    fun type condition hcondition htells hnone => ?_⟩
  · obtain ⟨houtcome, hsure, hmem⟩ := Policy.deed_of_lacking hsome
    obtain ⟨condition, hcondition, -, hstands⟩ := hsaid _ hmem
    have heq := hstands hsure
    refine ⟨houtcome, condition, hcondition, ⟨congrArg Condition.state heq, ?_⟩, ?_⟩
    · rw [type_of_condition? hcondition]
      exact congrArg Condition.message heq
    · exact (congrArg Condition.roles heq).trans (Value.distinct_distinct _)
  · have hunsaid : ∀ verdict ∈ (policy.deed scene.cluster).verdicts, verdict.type ≠ type := by
      intro verdict hmem htype
      have hgranted := Policy.verdict_of_complete hnone verdict hmem htype
      obtain ⟨other, hother, hechoes, -⟩ := hsaid verdict hmem
      rw [htype, hcondition] at hother
      cases hother
      refine granted_message_ne type (policy.rolesIn type) ?_
      rw [← hgranted, ← hechoes.message, htells.2, type_of_condition? hcondition]
    exact ⟨hkept type hunsaid condition hcondition,
      fun hgrants => hunsaid _ (Policy.granted_mem_verdicts hgrants) rfl⟩

/-- After a pass over a policy that stays, the condition of a scope that misses roles tells exactly
of them, and the pass granted nothing. One that tells of missing roles in a scope that misses none
was stored before, and the pass did not come to grant that scope. -/
theorem renewsLacks_play (clock : Clock) {world : World} {space name : Value}
    (hfresh : world.isStale = false)
    (hresult : (clock.calm.play world (run space name)).result = .ok result)
    (hpresent : result.outcome ≠ .notFound) (hactive : result.outcome ≠ .deleted) :
    ∃ policy conditions, world.cluster.getPolicy space name = .ok policy ∧
      (clock.calm.play world (run space name)).world.cluster.getPolicy space name =
        .ok { policy with conditions } ∧
      RenewsLacks policy { policy with conditions } world.cluster result := by
  obtain ⟨policy, later, hshows, hfound, -, -, -, hdone⟩ :=
    done_of_result clock hfresh hresult hpresent hactive
  obtain ⟨conditions, hnow, hrenews⟩ := renewsLacks_done rfl hfound hdone
  exact ⟨policy, conditions, hfound, hshows.cluster ▸ hnow, hrenews⟩

/-- The first pass over the viewer finds its role missing, and tells so. -/
theorem renewsLacks_play_roleless :
    (World.roleless.isStale = false ∧ ∃ result,
      (Course.unwritable.toClock.calm.play .roleless (run "team" "viewer")).result = .ok result ∧
      result.outcome ≠ .notFound ∧ result.outcome ≠ .deleted) ∧
    ∃ conditions condition,
      (Course.unwritable.toClock.calm.play .roleless
        (run "team" "viewer")).world.cluster.getPolicy "team" "viewer" =
          .ok { Policy.viewer with conditions } ∧
      { Policy.viewer with conditions }.condition? .clusterRoleBindingCreated = some condition ∧
      condition.TellsOfLack ∧ condition.roles = [.text "view"] := by
  have hfresh : World.roleless.isStale = false := rfl
  have hends : ((Course.unwritable.toClock.calm.play .roleless
      (run "team" "viewer")).result.toOption.any fun result =>
        result.outcome == .rolesMissing) = true := by
    decide +kernel
  cases hresult : (Course.unwritable.toClock.calm.play .roleless (run "team" "viewer")).result with
  | error failure =>
    rw [hresult] at hends
    cases hends
  | ok result =>
    rw [hresult] at hends
    have houtcome : result.outcome = .rolesMissing := eq_of_beq hends
    have hpresent : result.outcome ≠ .notFound := fun h => by cases houtcome.symm.trans h
    have hactive : result.outcome ≠ .deleted := fun h => by cases houtcome.symm.trans h
    have hviewer : World.roleless.cluster.getPolicy "team" "viewer" = .ok .viewer :=
      Cluster.getPolicy_eq.mpr ⟨rfl, List.find?_cons_of_pos (by decide +kernel)⟩
    obtain ⟨policy, conditions, hfound, hnow, hrenews⟩ :=
      renewsLacks_play Course.unwritable.toClock hfresh hresult hpresent hactive
    cases hviewer.symm.trans hfound
    obtain ⟨-, condition, hcondition, htells, hroles⟩ :=
      hrenews.told .clusterRoleBindingCreated (List.cons_ne_nil _ _)
    exact ⟨⟨hfresh, result, rfl, hpresent, hactive⟩, conditions, condition, hnow, hcondition,
      htells, hroles⟩

/-- A condition can outlive the lack that it tells of. Once the roles of the editor exist, the pass
that creates its binding on the whole cluster stops there, and the condition on its role in a
namespace stays. Once the viewer wants no role on the whole cluster, a pass leaves the condition on
these as it was. -/
theorem keeps_lack :
    (let told := (Course.unwritable.toClock.calm.play .roleless (run "team" "editor")).world
      let ended := Course.later.toClock.calm.play ((told.addRole "view").addRole "edit")
        (run "team" "editor")
      ended.result.toOption.map Result.outcome = some .clusterBindingsCreated ∧
        ended.world.cluster.Misreports "team" "editor" .roleBindingCreated) ∧
    (let told := (Course.unwritable.toClock.calm.play .roleless (run "team" "viewer")).world
      let narrowed : World := { told with
        cluster := told.cluster.changePolicy "team" "viewer" fun policy =>
          { policy with clusterPermissions := [] } }
      let ended := Course.later.toClock.calm.play narrowed (run "team" "viewer")
      ended.result.toOption.map Result.outcome = some .upToDate ∧
        ended.world.cluster.Misreports "team" "viewer" .clusterRoleBindingCreated) := by
  decide +kernel

end PolicyPass

end RoleGrants
