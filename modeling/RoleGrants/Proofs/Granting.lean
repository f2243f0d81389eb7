import RoleGrants.Proofs.Concluding

/-! What a pass makes of a cluster when nothing fails, over a policy that can be granted there. Of
the bindings that the policy wants on the whole cluster it creates those that are missing, and if
none is, those that are missing in namespaces. The conditions that it writes are those of the
policy, tidied, with its verdicts. -/

namespace RoleGrants

open DryRun Pass

namespace Policy

/-- Whether a policy of a cluster can be granted there, and all that this depends on is well
formed. -/
structure IsServable (policy : Policy) (cluster : Cluster) : Prop extends
    policy.IsGrantable cluster where
  kept : policy.unreported ∈ cluster.owned
  textual : policy.IsTextual
  worded : policy.IsWorded
  spaces : ∀ space ∈ cluster.namespaces, space.name.IsText
  keys : ∀ role ∈ cluster.roles, role.isKey

theorem IsServable.isTyped {policy : Policy} {cluster : Cluster} (h : policy.IsServable cluster) :
    policy.IsTyped cluster := ⟨h.textual, h.worded, h.spaces, h.keys⟩

end Policy

namespace Cluster

variable {cluster : Cluster} {policy : Policy}

@[simp] theorem owned_report (conditions : List Condition) :
    (cluster.report policy conditions).owned = cluster.owned :=
  owned_changePolicy _ _ _ fun _ => rfl

/-- The cluster with the conditions of a tracker written, if they have changed. -/
def reportChanges (cluster : Cluster) (policy : Policy) (tracker : Tracker) : Cluster :=
  if tracker.changed then cluster.report policy tracker.current else cluster

theorem noted_false (cluster : Cluster) (policy : Policy) (tracker : Tracker) :
    cluster.noted false policy tracker = cluster.reportChanges policy tracker := rfl

/-- Whether a cluster is another one but for the conditions of a policy. -/
def Reports (before : Cluster) (policy : Policy) (after : Cluster) : Prop :=
  after = before ∨ ∃ conditions, after = before.report policy conditions

theorem Reports.bindings {after : Cluster} (h : cluster.Reports policy after) :
    after.bindings = cluster.bindings := by
  obtain rfl | ⟨conditions, rfl⟩ := h <;> rfl

theorem reports_reportChanges (cluster : Cluster) (policy : Policy) (tracker : Tracker) :
    cluster.Reports policy (cluster.reportChanges policy tracker) := by
  unfold reportChanges
  split
  · exact .inr ⟨_, rfl⟩
  · exact .inl rfl

end Cluster

namespace PolicyPass

/-- What a pass over a policy may make of a cluster, and its result. -/
inductive Yields (cluster : Cluster) (policy : Policy) : Cluster → Result → Prop
  | onCluster {conditions : List Condition} : policy.clusterPermissions ≠ [] →
      Binding.missing cluster.bindings policy.wantedOnCluster ≠ [] ∨ policy.permissions = [] →
      conditions.map Condition.undated = Tracker.settle policy.opened [policy.grantedOnCluster] →
      Yields cluster policy
        ((cluster.extend (Binding.missing cluster.bindings policy.wantedOnCluster)).report policy
          conditions)
        { outcome := .clusterBindingsCreated
          requeue := !policy.permissions.isEmpty
          created := Binding.missing cluster.bindings policy.wantedOnCluster }
  | inNamespaces {conditions : List Condition} {earlier : List Verdict} :
      policy.permissions ≠ [] → Binding.missing cluster.bindings policy.wantedOnCluster = [] →
      (∀ permission ∈ policy.permissions,
        (validNames cluster.namespaces).any permission.chooses = true) →
      earlier = (if policy.clusterPermissions = [] then [] else [policy.grantedOnCluster]) →
      conditions.map Condition.undated =
        Tracker.settle policy.opened (earlier ++ [policy.grantedInNamespaces]) →
      Yields cluster policy
        ((cluster.extend (Binding.missing cluster.bindings
          (policy.wantedIn (validNames cluster.namespaces)))).report policy conditions)
        { outcome := .roleBindingsCreated
          created := Binding.missing cluster.bindings
            (policy.wantedIn (validNames cluster.namespaces)) }
  | incomplete {tracker : Tracker} {permission : Permission} :
      policy.permissions ≠ [] → Binding.missing cluster.bindings policy.wantedOnCluster = [] →
      permission ∈ policy.permissions →
      (validNames cluster.namespaces).any permission.chooses = false →
      Yields cluster policy
        ((cluster.extend (Binding.missing cluster.bindings
          (policy.wantedIn (validNames cluster.namespaces)))).reportChanges policy tracker)
        { outcome := .incomplete
          created := Binding.missing cluster.bindings
            (policy.wantedIn (validNames cluster.namespaces)) }
  | upToDate : policy.clusterPermissions = [] → policy.permissions = [] →
      Yields cluster policy (cluster.reportChanges policy policy.openedTracker)
        { outcome := .upToDate }

variable {cluster : Cluster} {policy : Policy} {after : Tracker} {result : Result}

/-- What a deed in namespaces makes of a cluster, after the verdicts before it. -/
theorem yields_inNamespaces {earlier : List Verdict} (hsome : policy.permissions ≠ [])
    (hnone : Binding.missing cluster.bindings policy.wantedOnCluster = [])
    (hearlier : earlier = if policy.clusterPermissions = [] then [] else [policy.grantedOnCluster])
    (hafter : after.current.map Condition.undated = Tracker.settle policy.opened
      (earlier ++ (policy.deedInNamespaces cluster).verdicts)) :
    Yields cluster policy
      ((cluster.extend (policy.deedInNamespaces cluster).result.created).noted
        (policy.deedInNamespaces cluster).isSure policy after)
      (policy.deedInNamespaces cluster).result := by
  unfold Policy.deedInNamespaces at hafter ⊢
  dsimp only at hafter ⊢
  split
  · next hall =>
    rw [if_pos hall] at hafter
    exact .inNamespaces hsome hnone (List.all_eq_true.mp hall) hearlier hafter
  · next hincomplete =>
    obtain ⟨permission, hmem, hchooses⟩ : ∃ permission ∈ policy.permissions,
        (validNames cluster.namespaces).any permission.chooses = false := by
      simpa using hincomplete
    exact .incomplete hsome hnone hmem hchooses

theorem yields_onCluster (hsome : policy.clusterPermissions ≠ [])
    (hafter : after.current.map Condition.undated = Tracker.settle policy.opened
      (policy.deedOnCluster cluster).verdicts) :
    Yields cluster policy
      ((cluster.extend (policy.deedOnCluster cluster).result.created).noted
        (policy.deedOnCluster cluster).isSure policy after)
      (policy.deedOnCluster cluster).result := by
  unfold Policy.deedOnCluster at hafter ⊢
  dsimp only at hafter ⊢
  split
  · next hlast =>
    rw [if_pos hlast] at hafter
    exact .onCluster hsome (by simpa using hlast) hafter
  · next hmore =>
    rw [if_neg hmore] at hafter
    obtain ⟨hnone, hpermissions⟩ : Binding.missing cluster.bindings policy.wantedOnCluster = [] ∧
        policy.permissions ≠ [] := by
      simpa using hmore
    exact yields_inNamespaces hpermissions hnone (if_neg hsome).symm hafter

/-- What is made of a cluster when the deed of a policy that can be granted there is done. -/
theorem yields_of_done {scene later : Scene} (h : policy.IsServable scene.cluster)
    (hdone : (policy.deed scene.cluster).IsDone policy policy.openedTracker scene later result) :
    Yields scene.cluster policy later.cluster result := by
  obtain ⟨rfl, -, given, after, hgiven, hreplay, hlater⟩ := hdone
  have hafter : after.current.map Condition.undated =
      Tracker.settle policy.opened (policy.deed scene.cluster).verdicts :=
    hgiven ▸ Tracker.undated_replay hreplay
  rw [hlater]
  rw [deed_of_roles h.isTyped h.roles] at hgiven hafter ⊢
  split
  · next hsome =>
    rw [if_pos hsome] at hafter
    exact yields_onCluster (by simpa using hsome) hafter
  · next hcluster =>
    rw [if_neg hcluster] at hgiven hafter
    have hcluster : policy.clusterPermissions = [] := by simpa using hcluster
    split
    · next hsome =>
      rw [if_pos hsome] at hafter
      have hnone : Binding.missing scene.cluster.bindings policy.wantedOnCluster = [] := by
        rw [Policy.wantedOnCluster, hcluster]
        rfl
      exact yields_inNamespaces (by simpa using hsome) hnone (if_pos hcluster).symm hafter
    · next hempty =>
      rw [if_neg hempty] at hgiven
      cases List.map_eq_nil_iff.mp hgiven
      cases hreplay
      rw [Cluster.extend_nil, Cluster.noted_false]
      exact .upToDate hcluster (by simpa using hempty)

/-- A pass on a calm course over a policy that can be granted. -/
theorem yields_play (clock : Clock) {world : World} (hfresh : world.isStale = false)
    (hfound : world.cluster.getPolicy policy.space policy.name = .ok policy)
    (h : policy.IsServable world.cluster) :
    let ended := clock.calm.play world (run policy.space policy.name)
    ∃ result, ended.result = .ok result ∧
      Yields world.cluster policy ended.world.cluster result := by
  obtain ⟨later, result, hshows, hresult, hdone⟩ :=
    done_play clock hfresh hfound h.valid h.active h.isTyped
  have hservable : policy.IsServable world.scene.cluster := h
  exact ⟨result, hresult, hshows.cluster ▸ yields_of_done hservable hdone⟩

end PolicyPass

end RoleGrants
