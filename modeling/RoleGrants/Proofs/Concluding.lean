import RoleGrants.Proofs.Underway

/-! What a pass over any policy makes of a world on a calm course. It ends as
`PolicyPass.Concludes` says, or with a failure that comes of a value of a wrong type; over a policy
that is made of texts it never comes to the latter. -/

namespace RoleGrants

open DryRun Program Pass

namespace PolicyPass

/-- On a calm course a pass ends as it should, or with a failure that comes of a value of a wrong
type. -/
theorem concludes_play (clock : Clock) {world : World} (hfresh : world.isStale = false)
    (space name : Value) : ∃ later : Scene,
    later.Shows (clock.calm.play world (run space name)).past
      (clock.calm.play world (run space name)).world ∧
    (Concludes world.scene space name later (clock.calm.play world (run space name)).result ∨
      ¬ IsSmooth world.cluster space name ∧ ∃ failure, failure.IsInternal ∧
        (clock.calm.play world (run space name)).result = .error failure) := by
  have hruns : (run space name).Leaves
      (fun later result => Concludes world.scene space name later (.ok result))
      (Breaks world.scene space name) world.scene :=
    holds_run_of_isCalm (reached_outline world.scene space name) rfl
  obtain ⟨later, hshows, hended⟩ := clock.leaves_play hruns hfresh
  refine ⟨later, hshows, ?_⟩
  generalize (clock.calm.play world (run space name)).result = ended at hended
  cases ended with
  | ok result => exact .inl hended
  | error failure =>
    exact hended.imp_right fun ⟨hrough, hinternal⟩ => ⟨hrough, failure, hinternal, rfl⟩

/-- On a calm course a pass that ends with a result, and has found a policy that is not being
deleted, does its deed. -/
theorem done_of_result (clock : Clock) {world : World} {space name : Value} {result : Result}
    (hfresh : world.isStale = false)
    (hresult : (clock.calm.play world (run space name)).result = .ok result)
    (hpresent : result.outcome ≠ .notFound) (hactive : result.outcome ≠ .deleted) :
    ∃ (policy : Policy) (later : Scene),
      later.Shows (clock.calm.play world (run space name)).past
        (clock.calm.play world (run space name)).world ∧
      world.scene.cluster.getPolicy space name = .ok policy ∧ policy.validate = .ok () ∧
      policy.IsOpen ∧ policy.IsFit world.scene.cluster ∧
      (policy.deed world.scene.cluster).IsDone policy policy.openedTracker world.scene later
        result := by
  obtain ⟨later, hshows, hended⟩ := concludes_play clock hfresh space name
  rcases hended with hconcludes | ⟨-, failure, -, hfailed⟩
  · rw [hresult] at hconcludes
    cases hconcludes with
    | notFound => exact absurd rfl hpresent
    | released => exact absurd rfl hactive
    | done hfound hvalid _ hopen hfit hdone =>
      exact ⟨_, later, hshows, hfound, hvalid, hopen, hfit, hdone⟩
  · cases hresult.symm.trans hfailed

end PolicyPass

/-! ### Policies that are made of texts -/

/-- Whether a policy is made of texts, and so is what a pass over it reads of a cluster. -/
structure Policy.IsTyped (policy : Policy) (cluster : Cluster) : Prop where
  textual : policy.IsTextual
  worded : policy.IsWorded
  spaces : ∀ space ∈ cluster.namespaces, space.name.IsText
  keys : ∀ role ∈ cluster.roles, role.isKey = true

namespace Policy.IsTyped

variable {policy : Policy} {cluster : Cluster}

theorem isOpen (h : policy.IsTyped cluster) : policy.IsOpen :=
  fun condition hmem => h.worded condition (Tracker.mem_of_mem_firstOfType hmem)

theorem isFit (h : policy.IsTyped cluster) (hvalid : policy.validate = .ok ()) :
    policy.IsFit cluster where
  existing := h.keys
  onCluster role hmem := Value.isKey_of_isText (h.textual.clusterPermissions role hmem)
  inNamespaces role hmem := Value.isKey_of_isText (h.textual.permissionRoles role hmem)
  deed :=
    { subject := fun _ => Value.isKey_of_isText h.textual.subjectName
      resolves := fun _ _ hmem => ⟨_, resolve_eq hvalid hmem (validNames_texts h.spaces)⟩ }

theorem isSmooth (h : policy.IsTyped cluster) (hverdict : IsVerdict policy.validate) :
    policy.IsSmooth cluster where
  verdict := hverdict
  isOpen _ := h.isOpen
  released hvalid _ :=
    ⟨⟨(h.isFit hvalid).onCluster, fun _ => Value.isKey_of_isText h.textual.subjectName⟩,
      (h.isFit hvalid).inNamespaces, fun _ => Value.isKey_of_isText h.textual.subjectName⟩
  fit hvalid _ := h.isFit hvalid

end Policy.IsTyped

namespace PolicyPass

variable {policy : Policy} {cluster : Cluster} {world : World} {space name : Value}

theorem lackingRoles_isEmpty_both (htyped : policy.IsTyped cluster) :
    (!(lackingRoles policy.clusterPermissions cluster.roles).isEmpty ||
      !(lackingRoles policy.permissionRoles cluster.roles).isEmpty) = false ↔
    ∀ role ∈ policy.clusterPermissions ++ policy.permissionRoles, role ∈ cluster.roles := by
  rw [Bool.or_eq_false_iff, Bool.not_eq_false', Bool.not_eq_false',
    lackingRoles_isEmpty htyped.textual.clusterPermissions,
    lackingRoles_isEmpty htyped.textual.permissionRoles, List.forall_mem_append]

/-- The deed of a policy all of whose roles exist. -/
theorem deed_of_roles (htyped : policy.IsTyped cluster)
    (hroles : ∀ role ∈ policy.clusterPermissions ++ policy.permissionRoles, role ∈ cluster.roles) :
    policy.deed cluster =
      if !policy.clusterPermissions.isEmpty then policy.deedOnCluster cluster
      else if !policy.permissions.isEmpty then policy.deedInNamespaces cluster
      else { result := { outcome := .upToDate }, isSure := false } :=
  if_neg (Bool.not_eq_true _ ▸ (lackingRoles_isEmpty_both htyped).mpr hroles)

/-- On a calm course a pass over a policy that is made of texts ends as it should. -/
theorem concludes_play_typed (clock : Clock) (hfresh : world.isStale = false)
    (hfound : world.cluster.getPolicy space name = .ok policy)
    (hverdict : Policy.IsVerdict policy.validate) (h : policy.IsTyped world.cluster) :
    ∃ later : Scene, later.Shows (clock.calm.play world (run space name)).past
        (clock.calm.play world (run space name)).world ∧
      Concludes world.scene space name later (clock.calm.play world (run space name)).result := by
  obtain ⟨later, hshows, hconcludes | ⟨hrough, -⟩⟩ := concludes_play clock hfresh space name
  · exact ⟨later, hshows, hconcludes⟩
  · exact absurd (.inr ⟨policy, hfound, h.isSmooth hverdict⟩) hrough

/-- On a calm course a pass over an active policy that is made of texts does its deed. -/
theorem done_play (clock : Clock) (hfresh : world.isStale = false)
    (hfound : world.cluster.getPolicy space name = .ok policy)
    (hvalid : policy.validate = .ok ()) (hactive : policy.isDeleting = false)
    (h : policy.IsTyped world.cluster) : ∃ later result,
    later.Shows (clock.calm.play world (run space name)).past
      (clock.calm.play world (run space name)).world ∧
    (clock.calm.play world (run space name)).result = .ok result ∧
    (policy.deed world.cluster).IsDone policy policy.openedTracker world.scene later result := by
  have hverdict : Policy.IsVerdict policy.validate := fun _ hfailure => by
    cases hvalid.symm.trans hfailure
  obtain ⟨later, hshows, hconcludes⟩ := concludes_play_typed clock hfresh hfound hverdict h
  obtain ⟨result, hresult, hdone⟩ := hconcludes.of_active hfound hvalid hactive
  exact ⟨later, result, hshows, hresult, hdone⟩

end PolicyPass

end RoleGrants
