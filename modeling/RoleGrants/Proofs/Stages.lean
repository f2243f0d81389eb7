import RoleGrants.Proofs.Recovery

/-! The three stages of a pass. If a role is missing the pass creates nothing. If bindings on the
whole cluster are missing it creates those, each once and in the order in which their roles are
named. Otherwise it creates the missing bindings in namespaces, and its outcome says whether each
permission chose some. -/

namespace RoleGrants

open DryRun Pass

instance (cluster : Cluster) (place : Place) : Decidable (cluster.Holds place) :=
  decidable_of_iff _ Cluster.holds_iff.symm

namespace Policy

variable {policy : Policy} {stored : List Binding} {roles : List Value}

/-! ### Missing bindings on the whole cluster -/

theorem place?_onCluster_eq {role other : Value} (hrole : role.IsText) (hother : other.IsText) :
    (Binding.onCluster role policy).place? = (Binding.onCluster other policy).place? ↔
      role = other := by
  constructor
  · intro h
    rw [Binding.isAt_iff.mp (policy.onCluster_isAt role),
      Binding.isAt_iff.mp (policy.onCluster_isAt other)] at h
    exact Binding.role_eq_of_nameOf hrole hother (congrArg Place.name (Option.some.inj h))
  · rintro rfl
    rfl

/-- When there is the binding of a role, the same role need not be looked at again. -/
theorem missing_onCluster_skip {first : Value} (hfirst : first.IsText)
    (htexts : ∀ role ∈ roles, role.IsText)
    (hcovered : Binding.isCovered stored (.onCluster first policy) = true) :
    Binding.missing stored (roles.map (.onCluster · policy)) =
      Binding.missing stored
        ((roles.filter fun role => !role == first).map (.onCluster · policy)) := by
  have hkept : (roles.filter fun role => !role == first).map (Binding.onCluster · policy) =
      (roles.map (.onCluster · policy)).filter fun binding =>
        binding.place? != (Binding.onCluster first policy).place? := by
    rw [List.filter_map]
    refine congrArg _ (List.filter_congr fun role hmem => ?_)
    obtain ⟨text, rfl⟩ := hfirst
    rw [Bool.eq_iff_iff, Bool.not_eq_true', ← Bool.not_eq_true, Value.beq_text_iff,
      Function.comp_apply, bne_iff_ne, Ne, place?_onCluster_eq (htexts role hmem) ⟨text, rfl⟩]
  rw [hkept, Binding.missing_filter fun binding _ hdropped => ?_]
  rw [bne_eq_false_iff_eq] at hdropped
  unfold Binding.isCovered at hcovered ⊢
  rwa [hdropped]

/-- Of roles that are texts, each that has no binding on the whole cluster has one to be created. -/
theorem missing_onCluster {stored : List Binding} {roles : List Value}
    (htexts : ∀ role ∈ roles, role.IsText) :
    Binding.missing stored (roles.map (.onCluster · policy)) =
      ((Value.distinct roles).filter fun role =>
        !Binding.isCovered stored (.onCluster role policy)).map (.onCluster · policy) := by
  match roles with
  | [] => rfl
  | first :: rest =>
    have hfirst := htexts first List.mem_cons_self
    have hrest : ∀ role ∈ rest.filter (fun role => !role == first), role.IsText :=
      fun role hmem => htexts role (List.mem_cons_of_mem _ (List.mem_filter.mp hmem).1)
    rw [List.map_cons, Binding.missing, Value.distinct, List.eraseDups_cons, List.filter_cons]
    split
    · next hcovered =>
      rw [if_neg (by simp [hcovered]), missing_onCluster_skip hfirst
        (fun role hmem => htexts role (List.mem_cons_of_mem _ hmem)) hcovered]
      exact missing_onCluster hrest
    · next hfree =>
      rw [if_pos (by simp [hfree]), List.map_cons, missing_onCluster_skip hfirst
        (fun role hmem => htexts role (List.mem_cons_of_mem _ hmem))
        (Binding.isCovered_of_mem (List.mem_append_right _ List.mem_cons_self)),
        missing_onCluster hrest]
      refine congrArg (fun others : List Value => Binding.onCluster first policy ::
        others.map (.onCluster · policy)) ?_
      refine List.filter_congr fun role hmem => ?_
      -- The binding of the first role stands elsewhere than those of the roles after it.
      have hmem := mem_of_mem_distinct hmem
      have hne : role ≠ first := by
        rintro rfl
        obtain ⟨text, rfl⟩ := hfirst
        have hself : (Value.text text == .text text) = true := Value.text_beq_iff.mpr rfl
        have hother := (List.mem_filter.mp hmem).2
        rw [hself] at hother
        cases hother
      have hapart :
          Binding.isCovered [.onCluster first policy] (.onCluster role policy) = false := by
        simpa [Binding.isCovered, place?_onCluster_eq hfirst (hrest role hmem)] using hne.symm
      rw [Binding.isCovered_append, hapart, Bool.or_false]
termination_by roles.length
decreasing_by
  all_goals
    have hshort := List.length_filter_le (fun role => !role == first) rest
    simp only [List.length_cons]
    omega

end Policy

namespace PolicyPass

variable {policy : Policy} {cluster later : Cluster} {result : Result}

/-- What a pass creates for a policy of a cluster and how it ends, by the stage that it comes to. -/
structure Stage (policy : Policy) (cluster later : Cluster) (result : Result) : Prop where
  grown : later.bindings = cluster.bindings ++ result.created
  rolesMissing : (∃ role ∈ policy.clusterPermissions ++ policy.permissionRoles,
      role ∉ cluster.roles) → result.outcome = .rolesMissing ∧ result.created = []
  onCluster : (∀ role ∈ policy.clusterPermissions ++ policy.permissionRoles, role ∈ cluster.roles) →
    (∃ role ∈ policy.clusterPermissions, ¬ cluster.Holds (policy.clusterPlace role)) →
    result.created = ((Value.distinct policy.clusterPermissions).filter fun role =>
        ¬ cluster.Holds (policy.clusterPlace role)).map (.onCluster · policy) ∧
      (result.requeue = true ↔ policy.permissions ≠ [])
  inNamespaces :
    (∀ role ∈ policy.clusterPermissions ++ policy.permissionRoles, role ∈ cluster.roles) →
    (∀ role ∈ policy.clusterPermissions, cluster.Holds (policy.clusterPlace role)) →
    result.created = Binding.missing cluster.bindings
        (policy.wantedIn (validNames cluster.namespaces)) ∧
      (result.outcome = .roleBindingsCreated ↔ policy.permissions ≠ [] ∧ IsPlaced policy cluster) ∧
      (result.outcome = .incomplete ↔ ¬ IsPlaced policy cluster)

/-! ### Results -/

theorem missing_wantedOnCluster (htexts : ∀ role ∈ policy.clusterPermissions, role.IsText) :
    Binding.missing cluster.bindings policy.wantedOnCluster =
      ((Value.distinct policy.clusterPermissions).filter fun role =>
        ¬ cluster.Holds (policy.clusterPlace role)).map (.onCluster · policy) := by
  rw [Policy.wantedOnCluster, Policy.missing_onCluster htexts]
  refine congrArg _ (List.filter_congr fun role _ => ?_)
  rw [Bool.eq_iff_iff, Bool.not_eq_true', ← Bool.not_eq_true,
    Cluster.isCovered_iff (policy.onCluster_isAt role), decide_eq_true_iff]

theorem missing_wantedOnCluster_eq_nil :
    Binding.missing cluster.bindings policy.wantedOnCluster = [] ↔
      ∀ role ∈ policy.clusterPermissions, cluster.Holds (policy.clusterPlace role) := by
  rw [Binding.missing_eq_nil, Policy.wantedOnCluster, List.forall_mem_map]
  exact forall₂_congr fun role _ => Cluster.isCovered_iff (policy.onCluster_isAt role)

theorem isPlaced_iff (htexts : ∀ space ∈ cluster.namespaces, space.name.IsText)
    (hvalid : policy.validate = .ok ()) : IsPlaced policy cluster ↔
      (policy.permissions.all fun permission =>
        (validNames cluster.namespaces).any permission.chooses) = true := by
  constructor
  · exact fun hplaced => List.all_eq_true.mpr (hplaced.any hvalid)
  · intro hall permission hmem
    obtain ⟨name, hname, hchooses⟩ := List.any_eq_true.mp (List.all_eq_true.mp hall permission hmem)
    obtain ⟨space, hspace, hspaceValid, rfl⟩ := mem_validNames.mp hname
    obtain ⟨text, htext⟩ := htexts space hspace
    rw [htext, Policy.chooses_iff hvalid hmem] at hchooses
    exact ⟨space, hspace, text, htext, hspaceValid, hchooses⟩

theorem deed_of_missing (htyped : policy.IsTyped cluster)
    (hmissing : ∃ role ∈ policy.clusterPermissions ++ policy.permissionRoles,
      role ∉ cluster.roles) : (policy.deed cluster).result = { outcome := .rolesMissing } := by
  obtain ⟨role, hmem, habsent⟩ := hmissing
  have hdeed : policy.deed cluster = .onMissing _ _ := if_pos <| Bool.of_not_eq_false fun hnone =>
    habsent ((lackingRoles_isEmpty_both htyped).mp hnone role hmem)
  rw [hdeed]
  rfl

/-- How a deed in namespaces ends. -/
theorem result_deedInNamespaces (htyped : policy.IsTyped cluster)
    (hvalid : policy.validate = .ok ()) :
    (policy.deedInNamespaces cluster).result.created =
        Binding.missing cluster.bindings (policy.wantedIn (validNames cluster.namespaces)) ∧
      ((policy.deedInNamespaces cluster).result.outcome = .roleBindingsCreated ↔
        IsPlaced policy cluster) ∧
      ((policy.deedInNamespaces cluster).result.outcome = .incomplete ↔
        ¬ IsPlaced policy cluster) := by
  rw [isPlaced_iff htyped.spaces hvalid]
  unfold Policy.deedInNamespaces
  dsimp only
  split
  · next hall => exact ⟨rfl, iff_of_true rfl hall, iff_of_false nofun fun hnot => hnot hall⟩
  · next hsome => exact ⟨rfl, iff_of_false nofun hsome, iff_of_true rfl hsome⟩

/-- A deed comes to one of the three stages. -/
theorem stage_deed (htyped : policy.IsTyped cluster) (hvalid : policy.validate = .ok ())
    (hgrown : later.bindings = cluster.bindings ++ (policy.deed cluster).result.created) :
    Stage policy cluster later (policy.deed cluster).result where
  grown := hgrown
  rolesMissing hmissing := by
    rw [deed_of_missing htyped hmissing]
    exact ⟨rfl, rfl⟩
  onCluster hroles hfree := by
    obtain ⟨role, hmem, hfree⟩ := hfree
    have hsome : Binding.missing cluster.bindings policy.wantedOnCluster ≠ [] := fun hnone =>
      hfree (missing_wantedOnCluster_eq_nil.mp hnone role hmem)
    have hdeed : policy.deedOnCluster cluster = _ := if_pos (by simp [hsome])
    rw [deed_of_roles htyped hroles, if_pos (by simp [List.ne_nil_of_mem hmem]), hdeed,
      ← missing_wantedOnCluster htyped.textual.clusterPermissions]
    exact ⟨rfl, by simp⟩
  inNamespaces hroles hheld := by
    have hnone := missing_wantedOnCluster_eq_nil.mpr hheld
    rw [deed_of_roles htyped hroles]
    by_cases hempty : policy.permissions = []
    · have hplaced : IsPlaced policy cluster := by
        intro permission hmem
        rw [hempty] at hmem
        exact absurd hmem List.not_mem_nil
      have hwanted : policy.wantedIn (validNames cluster.namespaces) = [] := by
        simp [Policy.wantedIn, hempty]
      have hneither : ∀ outcome : Outcome, outcome ≠ .roleBindingsCreated →
          outcome ≠ .incomplete →
          (outcome = .roleBindingsCreated ↔ policy.permissions ≠ [] ∧ IsPlaced policy cluster) ∧
            (outcome = .incomplete ↔ ¬ IsPlaced policy cluster) := fun _ hcreated hincomplete =>
        ⟨iff_of_false hcreated fun h => h.1 hempty,
          iff_of_false hincomplete fun hnot => hnot hplaced⟩
      rw [hwanted]
      split
      · have hdeed : policy.deedOnCluster cluster = _ := if_pos (by simp [hempty])
        rw [hdeed]
        exact ⟨hnone, hneither .clusterBindingsCreated (by decide) (by decide)⟩
      · rw [if_neg (by simp [hempty])]
        exact ⟨rfl, hneither .upToDate (by decide) (by decide)⟩
    · have hresult : ∀ deed : Deed, deed.result = (policy.deedInNamespaces cluster).result →
          deed.result.created = Binding.missing cluster.bindings
              (policy.wantedIn (validNames cluster.namespaces)) ∧
            (deed.result.outcome = .roleBindingsCreated ↔
              policy.permissions ≠ [] ∧ IsPlaced policy cluster) ∧
            (deed.result.outcome = .incomplete ↔ ¬ IsPlaced policy cluster) := by
        intro deed heq
        obtain ⟨hcreated, hplaced, hincomplete⟩ := result_deedInNamespaces htyped hvalid
        rw [heq]
        exact ⟨hcreated, hplaced.trans (and_iff_right hempty).symm, hincomplete⟩
      refine hresult _ ?_
      split
      · have hdeed : policy.deedOnCluster cluster = _ := if_neg (by simp [hnone, hempty])
        rw [hdeed]
        rfl
      · rw [if_pos (by simp [hempty])]

/-- A pass over a stored policy that is valid and not being deleted comes to one of three stages,
and creates exactly what is missing at that stage. -/
theorem stage_play (clock : Clock) {world : World} {space name : Value}
    (hfresh : world.isStale = false) (hfound : world.cluster.getPolicy space name = .ok policy)
    (hvalid : policy.validate = .ok ()) (hactive : policy.isDeleting = false)
    (htyped : policy.IsTyped world.cluster) :
    ∃ result, (clock.calm.play world (run space name)).result = .ok result ∧
      Stage policy world.cluster (clock.calm.play world (run space name)).world.cluster result := by
  obtain ⟨later, result, hshows, hresult, rfl, -, given, after, -, -, hlater⟩ :=
    done_play clock hfresh hfound hvalid hactive htyped
  refine ⟨_, hresult, stage_deed htyped hvalid ?_⟩
  rw [hshows.cluster, hlater, Cluster.bindings_noted]
  rfl

/-- No binding on the whole cluster is there yet, so the pass creates the one for the only role. -/
theorem stage_play_web :
    (World.web.isStale = false ∧
      World.web.cluster.getPolicy Policy.editor.space Policy.editor.name = .ok .editor ∧
      Policy.editor.validate = .ok () ∧ Policy.editor.isDeleting = false ∧
      Policy.editor.IsTyped World.web.cluster) ∧
    ∃ result, (Course.unwritable.toClock.calm.play .web
        (run Policy.editor.space Policy.editor.name)).result = .ok result ∧
      result.created = [.onCluster (.text "view") .editor] ∧ result.requeue = true := by
  have hservable := Policy.editor_isServable
  have hfresh : World.web.isStale = false := rfl
  have hfound : World.web.cluster.getPolicy Policy.editor.space Policy.editor.name =
      .ok .editor :=
    Cluster.getPolicy_eq.mpr ⟨rfl, List.find?_cons_of_pos (by decide +kernel)⟩
  have htyped : Policy.editor.IsTyped World.web.cluster :=
    ⟨hservable.textual, hservable.worded, hservable.spaces, hservable.keys⟩
  obtain ⟨result, hresult, hstage⟩ := stage_play Course.unwritable.toClock hfresh hfound
    hservable.valid hservable.active htyped
  have hfree : ¬ World.web.cluster.Holds (Policy.editor.clusterPlace (.text "view")) := by
    rintro ⟨_, hmem, -⟩
    exact absurd hmem List.not_mem_nil
  obtain ⟨hcreated, hrequeue⟩ := hstage.onCluster hservable.roles
    ⟨_, List.mem_singleton_self _, hfree⟩
  refine ⟨⟨hfresh, hfound, hservable.valid, hservable.active, htyped⟩, result, hresult, ?_, ?_⟩
  · have hdistinct : Value.distinct Policy.editor.clusterPermissions = [.text "view"] := rfl
    rw [hcreated, hdistinct, List.filter_cons_of_pos (by simpa using hfree)]
    rfl
  · exact hrequeue.mpr (List.cons_ne_nil _ _)

end PolicyPass

end RoleGrants
