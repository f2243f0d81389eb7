import RoleGrants.Proofs.Locality

/-! What the deletion of a policy releases. A gauge with the key of a policy is that of a series
that some version of the policy named, and of a series of texts the sink knows that it is recorded.
The deletion clears the series that the last version names, so what is left under the key are series
that only earlier versions named; they are never cleared. -/

namespace RoleGrants

open DryRun

/-! ### Series of texts -/

def Series.IsTextual (series : Series) : Prop := ∀ part ∈ series.parts, part.IsText

theorem Series.eq_of_same {one other : Series} (h : one.IsTextual) (hsame : one.same other = true) :
    one = other := by
  obtain ⟨subject, policy, role, scope⟩ := one
  simp only [IsTextual, parts, List.forall_mem_cons] at h
  obtain ⟨⟨subject, rfl⟩, ⟨policy, rfl⟩, ⟨role, rfl⟩, ⟨scope, rfl⟩, -⟩ := h
  simp only [same, parts, Value.sameItems, Bool.and_eq_true] at hsame
  obtain ⟨hsubject, hpolicy, hrole, hscope, -⟩ := hsame
  have hsubject := Value.text_beq_iff.mp hsubject
  have hpolicy := Value.text_beq_iff.mp hpolicy
  have hrole := Value.text_beq_iff.mp hrole
  have hscope := Value.text_beq_iff.mp hscope
  cases other
  simp_all

theorem Series.same_self {series : Series} (h : series.IsTextual) : series.same series = true := by
  obtain ⟨subject, policy, role, scope⟩ := series
  simp only [IsTextual, parts, List.forall_mem_cons] at h
  obtain ⟨⟨subject, rfl⟩, ⟨policy, rfl⟩, ⟨role, rfl⟩, ⟨scope, rfl⟩, -⟩ := h
  have hsame : ∀ text, Value.same (.text text) (.text text) = true :=
    fun _ => Value.text_beq_iff.mpr rfl
  simp only [same, parts, Value.sameItems, hsame, Bool.and_self]

theorem Series.IsTextual.requireKeys {series : Series} (h : series.IsTextual) :
    Value.requireKeys series.parts = .ok () :=
  Pass.requireKeys_texts h

theorem Value.mem_distinct {values : List Value} {value : Value} (h : value ∈ values)
    (htext : value.IsText) : value ∈ distinct values := by
  match values with
  | first :: rest =>
    rw [distinct, List.eraseDups_cons]
    rcases List.mem_cons.mp h with rfl | h
    · exact List.mem_cons_self
    · by_cases hfirst : value = first
      · exact hfirst ▸ List.mem_cons_self
      · obtain ⟨text, rfl⟩ := htext
        have hother : (!(Value.text text == first)) = true := by
          rw [Bool.not_eq_true', Bool.eq_false_iff]
          exact fun hsame => hfirst (text_beq_iff.mp hsame).symm
        exact List.mem_cons_of_mem _ (mem_distinct (List.mem_filter.mpr ⟨h, hother⟩) ⟨text, rfl⟩)
termination_by values.length
decreasing_by
  have hshort := List.length_filter_le (fun other => !other == first) rest
  simp only [List.length_cons]
  omega

theorem Policy.IsTextual.series {policy : Policy} (h : policy.IsTextual) :
    ∀ series ∈ policy.series, series.IsTextual := by
  have hseries : ∀ (role : Value) (scope : String), role.IsText →
      (Pass.series policy scope role).IsTextual := by
    intro role scope hrole
    simp only [Series.IsTextual, Series.parts, Pass.series, List.forall_mem_cons]
    exact ⟨h.subjectName, ⟨_, rfl⟩, hrole, ⟨_, rfl⟩, fun _ hnone => absurd hnone List.not_mem_nil⟩
  intro series hmem
  rcases List.mem_append.mp hmem with hmem | hmem
  · obtain ⟨role, hrole, rfl⟩ := List.mem_map.mp hmem
    exact hseries role _ (h.clusterPermissions role hrole)
  · obtain ⟨role, hrole, rfl⟩ := List.mem_map.mp hmem
    exact hseries role _ (h.permissionRoles role hrole)

/-! ### What the gauges of a key stand for -/

/-- Whether each gauge with the key of a policy is that of a named series, which is recorded if it
is made of texts. -/
def Sink.Backs (sink : Sink) (key : String) (named : Series → Prop) : Prop :=
  ∀ gauge ∈ sink.gauges, gauge.1[1]? = some key → ∃ series, named series ∧
    series.labels = gauge.1 ∧ (series.IsTextual → series ∈ sink.recorded)

namespace Sink

variable {key : String} {named : Series → Prop} {sink : Sink} {series : Series} {active : Bool}

theorem mem_setGauge {gauges : List (List String × Bool)} {labels : List String}
    {gauge : List String × Bool} (h : gauge ∈ setGauge gauges labels active) :
    gauge = (labels, active) ∨ gauge ∈ gauges := by
  induction gauges with
  | nil => exact .inl (List.mem_singleton.mp h)
  | cons first rest ih =>
    obtain ⟨other, value⟩ := first
    rw [setGauge] at h
    split at h
    · exact (List.mem_cons.mp h).imp id (List.mem_cons_of_mem _)
    · rcases List.mem_cons.mp h with rfl | h
      · exact .inr List.mem_cons_self
      · exact (ih h).imp id (List.mem_cons_of_mem _)

theorem recorded_subset : sink.recorded ⊆ (sink.record series active).2.recorded := by
  unfold record
  dsimp only
  split
  · exact fun _ => id
  · split
    · exact fun _ => id
    · exact List.subset_append_left ..

theorem mem_recorded (h : series.IsTextual) :
    series ∈ (sink.record series active).2.recorded := by
  unfold record
  dsimp only
  rw [h.requireKeys]
  dsimp only
  split
  · next hany =>
    obtain ⟨other, hmem, hsame⟩ := List.any_eq_true.mp hany
    exact Series.eq_of_same h hsame ▸ hmem
  · exact List.mem_append_right _ (List.mem_singleton_self _)

theorem Backs.record (h : sink.Backs key named)
    (hnamed : series.labels[1]? = some key → named series) :
    (sink.record series active).2.Backs key named := by
  intro gauge hgauge hkey
  rw [record_gauges] at hgauge
  rcases mem_setGauge hgauge with rfl | hgauge
  · exact ⟨series, hnamed hkey, rfl, mem_recorded⟩
  · obtain ⟨other, hother, hlabels, hrecorded⟩ := h gauge hgauge hkey
    exact ⟨other, hother, hlabels, fun htextual => recorded_subset (hrecorded htextual)⟩

/-- A series is cleared with its gauge. -/
theorem Backs.clear (h : sink.Backs key named) : (sink.clear series).2.Backs key named := by
  unfold Sink.clear
  split
  · exact h
  · split
    · intro gauge hgauge hkey
      obtain ⟨hgauge, hother⟩ := List.mem_filter.mp hgauge
      obtain ⟨other, hnamed, hlabels, hrecorded⟩ := h gauge hgauge hkey
      refine ⟨other, hnamed, hlabels, fun htextual =>
        List.mem_filter.mpr ⟨hrecorded htextual, ?_⟩⟩
      rw [Bool.not_eq_true', Bool.eq_false_iff]
      intro hsame
      cases Series.eq_of_same htextual hsame
      exact bne_iff_ne.mp hother hlabels.symm
    · exact h

theorem clear_subset : (sink.clear series).2.recorded ⊆ sink.recorded := by
  unfold Sink.clear
  split
  · exact fun _ => id
  · split
    · exact fun _ hmem => (List.mem_filter.mp hmem).1
    · exact fun _ => id

theorem not_mem_clear (h : series.IsTextual) : series ∉ (sink.clear series).2.recorded := by
  unfold Sink.clear
  rw [h.requireKeys]
  dsimp only
  split
  · intro hmem
    have hother := (List.mem_filter.mp hmem).2
    rw [Series.same_self h] at hother
    cases hother
  · next hnone =>
    exact fun hmem => hnone (List.any_eq_true.mpr ⟨series, hmem, Series.same_self h⟩)

/-- The sink without some series. -/
def clearAll (sink : Sink) (cleared : List Series) : Sink :=
  cleared.foldl (fun sink series => (sink.clear series).2) sink

theorem clearAll_append (sink : Sink) (first second : List Series) :
    sink.clearAll (first ++ second) = (sink.clearAll first).clearAll second :=
  List.foldl_append ..

theorem Backs.clearAll {cleared : List Series} (h : sink.Backs key named) :
    (sink.clearAll cleared).Backs key named := by
  induction cleared generalizing sink with
  | nil => exact h
  | cons series rest ih => exact ih h.clear

theorem clearAll_subset {cleared : List Series} :
    (sink.clearAll cleared).recorded ⊆ sink.recorded := by
  induction cleared generalizing sink with
  | nil => exact fun _ => id
  | cons series rest ih => exact fun _ hmem => clear_subset (ih hmem)

theorem not_mem_clearAll {cleared : List Series} (h : series ∈ cleared)
    (htextual : series.IsTextual) : series ∉ (sink.clearAll cleared).recorded := by
  induction cleared generalizing sink with
  | nil => exact absurd h List.not_mem_nil
  | cons first rest ih =>
    rcases List.mem_cons.mp h with rfl | h
    · exact fun hmem => not_mem_clear htextual (clearAll_subset hmem)
    · exact ih h

end Sink

/-! ### The run of a deletion -/

namespace Pass

open Program

/-- A report that clears a series fails only if a part of it can be no key. -/
theorem run_clear (world : World) (series : Series) :
    ((world.run (clear series)).1 = .ok () ↔ Value.requireKeys series.parts = .ok ()) ∧
      (world.run (clear series)).2.sink = (world.sink.clear series).2 := by
  have hrun : world.run (clear series) = world.report (.clear series) := rfl
  rw [hrun, world.report_result]
  refine ⟨Iff.rfl, ?_⟩
  unfold World.report
  dsimp only
  split <;> next heq => simp [heq]

theorem run_clearAll (world : World) (policy : Policy) (scope : String) (roles : List Value) :
    ∃ cleared,
      (world.run (forEach roles fun role => clear (series policy scope role))).2.sink =
        world.sink.clearAll cleared ∧
      ((∀ role ∈ roles, (series policy scope role).IsTextual) →
        (world.run (forEach roles fun role => clear (series policy scope role))).1 = .ok () ∧
          cleared = roles.map (series policy scope)) := by
  induction roles generalizing world with
  | nil => exact ⟨[], rfl, fun _ => ⟨rfl, rfl⟩⟩
  | cons role rest ih =>
    obtain ⟨hkeys, hsink⟩ := run_clear world (series policy scope role)
    have hrun := world.run_bind (clear (series policy scope role)) fun _ =>
      forEach rest fun role => clear (series policy scope role)
    rw [forEach, bind_eq, hrun]
    generalize world.run (clear (series policy scope role)) = ended at hkeys hsink
    obtain ⟨result, after⟩ := ended
    cases result with
    | error failure =>
      refine ⟨[series policy scope role], hsink, fun htextual => ?_⟩
      cases hkeys.mpr (htextual role List.mem_cons_self).requireKeys
    | ok value =>
      obtain ⟨cleared, hrest, hall⟩ := ih after
      refine ⟨series policy scope role :: cleared, ?_, fun htextual => ?_⟩
      · rw [hrest, hsink]
        rfl
      · obtain ⟨hok, rfl⟩ := hall fun other hmem => htextual other (List.mem_cons_of_mem _ hmem)
        exact ⟨hok, rfl⟩

theorem run_releaseGrants (world : World) (policy : Policy) (scope : String) (roles : List Value) :
    ∃ cleared,
      (world.run (releaseGrants policy roles scope)).2.sink = world.sink.clearAll cleared ∧
      ((∀ role ∈ roles, role.IsText ∧ (series policy scope role).IsTextual) →
        (world.run (releaseGrants policy roles scope)).1 = .ok () ∧
          ∀ role ∈ roles, series policy scope role ∈ cleared) := by
  obtain ⟨cleared, hsink, hall⟩ := run_clearAll world policy scope (Value.distinct roles)
  unfold releaseGrants
  rw [bind_eq, World.run_bind]
  cases hkeys : Value.requireKeys roles with
  | error failure =>
    refine ⟨[], rfl, fun htextual => ?_⟩
    rw [requireKeys_texts fun role hmem => (htextual role hmem).1] at hkeys
    cases hkeys
  | ok value =>
    refine ⟨cleared, hsink, fun htextual => ?_⟩
    obtain ⟨hok, rfl⟩ := hall fun role hmem => (htextual role (mem_of_mem_distinct hmem)).2
    refine ⟨hok, fun role hmem => List.mem_map_of_mem ?_⟩
    exact Value.mem_distinct hmem (htextual role hmem).1

/-- To release a policy is to clear some series, and if it is made of texts, all that it names. -/
theorem run_release (world : World) (policy : Policy) : ∃ cleared,
    (world.run (release policy)).2.sink = world.sink.clearAll cleared ∧
    (policy.IsTextual → (world.run (release policy)).1 = .ok () ∧
      ∀ series ∈ policy.series, series ∈ cleared) := by
  unfold release
  rw [bind_eq, World.run_bind]
  dsimp only [World.run, log, World.report]
  rw [bind_eq, World.run_bind]
  generalize hafter : ({ world with journal := _ } : World) = after
  have hstart : after.sink = world.sink := hafter ▸ rfl
  obtain ⟨first, hfirst, hcluster⟩ :=
    run_releaseGrants after policy clusterScope policy.clusterPermissions
  have htexts : policy.IsTextual → ∀ role ∈ policy.clusterPermissions,
      role.IsText ∧ (series policy clusterScope role).IsTextual := fun htextual role hmem =>
    ⟨htextual.clusterPermissions role hmem,
      htextual.series _ (policy.mem_series_onCluster hmem)⟩
  generalize after.run (releaseGrants policy policy.clusterPermissions clusterScope) = ended
    at hfirst hcluster
  obtain ⟨result, middle⟩ := ended
  cases result with
  | error failure =>
    refine ⟨first, hfirst.trans (hstart ▸ rfl), fun htextual => ?_⟩
    cases (hcluster (htexts htextual)).1
  | ok value =>
    obtain ⟨second, hsecond, hnamespaces⟩ :=
      run_releaseGrants middle policy namespaceScope policy.permissionRoles
    refine ⟨first ++ second, ?_, fun htextual => ?_⟩
    · rw [Sink.clearAll_append, ← hstart, ← hfirst]
      exact hsecond
    · obtain ⟨hok, hall⟩ := hnamespaces fun role hmem =>
        ⟨htextual.permissionRoles role hmem,
          htextual.series _ (policy.mem_series_inNamespaces hmem)⟩
      refine ⟨hok, fun series hmem => ?_⟩
      rcases List.mem_append.mp hmem with hmem | hmem
      · obtain ⟨role, hrole, rfl⟩ := List.mem_map.mp hmem
        exact List.mem_append_left _ ((hcluster (htexts htextual)).2 role hrole)
      · obtain ⟨role, hrole, rfl⟩ := List.mem_map.mp hmem
        exact List.mem_append_right _ (hall role hrole)

end Pass

namespace Handlers

open Program

theorem run_policyDeleted (world : World) (space name body : Value) : ∃ cleared,
    (world.run (policyDeleted space name body)).2.sink = world.sink.clearAll cleared ∧
    ∀ policy, Policy.ofValue body = .ok policy → policy.IsTextual →
      (world.run (policyDeleted space name body)).1 = .ok () ∧
        ∀ series ∈ policy.series, series ∈ cleared := by
  unfold policyDeleted
  rw [bind_eq, World.run_bind]
  dsimp only [World.run, log, World.report]
  rw [bind_eq, World.run_bind]
  generalize hafter : ({ world with journal := _ } : World) = after
  have hstart : after.sink = world.sink := hafter ▸ rfl
  cases Policy.ofValue body with
  | error failure => exact ⟨[], hstart, nofun⟩
  | ok policy =>
    obtain ⟨cleared, hsink, hall⟩ := Pass.run_release after policy
    refine ⟨cleared, hsink.trans (hstart ▸ rfl), ?_⟩
    rintro _ ⟨⟩ htextual
    exact hall htextual

end Handlers

/-! ### Versions of a policy -/

/-- Whether the policies that are kept under a key name only series of a kind. -/
def Cluster.Names (cluster : Cluster) (key : String) (named : Series → Prop) : Prop :=
  ∀ policy ∈ cluster.policies, policy.key = key → ∀ series ∈ policy.series, named series

theorem Cluster.Names.of_owned {before after : Cluster} {key : String} {named : Series → Prop}
    (h : before.Names key named) (howned : after.owned = before.owned) :
    after.Names key named := by
  intro policy hmem hkey series hseries
  have howns : policy.unreported ∈ before.owned := howned ▸ List.mem_map_of_mem hmem
  obtain ⟨kept, hkept, hsame⟩ := Cluster.exists_of_mem_owned howns
  -- Neither the key of a policy nor its series depend on its conditions.
  have hkeys : kept.key = key := (congrArg Policy.key hsame).trans hkey
  have hserieses : policy.series = kept.series := (congrArg Policy.series hsame).symm
  exact h kept hkept hkeys series (hserieses ▸ hseries)

/-- A pass records only series that the policies kept at its start name. -/
theorem Occasion.backs_of_ends {occasion : Occasion} {world : World}
    {ended : Ending occasion.Answer} {key : String} {named : Series → Prop}
    (h : occasion.handler.Ends world ended) (hsink : world.sink.Backs key named)
    (hnames : world.cluster.Names key named) : ended.world.sink.Backs key named := by
  by_cases hdeleted : ∃ space name body, occasion = .policyDeleted space name body
  · obtain ⟨space, name, body, rfl⟩ := hdeleted
    obtain ⟨cleared, hcleared, -⟩ := Handlers.run_policyDeleted world space name body
    have hrun := (Handlers.onlyReports_policyDeleted space name body).run_eq h
    have hworld : (world.run (Handlers.policyDeleted space name body)).2 = ended.world :=
      congrArg Prod.snd hrun
    rw [← hworld, hcleared]
    exact hsink.clearAll
  · have hkept : ∀ policy, occasion.Concerns world.cluster.policies policy →
        policy ∈ world.cluster.policies := by
      intro policy hconcerns
      cases occasion with
      | policyChanged settings space name => exact List.mem_of_find?_eq_some hconcerns
      | policyResynced space name => exact List.mem_of_find?_eq_some hconcerns
      | policyDeleted space name body => exact absurd ⟨space, name, body, rfl⟩ hdeleted
      | namespaceChanged event name => exact hconcerns
    have htouches : ∀ series, (occasion.scope world.cluster.policies).touches series →
        series.labels[1]? = some key → named series := by
      rintro series ⟨policy, hpolicy, hmem⟩ hlabel
      rw [Policy.label_of_mem_series hmem] at hlabel
      exact hnames policy (hkept policy hpolicy) (Option.some.inj hlabel) series hmem
    have hfold : ∀ (past : List Event) (sink : Sink), sink.Backs key named →
        (∀ event ∈ past, event.IsWithin (occasion.scope world.cluster.policies)) →
        (past.foldl Sink.after sink).Backs key named := by
      intro past
      induction past with
      | nil => exact fun _ hstart _ => hstart
      | cons event rest ih =>
        intro sink hstart hpast
        refine ih _ ?_ fun other hmem => hpast other (List.mem_cons_of_mem _ hmem)
        have hevent := hpast event List.mem_cons_self
        unfold Sink.after
        split
        · exact hstart.record (htouches _ hevent)
        · exact hstart.clear
        · exact hstart
    rw [h.lives.sink]
    exact hfold _ _ hsink ((occasion.within_handler world.cluster.policies).ends h).1

theorem DryRun.World.Reaches.backs {first later : World} {key : String} {named : Series → Prop}
    (h : first.Reaches (fun _ after => after.Names key named) later)
    (hsink : first.sink.gaugesOf key = []) (hnames : first.cluster.Names key named) :
    later.sink.Backs key named ∧ later.cluster.Names key named := by
  induction h with
  | start =>
    refine ⟨fun gauge hmem hkey => ?_, hnames⟩
    have hfound : gauge ∈ first.sink.gaugesOf key :=
      List.mem_filter.mpr ⟨hmem, beq_iff_eq.mpr hkey⟩
    rw [hsink] at hfound
    cases hfound
  | handled occasion _ hended ih =>
    exact ⟨Occasion.backs_of_ends hended ih.1 ih.2, ih.2.of_owned hended.lives.leads.owned⟩
  | changed _ hchange ih => exact ⟨ih.1, hchange⟩

/-- Over every run in which policies may be edited in any way, the deletion of a policy leaves under
its key only gauges of series that a version of the policy named, but not the last; the gauges under
other keys stay as they are. -/
theorem DryRun.World.Reaches.deletion_leaves {first later : World} {last : Policy}
    {named : Series → Prop} {space name body : Value} {ended : Ending Unit}
    (h : first.Reaches (fun _ after => after.Names last.key named) later)
    (hsink : first.sink.gaugesOf last.key = []) (hnames : first.cluster.Names last.key named)
    (hbody : Policy.ofValue body = .ok last) (htextual : last.IsTextual)
    (hended : (Handlers.policyDeleted space name body).Ends later ended) :
    ended.result = .ok () ∧
    (∀ gauge ∈ ended.world.sink.gaugesOf last.key,
      ∃ series, named series ∧ series ∉ last.series ∧ series.labels = gauge.1) ∧
    ∀ key, key ≠ last.key → ended.world.sink.gaugesOf key = later.sink.gaugesOf key := by
  have hrun := (Handlers.onlyReports_policyDeleted space name body).run_eq hended
  obtain ⟨cleared, hcleared, hall⟩ := Handlers.run_policyDeleted later space name body
  obtain ⟨hok, hmem⟩ := hall last hbody htextual
  rw [hrun] at hcleared hok
  refine ⟨hok, fun gauge hgauge => ?_, fun key hkey => ?_⟩
  · obtain ⟨hgauge, hlabel⟩ := List.mem_filter.mp hgauge
    rw [hcleared] at hgauge
    obtain ⟨series, hnamed, hlabels, hrecorded⟩ :=
      (h.backs hsink hnames).1.clearAll gauge hgauge (eq_of_beq hlabel)
    refine ⟨series, hnamed, fun hlast => ?_, hlabels⟩
    have htext := htextual.series series hlast
    exact Sink.not_mem_clearAll (hmem series hlast) htext (hrecorded htext)
  · have hspares : (Occasion.policyDeleted space name body).Spares later ended.world :=
      Occasion.spares_of_ends hended
    refine hspares.gauges key ?_
    intro policy hpolicy
    have hlast : policy = last := Except.ok.inj (hpolicy.symm.trans hbody)
    exact hlast ▸ hkey.symm

/-- A policy that grants a role on the whole cluster, and the role. -/
def DryRun.World.viewed : World where
  cluster := { policies := [Policy.viewer], roles := [.text "view"] }

/-- The policy after a pass, when it no longer grants the role. -/
def Policy.narrowed : Policy :=
  { Policy.viewer with
    clusterPermissions := []
    conditions := [{
      type := .clusterRoleBindingCreated
      state := .created
      status := true
      lastTransitionTime := "1970-01-01T00:00:00Z"
      message := "Successfully created all ClusterRoleBindings"
      roles := [.text "view"] }] }

/-- The world in which a pass has granted the role, and the policy no longer does. -/
def DryRun.World.narrowed : World :=
  let granted := (Course.unwritable.calm.play .viewed
    (Handlers.policyChanged {} "team" "viewer")).world
  { granted with
    cluster := granted.cluster.changePolicy "team" "viewer" fun policy =>
      { policy with clusterPermissions := [] } }

theorem Policy.narrowed_isTextual : narrowed.IsTextual where
  name := viewer_isTextual.name
  space := viewer_isTextual.space
  subjectKind := viewer_isTextual.subjectKind
  subjectName := viewer_isTextual.subjectName
  subjectNamespace := viewer_isTextual.subjectNamespace
  clusterPermissions := fun _ hmem => absurd hmem List.not_mem_nil
  permissions := viewer_isTextual.permissions

/-- The gauge of the role that was granted stays when the policy is deleted. -/
theorem DryRun.World.Reaches.deletion_leaves_narrowed :
    let ended := Course.unwritable.calm.play .narrowed
      (Handlers.policyDeleted "team" "viewer" Policy.narrowed.toValue)
    ended.world.sink.gaugesOf "team/viewer" = [(["ann", "team/viewer", "view", "cluster"], true)] ∧
      ∀ gauge ∈ ended.world.sink.gaugesOf "team/viewer", ∃ series ∈ Policy.viewer.series,
        series ∉ Policy.narrowed.series ∧ series.labels = gauge.1 := by
  intro ended
  have hgauges : ended.world.sink.gaugesOf "team/viewer" =
      [(["ann", "team/viewer", "view", "cluster"], true)] := by
    decide +kernel
  have hviewed : World.viewed.cluster.Names "team/viewer" (· ∈ Policy.viewer.series) := by
    intro policy hmem _ series hseries
    exact List.mem_singleton.mp hmem ▸ hseries
  have hpass := Course.unwritable.calm.ends_play .viewed
    (Handlers.policyChanged {} "team" "viewer")
  have hnarrowed : World.narrowed.cluster.Names "team/viewer" (· ∈ Policy.viewer.series) := by
    intro policy hmem hkey series hseries
    obtain ⟨kept, hkept, rfl⟩ := List.mem_map.mp hmem
    have hgranted := hviewed.of_owned hpass.lives.leads.owned kept hkept
    dsimp only at hkey hseries
    split at hkey
    · next hsame =>
      rw [if_pos hsame] at hseries
      exact hgranted hkey series (List.mem_append_right _ hseries)
    · next hother =>
      rw [if_neg hother] at hseries
      exact hgranted hkey series hseries
  have hreaches : World.viewed.Reaches
      (fun _ after => after.Names Policy.narrowed.key (· ∈ Policy.viewer.series)) .narrowed :=
    .changed (.handled (.policyChanged {} "team" "viewer") .start hpass) hnarrowed
  obtain ⟨-, hleft, -⟩ := hreaches.deletion_leaves rfl hviewed rfl Policy.narrowed_isTextual
    (Course.unwritable.calm.ends_play .narrowed
      (Handlers.policyDeleted "team" "viewer" Policy.narrowed.toValue))
  exact ⟨hgauges, hleft⟩

/-- Not every gauge of a policy is released when it is deleted: its spec was edited after a pass,
and the deletion, which brings the body that is then current, leaves a gauge under its key. -/
theorem Handlers.policyDeleted_keeps_gauge : ∃ later ended,
    World.viewed.Reaches (fun before after => ∃ roles, after =
      before.changePolicy "team" "viewer" fun policy =>
        { policy with clusterPermissions := roles }) later ∧
    World.viewed.sink.gaugesOf "team/viewer" = [] ∧
    later.cluster.policies.map Policy.narrowed.same = [true] ∧
    (policyDeleted "team" "viewer" Policy.narrowed.toValue).Ends later ended ∧
    ended.world.sink.gaugesOf "team/viewer" ≠ [] := by
  have hreaches : World.viewed.Reaches (fun before after => ∃ roles, after =
      before.changePolicy "team" "viewer" fun policy =>
        { policy with clusterPermissions := roles }) .narrowed :=
    .changed (.handled (.policyChanged {} "team" "viewer") .start (Course.ends_play _ _ _))
      ⟨[], rfl⟩
  refine ⟨.narrowed, _, hreaches, rfl, ?_, Course.unwritable.calm.ends_play _ _, ?_⟩
  · decide +kernel
  · decide +kernel

end RoleGrants
