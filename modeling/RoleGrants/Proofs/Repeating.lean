import RoleGrants.Proofs.Concluding
import RoleGrants.Proofs.Standing
import RoleGrants.Proofs.Transitions

/-! A settled pass that is repeated. What a pass does about a policy depends on the roles,
namespaces and bindings of the cluster. If the pass asks for no other at once, what it would do
after it is the same deed with nothing to create, and the verdicts in it are those on which
conditions stand by then. So the second pass ends as the first and leaves everything as it is,
whatever its clock shows. -/

namespace RoleGrants

open DryRun Pass

theorem PlainVerdicts.onMissing (onCluster inNamespaces : List Value) :
    PlainVerdicts (PolicyPass.Deed.onMissing onCluster inNamespaces).verdicts := by
  have hfirst := PlainVerdicts.lackings .clusterRoleBindingCreated onCluster
  have hsecond := PlainVerdicts.lackings .roleBindingCreated inNamespaces
  refine ⟨List.pairwise_append.mpr ⟨hfirst.types, hsecond.types, fun one hone other hother => ?_⟩,
    fun verdict hmem => ?_, fun verdict hmem => ?_⟩
  · rw [(eq_of_mem_lackings hone).2, (eq_of_mem_lackings hother).2]
    exact ConditionType.noConfusion
  · exact (List.mem_append.mp hmem).elim (hfirst.texts verdict) (hsecond.texts verdict)
  · exact (List.mem_append.mp hmem).elim (hfirst.mended verdict) (hsecond.mended verdict)

namespace PolicyPass

/-- The result of a pass, with nothing created. -/
def Result.again (result : Result) : Result := { result with created := [] }

/-- Whether a pass ended so that no other should follow at once: it asks for none, or it refused the
policy. -/
def IsSettled : Except Failure Result → Prop
  | .ok result => result.requeue = false
  | .error failure => failure.IsBreach

def Deed.again (deed : Deed) : Deed := { deed with result := deed.result.again }

end PolicyPass

namespace Policy

variable {policy : Policy} {cluster : Cluster}

open PolicyPass

/-! ### The deed -/

theorem plainVerdicts_deedInNamespaces (policy : Policy) (cluster : Cluster) :
    PlainVerdicts (policy.deedInNamespaces cluster).verdicts ∧
      ∀ verdict ∈ (policy.deedInNamespaces cluster).verdicts,
        verdict.type = .roleBindingCreated := by
  unfold deedInNamespaces
  dsimp only
  split
  · refine ⟨PlainVerdicts.nil.consGranted fun _ hmem => absurd hmem List.not_mem_nil, ?_⟩
    exact fun verdict hmem => List.mem_singleton.mp hmem ▸ rfl
  · exact ⟨.nil, fun _ hmem => absurd hmem List.not_mem_nil⟩

theorem plainVerdicts_deed (policy : Policy) (cluster : Cluster) :
    PlainVerdicts (policy.deed cluster).verdicts := by
  unfold deed
  dsimp only
  split
  · exact .onMissing _ _
  · split
    · unfold deedOnCluster
      dsimp only
      split
      · exact PlainVerdicts.nil.consGranted fun _ hmem => absurd hmem List.not_mem_nil
      · obtain ⟨hplain, htypes⟩ := plainVerdicts_deedInNamespaces policy cluster
        refine hplain.consGranted fun other hmem => ?_
        rw [htypes other hmem]
        decide
    · split
      · exact (plainVerdicts_deedInNamespaces policy cluster).1
      · exact .nil

/-- What a deed does depends on the roles, namespaces and bindings of the cluster. -/
theorem deed_congr {other : Cluster} (hroles : other.roles = cluster.roles)
    (hnamespaces : other.namespaces = cluster.namespaces)
    (hbindings : other.bindings = cluster.bindings) : policy.deed other = policy.deed cluster := by
  unfold deed deedOnCluster deedInNamespaces
  rw [hroles, hnamespaces, hbindings]

theorem deed_conditions (policy : Policy) (cluster : Cluster) (conditions : List Condition) :
    { policy with conditions }.deed cluster = policy.deed cluster := rfl

theorem deed_noted {isSure : Bool} {tracker : Tracker} {other : Policy} :
    policy.deed (cluster.noted isSure other tracker) = policy.deed cluster :=
  deed_congr Cluster.roles_noted Cluster.namespaces_noted Cluster.bindings_noted

/-- When what a deed creates is there, the deed that is left in namespaces creates nothing. -/
theorem deedInNamespaces_extend (policy : Policy) (cluster : Cluster) :
    policy.deedInNamespaces (cluster.extend (policy.deedInNamespaces cluster).result.created) =
      (policy.deedInNamespaces cluster).again := by
  have hcreated : (policy.deedInNamespaces cluster).result.created =
      Binding.missing cluster.bindings (policy.wantedIn (validNames cluster.namespaces)) := by
    unfold deedInNamespaces
    dsimp only
    split <;> rfl
  have hnone := Binding.missing_fill cluster.bindings
    (policy.wantedIn (validNames cluster.namespaces))
  rw [hcreated]
  unfold deedInNamespaces
  dsimp only [Cluster.extend]
  rw [hnone]
  split <;> rfl

theorem deedOnCluster_extend (hrequeue : (policy.deedOnCluster cluster).result.requeue = false) :
    policy.deedOnCluster (cluster.extend (policy.deedOnCluster cluster).result.created) =
      (policy.deedOnCluster cluster).again := by
  by_cases hlast : (!(Binding.missing cluster.bindings policy.wantedOnCluster).isEmpty ||
      policy.permissions.isEmpty) = true
  · have hdeed : policy.deedOnCluster cluster = _ := if_pos hlast
    rw [hdeed] at hrequeue ⊢
    have hnone : policy.permissions.isEmpty = true := by simpa using hrequeue
    have hheld := Binding.missing_fill cluster.bindings policy.wantedOnCluster
    unfold deedOnCluster
    dsimp only [Cluster.extend]
    rw [hheld, if_pos (by simp [hnone])]
    rfl
  · have hdeed : policy.deedOnCluster cluster = _ := if_neg hlast
    rw [hdeed]
    obtain ⟨hempty, hsome⟩ : Binding.missing cluster.bindings policy.wantedOnCluster = [] ∧
        policy.permissions.isEmpty = false := by simpa using hlast
    have hheld :=
      Binding.missing_append_eq_nil hempty (policy.deedInNamespaces cluster).result.created
    have hnext : policy.deedOnCluster
        (cluster.extend (policy.deedInNamespaces cluster).result.created) = _ :=
      if_neg (by simp [hheld, hsome])
    refine hnext.trans ?_
    rw [deedInNamespaces_extend]
    rfl

/-- After a deed that asks for no other pass the same deed is left, with nothing to create. -/
theorem deed_extend (hrequeue : (policy.deed cluster).result.requeue = false) :
    policy.deed (cluster.extend (policy.deed cluster).result.created) =
      (policy.deed cluster).again := by
  by_cases hmissing : (!(lackingRoles policy.clusterPermissions cluster.roles).isEmpty ||
      !(lackingRoles policy.permissionRoles cluster.roles).isEmpty) = true
  · have hdeed : ∀ new, policy.deed (cluster.extend new) = .onMissing _ _ :=
      fun new => if_pos hmissing
    have hnow : policy.deed cluster = .onMissing _ _ := if_pos hmissing
    rw [hdeed, hnow]
    rfl
  · have hdeed : ∀ new, policy.deed (cluster.extend new) =
        if !policy.clusterPermissions.isEmpty then policy.deedOnCluster (cluster.extend new)
        else if !policy.permissions.isEmpty then policy.deedInNamespaces (cluster.extend new)
        else { result := { outcome := .upToDate }, isSure := false } := fun new => if_neg hmissing
    have hnow := hdeed []
    rw [Cluster.extend_nil] at hnow
    rw [hdeed]
    rw [hnow] at hrequeue ⊢
    split
    · next hcluster =>
      rw [if_pos hcluster] at hrequeue
      exact deedOnCluster_extend hrequeue
    · split
      · exact deedInNamespaces_extend policy cluster
      · rfl

/-! ### The conditions -/

variable {given : List (Verdict × Int)} {after : Tracker}

/-- Verdicts by which no condition has changed found conditions that said as much. -/
theorem exists_of_unchanged (hplain : PlainVerdicts (given.map Prod.fst))
    (h : policy.openedTracker.replay given = .ok after) (hsame : after.changed = false) :
    ∀ verdict ∈ given.map Prod.fst, ∃ found,
      policy.openedTracker.get? verdict.type = some found ∧ found.Echoes verdict := by
  intro verdict hmem
  obtain ⟨found, hfound, hechoes⟩ :=
    Tracker.exists_echo h hsame hplain.eq_of_type hmem (hplain.texts verdict hmem)
  -- The message tells of no breach, so the condition was not dropped at the start.
  have hkept : found ∈ policy.openedTracker.current := by
    refine List.mem_filter.mpr ⟨hfound, ?_⟩
    have hmessage : found.message = verdict.condition.message := hechoes.message
    rw [Condition.tellsOfBreach_congr hmessage, hplain.mended verdict hmem]
    rfl
  refine ⟨found, ?_, hechoes⟩
  rw [← hechoes.type]
  exact Tracker.get?_of_mem (Tracker.isTidy_tidy _).types hkept

/-- What some verdicts have made of the conditions of a policy stays when they are given again. -/
theorem noted_again {space name : Value} {isSure : Bool} (hopen : policy.IsOpen)
    (hplain : PlainVerdicts (given.map Prod.fst))
    (hreplay : policy.openedTracker.replay given = .ok after)
    (hfound : cluster.getPolicy space name = .ok policy) :
    ∃ conditions, (cluster.noted isSure policy after).getPolicy space name =
        .ok { policy with conditions } ∧ { policy with conditions }.IsOpen ∧
      ∀ more last, more.map Prod.fst = given.map Prod.fst →
        { policy with conditions }.openedTracker.replay more = .ok last →
        (cluster.noted isSure policy after).noted isSure { policy with conditions } last =
          cluster.noted isSure policy after := by
  by_cases hwritten : (isSure || after.changed) = true
  · have hnoted : cluster.noted isSure policy after = cluster.report policy after.current :=
      if_pos hwritten
    have htidy : Tracker.IsTidy after.current :=
      Tracker.isTidy_replay hreplay (Tracker.isTidy_tidy _) hplain.mended
    have hopened : { policy with conditions := after.current }.openedTracker =
        ⟨after.current, after.current⟩ := by
      rw [openedTracker, htidy.tidy_eq, Tracker.firstOfType_eq htidy.types]
    refine ⟨after.current, ?_, fun condition hmem => ?_, fun more last hmore hlast => ?_⟩
    · rw [hnoted]
      exact Cluster.getPolicy_report hfound
    · rcases Tracker.mem_replay hreplay (Tracker.mem_of_mem_firstOfType hmem) with
        hmem | ⟨verdict, hverdict, htold⟩
      · exact hopen condition (List.mem_filter.mp hmem).1
      · exact htold ▸ hplain.texts verdict.1 (List.mem_map_of_mem hverdict)
    · rw [hopened] at hlast
      rw [hnoted, Tracker.replay_again hreplay htidy.types hplain.eq_of_type hmore hlast]
      unfold Cluster.noted
      split
      · exact Cluster.report_again
      · rfl
  · have hnoted : cluster.noted isSure policy after = cluster := if_neg hwritten
    rw [Bool.or_eq_true, not_or, Bool.not_eq_true, Bool.not_eq_true] at hwritten
    obtain ⟨rfl, hsame⟩ := hwritten
    rw [hnoted]
    refine ⟨policy.conditions, hfound, hopen, fun more last hmore hlast => ?_⟩
    have hfounds : ∀ verdict ∈ given.map Prod.fst, ∃ found,
        policy.openedTracker.get? verdict.type = some found ∧ found.status = verdict.status := by
      intro verdict hmem
      obtain ⟨found, hget, hechoes⟩ := exists_of_unchanged hplain hreplay hsame verdict hmem
      exact ⟨found, hget, hechoes.status⟩
    have hagain := Tracker.replay_timeless hplain.types hfounds hmore.symm
    have hlast : policy.openedTracker.replay more = .ok last := hlast
    rw [← hagain, hreplay] at hlast
    cases hlast
    exact hnoted

end Policy

namespace PolicyPass

variable {scene later next last : Scene} {space name : Value} {policy : Policy}
  {ended again : Except Failure Result}

/-! ### A second pass -/

/-- A deed records series of the roles on the whole cluster and of those in namespaces. -/
theorem mem_recorded {cluster : Cluster} {series : Series}
    (h : series ∈ (policy.deed cluster).recorded) :
    series ∈ policy.seriesOf policy.clusterPermissions clusterScope ∨
      series ∈ policy.seriesOf policy.permissionRoles namespaceScope := by
  have hplaced : series ∈ (policy.deedInNamespaces cluster).recorded →
      series ∈ policy.seriesOf policy.permissionRoles namespaceScope := by
    unfold Policy.deedInNamespaces
    dsimp only
    split
    · exact id
    · exact fun hnone => absurd hnone List.not_mem_nil
  unfold Policy.deed Policy.deedOnCluster at h
  dsimp only at h
  split at h
  · exact absurd h List.not_mem_nil
  · split at h
    · split at h
      · exact .inl h
      · exact (List.mem_append.mp h).imp id hplaced
    · split at h
      · exact .inr (hplaced h)
      · exact absurd h List.not_mem_nil

theorem requireKeys_seriesOf {roles : List Value} {scope : String}
    (h : policy.CanRecord roles) :
    ∀ series ∈ policy.seriesOf roles scope, Value.requireKeys series.parts = .ok () := by
  intro series hmem
  obtain ⟨role, hrole, rfl⟩ := List.mem_map.mp hmem
  have hrole := mem_of_mem_distinct hrole
  exact requireKeys_parts.mpr ⟨h.subject (List.ne_nil_of_mem hrole), h.keys role hrole⟩

/-- The series that a deed records can be kept. -/
theorem requireKeys_recorded {cluster : Cluster} (h : policy.IsFit cluster) :
    ∀ series ∈ (policy.deed cluster).recorded, Value.requireKeys series.parts = .ok () := by
  intro series hmem
  have hsubject := h.deed.subject (List.ne_nil_of_mem hmem)
  rcases mem_recorded hmem with hmem | hmem
  · exact requireKeys_seriesOf ⟨h.onCluster, fun _ => hsubject⟩ series hmem
  · exact requireKeys_seriesOf ⟨h.inNamespaces, fun _ => hsubject⟩ series hmem

/-- What a second pass makes of what a first has left: it ends as the first with nothing created,
and leaves everything as it is. -/
structure IsRepeated (ended : Except Failure Result) (next : Scene) (again : Except Failure Result)
    (last : Scene) : Prop where
  result : again = ended.map Result.again
  cluster : last.cluster = next.cluster
  sink : last.sink = next.sink

/-- Whether a pass that ended so is repeated by any pass over what it has left. -/
structure Repeats (space name : Value) (ended : Except Failure Result) (next : Scene) : Prop where
  smooth : IsSmooth next.cluster space name
  again : ∀ last again, Concludes next space name last again → IsRepeated ended next again last

namespace Concludes

theorem repeats_absent {message : String}
    (hfound : next.cluster.getPolicy space name = .error (.store .notFound message)) :
    Repeats space name (.ok { outcome := .notFound }) next where
  smooth := .inl ⟨message, hfound⟩
  again last again hagain := by
    cases hagain with
    | notFound => exact ⟨rfl, rfl, rfl⟩
    | declined hother => cases hfound.symm.trans hother
    | released hother => cases hfound.symm.trans hother
    | done hother => cases hfound.symm.trans hother

theorem repeats_declined {message : String} {types : List ConditionType} {failure : Failure}
    (hfound : scene.cluster.getPolicy space name = .ok policy)
    (hvalid : policy.validate = .error (.invalidPolicy message types))
    (hdeclined : Declined policy message types scene later failure)
    (hcluster : next.cluster = later.cluster) : Repeats space name (.error failure) next := by
  obtain ⟨rfl, -, given, after, hgiven, hreplay, hlater⟩ := hdeclined
  rw [hlater] at hcluster
  have hnow : next.cluster.getPolicy space name = .ok { policy with conditions := after.current } :=
    hcluster ▸ Cluster.getPolicy_report hfound
  have htypes : after.current.Pairwise fun a b => a.type ≠ b.type :=
    Tracker.types_replay hreplay (Tracker.pairwise_firstOfType _)
  have hinvalid : { policy with conditions := after.current }.validate =
      .error (.invalidPolicy message types) := hvalid
  refine ⟨.inr ⟨_, hnow, ?_⟩, fun last again hagain => ?_⟩
  · refine ⟨fun failure hfailure => ?_, fun hvalid => ?_, fun hvalid => ?_, fun hvalid => ?_⟩
    · cases hinvalid.symm.trans hfailure
      exact ⟨message, types, rfl⟩
    all_goals cases hinvalid.symm.trans hvalid
  obtain ⟨_, rfl, rfl, hsink, more, tracker, hmore, hlast, hwritten⟩ :=
    hagain.of_invalid hnow hinvalid
  refine ⟨rfl, ?_, hsink⟩
  have hstarted : Tracker.start after.current = ⟨after.current, after.current⟩ := by
    rw [Tracker.start, Tracker.firstOfType_eq htypes]
  have hsame : ∀ one ∈ given.map Prod.fst, ∀ other ∈ given.map Prod.fst,
      one.type = other.type → one = other := by
    rw [hgiven]
    rintro _ hone _ hother (htype : _ = _)
    obtain ⟨type, -, rfl⟩ := List.mem_map.mp hone
    obtain ⟨kind, -, rfl⟩ := List.mem_map.mp hother
    exact congrArg (breached message) htype
  rw [hstarted] at hlast
  have hcurrent := Tracker.replay_again hreplay htypes hsame (hmore.trans hgiven.symm) hlast
  rw [hwritten, hcurrent, hcluster]
  exact Cluster.report_again

theorem repeats_released (hfound : scene.cluster.getPolicy space name = .ok policy)
    (hvalid : policy.validate = .ok ()) (hdeleting : policy.isDeleting = true)
    (hopen : policy.IsOpen) (honCluster : policy.CanRecord policy.clusterPermissions)
    (hinNamespaces : policy.CanRecord policy.permissionRoles)
    (hcluster : next.cluster = scene.cluster)
    (hsink : next.sink = scene.sink.clearAll policy.released) :
    Repeats space name (.ok { outcome := .deleted }) next := by
  rw [← hcluster] at hfound
  refine ⟨.inr ⟨policy, hfound, ?_⟩, fun last again hagain => ?_⟩
  · refine ⟨fun failure hfailure => ?_, fun _ => hopen, fun _ _ => ⟨honCluster, hinNamespaces⟩,
      fun _ hactive => ?_⟩
    · cases hvalid.symm.trans hfailure
    · cases hdeleting.symm.trans hactive
  have hkeys : ∀ series ∈ policy.released, Value.requireKeys series.parts = .ok () := by
    intro series hmem
    exact (List.mem_append.mp hmem).elim (requireKeys_seriesOf honCluster series)
      (requireKeys_seriesOf hinNamespaces series)
  obtain ⟨rfl, rfl⟩ := hagain.of_deleting hfound hvalid hdeleting
  refine ⟨rfl, rfl, ?_⟩
  dsimp only
  rw [hsink, Sink.clearAll_again hkeys]

theorem repeats_done {result : Result}
    (hfound : scene.cluster.getPolicy space name = .ok policy) (hvalid : policy.validate = .ok ())
    (hactive : policy.isDeleting = false) (hopen : policy.IsOpen)
    (hfit : policy.IsFit scene.cluster)
    (hdone : (policy.deed scene.cluster).IsDone policy policy.openedTracker scene later result)
    (hrequeue : result.requeue = false) (hcluster : next.cluster = later.cluster)
    (hsink : next.sink = later.sink) : Repeats space name (.ok result) next := by
  obtain ⟨rfl, hlaterSink, given, after, hgiven, hreplay, hlater⟩ := hdone
  have hplain : PlainVerdicts (given.map Prod.fst) :=
    hgiven ▸ Policy.plainVerdicts_deed policy scene.cluster
  have hextended : (scene.cluster.extend (policy.deed scene.cluster).result.created).getPolicy
      space name = .ok policy := (Cluster.getPolicy_congr rfl space name).trans hfound
  obtain ⟨conditions, hnow, hstillOpen, hstays⟩ :=
    Policy.noted_again hopen hplain hreplay hextended
  rw [hlater] at hcluster
  rw [← hcluster] at hnow hstays
  have hdeed :
      { policy with conditions }.deed next.cluster = (policy.deed scene.cluster).again := by
    rw [Policy.deed_conditions, ← Policy.deed_extend hrequeue, hcluster, Policy.deed_noted]
  have hroles : next.cluster.roles = scene.cluster.roles := by
    rw [hcluster, Cluster.roles_noted]
    rfl
  have hnamespaces : next.cluster.namespaces = scene.cluster.namespaces := by
    rw [hcluster, Cluster.namespaces_noted]
    rfl
  refine ⟨.inr ⟨_, hnow, ?_⟩, fun last again hagain => ?_⟩
  · refine ⟨fun failure hfailure => ?_, fun _ => hstillOpen, fun _ hdeleting => ?_, fun _ _ => ?_⟩
    · cases hvalid.symm.trans hfailure
    · cases hactive.symm.trans hdeleting
    · refine ⟨hroles ▸ hfit.existing, hfit.onCluster, hfit.inNamespaces, ?_⟩
      rw [hdeed]
      exact ⟨hfit.deed.subject, hnamespaces ▸ hfit.deed.resolves⟩
  obtain ⟨_, rfl, hdone⟩ := hagain.of_active hnow hvalid hactive
  rw [hdeed] at hdone
  obtain ⟨rfl, hlastSink, more, tracker, hmore, hlast, hlastCluster⟩ := hdone
  refine ⟨rfl, ?_, ?_⟩
  · have hnone : next.cluster.extend (policy.deed scene.cluster).again.result.created =
        next.cluster := Cluster.extend_nil
    rw [hlastCluster, hnone]
    exact hstays more tracker (hmore.trans hgiven.symm) hlast
  · rw [hlastSink, hsink, hlaterSink]
    exact Sink.recordAll_again (requireKeys_recorded hfit)

/-- A settled pass is repeated by any pass over what it has left. -/
theorem repeats (h : Concludes scene space name later ended) (hsettled : IsSettled ended)
    (hcluster : next.cluster = later.cluster) (hsink : next.sink = later.sink) :
    Repeats space name ended next := by
  cases h with
  | notFound hfound => exact repeats_absent (hcluster ▸ hfound)
  | declined hfound hvalid hdeclined => exact repeats_declined hfound hvalid hdeclined hcluster
  | released hfound hvalid hdeleting hopen honCluster hinNamespaces =>
    exact repeats_released hfound hvalid hdeleting hopen honCluster hinNamespaces hcluster hsink
  | done hfound hvalid hactive hopen hfit hdone =>
    exact repeats_done hfound hvalid hactive hopen hfit hdone hsettled hcluster hsink

end Concludes

/-- A settled pass is repeated whenever it is made again: it ends as before but creates nothing, and
the objects of the cluster and the metrics stay as they are. -/
theorem settled_again (first second : Clock) {world : World} (hfresh : world.isStale = false)
    (space name : Value) (hsettled : IsSettled (first.calm.play world (run space name)).result) :
    let once := first.calm.play world (run space name)
    let twice := second.calm.play once.world (run space name)
    twice.result = once.result.map Result.again ∧
      twice.world.cluster = once.world.cluster ∧ twice.world.sink = once.world.sink := by
  obtain ⟨later, hshows, hended⟩ := concludes_play first hfresh space name
  generalize first.calm.play world (run space name) = once at hsettled hshows hended ⊢
  dsimp only
  rcases hended with hconcludes | ⟨-, failure, ⟨-, hinternal⟩, hfailed⟩
  · have hrepeats : Repeats space name once.result once.world.scene :=
      hconcludes.repeats hsettled hshows.cluster hshows.sink
    obtain ⟨last, hlast, hagain⟩ := concludes_play second hshows.fresh space name
    generalize second.calm.play once.world (run space name) = twice at hlast hagain ⊢
    rcases hagain with hagain | ⟨hrough, -⟩
    · obtain ⟨hresult, hcluster, hsink⟩ := hrepeats.again last _ hagain
      exact ⟨hresult, hlast.cluster.trans hcluster, hlast.sink.trans hsink⟩
    · exact absurd hrepeats.smooth hrough
  · rw [hfailed] at hsettled
    exact absurd hsettled hinternal

/-- A pass that grants a role on the whole cluster asks for no other, and one that follows a minute
later finds nothing to do. -/
theorem settled_again_viewed :
    let once := Course.unwritable.toClock.calm.play .viewed (run "team" "viewer")
    let twice := Course.later.toClock.calm.play once.world (run "team" "viewer")
    once.world.cluster.bindings.length = 1 ∧
      once.world.cluster.datings = [[(.clusterRoleBindingCreated, true, "1970-01-01T00:00:00Z")]] ∧
      (World.viewed.isStale = false ∧ IsSettled once.result) ∧
      twice.result = once.result.map Result.again ∧
      twice.world.cluster = once.world.cluster ∧ twice.world.sink = once.world.sink := by
  have hdone : (Course.unwritable.toClock.calm.play .viewed
        (run "team" "viewer")).world.cluster.bindings.length = 1 ∧
      (Course.unwritable.toClock.calm.play .viewed (run "team" "viewer")).world.cluster.datings =
        [[(.clusterRoleBindingCreated, true, "1970-01-01T00:00:00Z")]] ∧
      ((Course.unwritable.toClock.calm.play .viewed (run "team" "viewer")).result.toOption.any
        fun result => !result.requeue) = true := by
    decide +kernel
  have hsettled :
      IsSettled (Course.unwritable.toClock.calm.play .viewed (run "team" "viewer")).result := by
    cases hresult : (Course.unwritable.toClock.calm.play .viewed (run "team" "viewer")).result with
    | ok result =>
      rw [hresult] at hdone
      simpa [IsSettled, Except.toOption] using hdone.2.2
    | error failure =>
      rw [hresult] at hdone
      cases hdone.2.2
  have hfresh : World.viewed.isStale = false := rfl
  have hagain := settled_again Course.unwritable.toClock Course.later.toClock hfresh "team" "viewer"
    hsettled
  exact ⟨hdone.1, hdone.2.1, ⟨hfresh, hsettled⟩, hagain⟩

end PolicyPass

end RoleGrants
