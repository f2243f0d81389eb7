import RoleGrants.Proofs.Granting
import RoleGrants.Proofs.Keys

/-! Recovery after passes on which calls failed. However such passes end, what stands and what is
still missing together stay the same, and so do the conditions that a policy has in the end, but for
times. Two passes on which nothing fails then reach the end, so nothing of what failed is left. -/

namespace RoleGrants

open DryRun Pass

namespace Policy

variable {policy : Policy} {conditions : List Condition} {base cluster : Cluster}

/-- All bindings that a policy wants of a cluster. -/
def wanted (policy : Policy) (cluster : Cluster) : List Binding :=
  policy.wantedOnCluster ++ policy.wantedIn (validNames cluster.namespaces)

/-- The verdicts on a policy that is granted throughout. -/
def verdicts (policy : Policy) : List Verdict :=
  (if policy.clusterPermissions = [] then [] else [policy.grantedOnCluster]) ++
    if policy.permissions = [] then [] else [policy.grantedInNamespaces]

/-- The conditions of a policy that wants nothing, after a pass. -/
def mended (policy : Policy) : List Condition :=
  if policy.openedTracker.changed then policy.openedTracker.current else policy.conditions

/-- The conditions that a policy has in the end, but for times. -/
def settled (policy : Policy) : List Condition :=
  if policy.verdicts = [] then policy.mended.map Condition.undated
  else Tracker.settle policy.opened policy.verdicts

theorem plainVerdicts_verdicts : PlainVerdicts policy.verdicts := by
  have hlast : PlainVerdicts
      (if policy.permissions = [] then [] else [policy.grantedInNamespaces]) := by
    split
    · exact .nil
    · exact PlainVerdicts.nil.consGranted fun _ hmem => absurd hmem List.not_mem_nil
  unfold verdicts
  split
  · exact hlast
  · refine hlast.consGranted fun other hmem => ?_
    split at hmem
    · cases hmem
    · cases List.mem_singleton.mp hmem
      exact ConditionType.noConfusion

theorem isTidy_opened : Tracker.IsTidy policy.opened := (Tracker.isTidy_tidy _).undated

/-- Conditions in which some of the verdicts are set lead to the same end. -/
theorem settled_of_settle {earlier : List Verdict} (hpart : earlier <+: policy.verdicts)
    (hsome : policy.verdicts ≠ [])
    (h : conditions.map Condition.undated = Tracker.settle policy.opened earlier) :
    { policy with conditions }.settled = policy.settled := by
  have htidy : Tracker.IsTidy (Tracker.settle policy.opened earlier) :=
    isTidy_opened.settle fun verdict hmem =>
      plainVerdicts_verdicts.mended verdict (hpart.subset hmem)
  have hopened : { policy with conditions }.opened = Tracker.settle policy.opened earlier := by
    unfold opened
    rw [Tracker.undated_tidy, h]
    exact htidy.tidy_eq
  have hverdicts : { policy with conditions }.verdicts = policy.verdicts := rfl
  rw [settled, settled, hverdicts, if_neg hsome, if_neg hsome, hopened]
  exact Tracker.settle_resume hpart isTidy_opened plainVerdicts_verdicts.types
    plainVerdicts_verdicts.mended

/-- To mend conditions twice is to mend them once. -/
theorem mended_mended : { policy with conditions := policy.mended }.mended = policy.mended := by
  have htidy : Tracker.tidy (Tracker.tidy policy.conditions) = Tracker.tidy policy.conditions :=
    (Tracker.isTidy_tidy _).tidy_eq
  cases hchanged : policy.openedTracker.changed with
  | false =>
    have hsame : policy.mended = policy.conditions := by
      rw [mended, hchanged]
      rfl
    rw [hsame]
    exact hsame
  | true =>
    have hmended : policy.mended = Tracker.tidy policy.conditions := by
      rw [mended, hchanged]
      rfl
    rw [hmended, mended]
    split
    · exact htidy
    · rfl

/-- Conditions in which some of the verdicts are set have texts as messages. -/
theorem IsWorded.settle (h : policy.IsWorded) {earlier : List Verdict}
    (hpart : earlier <+: policy.verdicts)
    (hset : conditions.map Condition.undated = Tracker.settle policy.opened earlier) :
    { policy with conditions }.IsWorded := by
  intro condition hmem
  have hset : condition.undated ∈ Tracker.settle policy.opened earlier :=
    hset ▸ List.mem_map_of_mem hmem
  rcases Tracker.mem_of_mem_settle hset with hopened | ⟨verdict, hverdict, heq⟩
  · obtain ⟨first, hfirst, heq⟩ := List.mem_map.mp hopened
    have hmem : first ∈ Tracker.firstOfType policy.conditions := (List.mem_filter.mp hfirst).1
    have hmessage : first.undated.message = condition.undated.message := by rw [heq]
    change first.message = condition.message at hmessage
    exact hmessage ▸ h first (Tracker.mem_of_mem_firstOfType hmem)
  · have hmessage : condition.undated.message = verdict.message := by rw [heq]; rfl
    change condition.message = verdict.message at hmessage
    rw [hmessage]
    exact plainVerdicts_verdicts.texts verdict (hpart.subset hverdict)

theorem IsWorded.mended (h : policy.IsWorded) :
    { policy with conditions := policy.mended }.IsWorded := by
  intro condition hmem
  change condition ∈ policy.mended at hmem
  unfold Policy.mended at hmem
  split at hmem
  · exact h condition (Tracker.mem_of_mem_firstOfType (List.mem_filter.mp hmem).1)
  · exact h condition hmem

end Policy

namespace Cluster

variable {cluster : Cluster} {policy : Policy} {conditions : List Condition}

@[simp] theorem bindings_reportChanges (cluster : Cluster) (policy : Policy) (tracker : Tracker) :
    (cluster.reportChanges policy tracker).bindings = cluster.bindings := by
  unfold reportChanges
  split <;> rfl

theorem getPolicy_reportChanges
    (hfound : cluster.getPolicy policy.space policy.name = .ok policy) :
    (cluster.reportChanges policy policy.openedTracker).getPolicy policy.space policy.name =
      .ok { policy with conditions := policy.mended } := by
  unfold reportChanges Policy.mended
  split
  · exact getPolicy_report hfound
  · exact hfound

end Cluster

namespace PolicyPass

variable {base cluster later : Cluster} {policy : Policy} {result : Result}

/-- What a policy is after a pass, and what a next pass can make of it. -/
theorem Yields.found (h : Yields cluster policy later result) (hworded : policy.IsWorded)
    (hfound : cluster.getPolicy policy.space policy.name = .ok policy)
    (hserved : ∀ permission ∈ policy.permissions,
      (validNames cluster.namespaces).any permission.chooses = true) :
    ∃ conditions, later.getPolicy policy.space policy.name = .ok { policy with conditions } ∧
      { policy with conditions }.IsWorded ∧
      { policy with conditions }.settled = policy.settled := by
  cases h with
  | @onCluster conditions hsome _ hconditions =>
    have hverdicts : [policy.grantedOnCluster] <+: policy.verdicts := by
      rw [Policy.verdicts, if_neg hsome]
      exact List.prefix_append ..
    have hne : policy.verdicts ≠ [] := by
      rintro hnil
      rw [hnil] at hverdicts
      exact absurd (List.prefix_nil.mp hverdicts) (List.cons_ne_nil _ _)
    exact ⟨conditions, Cluster.getPolicy_report hfound, hworded.settle hverdicts hconditions,
      Policy.settled_of_settle hverdicts hne hconditions⟩
  | @inNamespaces conditions earlier hsome _ _ hearlier hconditions =>
    have hverdicts : earlier ++ [policy.grantedInNamespaces] = policy.verdicts := by
      rw [Policy.verdicts, if_neg hsome, hearlier]
    have hne : policy.verdicts ≠ [] := by simp [← hverdicts]
    rw [hverdicts] at hconditions
    exact ⟨conditions, Cluster.getPolicy_report hfound,
      hworded.settle (List.prefix_refl _) hconditions,
      Policy.settled_of_settle (List.prefix_refl _) hne hconditions⟩
  | incomplete _ _ hmem hnone =>
    rw [hserved _ hmem] at hnone
    cases hnone
  | upToDate hcluster hpermissions =>
    have hnone : policy.verdicts = [] := by
      rw [Policy.verdicts, if_pos hcluster, if_pos hpermissions]
      rfl
    have hnext : { policy with conditions := policy.mended }.verdicts = [] := hnone
    refine ⟨policy.mended, Cluster.getPolicy_reportChanges hfound, hworded.mended, ?_⟩
    rw [Policy.settled, Policy.settled, hnext, hnone, if_pos rfl, if_pos rfl, Policy.mended_mended]

theorem missing_wanted (hnone : Binding.missing cluster.bindings policy.wantedOnCluster = []) :
    Binding.missing cluster.bindings (policy.wanted cluster) =
      Binding.missing cluster.bindings (policy.wantedIn (validNames cluster.namespaces)) := by
  rw [Policy.wanted, Binding.missing_append, hnone, List.append_nil, List.nil_append]

/-- A pass creates the first of the bindings that are missing. -/
theorem Yields.created (h : Yields cluster policy later result) :
    later.bindings = cluster.bindings ++ result.created ∧
      result.created <+: Binding.missing cluster.bindings (policy.wanted cluster) := by
  cases h with
  | onCluster =>
    refine ⟨rfl, ?_⟩
    rw [Policy.wanted, Binding.missing_append]
    exact List.prefix_append ..
  | inNamespaces _ hnone =>
    exact ⟨rfl, missing_wanted hnone ▸ List.prefix_refl _⟩
  | incomplete _ hnone =>
    exact ⟨Cluster.bindings_reportChanges .., missing_wanted hnone ▸ List.prefix_refl _⟩
  | upToDate => exact ⟨(Cluster.bindings_reportChanges ..).trans (List.append_nil _).symm,
      List.nil_prefix⟩

/-- After a pass all bindings that the policy wants on the whole cluster are there. -/
theorem Yields.heldOnCluster (h : Yields cluster policy later result) :
    Binding.missing later.bindings policy.wantedOnCluster = [] := by
  have hbefore : Binding.missing cluster.bindings policy.wantedOnCluster = [] →
      Binding.missing later.bindings policy.wantedOnCluster = [] := by
    intro hnone
    rw [h.created.1]
    exact Binding.missing_append_eq_nil hnone _
  cases h with
  | onCluster =>
    refine Binding.missing_eq_nil.mpr fun binding hmem => ?_
    change Binding.isCovered (cluster.bindings ++ _) binding = true
    rw [Binding.isCovered_fill, Binding.isCovered_of_mem hmem, Bool.or_true]
  | inNamespaces _ hnone => exact hbefore hnone
  | incomplete _ hnone => exact hbefore hnone
  | upToDate hcluster => exact hbefore (by rw [Policy.wantedOnCluster, hcluster]; rfl)

/-- The outcome of the last pass over a policy, after which nothing is left to do. -/
def lastOutcome (policy : Policy) : Outcome :=
  if policy.permissions ≠ [] then .roleBindingsCreated
  else if policy.clusterPermissions ≠ [] then .clusterBindingsCreated
  else .upToDate

/-- What holds after a pass that has created all bindings that were missing and set all conditions
of its policy. -/
structure Finished (policy : Policy) (cluster later : Cluster) (result : Result) : Prop where
  bindings : later.bindings =
    cluster.bindings ++ Binding.missing cluster.bindings (policy.wanted cluster)
  conditions : ∃ conditions, later.getPolicy policy.space policy.name =
    .ok { policy with conditions } ∧ conditions.map Condition.undated = policy.settled
  outcome : result.outcome = lastOutcome policy
  requeue : result.requeue = false

/-- A pass that finds the bindings on the whole cluster in place is the last. -/
theorem Yields.finished (h : Yields cluster policy later result)
    (hnone : Binding.missing cluster.bindings policy.wantedOnCluster = [])
    (hfound : cluster.getPolicy policy.space policy.name = .ok policy)
    (hserved : ∀ permission ∈ policy.permissions,
      (validNames cluster.namespaces).any permission.chooses = true) :
    Finished policy cluster later result := by
  cases h with
  | @onCluster conditions hsome hlast hconditions =>
    have hempty : policy.permissions = [] := hlast.resolve_left fun hne => hne hnone
    have hverdicts : policy.verdicts = [policy.grantedOnCluster] := by
      rw [Policy.verdicts, if_neg hsome, if_pos hempty]
      rfl
    refine ⟨?_, ⟨conditions, Cluster.getPolicy_report hfound, ?_⟩, ?_, ?_⟩
    · rw [missing_wanted hnone, Policy.wantedIn, hempty, hnone]
      rfl
    · rw [hconditions, Policy.settled, hverdicts]
      rfl
    · simp [lastOutcome, hempty, hsome]
    · simp [hempty]
  | @inNamespaces conditions earlier hsome _ _ hearlier hconditions =>
    have hverdicts : earlier ++ [policy.grantedInNamespaces] = policy.verdicts := by
      rw [Policy.verdicts, if_neg hsome, hearlier]
    refine ⟨?_, ⟨conditions, Cluster.getPolicy_report hfound, ?_⟩, ?_, rfl⟩
    · rw [missing_wanted hnone]
      rfl
    · rw [hconditions, Policy.settled, if_neg (by simp [← hverdicts]), hverdicts]
    · simp [lastOutcome, hsome]
  | incomplete _ _ hmem hnone =>
    rw [hserved _ hmem] at hnone
    cases hnone
  | upToDate hcluster hpermissions =>
    have hverdicts : policy.verdicts = [] := by
      rw [Policy.verdicts, if_pos hcluster, if_pos hpermissions]
      rfl
    refine ⟨?_, ⟨policy.mended, ?_, ?_⟩, ?_, rfl⟩
    · rw [missing_wanted hnone, Policy.wantedIn, hpermissions, Cluster.bindings_reportChanges]
      exact (List.append_nil _).symm
    · exact Cluster.getPolicy_reportChanges hfound
    · rw [Policy.settled, if_pos hverdicts]
    · simp [lastOutcome, hcluster, hpermissions]

end PolicyPass

/-- Whether a cluster is on the way from another to where a policy is granted: what stands and what
is missing are together the same in both, and the policy has the same conditions in the end. -/
structure Policy.IsUnderway (policy : Policy) (base cluster : Cluster) : Prop where
  leads : base.Leads cluster
  bindings : cluster.bindings ++ Binding.missing cluster.bindings (policy.wanted base) =
    base.bindings ++ Binding.missing base.bindings (policy.wanted base)
  found : ∃ conditions,
    cluster.getPolicy policy.space policy.name = .ok { policy with conditions } ∧
    { policy with conditions }.IsWorded ∧ { policy with conditions }.settled = policy.settled

namespace Policy.IsUnderway

variable {policy : Policy} {base cluster later : Cluster} {conditions : List Condition}

theorem refl (hfound : base.getPolicy policy.space policy.name = .ok policy)
    (hworded : policy.IsWorded) : policy.IsUnderway base base :=
  ⟨.refl _, rfl, policy.conditions, hfound, hworded, rfl⟩

theorem step (h : policy.IsUnderway base cluster) (hleads : cluster.Leads later)
    {created : List Binding} (hbindings : later.bindings = cluster.bindings ++ created)
    (hpart : created <+: Binding.missing cluster.bindings (policy.wanted base))
    (hfound : ∃ conditions, later.getPolicy policy.space policy.name =
        .ok { policy with conditions } ∧
      { policy with conditions }.IsWorded ∧
      { policy with conditions }.settled = policy.settled) :
    policy.IsUnderway base later where
  leads := h.leads.trans hleads
  bindings := by
    rw [hbindings, List.append_assoc, Binding.missing_resume hpart, h.bindings]
  found := hfound

/-- A policy can be granted wherever it is on the way. -/
theorem isServable (h : policy.IsUnderway base cluster) (hservable : policy.IsServable base)
    (hworded : { policy with conditions }.IsWorded) :
    { policy with conditions }.IsServable cluster where
  valid := hservable.valid
  active := hservable.active
  roles := h.leads.roles ▸ hservable.roles
  kept := h.leads.owned ▸ hservable.kept
  textual :=
    have htextual : policy.unreported.IsTextual := isTextual_unreported.mpr hservable.textual
    isTextual_unreported.mp htextual
  worded := hworded
  spaces := h.leads.namespaces ▸ hservable.spaces
  keys := h.leads.roles ▸ hservable.keys

theorem wanted_eq (h : policy.IsUnderway base cluster) :
    { policy with conditions }.wanted cluster = policy.wanted base := by
  unfold Policy.wanted
  rw [h.leads.namespaces]
  rfl

end Policy.IsUnderway

namespace PolicyPass

variable {policy : Policy} {base : Cluster} {world : World}

/-- Whether each permission of a policy chooses some valid namespace of a cluster. -/
def IsPlaced (policy : Policy) (cluster : Cluster) : Prop :=
  ∀ permission ∈ policy.permissions, ∃ space ∈ cluster.namespaces, ∃ name,
    space.name = .text name ∧ space.isValid = true ∧ permission.Selects name

theorem IsPlaced.any (h : IsPlaced policy base) (hvalid : policy.validate = .ok ()) :
    ∀ permission ∈ policy.permissions,
      (validNames base.namespaces).any permission.chooses = true := by
  intro permission hmem
  obtain ⟨space, hspace, name, hname, hspaceValid, hselects⟩ := h permission hmem
  have hlisted := mem_validNames.mpr ⟨space, hspace, hspaceValid, hname⟩
  exact List.any_eq_true.mpr ⟨.text name, hlisted, (Policy.chooses_iff hvalid hmem).mpr hselects⟩

end PolicyPass

namespace Policy.IsUnderway

open PolicyPass

variable {policy : Policy} {base : Cluster} {world : World}

/-- A pass goes the way, also if calls fail. -/
theorem play (h : policy.IsUnderway base world.cluster) (hservable : policy.IsServable base)
    (hplaced : IsPlaced policy base) (hfresh : world.isStale = false) (course : Course) :
    policy.IsUnderway base (course.play world (run policy.space policy.name)).world.cluster := by
  obtain ⟨conditions, hfound, hworded, hsettled⟩ := h.found
  obtain ⟨result, -, hyields⟩ : ∃ result, _ ∧ Yields world.cluster { policy with conditions }
      (course.calm.play world (run policy.space policy.name)).world.cluster result :=
    yields_play course.toClock hfresh hfound (h.isServable hservable hworded)
  obtain ⟨hbindings, hpart⟩ := hyields.created
  rw [h.wanted_eq] at hpart
  have hleads := course.leads_play world (run policy.space policy.name)
  -- Either nothing failed, or a part of what was missing was created and no status written.
  rcases eq_calm_or_stops course world policy.space policy.name with heq | ⟨hquiet, hcreated⟩
  · have hserved := hplaced.any hservable.valid
    rw [← h.leads.namespaces] at hserved
    obtain ⟨others, hlater, hwords, hsame⟩ := hyields.found hworded hfound hserved
    refine h.step hleads (heq ▸ hbindings) hpart ⟨others, ?_, hwords, hsame.trans hsettled⟩
    rw [heq]
    exact hlater
  · have hturned := turned_play course world policy.space policy.name
    have hcalm := (turned_play course.calm world policy.space policy.name).bindings
    rw [hbindings, List.append_cancel_left_eq] at hcalm
    refine h.step hleads hturned.bindings ((hcalm ▸ hcreated).trans hpart)
      ⟨conditions, ?_, hworded, hsettled⟩
    rw [Cluster.getPolicy_congr (hturned.policies hquiet)]
    exact hfound

theorem inTurn (h : policy.IsUnderway base world.cluster) (hservable : policy.IsServable base)
    (hplaced : IsPlaced policy base) (hfresh : world.isStale = false) (courses : List Course) :
    let later := Course.inTurn world (courses.map (·, run policy.space policy.name))
    policy.IsUnderway base later.cluster ∧ later.isStale = false := by
  induction courses generalizing world with
  | nil => exact ⟨h, hfresh⟩
  | cons course rest ih =>
    exact ih (h.play hservable hplaced hfresh course)
      ((course.isStale_play world _).trans hfresh)

/-- Two passes on which nothing fails go the rest of the way. -/
theorem finished (h : policy.IsUnderway base world.cluster) (hservable : policy.IsServable base)
    (hplaced : IsPlaced policy base) (hfresh : world.isStale = false) (first second : Clock) :
    let pass := run policy.space policy.name
    let ended := second.calm.play (first.calm.play world pass).world pass
    ∃ result, ended.result = .ok result ∧ Finished policy base ended.world.cluster result := by
  intro pass ended
  have hmiddle := h.play hservable hplaced hfresh first.calm
  obtain ⟨conditions, hfound, hworded, hsettled⟩ := h.found
  obtain ⟨_, -, hfirst⟩ : ∃ result, _ ∧ Yields world.cluster { policy with conditions }
      (first.calm.play world pass).world.cluster result :=
    yields_play first hfresh hfound (h.isServable hservable hworded)
  have hheld : Binding.missing (first.calm.play world pass).world.cluster.bindings
      policy.wantedOnCluster = [] := hfirst.heldOnCluster
  obtain ⟨others, hfound, hworded, hsettled⟩ := hmiddle.found
  have hfresh : (first.calm.play world pass).world.isStale = false :=
    (first.calm.isStale_play world pass).trans hfresh
  obtain ⟨result, hresult, hsecond⟩ : ∃ result, ended.result = .ok result ∧
      Yields (first.calm.play world pass).world.cluster { policy with conditions := others }
        ended.world.cluster result :=
    yields_play second hfresh hfound (hmiddle.isServable hservable hworded)
  have hserved := hplaced.any hservable.valid
  rw [← hmiddle.leads.namespaces] at hserved
  obtain ⟨hbindings, ⟨last, hlast, hconditions⟩, houtcome, hrequeue⟩ :=
    hsecond.finished hheld hfound hserved
  refine ⟨result, hresult, ?_, ⟨last, hlast, hconditions.trans hsettled⟩, houtcome, hrequeue⟩
  rw [hbindings, hmiddle.wanted_eq, hmiddle.bindings]

end Policy.IsUnderway

namespace PolicyPass

variable {policy : Policy} {world : World}

/-- However some passes over a policy end on which calls fail, two passes on which none fails
leave the bindings and, but for times, the conditions that two such passes alone leave, and nothing
is left to do. -/
theorem recovers (courses : List Course) (first second third last : Clock)
    (hfresh : world.isStale = false)
    (hfound : world.cluster.getPolicy policy.space policy.name = .ok policy)
    (hservable : policy.IsServable world.cluster) (hplaced : IsPlaced policy world.cluster) :
    let pass := run policy.space policy.name
    let failed := Course.inTurn world (courses.map (·, pass))
    let recovered := second.calm.play (first.calm.play failed pass).world pass
    let clean := last.calm.play (third.calm.play world pass).world pass
    (recovered.world.cluster.bindings = clean.world.cluster.bindings ∧
      clean.world.cluster.bindings = world.cluster.bindings ++
        Binding.missing world.cluster.bindings (policy.wanted world.cluster)) ∧
    (∃ one other : List Condition,
      recovered.world.cluster.getPolicy policy.space policy.name =
          .ok { policy with conditions := one } ∧
        clean.world.cluster.getPolicy policy.space policy.name =
          .ok { policy with conditions := other } ∧
        one.map Condition.undated = other.map Condition.undated) ∧
    ∃ result, recovered.result = .ok result ∧ result.requeue = false ∧
      result.outcome = lastOutcome policy := by
  have hstart := Policy.IsUnderway.refl hfound hservable.worded
  obtain ⟨hfailed, hlate⟩ := hstart.inTurn hservable hplaced hfresh courses
  obtain ⟨result, hresult, hrecovered⟩ :=
    hfailed.finished hservable hplaced hlate first second
  obtain ⟨_, -, hclean⟩ := hstart.finished hservable hplaced hfresh third last
  obtain ⟨one, hone, hsettled⟩ := hrecovered.conditions
  obtain ⟨other, hother, hsame⟩ := hclean.conditions
  exact ⟨⟨hrecovered.bindings.trans hclean.bindings.symm, hclean.bindings⟩,
    ⟨one, other, hone, hother, hsettled.trans hsame.symm⟩,
    result, hresult, hrecovered.requeue, hrecovered.outcome⟩

end PolicyPass

theorem Policy.editor_isServable : editor.IsServable World.web.cluster := by
  have hsound : editor.IsSound := World.web_isSound.policies _ (List.mem_singleton_self _)
  have hvalid : editor.validate.isOk = true := by decide +kernel
  refine ⟨⟨?_, rfl, fun role hmem => hmem⟩, List.mem_singleton_self _, hsound.toIsTextual,
    hsound.messages, World.web_isSound.namespaces, World.web_isSound.roles⟩
  cases hresult : editor.validate with
  | ok _ => rfl
  | error failure =>
    rw [hresult] at hvalid
    cases hvalid

theorem Policy.editor_isPlaced : PolicyPass.IsPlaced editor World.web.cluster := by
  intro permission hmem
  have hvalid := editor_isServable.valid
  have hchooses : permission.chooses (.text "web") = true := by
    cases List.mem_singleton.mp hmem
    decide +kernel
  exact ⟨{ name := "web" }, List.mem_singleton_self _, "web", rfl, by decide +kernel,
    (chooses_iff hvalid hmem).mp hchooses⟩

namespace PolicyPass

/-- A pass whose status could not be written has created the binding on the whole cluster, so the
next one goes on in namespaces at once. -/
theorem recovers_web :
    let pass := run Policy.editor.space Policy.editor.name
    let clock := Course.unwritable.toClock
    let failed := Course.inTurn .web ([Course.unwritable].map (·, pass))
    let recovered := clock.calm.play (clock.calm.play failed pass).world pass
    let clean := clock.calm.play (clock.calm.play .web pass).world pass
    failed.cluster.bindings.length = 1 ∧
      recovered.world.cluster.bindings = clean.world.cluster.bindings ∧
      ∃ result, recovered.result = .ok result ∧ result.outcome = .roleBindingsCreated := by
  have hlength : (Course.inTurn .web ([Course.unwritable].map
      (·, run Policy.editor.space Policy.editor.name))).cluster.bindings.length = 1 := by
    decide +kernel
  have hfresh : World.web.isStale = false := rfl
  have hfound : World.web.cluster.getPolicy Policy.editor.space Policy.editor.name =
      .ok .editor :=
    Cluster.getPolicy_eq.mpr ⟨rfl, List.find?_cons_of_pos (by decide +kernel)⟩
  have hlast : lastOutcome .editor = .roleBindingsCreated := rfl
  have hended := recovers [.unwritable] Course.unwritable.toClock Course.unwritable.toClock
    Course.unwritable.toClock Course.unwritable.toClock hfresh hfound Policy.editor_isServable
    Policy.editor_isPlaced
  have hbindings := hended.1.1
  obtain ⟨result, hresult, -, houtcome⟩ := hended.2.2
  exact ⟨hlength, hbindings, result, hresult, houtcome.trans hlast⟩

end PolicyPass

end RoleGrants
