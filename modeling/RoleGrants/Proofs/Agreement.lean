import RoleGrants.Proofs.Overwriting
import RoleGrants.Proofs.Recovery
import RoleGrants.Proofs.Visiting

/-! The two ways in which bindings come about agree. From a cluster in which nothing fails and all
that active policies want on the whole cluster is in place, a pass over every namespace and a pass
over every policy leave bindings under the same keys, in whatever order the passes go. Of a single
policy they leave the same bindings, and a pass over one namespace creates just those, and in the
same order, that the pass over the policy creates there. -/

namespace RoleGrants

open DryRun Program Pass

/-! ### A pass over any policy -/

namespace Cluster

variable {cluster : Cluster} {policy other : Policy}

/-- What policies are granted does not depend on their conditions. -/
theorem flatMap_grantsIn (cluster : Cluster) (names : List Value) :
    cluster.owned.flatMap (·.grantsIn names) = cluster.policies.flatMap (·.grantsIn names) :=
  cluster.flatMap_owned _ fun _ => rfl

/-- What is written of a policy leaves the others as they are. -/
theorem Reports.getPolicy_of_apart {after : Cluster} (h : cluster.Reports policy after)
    (htextual : other.IsTextual) (hapart : policy.IsApart other)
    (hfound : cluster.getPolicy other.space other.name = .ok other) :
    after.getPolicy other.space other.name = .ok other := by
  obtain rfl | ⟨conditions, rfl⟩ := h
  · exact hfound
  obtain ⟨hkeys, hfound⟩ := getPolicy_eq.mp hfound
  have hother : isPolicy policy.space policy.name other = false := by
    obtain ⟨space, hspace⟩ := htextual.space
    obtain ⟨name, hname⟩ := htextual.name
    rw [isPolicy, hspace, hname, Bool.and_eq_false_iff, Bool.eq_false_iff, Bool.eq_false_iff]
    by_cases hsame : policy.space = .text space
    · refine .inr fun hbeq => hapart (hsame.trans hspace.symm) ?_
      exact (Value.text_beq_iff.mp hbeq).trans hname.symm
    · exact .inl fun hbeq => hsame (Value.text_beq_iff.mp hbeq)
  refine getPolicy_eq.mpr ⟨hkeys, ?_⟩
  unfold report
  rw [find?_changePolicy _ _ (fun _ => by rfl) hfound, hother]
  rfl

end Cluster

namespace PolicyPass

variable {cluster : Cluster} {policy : Policy}

theorem Yields.reports {later : Cluster} {result : Result} (h : Yields cluster policy later result)
    (hnone : Binding.missing cluster.bindings policy.wantedOnCluster = []) :
    (cluster.extend (Binding.missing cluster.bindings
      (policy.wantedIn (validNames cluster.namespaces)))).Reports policy later := by
  cases h with
  | onCluster _ hlast =>
    have hempty : policy.wantedIn (validNames cluster.namespaces) = [] := by
      rw [Policy.wantedIn, hlast.resolve_left fun hne => hne hnone]
      rfl
    rw [hnone, hempty]
    exact .inr ⟨_, rfl⟩
  | inNamespaces => exact .inr ⟨_, rfl⟩
  | @incomplete tracker => exact Cluster.reports_reportChanges ..
  | upToDate _ hpermissions =>
    have hempty : policy.wantedIn (validNames cluster.namespaces) = [] := by
      rw [Policy.wantedIn, hpermissions]
      rfl
    rw [hempty, Binding.missing_nil, Cluster.extend_nil]
    exact Cluster.reports_reportChanges ..

/-- A pass over any policy creates what is missing of what the policy is granted in namespaces, if
all that it wants on the whole cluster is in place. Its conditions may change, and no others. -/
theorem reports_play (clock : Clock) {world : World} (hfresh : world.isStale = false)
    (hready : world.cluster.IsReady) (hworded : policy.IsWorded)
    (hfound : world.cluster.getPolicy policy.space policy.name = .ok policy)
    (hheld : policy.active = true →
      Binding.missing world.cluster.bindings policy.wantedOnCluster = []) :
    (world.cluster.extend (Binding.missing world.cluster.bindings
      (policy.grantsIn (validNames world.cluster.namespaces)))).Reports policy
      (clock.calm.play world (run policy.space policy.name)).world.cluster := by
  have hmem : policy ∈ world.cluster.policies :=
    List.mem_of_find?_eq_some (Cluster.getPolicy_eq.mp hfound).2
  have hpolicy := hready.policy hmem
  have hinactive : policy.active = false → ∀ later, world.cluster.Reports policy later →
      (world.cluster.extend (Binding.missing world.cluster.bindings
        (policy.grantsIn (validNames world.cluster.namespaces)))).Reports policy later := by
    intro hinactive later hreports
    rw [Policy.grantsIn, hinactive, if_neg Bool.false_ne_true, Binding.missing_nil,
      Cluster.extend_nil]
    exact hreports
  obtain ⟨later, hshows, hconcludes⟩ := concludes_play_typed clock hfresh hfound hpolicy.verdict
    ⟨hpolicy.textual, hworded, hready.spaces, hready.keys⟩
  rw [hshows.cluster]
  generalize (clock.calm.play world (run policy.space policy.name)).result = ended at hconcludes
  cases hconcludes with
  | notFound hother => cases hfound.symm.trans hother
  | declined hother hinvalid hdeclined =>
    cases hfound.symm.trans hother
    obtain ⟨-, -, _, after, -, -, hlater⟩ := hdeclined
    refine hinactive ?_ _ (.inr ⟨after.current, hlater⟩)
    simp [Policy.active, hinvalid, Except.isOk, Except.toBool]
  | released hother _ hdeleting =>
    cases hfound.symm.trans hother
    exact hinactive (by simp [Policy.active, hdeleting]) _ (.inl rfl)
  | done hother hvalid hkeep _ _ hdone =>
    cases hfound.symm.trans hother
    have hactive := Policy.active_iff.mpr ⟨hkeep, hvalid⟩
    have hservable : policy.IsServable world.scene.cluster :=
      ⟨⟨hvalid, hkeep, hpolicy.roles hactive⟩, List.mem_map_of_mem hmem, hpolicy.textual, hworded,
        hready.spaces, hready.keys⟩
    rw [Policy.grantsIn, if_pos hactive]
    exact (yields_of_done hservable hdone).reports (hheld hactive)

end PolicyPass

/-! ### Passes in turn -/

/-- The world after passes over some policies one after another, on which nothing fails. -/
def PolicyPass.playAll (world : World) (turns : List (Clock × Policy)) : World :=
  Course.inTurn world (turns.map fun turn => (turn.1.calm, run turn.2.space turn.2.name))

/-- The world after passes over some namespaces one after another, on which nothing fails. -/
def NamespacePass.playAll (world : World) (turns : List (Clock × Namespace)) : World :=
  Course.inTurn world (turns.map fun turn => (turn.1.calm, run turn.2.name))

theorem PolicyPass.bindings_playAll {turns : List (Clock × Policy)} {world : World}
    (hready : world.cluster.IsReady) (hfresh : world.isStale = false)
    (hapart : (turns.map Prod.snd).Pairwise Policy.IsApart)
    (hpolicies : ∀ policy ∈ turns.map Prod.snd,
      world.cluster.getPolicy policy.space policy.name = .ok policy ∧ policy.IsWorded ∧
        (policy.active = true →
          Binding.missing world.cluster.bindings policy.wantedOnCluster = [])) :
    (playAll world turns).cluster.bindings = world.cluster.bindings ++
      Binding.missing world.cluster.bindings ((turns.map Prod.snd).flatMap
        (·.grantsIn (validNames world.cluster.namespaces))) := by
  induction turns generalizing world with
  | nil => exact (List.append_nil _).symm
  | cons turn rest ih =>
    obtain ⟨clock, policy⟩ := turn
    obtain ⟨hfirst, hrest⟩ := List.pairwise_cons.mp hapart
    obtain ⟨hfound, hworded, hheld⟩ := hpolicies policy List.mem_cons_self
    have hreports := reports_play clock hfresh hready hworded hfound hheld
    have hleads := clock.calm.leads_play world (run policy.space policy.name)
    have hlate := (clock.calm.isStale_play world (run policy.space policy.name)).trans hfresh
    change (playAll (clock.calm.play world (run policy.space policy.name)).world
      rest).cluster.bindings = _
    have hbindings : (clock.calm.play world (run policy.space policy.name)).world.cluster.bindings =
        world.cluster.bindings ++ Binding.missing world.cluster.bindings
          (policy.grantsIn (validNames world.cluster.namespaces)) := by
      exact hreports.bindings
    -- The pass has changed no other policy, and what is held on the cluster is held still.
    have hlater := ih (hready.mono hleads) hlate hrest fun other hmem => by
      obtain ⟨hother, hwords, hplaced⟩ := hpolicies other (List.mem_cons_of_mem _ hmem)
      have hkept := List.mem_of_find?_eq_some (Cluster.getPolicy_eq.mp hother).2
      refine ⟨hreports.getPolicy_of_apart (hready.policy hkept).textual (hfirst other hmem) hother,
        hwords, fun hactive => ?_⟩
      rw [hbindings]
      exact Binding.missing_append_eq_nil (hplaced hactive) _
    have hnamespaces :
        (clock.calm.play world (run policy.space policy.name)).world.cluster.namespaces =
          world.cluster.namespaces := hleads.namespaces
    rw [hlater, hbindings, hnamespaces, List.append_assoc, List.map_cons, List.flatMap_cons,
      Binding.missing_append]

theorem NamespacePass.bindings_playAll {turns : List (Clock × Namespace)} {world : World}
    (hready : world.cluster.IsReady) (hfresh : world.isStale = false)
    (hspaces : ∀ space ∈ turns.map Prod.snd, ∃ name, space.name = .text name ∧
      world.cluster.getNamespace (.text name) = .ok space) :
    (playAll world turns).cluster.bindings = world.cluster.bindings ++
      Binding.missing world.cluster.bindings ((turns.map Prod.snd).flatMap fun space =>
          world.cluster.owned.flatMap (·.grantsIn (validNames [space]))) := by
  induction turns generalizing world with
  | nil => exact (List.append_nil _).symm
  | cons turn rest ih =>
    obtain ⟨clock, space⟩ := turn
    obtain ⟨name, hname, hfound⟩ := hspaces space List.mem_cons_self
    have hbindings := bindings_play clock hfresh hready hfound
    rw [← hname] at hbindings
    have hleads := clock.calm.leads_play world (run space.name)
    have hlate := (clock.calm.isStale_play world (run space.name)).trans hfresh
    change (playAll (clock.calm.play world (run space.name)).world rest).cluster.bindings = _
    have hlater := ih (hready.mono hleads) hlate fun other hmem => by
      obtain ⟨text, htext, hother⟩ := hspaces other (List.mem_cons_of_mem _ hmem)
      refine ⟨text, htext, ?_⟩
      rw [Cluster.getNamespace] at hother ⊢
      rw [← hother, hleads.namespaces]
    have howned : (clock.calm.play world (run space.name)).world.cluster.owned =
        world.cluster.owned := hleads.owned
    rw [hlater, howned, hbindings, List.append_assoc, List.map_cons, List.flatMap_cons,
      Binding.missing_append, Cluster.flatMap_grantsIn]

/-! ### What is granted in namespaces -/

namespace Policy

variable {policy : Policy} {binding : Binding} {names : List Value}

theorem mem_grantsIn : binding ∈ policy.grantsIn names ↔ policy.active = true ∧
    ∃ permission ∈ policy.permissions, ∃ name ∈ names, permission.chooses name = true ∧
      binding = .inNamespace permission.role policy name := by
  unfold grantsIn
  split
  · next hactive => simp [hactive, mem_wantedIn]
  · next hinactive => simp [hinactive]

/-- What is granted in some namespaces is granted in one of them. -/
theorem mem_grantsIn_validNames {spaces : List Namespace} :
    binding ∈ policy.grantsIn (validNames spaces) ↔
      ∃ space ∈ spaces, binding ∈ policy.grantsIn (validNames [space]) := by
  simp only [mem_grantsIn, mem_validNames, List.mem_singleton]
  constructor
  · rintro ⟨hactive, permission, hmem, name, ⟨space, hspace, hvalid, hname⟩, hgranted⟩
    exact ⟨space, hspace, hactive, permission, hmem, name, ⟨space, rfl, hvalid, hname⟩, hgranted⟩
  · rintro ⟨space, hspace, hactive, permission, hmem, name, ⟨_, rfl, hvalid, hname⟩, hgranted⟩
    exact ⟨hactive, permission, hmem, name, ⟨_, hspace, hvalid, hname⟩, hgranted⟩

/-- The part in one namespace of what is granted in some. -/
theorem filter_grantsIn (name : Value) :
    (policy.grantsIn names).filter (fun binding => binding.space == name) =
      policy.grantsIn (names.filter (· == name)) := by
  unfold grantsIn
  split
  · rw [wantedIn, wantedIn, List.filter_flatMap]
    congr 1
    funext permission
    rw [wantedBy, wantedBy, List.filter_map, List.filter_filter, List.filter_filter]
    congr 1
    exact List.filter_congr fun other _ => Bool.and_comm _ _
  · rfl

end Policy

/-- A binding where one in a namespace is to stand has the same key. -/
theorem Binding.key_eq_of_place {binding other : Binding} {space name : String}
    (hat : binding.IsAt ⟨some space, name⟩) (hplace : other.place? = binding.place?) :
    other.space = binding.space ∧ other.name = binding.name := by
  have hother : other.IsAt ⟨some space, name⟩ :=
    Binding.isAt_iff.mpr (hplace.trans (Binding.isAt_iff.mp hat))
  exact ⟨hother.2.2.trans hat.2.2.symm, hother.1.trans hat.1.symm⟩

theorem exists_text_of_validNames {spaces : List Namespace}
    (h : ∀ space ∈ spaces, space.name.IsText) :
    ∀ name ∈ validNames spaces, ∃ text, text ≠ "" ∧ name = .text text := by
  intro name hmem
  obtain ⟨space, hspace, hvalid, rfl⟩ := mem_validNames.mp hmem
  obtain ⟨text, htext⟩ := h space hspace
  exact ⟨text, (Namespace.ne_empty_of_isValid hvalid htext).1, htext⟩

theorem Policy.key_eq_of_place {policy : Policy} {binding other : Binding}
    {spaces : List Namespace} (hspaces : ∀ space ∈ spaces, space.name.IsText)
    (hmem : binding ∈ policy.grantsIn (validNames spaces))
    (hplace : other.place? = binding.place?) :
    other.space = binding.space ∧ other.name = binding.name := by
  obtain ⟨-, permission, -, name, hname, -, rfl⟩ := Policy.mem_grantsIn.mp hmem
  obtain ⟨text, hne, rfl⟩ := exists_text_of_validNames hspaces name hname
  exact Binding.key_eq_of_place (policy.inNamespace_isAt permission.role hne) hplace

/-- Bindings of one policy under one key are the same. -/
theorem Policy.eq_of_key {policy : Policy} {first second : Binding} {names : List Value}
    (htextual : policy.IsTextual) (hfirst : first ∈ policy.grantsIn names)
    (hsecond : second ∈ policy.grantsIn names)
    (hspace : first.space = second.space) (hname : first.name = second.name) : first = second := by
  obtain ⟨-, one, hone, name, -, -, rfl⟩ := Policy.mem_grantsIn.mp hfirst
  obtain ⟨-, other, hother, space, -, -, rfl⟩ := Policy.mem_grantsIn.mp hsecond
  have hroles : one.role = other.role := Binding.role_eq_of_nameOf
    (htextual.permissions one hone).role (htextual.permissions other hother).role
    (Value.text.inj hname)
  have hspaces : name = space := hspace
  rw [hspaces, hroles]

/-! ### Agreement -/

namespace Cluster

variable {cluster : Cluster}

/-- Whether a cluster is sound, keeps its policies and namespaces under different keys, and has for
each active policy all roles and all bindings on the whole cluster. -/
structure IsPrepared (cluster : Cluster) : Prop extends cluster.IsSound where
  apart : cluster.policies.Pairwise Policy.IsApart
  distinct : cluster.namespaces.Pairwise fun a b => a.name ≠ b.name
  granted : ∀ policy ∈ cluster.policies, policy.active = true →
    ∀ role ∈ policy.clusterPermissions ++ policy.permissionRoles, role ∈ cluster.roles
  held : ∀ policy ∈ cluster.policies, policy.active = true →
    ∀ role ∈ policy.clusterPermissions, cluster.Holds (policy.clusterPlace role)

namespace IsPrepared

theorem isReady (h : cluster.IsPrepared) : cluster.IsReady where
  policies policy hmem := by
    obtain ⟨kept, hkept, rfl⟩ := exists_of_mem_owned hmem
    have hsound := h.policies kept hkept
    exact Policy.isReady_unreported.mpr
      ⟨hsound.toIsTextual, hsound.isVerdict, h.granted kept hkept⟩
  spaces := h.namespaces
  keys := h.roles

theorem missing_onCluster (h : cluster.IsPrepared) {policy : Policy}
    (hmem : policy ∈ cluster.policies) (hactive : policy.active = true) :
    Binding.missing cluster.bindings policy.wantedOnCluster = [] := by
  refine Binding.missing_eq_nil.mpr fun binding hwanted => ?_
  obtain ⟨role, hrole, rfl⟩ := List.mem_map.mp hwanted
  exact (isCovered_iff (policy.onCluster_isAt role)).mpr (h.held policy hmem hactive role hrole)

/-- No other namespace has the name of one. -/
theorem filter_name (h : cluster.IsPrepared) {space : Namespace}
    (hmem : space ∈ cluster.namespaces) {name : String} (hname : space.name = .text name) :
    cluster.namespaces.filter (fun other => other.name == .text name) = [space] := by
  refine filter_eq_of_pairwise (h.distinct.imp fun hne hboth => hne ?_) hmem
    (Value.beq_text_iff.mpr hname)
  exact (Value.beq_text_iff.mp hboth.1).trans (Value.beq_text_iff.mp hboth.2).symm

theorem getNamespace_eq (h : cluster.IsPrepared) {space : Namespace}
    (hmem : space ∈ cluster.namespaces) :
    ∃ name, space.name = .text name ∧ cluster.getNamespace (.text name) = .ok space := by
  obtain ⟨name, hname⟩ := h.namespaces space hmem
  refine ⟨name, hname, ?_⟩
  rw [getNamespace, ← List.head?_filter, h.filter_name hmem hname]
  rfl

theorem getPolicy_eq (h : cluster.IsPrepared) {policy : Policy} (hmem : policy ∈ cluster.policies) :
    cluster.getPolicy policy.space policy.name = .ok policy := by
  obtain ⟨space, hspace⟩ := (h.policies policy hmem).space
  obtain ⟨name, hname⟩ := (h.policies policy hmem).name
  have hkey : ∀ other : Policy, isPolicy policy.space policy.name other = true ↔
      other.space = policy.space ∧ other.name = policy.name := by
    intro other
    rw [isPolicy, hspace, hname, Bool.and_eq_true, Value.beq_text_iff, Value.beq_text_iff]
  refine Cluster.getPolicy_eq.mpr ⟨by rw [hspace, hname]; rfl, ?_⟩
  refine find?_eq_of_pairwise (h.apart.imp fun happart hboth => ?_) hmem ((hkey _).mpr ⟨rfl, rfl⟩)
  obtain ⟨hfirst, hsecond⟩ := And.intro ((hkey _).mp hboth.1) ((hkey _).mp hboth.2)
  exact happart (hfirst.1.trans hsecond.1.symm) (hfirst.2.trans hsecond.2.symm)

theorem filter_validNames (h : cluster.IsPrepared) {space : Namespace}
    (hmem : space ∈ cluster.namespaces) :
    (validNames cluster.namespaces).filter (· == space.name) = validNames [space] := by
  obtain ⟨name, hname⟩ := h.namespaces space hmem
  have hone := h.filter_name hmem hname
  rw [validNames, validNames, List.filter_map, hname, ← hone, List.filter_filter,
    List.filter_filter]
  congr 1
  exact List.filter_congr fun other _ => Bool.and_comm _ _

/-- The part in one namespace of what is missing of what a policy is granted. -/
theorem filter_missing (h : cluster.IsPrepared) (policy : Policy) {space : Namespace}
    (hmem : space ∈ cluster.namespaces) :
    (Binding.missing cluster.bindings (policy.grantsIn (validNames cluster.namespaces))).filter
        (fun binding => binding.space == space.name) =
      Binding.missing cluster.bindings (policy.grantsIn (validNames [space])) := by
  rw [Binding.filter_missing, Policy.filter_grantsIn, h.filter_validNames hmem]
  intro first hfirst second _ hplace
  rw [(Policy.key_eq_of_place h.namespaces hfirst hplace.symm).1]

/-- Under which key a granted binding is kept is told by its place. -/
theorem isBinding_of_place (h : cluster.IsPrepared) {policy : Policy} {binding other : Binding}
    (hmem : binding ∈ policy.grantsIn (validNames cluster.namespaces))
    (hplace : other.place? = binding.place?) (space name : Value) :
    isBinding space name other = isBinding space name binding := by
  obtain ⟨hspace, hname⟩ := Policy.key_eq_of_place h.namespaces hmem hplace
  rw [isBinding, isBinding, hspace, hname]

/-- Of what a single policy is granted, one binding at most is kept under a key. -/
theorem eq_of_isBinding (h : cluster.IsPrepared) {policy : Policy}
    (hpolicy : policy ∈ cluster.policies) {first second : Binding}
    (hfirst : first ∈ policy.grantsIn (validNames cluster.namespaces))
    (hsecond : second ∈ policy.grantsIn (validNames cluster.namespaces)) {space name : Value}
    (hkey : isBinding space name first = true) (hsame : isBinding space name second = true) :
    first = second := by
  have htexts : ∀ binding ∈ policy.grantsIn (validNames cluster.namespaces),
      isBinding space name binding = true → space = binding.space ∧ name = binding.name := by
    intro binding hmem hbinding
    obtain ⟨-, permission, -, target, htarget, -, rfl⟩ := Policy.mem_grantsIn.mp hmem
    obtain ⟨text, -, rfl⟩ := exists_text_of_validNames h.namespaces target htarget
    obtain ⟨hspace, hname⟩ := Bool.and_eq_true_iff.mp hbinding
    exact ⟨Value.text_beq_iff.mp hspace, Value.text_beq_iff.mp hname⟩
  obtain ⟨hspace, hname⟩ := htexts first hfirst hkey
  obtain ⟨hother, hlabel⟩ := htexts second hsecond hsame
  exact Policy.eq_of_key (h.policies policy hpolicy).toIsTextual hfirst hsecond
    (hspace.symm.trans hother) (hname.symm.trans hlabel)

end IsPrepared

end Cluster

/-- The bindings that a run creates are those that it adds to the cluster. -/
theorem createdIn_play {α : Type} {course : Course} {world : World} {program : Program α}
    {new : List Binding} (h : (course.play world program).world.cluster.bindings =
      world.cluster.bindings ++ new) : createdIn (course.play world program).past = new := by
  have hturned : world.cluster.Turned (course.play world program).past
      (course.play world program).world.cluster := course.turned_run (.refl _) program
  exact List.append_cancel_left (hturned.bindings.symm.trans h)

namespace Cluster.IsPrepared

variable {world : World} {spaces : List (Clock × Namespace)} {policies : List (Clock × Policy)}

theorem bindings_namespaces (h : world.cluster.IsPrepared) (hfresh : world.isStale = false)
    (hspaces : (spaces.map Prod.snd).Perm world.cluster.namespaces) :
    (NamespacePass.playAll world spaces).cluster.bindings = world.cluster.bindings ++
      Binding.missing world.cluster.bindings ((spaces.map Prod.snd).flatMap fun space =>
        world.cluster.policies.flatMap (·.grantsIn (validNames [space]))) := by
  rw [NamespacePass.bindings_playAll h.isReady hfresh fun space hmem =>
    h.getNamespace_eq (hspaces.subset hmem)]
  simp only [flatMap_grantsIn]

theorem bindings_policies (h : world.cluster.IsPrepared) (hfresh : world.isStale = false)
    (hpolicies : (policies.map Prod.snd).Perm world.cluster.policies) :
    (PolicyPass.playAll world policies).cluster.bindings = world.cluster.bindings ++
      Binding.missing world.cluster.bindings ((policies.map Prod.snd).flatMap
        (·.grantsIn (validNames world.cluster.namespaces))) := by
  have hapart : (policies.map Prod.snd).Pairwise Policy.IsApart :=
    h.apart.perm hpolicies.symm fun happart hspace hname => happart hspace.symm hname.symm
  refine PolicyPass.bindings_playAll h.isReady hfresh hapart fun policy hmem => ?_
  have hmem := hpolicies.subset hmem
  exact ⟨h.getPolicy_eq hmem, (h.policies policy hmem).messages, h.missing_onCluster hmem⟩

/-- Both ways grant the same bindings. -/
theorem mem_granted_iff (hspaces : (spaces.map Prod.snd).Perm world.cluster.namespaces)
    (hpolicies : (policies.map Prod.snd).Perm world.cluster.policies) (binding : Binding) :
    (binding ∈ (spaces.map Prod.snd).flatMap fun space =>
        world.cluster.policies.flatMap (·.grantsIn (validNames [space]))) ↔
      binding ∈ (policies.map Prod.snd).flatMap
        (·.grantsIn (validNames world.cluster.namespaces)) := by
  simp only [List.mem_flatMap, hspaces.mem_iff, hpolicies.mem_iff]
  constructor
  · rintro ⟨space, hspace, policy, hpolicy, hgranted⟩
    exact ⟨policy, hpolicy, Policy.mem_grantsIn_validNames.mpr ⟨space, hspace, hgranted⟩⟩
  · rintro ⟨policy, hpolicy, hgranted⟩
    obtain ⟨space, hspace, hgranted⟩ := Policy.mem_grantsIn_validNames.mp hgranted
    exact ⟨space, hspace, policy, hpolicy, hgranted⟩

/-- A pass over a namespace with a single policy creates what is missing there. -/
theorem created_namespace (h : world.cluster.IsPrepared) (hfresh : world.isStale = false)
    {policy : Policy} (hone : world.cluster.policies = [policy]) {space : Namespace}
    (hmem : space ∈ world.cluster.namespaces) (clock : Clock) :
    createdIn (clock.calm.play world (NamespacePass.run space.name)).past =
      Binding.missing world.cluster.bindings (policy.grantsIn (validNames [space])) := by
  obtain ⟨name, hname, hfound⟩ := h.getNamespace_eq hmem
  have hbindings := NamespacePass.bindings_play clock hfresh h.isReady hfound
  rw [hone, List.flatMap_singleton, ← hname] at hbindings
  exact createdIn_play hbindings

theorem created_policy (h : world.cluster.IsPrepared) (hfresh : world.isStale = false)
    {policy : Policy} (hmem : policy ∈ world.cluster.policies) (clock : Clock) :
    createdIn (clock.calm.play world (PolicyPass.run policy.space policy.name)).past =
      Binding.missing world.cluster.bindings
        (policy.grantsIn (validNames world.cluster.namespaces)) := by
  have hreports := PolicyPass.reports_play clock hfresh h.isReady (h.policies policy hmem).messages
    (h.getPolicy_eq hmem) (h.missing_onCluster hmem)
  exact createdIn_play hreports.bindings

theorem any_isBinding_eq (h : world.cluster.IsPrepared) (hfresh : world.isStale = false)
    (hspaces : (spaces.map Prod.snd).Perm world.cluster.namespaces)
    (hpolicies : (policies.map Prod.snd).Perm world.cluster.policies) (space name : Value) :
    (NamespacePass.playAll world spaces).cluster.bindings.any (isBinding space name) =
      (PolicyPass.playAll world policies).cluster.bindings.any (isBinding space name) := by
  have hgranted := mem_granted_iff hspaces hpolicies
  have hplace : ∀ binding ∈ (policies.map Prod.snd).flatMap
      (·.grantsIn (validNames world.cluster.namespaces)),
      ∀ other : Binding, other.place? = binding.place? →
        isBinding space name other = isBinding space name binding := by
    intro binding hmem other hplace
    obtain ⟨policy, -, hmem⟩ := List.mem_flatMap.mp hmem
    exact h.isBinding_of_place hmem hplace space name
  rw [h.bindings_namespaces hfresh hspaces, h.bindings_policies hfresh hpolicies,
    Binding.any_fill fun binding hmem => hplace binding ((hgranted binding).mp hmem),
    Binding.any_fill hplace]
  congr 1
  rw [Bool.eq_iff_iff, List.any_eq_true, List.any_eq_true]
  simp only [hgranted]

theorem find?_isBinding_eq (h : world.cluster.IsPrepared) (hfresh : world.isStale = false)
    (hspaces : (spaces.map Prod.snd).Perm world.cluster.namespaces)
    (hpolicies : (policies.map Prod.snd).Perm world.cluster.policies) {policy : Policy}
    (hone : world.cluster.policies = [policy]) (space name : Value) :
    (NamespacePass.playAll world spaces).cluster.bindings.find? (isBinding space name) =
      (PolicyPass.playAll world policies).cluster.bindings.find? (isBinding space name) := by
  have hgranted := mem_granted_iff hspaces hpolicies
  have hmem : policy ∈ world.cluster.policies := hone ▸ List.mem_singleton_self policy
  have hsingle : ∀ binding ∈ (spaces.map Prod.snd).flatMap (fun space =>
      world.cluster.policies.flatMap (·.grantsIn (validNames [space]))),
      binding ∈ policy.grantsIn (validNames world.cluster.namespaces) := by
    intro binding hbinding
    obtain ⟨other, hother, hgranted⟩ := List.mem_flatMap.mp ((hgranted binding).mp hbinding)
    have heq : other ∈ [policy] := hone ▸ hpolicies.subset hother
    rwa [List.mem_singleton.mp heq] at hgranted
  rw [h.bindings_namespaces hfresh hspaces, h.bindings_policies hfresh hpolicies]
  refine Binding.find?_fill hgranted ?_ ?_
  · exact fun binding hbinding other hplace =>
      h.isBinding_of_place (hsingle binding hbinding) hplace space name
  · exact fun first hfirst second hsecond hkey hother =>
      h.eq_of_isBinding hmem (hsingle first hfirst) (hsingle second hsecond) hkey hother

/-- Passes over all namespaces and passes over all policies, each in any order, leave bindings under
the same keys. Of a single policy they leave the same bindings, and a pass over one namespace
creates those that the pass over the policy creates there, in the same order. -/
theorem passes_agree (h : world.cluster.IsPrepared) (hfresh : world.isStale = false)
    (hspaces : (spaces.map Prod.snd).Perm world.cluster.namespaces)
    (hpolicies : (policies.map Prod.snd).Perm world.cluster.policies) :
    let byNamespace := (NamespacePass.playAll world spaces).cluster.bindings
    let byPolicy := (PolicyPass.playAll world policies).cluster.bindings
    (∀ space name, byNamespace.any (isBinding space name) = byPolicy.any (isBinding space name)) ∧
    ∀ policy, world.cluster.policies = [policy] →
      (∀ space name,
        byNamespace.find? (isBinding space name) = byPolicy.find? (isBinding space name)) ∧
      ∀ space ∈ world.cluster.namespaces, ∀ one other : Clock,
        createdIn (one.calm.play world (NamespacePass.run space.name)).past =
          (createdIn (other.calm.play world
            (PolicyPass.run policy.space policy.name)).past).filter (·.space == space.name) := by
  refine ⟨h.any_isBinding_eq hfresh hspaces hpolicies, fun policy hone =>
    ⟨h.find?_isBinding_eq hfresh hspaces hpolicies hone, fun space hspace one other => ?_⟩⟩
  have hmem : policy ∈ world.cluster.policies := hone ▸ List.mem_singleton_self policy
  rw [h.created_namespace hfresh hone hspace, h.created_policy hfresh hmem,
    h.filter_missing policy hspace]

end Cluster.IsPrepared

/-- A policy with its binding on the whole cluster in place, and two namespaces that it chooses. -/
def DryRun.World.prepared : World where
  cluster := {
    policies := [Policy.editor], namespaces := [{ name := "web" }, { name := "web-two" }]
    roles := [.text "view", .text "edit"]
    bindings := [.onCluster "view" Policy.editor] }

theorem DryRun.World.prepared_isPrepared : World.prepared.cluster.IsPrepared where
  policies := World.web_isSound.policies
  roles := World.web_isSound.roles
  namespaces space hmem := by
    rcases List.mem_cons.mp hmem with rfl | hmem
    · exact ⟨_, rfl⟩
    · cases List.mem_singleton.mp hmem
      exact ⟨_, rfl⟩
  apart := List.pairwise_singleton _ _
  distinct := List.pairwise_pair.mpr fun hsame =>
    absurd (Value.text.inj hsame) (by decide)
  granted policy hmem _ role hrole := by
    cases List.mem_singleton.mp hmem
    exact hrole
  held policy hmem _ role hrole := by
    cases List.mem_singleton.mp hmem
    cases List.mem_singleton.mp hrole
    exact ⟨_, List.mem_singleton_self _, Policy.editor.onCluster_isAt "view"⟩

/-- The namespaces in the other order, on one side, and on the other the only policy. -/
theorem Cluster.IsPrepared.passes_agree_web :
    let clock := Course.unwritable.toClock
    let byNamespace := (NamespacePass.playAll .prepared
      [(clock, { name := "web-two" }), (clock, { name := "web" })]).cluster.bindings
    let byPolicy := (PolicyPass.playAll .prepared [(clock, .editor)]).cluster.bindings
    byNamespace.length = 3 ∧ ∀ space name,
      byNamespace.find? (isBinding space name) = byPolicy.find? (isBinding space name) := by
  have hlength : (NamespacePass.playAll .prepared
      [(Course.unwritable.toClock, { name := "web-two" }),
        (Course.unwritable.toClock, { name := "web" })]).cluster.bindings.length = 3 := by
    decide +kernel
  have hspaces : ([(Course.unwritable.toClock, { name := "web-two" }),
      (Course.unwritable.toClock, { name := "web" })].map Prod.snd).Perm
      World.prepared.cluster.namespaces := .swap _ _ _
  have hpolicies : ([(Course.unwritable.toClock, Policy.editor)].map Prod.snd).Perm
      World.prepared.cluster.policies := .refl _
  have hagree := World.prepared_isPrepared.passes_agree rfl hspaces hpolicies
  exact ⟨hlength, (hagree.2 .editor rfl).1⟩

end RoleGrants
