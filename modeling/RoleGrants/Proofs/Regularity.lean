import RoleGrants.Proofs.Reach

/-! Sound clusters stay sound under passes that interleave in any order: what passes write of the
conditions of a policy has texts as messages, since what they read has. So nothing irregular happens
to a pass over a sound cluster without failures. -/

namespace RoleGrants

open DryRun

def Policy.IsWorded (policy : Policy) : Prop :=
  ∀ condition ∈ policy.conditions, condition.message.IsText

/-- Whether a cluster is made of sound policies, of namespaces whose names are texts, and of roles
that can be keys. -/
structure Cluster.IsSound (cluster : Cluster) : Prop where
  policies : ∀ policy ∈ cluster.policies, policy.IsSound
  namespaces : ∀ space ∈ cluster.namespaces, space.name.IsText
  roles : ∀ role ∈ cluster.roles, role.isKey

def Event.IsWorded : Event → Prop
  | .called (.getPolicy _ _) (.ok policy) => policy.IsWorded
  | .called .listPolicies (.ok policies) => ∀ policy ∈ policies, policy.IsWorded
  | _ => True

/-! ### The conditions that passes write -/

theorem PolicyPass.mem_forgetBreaches {types : List ConditionType} {tracker after : Tracker}
    (h : forgetBreaches tracker types = .ok after) {condition : Condition}
    (hmem : condition ∈ after.current) : condition ∈ tracker.current := by
  induction types generalizing tracker with
  | nil =>
    cases h
    exact hmem
  | cons type rest ih =>
    obtain ⟨mended, -, h⟩ := exists_of_bind_ok h
    have hmiddle := ih h
    cases mended with
    | true => exact (List.mem_filter.mp hmiddle).1
    | false => exact hmiddle

theorem PolicyPass.mem_opening {policy : Policy} {initial : Tracker}
    (h : opening policy = .ok initial) {condition : Condition}
    (hmem : condition ∈ initial.current) : condition ∈ policy.conditions := by
  unfold opening at h
  split at h
  · exact Tracker.mem_of_mem_firstOfType (mem_forgetBreaches h hmem)
  · cases h
    exact Tracker.mem_of_mem_firstOfType hmem

theorem Trigger.isText_of_judges {trigger : Trigger} {verdict : Verdict}
    (h : trigger.contract.judges verdict) : verdict.message.IsText := by
  cases trigger with
  | ofPolicy space name => exact h
  | ofNamespace name => exact h.2

/-- The statuses that a pass writes have texts as messages if those that it read have. -/
theorem Trigger.isWorded {trigger : Trigger} {past : List Event} {written : Policy}
    (hdemand : trigger.contract.demands past (.updateStatus written))
    (hmessages : ∀ verdict moment, .judged verdict moment ∈ past → verdict.message.IsText)
    (hworded : ∀ event ∈ past, event.IsWorded) : written.IsWorded := by
  intro condition hmem
  cases trigger with
  | ofPolicy space name =>
    obtain ⟨policy, tracker, hworking, rfl⟩ := hdemand
    obtain ⟨home, label, hfetched⟩ := hworking.fetched
    obtain ⟨initial, hopening, hreplay⟩ := hworking.tracks
    rcases Tracker.mem_replay hreplay hmem with hinitial | ⟨verdict, hverdict, hmessage⟩
    · exact hworded _ hfetched condition (PolicyPass.mem_opening hopening hinitial)
    · exact hmessage ▸ hmessages _ _ (mem_verdicts hverdict)
  | ofNamespace name =>
    obtain ⟨policy, hconcluded⟩ := hdemand
    obtain ⟨policies, done, hreading, hpart, -⟩ := hconcluded.read
    have hpolicy : policy ∈ policies := hpart.subset List.mem_concat_self
    obtain ⟨moment, tracker, hjudged, hupsert, rfl⟩ := hconcluded.judged
    rcases Tracker.mem_upsert hupsert hmem with hstart | hmessage
    · exact hworded _ hreading.listed policy hpolicy condition
        (Tracker.mem_of_mem_firstOfType hstart)
    · exact hmessage ▸ hmessages _ _ hjudged

/-! ### What sound clusters answer -/

namespace Cluster.IsSound

variable {base cluster : Cluster}

theorem isTextual (h : cluster.IsSound) : ∀ policy ∈ cluster.owned, policy.IsTextual :=
  isTextual_owned fun policy hmem => (h.policies policy hmem).toIsTextual

theorem withConditions {kept : Policy} (h : kept.IsSound) {conditions : List Condition}
    (hconditions : ∀ condition ∈ conditions, condition.message.IsText) :
    { kept with conditions }.IsSound where
  name := h.name
  space := h.space
  subjectKind := h.subjectKind
  subjectName := h.subjectName
  subjectNamespace := h.subjectNamespace
  clusterPermissions := h.clusterPermissions
  permissions := h.permissions
  patterns := h.patterns
  messages := hconditions

/-- An answered policy is sound if its owner's part is that of a policy of the cluster. -/
theorem isSound_of_owned (h : cluster.IsSound) {policy : Policy}
    (howned : policy.unreported ∈ cluster.owned) (hworded : policy.IsWorded) : policy.IsSound := by
  obtain ⟨kept, hmem, hkept⟩ := List.mem_map.mp howned
  have hsound : policy.unreported.IsSound :=
    hkept ▸ withConditions (h.policies kept hmem) fun _ hnone => absurd hnone List.not_mem_nil
  exact withConditions hsound hworded

theorem answer (h : cluster.IsSound) {request : StoreCall}
    (hwritten : ∀ written, request = .updateStatus written → written.IsWorded) :
    (cluster.answer request).2.IsSound := by
  cases request with
  | createBinding binding =>
    dsimp only [Cluster.answer]
    split
    · next after hafter =>
      obtain ⟨rfl, -⟩ := createBinding_ok hafter
      exact ⟨h.policies, h.namespaces, h.roles⟩
    · exact h
  | updateStatus written =>
    dsimp only [Cluster.answer]
    split
    · next after hafter =>
      rw [updateStatus_ok hafter]
      refine ⟨fun policy hmem => ?_, h.namespaces, h.roles⟩
      obtain ⟨kept, hkept, rfl⟩ := List.mem_map.mp hmem
      dsimp only
      split
      · exact withConditions (h.policies kept hkept) (hwritten written rfl)
      · exact h.policies kept hkept
    · exact h
  | _ => exact h

theorem isWorded (h : cluster.IsSound) (request : StoreCall) :
    Event.IsWorded (.called request (cluster.answer request).1) := by
  cases request with
  | getPolicy space name =>
    dsimp only [Cluster.answer]
    cases hanswer : cluster.getPolicy space name with
    | error failure => trivial
    | ok policy =>
      obtain ⟨_, _, hfound⟩ := exists_of_bind_ok hanswer
      split at hfound
      · next found hfind =>
        cases hfound
        exact (h.policies _ (List.mem_of_find?_eq_some hfind)).messages
      · cases hfound
  | listPolicies => exact fun policy hmem => (h.policies policy hmem).messages
  | _ => trivial

end Cluster.IsSound

theorem Event.IsSeen.isRegular {base cluster : Cluster} {event : Event}
    (h : event.IsSeen base cluster) (hsound : cluster.IsSound) (hworded : event.IsWorded) :
    event.IsRegular := by
  cases event with
  | judged verdict moment => exact h
  | reported item result => exact h
  | called request answer =>
    cases request with
    | getPolicy space name =>
      cases answer with
      | ok policy =>
        refine ⟨nofun, fun other heq => ?_⟩
        cases heq
        exact hsound.isSound_of_owned h.mem_owned hworded
      | error failure =>
        refine ⟨fun other heq => ?_, nofun⟩
        cases heq
        exact h.2
    | listPolicies =>
      obtain ⟨policies, rfl, -⟩ := id h
      exact ⟨policies, rfl, fun policy hmem =>
        hsound.isSound_of_owned (h.mem_owned_list hmem) (hworded policy hmem)⟩
    | listClusterRoles => exact ⟨_, h, hsound.roles⟩
    | listClusterRoleBindings => exact ⟨_, h.choose_spec.1⟩
    | listRoleBindings space => exact ⟨_, h.choose_spec.1⟩
    | getNamespace name =>
      intro failure heq
      have hanswer := h.2.symm.trans heq
      unfold Cluster.getNamespace at hanswer
      split at hanswer
      · cases hanswer
      · cases hanswer
        exact ⟨_, rfl⟩
    | listNamespaces => exact ⟨_, h, hsound.namespaces⟩
    | createBinding binding => exact h.1
    | updateStatus written => exact h

/-- What holds besides of a pool over a sound cluster. -/
structure Pool.IsWorded (pool : Pool) : Prop where
  cluster : pool.world.cluster.IsSound
  workers : ∀ worker ∈ pool.workers, ∀ event ∈ worker.past, event.IsWorded

namespace Pool.IsWorded

variable {origin : Cluster} {triggers : List Trigger} {pool later : Pool}

/-- No worker of a sound pool has met with anything irregular. -/
theorem not_troubled (h : pool.IsWorded) (hpool : pool.IsSound origin triggers) {worker : Worker}
    (hmem : worker ∈ pool.workers) : ¬ Troubled worker.past := by
  rintro ⟨event, hevent, hirregular⟩
  obtain ⟨base, hsees⟩ := hpool.workers worker hmem
  have hworded := h.workers worker hmem event hevent
  exact hirregular ((hsees.seen event hevent).isRegular h.cluster hworded)

theorem step (h : pool.IsWorded) (hpool : pool.IsSound origin triggers) {index : Nat}
    {event : Event} (hstep : pool.Step index event later) : later.IsWorded := by
  obtain ⟨hworker, hresumes, hhappens⟩ := hstep
  next worker rest after =>
  have hmem : worker ∈ pool.workers := List.mem_of_getElem? hworker
  obtain ⟨base, hsees⟩ := hpool.workers worker hmem
  have hboth : after.cluster.IsSound ∧ event.IsWorded := by
    cases hhappens with
    | judge htime => exact ⟨h.cluster, trivial⟩
    | @report item => exact ⟨(pool.world.report_cluster item).1 ▸ h.cluster, trivial⟩
    | @call request =>
      obtain ⟨hanswer, hcluster, -⟩ := World.call_eq hpool.faultless request
      rw [hanswer, hcluster]
      refine ⟨h.cluster.answer fun written heq => ?_, h.cluster.isWorded request⟩
      subst heq
      have hdemand := hsees.demands h.cluster.isTextual hresumes
      refine Trigger.isWorded hdemand (fun verdict moment hjudged => ?_) (h.workers worker hmem)
      exact Trigger.isText_of_judges (hsees.judges h.cluster.isTextual hjudged)
  refine ⟨hboth.1, fun other hother => ?_⟩
  rcases List.mem_or_eq_of_mem_set hother with hother | rfl
  · exact h.workers other hother
  · intro known hknown
    rcases List.mem_append.mp hknown with hknown | hknown
    · exact h.workers worker hmem known hknown
    · exact List.mem_singleton.mp hknown ▸ hboth.2

theorem run {world : World} (hworld : world.IsFaultless) (hsound : world.cluster.IsSound)
    (hrun : (Pool.start world triggers).Run pool) : pool.IsWorded := by
  induction hrun with
  | refl =>
    refine ⟨hsound, fun worker hmem => ?_⟩
    obtain ⟨trigger, -, rfl⟩ := List.mem_map.mp hmem
    exact fun _ hevent => absurd hevent List.not_mem_nil
  | @turn pool later hbefore hturn ih =>
    have hpool := Pool.IsSound.run hworld hsound.isTextual hbefore
    cases hturn with
    | step hstep => exact ih.step hpool hstep
    | again hworker hdone =>
      refine ⟨ih.cluster, fun other hother => ?_⟩
      rcases List.mem_or_eq_of_mem_set hother with hother | rfl
      · exact ih.workers other hother
      · exact fun _ hevent => absurd hevent List.not_mem_nil

end Pool.IsWorded

theorem DryRun.World.web_isSound : World.web.cluster.IsSound where
  policies policy hmem := by
    cases List.mem_singleton.mp hmem
    have h := Policy.viewer_isTextual
    refine ⟨⟨⟨_, rfl⟩, h.space, h.subjectKind, h.subjectName, h.subjectNamespace,
      h.clusterPermissions, ?_⟩, ?_, fun _ hnone => absurd hnone List.not_mem_nil⟩
    · intro permission hmem
      cases List.mem_singleton.mp hmem
      exact ⟨⟨_, rfl⟩, ⟨_, rfl⟩, ⟨_, rfl⟩⟩
    · intro permission hmem
      cases List.mem_singleton.mp hmem
      have hallowed : Safelist.IsPlain (.text "web") := by decide +kernel
      have hdenied : Safelist.IsPlain (.text "") := by decide +kernel
      exact ⟨hallowed, hdenied⟩
  namespaces space hmem := ⟨"web", by cases List.mem_singleton.mp hmem; rfl⟩
  roles role hmem := by
    rcases List.mem_cons.mp hmem with rfl | hmem
    · rfl
    · cases List.mem_singleton.mp hmem
      rfl

end RoleGrants
