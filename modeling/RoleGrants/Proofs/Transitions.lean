import RoleGrants.Proofs.Releasing

/-! The times of kept conditions. Over every run of the handlers, with changes of the cluster
between them and at whatever times, a condition whose status a handler leaves as it was keeps its
time. The one exception is a condition that tells of a breach: a pass over the policy, once it
breaks no rule, drops it, and a condition of its type that the pass sets is dated anew. -/

namespace RoleGrants

open DryRun

/-- Whether policies are kept under different keys, each with at most one condition of a type. -/
structure Cluster.IsOrderly (cluster : Cluster) : Prop where
  apart : ∀ (one other : Nat) policy kept, one ≠ other → cluster.policies[one]? = some policy →
    cluster.policies[other]? = some kept → Cluster.isPolicy policy.space policy.name kept = false
  types : ∀ policy ∈ cluster.policies, policy.conditions.Pairwise fun a b => a.type ≠ b.type

/-- The policies that a handler writes are kept when it begins: a deletion writes none. -/
theorem Occasion.mem_of_written {occasion : Occasion} {world : World}
    {ended : Ending occasion.Answer} (h : occasion.handler.Ends world ended) {policy : Policy}
    (hconcerns : occasion.Concerns world.cluster.policies policy) :
    policy ∈ world.cluster.policies ∨ ∀ event ∈ ended.past, ¬ event.IsWrite := by
  cases occasion with
  | policyChanged settings space name => exact .inl (List.mem_of_find?_eq_some hconcerns)
  | policyResynced space name => exact .inl (List.mem_of_find?_eq_some hconcerns)
  | policyDeleted space name body =>
    exact .inr ((Handlers.onlyReports_policyDeleted space name body).quiet h.follows).2
  | namespaceChanged event name => exact .inl hconcerns

/-- What a handler makes of a kept policy: nothing, or new conditions that keep those before. -/
theorem Occasion.keeps {occasion : Occasion} {world : World} {ended : Ending occasion.Answer}
    (h : occasion.handler.Ends world ended) (horderly : world.cluster.IsOrderly) {index : Nat}
    {kept : Policy} (hkept : world.cluster.policies[index]? = some kept) :
    ended.past.foldl Policy.after kept = kept ∨
      occasion.Concerns world.cluster.policies kept ∧
        Tracker.Keeps (occasion.Drops kept) kept.conditions
          (ended.past.foldl Policy.after kept).conditions := by
  rcases Policy.foldl_after_cases ended.past kept with hsame | ⟨written, hmem, hkey, heq⟩
  · exact .inl hsame
  obtain ⟨hevents, -⟩ := (occasion.within_handler world.cluster.policies).ends h
  obtain ⟨policy, conditions, hconcerns, hkeeps, rfl⟩ := hevents _ hmem
  rcases Occasion.mem_of_written h hconcerns with hpolicy | hquiet
  · obtain ⟨other, hother⟩ := List.getElem?_of_mem hpolicy
    have hindex : other = index := by
      refine Classical.byContradiction fun hne => ?_
      rw [horderly.apart other index policy kept hne hother hkept] at hkey
      cases hkey
    have hpolicies : policy = kept := by
      rw [hindex, hkept] at hother
      exact (Option.some.inj hother).symm
    subst hpolicies
    rw [Tracker.firstOfType_eq (horderly.types policy (List.mem_of_getElem? hkept))] at hkeeps
    exact .inr ⟨hconcerns, heq ▸ hkeeps⟩
  · exact .inl (Policy.foldl_after_of_quiet hquiet kept)

theorem Occasion.orderly_of_ends {occasion : Occasion} {world : World}
    {ended : Ending occasion.Answer} (h : occasion.handler.Ends world ended)
    (horderly : world.cluster.IsOrderly) : ended.world.cluster.IsOrderly := by
  have hkeys : ∀ (past : List Event) (policy : Policy),
      (past.foldl Policy.after policy).space = policy.space ∧
        (past.foldl Policy.after policy).name = policy.name := by
    intro past policy
    rcases Policy.foldl_after_cases past policy with heq | ⟨_, _, _, heq⟩ <;> simp [heq]
  constructor
  · intro one other policy kept hne hone hother
    rw [h.lives.policies, List.getElem?_map] at hone hother
    obtain ⟨first, hfirst, rfl⟩ := Option.map_eq_some_iff.mp hone
    obtain ⟨second, hsecond, rfl⟩ := Option.map_eq_some_iff.mp hother
    have hbefore := horderly.apart one other first second hne hfirst hsecond
    simpa only [Cluster.isPolicy, hkeys] using hbefore
  · intro policy hmem
    rw [h.lives.policies] at hmem
    obtain ⟨kept, hkept, rfl⟩ := List.mem_map.mp hmem
    obtain ⟨index, hindex⟩ := List.getElem?_of_mem hkept
    rcases Occasion.keeps h horderly hindex with hsame | ⟨-, hkeeps⟩
    · rw [hsame]
      exact horderly.types kept hkept
    · exact hkeeps.types

theorem DryRun.World.Reaches.isOrderly {first later : World}
    (h : first.Reaches (fun _ after => after.IsOrderly) later)
    (hfirst : first.cluster.IsOrderly) : later.cluster.IsOrderly := by
  induction h with
  | start => exact hfirst
  | handled occasion _ hended ih => exact Occasion.orderly_of_ends hended ih
  | changed _ hchange => exact hchange

/-- Over every run, with changes of the cluster that leave it orderly and with a clock that may show
anything, a condition whose status is the same before and after a handler keeps its time, unless it
tells of a breach and the handler is a pass over its policy, which then breaks no rule. -/
theorem DryRun.World.Reaches.keeps_times {first later : World}
    (h : first.Reaches (fun _ after => after.IsOrderly) later) (hfirst : first.cluster.IsOrderly)
    (occasion : Occasion) {ended : Ending occasion.Answer}
    (hended : occasion.handler.Ends later ended) (index : Nat) {before after : Policy}
    (hbefore : later.cluster.policies[index]? = some before)
    (hafter : ended.world.cluster.policies[index]? = some after) :
    after.conditions.Pairwise (fun a b => a.type ≠ b.type) ∧
      ∀ earlier ∈ before.conditions, ∀ now ∈ after.conditions, now.type = earlier.type →
        now.status = earlier.status →
        ¬ (occasion.Concerns later.cluster.policies before ∧ occasion.Drops before earlier) →
        now.lastTransitionTime = earlier.lastTransitionTime := by
  have horderly := h.isOrderly hfirst
  rw [hended.lives.policies, List.getElem?_map, hbefore] at hafter
  obtain rfl : ended.past.foldl Policy.after before = after := Option.some.inj hafter
  have htypes := horderly.types before (List.mem_of_getElem? hbefore)
  rcases Occasion.keeps hended horderly hbefore with hsame | ⟨hconcerns, hkeeps⟩
  · rw [hsame]
    refine ⟨htypes, fun earlier hearlier now hnow htype _ _ => ?_⟩
    rw [Tracker.eq_of_types htypes hnow hearlier htype]
  · refine ⟨hkeeps.types, fun earlier hearlier now hnow htype hstatus hkept => ?_⟩
    exact hkeeps.times earlier hearlier (fun hdrops => hkept ⟨hconcerns, hdrops⟩) now hnow htype
      hstatus

/-- What the clock shows all the time. -/
def Clock.still (moment : Int) (h : ∃ text, Timestamp.ofMoment moment = .ok text) : Clock where
  moment _ := moment
  dated _ := h

/-- The course on which the clock shows a minute past the start of its count and no call fails. -/
def Course.later : Course := (Clock.still 60 ⟨_, rfl⟩).calm

/-- The type, the status and the time of a condition. -/
def Condition.dating (condition : Condition) : ConditionType × Bool × String :=
  (condition.type, condition.status, condition.lastTransitionTime.plain)

def Cluster.datings (cluster : Cluster) : List (List (ConditionType × Bool × String)) :=
  cluster.policies.map fun policy => policy.conditions.map Condition.dating

theorem Cluster.isOrderly_single {policy : Policy} {roles : List Value}
    (h : policy.conditions.Pairwise fun a b => a.type ≠ b.type) :
    ({ policies := [policy], roles } : Cluster).IsOrderly where
  apart one other first second hne hone hother := by
    have hindex : ∀ (index : Nat) kept, [policy][index]? = some kept → index = 0 := by
      intro index kept hkept
      obtain ⟨hlt, -⟩ := List.getElem?_eq_some_iff.mp hkept
      simpa using hlt
    exact absurd ((hindex one first hone).trans (hindex other second hother).symm) hne
  types kept hmem := List.mem_singleton.mp hmem ▸ h

/-- The role of a policy is granted, and a minute later the policy is looked at again. -/
theorem DryRun.World.Reaches.keeps_times_viewed :
    let changed : Occasion := .policyChanged {} "team" "viewer"
    let later := (Course.unwritable.calm.play .viewed changed.handler).world
    let ended := Course.later.play later changed.handler
    World.viewed.cluster.IsOrderly ∧
      later.cluster.datings = [[(.clusterRoleBindingCreated, true, "1970-01-01T00:00:00Z")]] ∧
      ended.world.cluster.datings =
        [[(.clusterRoleBindingCreated, true, "1970-01-01T00:00:00Z")]] ∧
      ∀ before after, later.cluster.policies[0]? = some before →
        ended.world.cluster.policies[0]? = some after →
        after.conditions.Pairwise (fun a b => a.type ≠ b.type) ∧
          ∀ earlier ∈ before.conditions, ∀ now ∈ after.conditions, now.type = earlier.type →
            now.status = earlier.status →
            ¬ (changed.Concerns later.cluster.policies before ∧ changed.Drops before earlier) →
            now.lastTransitionTime = earlier.lastTransitionTime := by
  intro changed later ended
  have hdatings : later.cluster.datings =
        [[(.clusterRoleBindingCreated, true, "1970-01-01T00:00:00Z")]] ∧
      ended.world.cluster.datings =
        [[(.clusterRoleBindingCreated, true, "1970-01-01T00:00:00Z")]] := by
    decide +kernel
  have horderly : World.viewed.cluster.IsOrderly := Cluster.isOrderly_single .nil
  have hreaches : World.viewed.Reaches (fun _ after => after.IsOrderly) later :=
    .handled changed .start (Course.ends_play _ _ _)
  have hended : changed.handler.Ends later ended := Course.ends_play _ _ _
  clear_value ended later
  exact ⟨horderly, hdatings.1, hdatings.2, fun _ _ =>
    hreaches.keeps_times horderly changed hended 0⟩

/-- A pass refuses a policy without a subject and tells so in conditions that are true. When the
subject is there, a pass a minute later finds the role granted: the condition is true as before, but
its time is another. -/
theorem Handlers.passOver_redates :
    let world : World := {
      cluster := {
        policies := [{ Policy.viewer with subjectName := "" }], roles := [.text "view"] } }
    let changed : Occasion := .policyChanged {} "team" "viewer"
    let refused := (Course.unwritable.calm.play world changed.handler).world
    let mended : World := { refused with
      cluster := refused.cluster.changePolicy "team" "viewer" fun policy =>
        { policy with subjectName := "ann" } }
    let ended := Course.later.play mended changed.handler
    world.cluster.IsOrderly ∧
      world.Reaches (fun before after => ∃ subject, after =
        before.changePolicy "team" "viewer" fun policy =>
          { policy with subjectName := subject }) mended ∧
      changed.handler.Ends mended ended ∧
      mended.cluster.datings = [[(.clusterRoleBindingCreated, true, "1970-01-01T00:00:00Z"),
        (.roleBindingCreated, true, "1970-01-01T00:00:00Z")]] ∧
      ended.world.cluster.datings =
        [[(.clusterRoleBindingCreated, true, "1970-01-01T00:01:00Z")]] := by
  intro world changed refused mended ended
  have hdatings : mended.cluster.datings =
        [[(.clusterRoleBindingCreated, true, "1970-01-01T00:00:00Z"),
          (.roleBindingCreated, true, "1970-01-01T00:00:00Z")]] ∧
      ended.world.cluster.datings =
        [[(.clusterRoleBindingCreated, true, "1970-01-01T00:01:00Z")]] := by
    decide +kernel
  have hreaches : world.Reaches (fun before after => ∃ subject, after =
      before.changePolicy "team" "viewer" fun policy =>
        { policy with subjectName := subject }) mended :=
    .changed (.handled changed .start (Course.ends_play _ _ _)) ⟨"ann", rfl⟩
  exact ⟨Cluster.isOrderly_single .nil, hreaches, Course.ends_play _ _ _, hdatings⟩

end RoleGrants
