import RoleGrants.Proofs.Counting

/-! What the counters show after some passes over a sound cluster, one after another in any order
and with any refusals. Bindings are counted as created just as they are added, and the end of each
pass is counted once. All attempts are counted but those of passes over namespaces that fail and
leave no binding: passes over policies count these as errors, and passes over namespaces do not. -/

namespace RoleGrants

open DryRun

def Counter.isPassOf (controller : String) : Counter → Bool
  | .passes other _ => other == controller
  | _ => false

namespace Event

/-- Whether an event is an attempt to create a binding of a kind. -/
def creates (kind : String) : Event → Bool
  | .called (.createBinding binding) _ => binding.kind == kind
  | _ => false

/-- Whether an event is an attempt to create a binding of a kind that fails, and not because the
binding is there already. -/
def failsToCreate (kind : String) : Event → Bool
  | .called (.createBinding _) (.ok _) => false
  | .called (.createBinding _) (.error (.store .alreadyExists _)) => false
  | .called (.createBinding binding) (.error _) => binding.kind == kind
  | _ => false

end Event

namespace DryRun.World

/-- How often a counter was moved. -/
def tally (world : World) (counter : Counter) : Nat := world.journal.counts.count counter

/-- How many attempts to create a binding of a kind were counted, however they ended. -/
def tallyOfAttempts (world : World) (kind : String) : Nat :=
  world.tally (.creations kind "created") + world.tally (.creations kind "exists") +
    world.tally (.creations kind "error")

/-- How many passes of a controller were counted, however they ended. -/
def tallyOfPasses (world : World) (controller : String) : Nat :=
  world.journal.counts.countP (Counter.isPassOf controller)

/-- How many bindings of a kind there are. -/
def bindingsOf (world : World) (kind : String) : Nat :=
  world.cluster.bindings.countP fun binding => binding.kind == kind

end DryRun.World

/-- A pass that was run, and what happened in it. -/
structure Round where
  trigger : Trigger
  past : List Event

/-- The part of a pass in which an attempt that fails and leaves no binding is not counted: all of a
pass over a namespace, and nothing of a pass over a policy. -/
def Round.unaccounted (round : Round) : List Event :=
  match round.trigger with
  | .ofPolicy _ _ => []
  | .ofNamespace _ => round.past

/-- The worlds that passes lead to, one after another in any order and with any refusals. In
between, others may make any other sound cluster of the cluster, but for the bindings. -/
inductive DryRun.World.Rounds (first : World) : List Round → World → Prop
  | start : Rounds first [] first
  | pass {rounds : List Round} {world : World} {trigger : Trigger} {ended : Ending Bool} :
      Rounds first rounds world → trigger.pass.Ends world ended →
      (∀ event ∈ ended.past, event.IsDated) →
      Rounds first (rounds ++ [⟨trigger, ended.past⟩]) ended.world
  | edited {rounds : List Round} {world : World} {cluster : Cluster} :
      Rounds first rounds world → cluster.IsSound → cluster.bindings = world.cluster.bindings →
      Rounds first rounds { world with cluster }

/-! ### What a history says of the counters -/

theorem DryRun.World.Undergoes.counts {world later : World} {event : Event}
    (h : world.Undergoes event later) :
    later.journal.counts = world.journal.counts ++ countsIn [event] := by
  cases h with
  | judged verdict moment => exact (List.append_nil _).symm
  | reported item =>
    cases item with
    | count counter => rfl
    | clear series =>
      unfold World.report
      dsimp only
      split <;> exact (List.append_nil _).symm
    | _ => exact (List.append_nil _).symm
  | called refusal request =>
    have hcalled : ∀ world : World,
        (world.call request).2.journal.counts = world.journal.counts := by
      intro world
      unfold World.call
      dsimp only
      split
      · rfl
      · split
        · rfl
        · cases request <;> rfl
    rw [hcalled]
    exact (List.append_nil _).symm

theorem DryRun.World.Lives.counts {first later : World} {past : List Event}
    (h : first.Lives past later) :
    later.journal.counts = first.journal.counts ++ countsIn past := by
  induction h with
  | start => exact (List.append_nil _).symm
  | step _ hevent ih => rw [hevent.counts, ih, List.append_assoc, countsIn_append]

/-- What an attempt owes tells whether it added a binding, and whether it failed and left none. -/
theorem Event.attempt?_cases (event : Event) :
    (event.attempt? = none ∧ event.created? = none ∧
      ∀ kind, event.creates kind = false ∧ event.failsToCreate kind = false) ∨
    ∃ binding : Binding, (∀ kind, event.creates kind = (binding.kind == kind)) ∧
      (event.attempt? = some (.creations binding.kind "created") ∧
          event.created? = some binding ∧ (∀ kind, event.failsToCreate kind = false) ∨
        event.attempt? = some (.creations binding.kind "exists") ∧
          event.created? = none ∧ (∀ kind, event.failsToCreate kind = false) ∨
        event.attempt? = some (.creations binding.kind "error") ∧
          event.created? = none ∧ ∀ kind, event.failsToCreate kind = (binding.kind == kind)) := by
  cases event with
  | judged verdict moment => exact .inl ⟨rfl, rfl, fun _ => ⟨rfl, rfl⟩⟩
  | reported item result => exact .inl ⟨rfl, rfl, fun _ => ⟨rfl, rfl⟩⟩
  | called request answer =>
    cases request with
    | createBinding binding =>
      refine .inr ⟨binding, fun _ => rfl, ?_⟩
      cases answer with
      | ok value => exact .inl ⟨rfl, rfl, fun _ => rfl⟩
      | error failure =>
        cases failure with
        | store fault message =>
          cases fault with
          | alreadyExists => exact .inr (.inl ⟨rfl, rfl, fun _ => rfl⟩)
          | _ => exact .inr (.inr ⟨rfl, rfl, fun _ => rfl⟩)
        | _ => exact .inr (.inr ⟨rfl, rfl, fun _ => rfl⟩)
    | _ => exact .inl ⟨rfl, rfl, fun _ => ⟨rfl, rfl⟩⟩

/-- What attempts owe, by how they ended, is what they added, what was there, and what failed. -/
theorem attemptsIn_count (past : List Event) (kind : String) :
    (attemptsIn past).count (.creations kind "created") =
        ((createdIn past).countP fun binding => binding.kind == kind) ∧
      (attemptsIn past).count (.creations kind "error") =
        past.countP (Event.failsToCreate kind) ∧
      (attemptsIn past).count (.creations kind "created") +
          (attemptsIn past).count (.creations kind "exists") +
          (attemptsIn past).count (.creations kind "error") =
        past.countP (Event.creates kind) := by
  induction past with
  | nil => exact ⟨rfl, rfl, rfl⟩
  | cons event rest ih =>
    unfold attemptsIn createdIn at ih ⊢
    obtain ⟨hcreated, herror, hall⟩ := ih
    rcases event.attempt?_cases with ⟨howes, hadds, hnot⟩ |
        ⟨binding, hcreates,
          ⟨howes, hadds, hfails⟩ | ⟨howes, hadds, hfails⟩ | ⟨howes, hadds, hfails⟩⟩
    · rw [List.filterMap_cons_none howes, List.filterMap_cons_none hadds, List.countP_cons,
        List.countP_cons, (hnot kind).1, (hnot kind).2]
      exact ⟨hcreated, herror, hall⟩
    · rw [List.filterMap_cons_some howes, List.filterMap_cons_some hadds, List.countP_cons,
        List.countP_cons, List.countP_cons, hcreates, hfails]
      simp only [List.count_cons, beq_iff_eq, Counter.creations.injEq, String.reduceEq, and_true,
        and_false, Bool.false_eq_true, ↓reduceIte, Nat.add_zero]
      omega
    · rw [List.filterMap_cons_some howes, List.filterMap_cons_none hadds, List.countP_cons,
        List.countP_cons, hcreates, hfails]
      simp only [List.count_cons, beq_iff_eq, Counter.creations.injEq, String.reduceEq, and_true,
        and_false, Bool.false_eq_true, ↓reduceIte, Nat.add_zero]
      omega
    · rw [List.filterMap_cons_some howes, List.filterMap_cons_none hadds, List.countP_cons,
        List.countP_cons, hcreates, hfails]
      simp only [List.count_cons, beq_iff_eq, Counter.creations.injEq, String.reduceEq, and_true,
        and_false, ↓reduceIte, Nat.add_zero]
      omega

namespace Balanced

variable {counted : Counter → Bool} {passes : List Counter} {past : List Event}
  {kind label : String}

/-- What attempts owe is counted if it is accounted for, and else it is not. -/
theorem count_creation (h : Balanced counted passes past) :
    (countsIn past).count (.creations kind label) =
      if counted (.creations kind label) then (attemptsIn past).count (.creations kind label)
      else 0 := by
  have hcounts : (countsIn past).count (.creations kind label) =
      ((countsIn past).filter Counter.isCreation).count (.creations kind label) :=
    (List.count_filter rfl).symm
  rw [hcounts, h.creations]
  split
  · next hcounted => exact List.count_filter hcounted
  · next hnot => exact List.count_eq_zero.mpr fun hmem => hnot (List.mem_filter.mp hmem).2

theorem countP_passes (h : Balanced counted passes past) (controller : String) :
    (countsIn past).countP (Counter.isPassOf controller) =
      passes.countP (Counter.isPassOf controller) := by
  rw [← h.passes, List.countP_filter]
  refine List.countP_congr fun counter _ => ?_
  cases counter with
  | passes other outcome => simp [Counter.isPass]
  | _ => simp [Counter.isPassOf]

end Balanced

namespace Program.Ends

variable {world : World} {trigger : Trigger} {ended : Ending Bool}

/-- What a pass over a sound cluster adds to the counters. -/
theorem adds (h : trigger.pass.Ends world ended) (hsound : world.cluster.IsSound)
    (hdated : ∀ event ∈ ended.past, event.IsDated) :
    (∀ kind, ended.world.tally (.creations kind "created") + world.bindingsOf kind =
        world.tally (.creations kind "created") + ended.world.bindingsOf kind) ∧
      (∀ kind, ended.world.tallyOfAttempts kind +
          (Round.unaccounted ⟨trigger, ended.past⟩).countP (Event.failsToCreate kind) =
        world.tallyOfAttempts kind + ended.past.countP (Event.creates kind)) ∧
      ∀ controller, ended.world.tallyOfPasses controller =
        world.tallyOfPasses controller + if trigger.controller == controller then 1 else 0 := by
  obtain ⟨outcome, hbalanced⟩ := h.balanced hsound hdated
  have htally : ∀ kind label, ended.world.tally (.creations kind label) =
      world.tally (.creations kind label) +
        if trigger.counted (.creations kind label) then
          (attemptsIn ended.past).count (.creations kind label)
        else 0 := by
    intro kind label
    rw [World.tally, h.lives.counts, List.count_append, hbalanced.count_creation]
    rfl
  have hcreated : ∀ kind, trigger.counted (.creations kind "created") = true := by
    cases trigger <;> exact fun _ => rfl
  have hexists : ∀ kind, trigger.counted (.creations kind "exists") = true := by
    cases trigger <;> exact fun _ => rfl
  refine ⟨fun kind => ?_, fun kind => ?_, fun controller => ?_⟩
  · obtain ⟨hadded, -, -⟩ := attemptsIn_count ended.past kind
    rw [htally, if_pos (hcreated kind), World.bindingsOf, World.bindingsOf, h.lives.bindings,
      List.countP_append, hadded]
    omega
  · obtain ⟨-, hfailed, hall⟩ := attemptsIn_count ended.past kind
    simp only [World.tallyOfAttempts, htally, hcreated, hexists, if_true, ← hall]
    cases trigger with
    | ofPolicy space name =>
      have herror : (Trigger.ofPolicy space name).counted (.creations kind "error") = true := rfl
      simp only [herror, if_true, Round.unaccounted, List.countP_nil]
      omega
    | ofNamespace name =>
      have herror : (Trigger.ofNamespace name).counted (.creations kind "error") = false := rfl
      simp only [herror, Bool.false_eq_true, if_false, Round.unaccounted, ← hfailed]
      omega
  · rw [World.tallyOfPasses, h.lives.counts, List.countP_append, hbalanced.countP_passes,
      List.countP_singleton]
    rfl

end Program.Ends

namespace DryRun.World.Rounds

variable {first later : World} {rounds : List Round}

theorem isSound (h : first.Rounds rounds later) (hsound : first.cluster.IsSound) :
    later.cluster.IsSound := by
  induction h with
  | start => exact hsound
  | pass _ hended hdated ih => exact (hended.staysSound ih hdated).cluster
  | edited _ hcluster _ _ => exact hcluster

/-- Over any passes, bindings are counted as created just as they are added, every attempt is
counted but those that a pass over a namespace leaves out, and the end of every pass is counted
once. -/
theorem tallies (h : first.Rounds rounds later) (hsound : first.cluster.IsSound) :
    (∀ kind, later.tally (.creations kind "created") + first.bindingsOf kind =
        first.tally (.creations kind "created") + later.bindingsOf kind) ∧
      (∀ kind, later.tallyOfAttempts kind +
          (rounds.flatMap Round.unaccounted).countP (Event.failsToCreate kind) =
        first.tallyOfAttempts kind + (rounds.flatMap Round.past).countP (Event.creates kind)) ∧
      ∀ controller, later.tallyOfPasses controller = first.tallyOfPasses controller +
        rounds.countP fun round => round.trigger.controller == controller := by
  induction h with
  | start => exact ⟨fun _ => rfl, fun _ => rfl, fun _ => rfl⟩
  | @pass rounds world trigger ended hbefore hended hdated ih =>
    obtain ⟨hcreated, hattempts, hpasses⟩ := ih
    obtain ⟨hcreates, hattempted, hpassed⟩ := hended.adds (hbefore.isSound hsound) hdated
    refine ⟨fun kind => ?_, fun kind => ?_, fun controller => ?_⟩
    · have hbefore := hcreated kind
      have hlast := hcreates kind
      omega
    · have hbefore := hattempts kind
      have hlast := hattempted kind
      simp only [List.flatMap_append, List.flatMap_singleton, List.countP_append]
      omega
    · rw [hpassed, hpasses, List.countP_append, List.countP_singleton, Nat.add_assoc]
  | edited _ _ hbindings ih =>
    obtain ⟨hcreated, hattempts, hpasses⟩ := ih
    refine ⟨fun kind => ?_, hattempts, hpasses⟩
    have hkept := hcreated kind
    unfold bindingsOf at hkept ⊢
    rwa [hbindings]

end DryRun.World.Rounds

/-- The moments of a run on a course have timestamps. -/
theorem Course.dated_run {α : Type} (course : Course) {past : List Event} (world : World)
    (program : Program α) (h : ∀ event ∈ past, event.IsDated) :
    ∀ event ∈ (course.run past world program).past, event.IsDated := by
  have hconcat : ∀ {past : List Event} {last : Event}, (∀ event ∈ past, event.IsDated) →
      last.IsDated → ∀ event ∈ past ++ [last], event.IsDated := by
    intro past last hpast hlast event hmem
    rcases List.mem_append.mp hmem with hmem | hmem
    · exact hpast event hmem
    · exact List.mem_singleton.mp hmem ▸ hlast
  induction program generalizing past world with
  | done result => exact h
  | judge verdict next ih => exact ih _ _ (hconcat h (course.dated past))
  | report item next ih => exact ih _ _ (hconcat h trivial)
  | call request next ih => exact ih _ _ (hconcat h trivial)

theorem StoreFault.general_ne : StoreFault.general ≠ .alreadyExists := by decide

/-- A course on which no binding can be created. -/
def Course.uncreatable : Course where
  toClock := Course.unwritable.toClock
  outage _ request :=
    if request.operation == "create_binding" then some ⟨.general, "down", StoreFault.general_ne⟩
    else none

namespace DryRun.World.Rounds

variable {first world : World} {rounds : List Round}

/-- One more pass, on a course. -/
theorem play (h : first.Rounds rounds world) (course : Course) (trigger : Trigger) :
    first.Rounds (rounds ++ [⟨trigger, (course.play world trigger.pass).past⟩])
      (course.play world trigger.pass).world :=
  h.pass (course.ends_play world trigger.pass)
    (course.dated_run world trigger.pass fun _ hmem => absurd hmem List.not_mem_nil)

/-- A pass over a namespace attempts a binding and cannot create it; then a pass over the policy
creates one on the whole cluster, which is the only one that is counted as created. -/
theorem tallies_web : ∃ rounds later, World.web.Rounds rounds later ∧
    World.web.cluster.IsSound ∧ later.bindingsOf "ClusterRoleBinding" = 1 ∧
    later.tally (.creations "ClusterRoleBinding" "created") = 1 ∧
    (∀ kind, later.tallyOfAttempts kind +
        (rounds.flatMap Round.unaccounted).countP (Event.failsToCreate kind) =
      (rounds.flatMap Round.past).countP (Event.creates kind)) ∧
    later.tallyOfPasses "permissionpolicy" = 1 ∧ later.tallyOfPasses "namespace" = 1 := by
  have hfirst := (start : World.web.Rounds [] _).play .uncreatable (.ofNamespace "web")
  have hrounds := hfirst.play Course.uncreatable.calm (.ofPolicy "team" "editor")
  have hbindings : ((Course.uncreatable.calm.play
      (Course.uncreatable.play .web (Trigger.ofNamespace "web").pass).world
      (Trigger.ofPolicy "team" "editor").pass).world).bindingsOf "ClusterRoleBinding" = 1 := by
    decide +kernel
  obtain ⟨hcreated, hattempts, hpasses⟩ := tallies hrounds World.web_isSound
  refine ⟨_, _, hrounds, World.web_isSound, hbindings, ?_, ?_, ?_, ?_⟩
  · have hnone : World.web.tally (.creations "ClusterRoleBinding" "created") = 0 := rfl
    have hempty : World.web.bindingsOf "ClusterRoleBinding" = 0 := rfl
    have hadded := hcreated "ClusterRoleBinding"
    omega
  · intro kind
    have hnone : World.web.tallyOfAttempts kind = 0 := rfl
    rw [hattempts kind, hnone, Nat.zero_add]
  · exact hpasses "permissionpolicy"
  · exact hpasses "namespace"

/-- The failed attempt of a pass over a namespace moves none of the counters of attempts. -/
theorem not_tallied_web : ∃ rounds later, World.web.Rounds rounds later ∧
    World.web.cluster.IsSound ∧
    (rounds.flatMap Round.past).countP (Event.creates "RoleBinding") = 1 ∧
    later.tallyOfAttempts "RoleBinding" = World.web.tallyOfAttempts "RoleBinding" := by
  refine ⟨_, _, start.play .uncreatable (.ofNamespace "web"), World.web_isSound, ?_, ?_⟩
  · decide +kernel
  · decide +kernel

end DryRun.World.Rounds

end RoleGrants
