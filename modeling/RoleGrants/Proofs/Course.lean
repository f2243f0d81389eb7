import RoleGrants.Proofs.Regime

/-! Runs of programs in which calls may fail. A course says what the clock shows and which calls
fail, each chosen by the events before it; a run on a course keeps its history. Up to the first
call that fails, a run is the run in which none does. -/

namespace RoleGrants

open DryRun

/-- A failure of the store that says nothing of what it holds. -/
structure Outage where
  fault : StoreFault
  message : String
  isOutage : fault ≠ .alreadyExists

def Outage.failure (outage : Outage) : Failure := .store outage.fault outage.message

/-- What a clock shows after some events. Each moment has a timestamp. -/
structure Clock where
  moment : List Event → Int
  dated : ∀ past, ∃ text, Timestamp.ofMoment (moment past) = .ok text

/-- What the clock shows and which calls fail, after some events. -/
structure Course extends Clock where
  outage : List Event → StoreCall → Option Outage

/-- The course on which the clock goes on and no call fails. -/
def Clock.calm (clock : Clock) : Course := { clock with outage := fun _ _ => none }

abbrev Course.calm (course : Course) : Course := course.toClock.calm

/-- The world with a failure of the next call of an operation asked for, and no other. -/
def DryRun.World.facing (world : World) (outage : Option Outage) (request : StoreCall) : World :=
  { world with
    faults := outage.toList.map fun outage =>
      { operation := request.operation, failure := outage.failure } }

/-- How a run ended: its result, what happened in it, and the world after it. -/
structure Ending (α : Type) where
  result : Except Failure α
  past : List Event
  world : World

namespace Event

def isCall : Event → Bool
  | .called _ _ => true
  | _ => false

/-- The binding that an event added to the store. -/
def created? : Event → Option Binding
  | .called (.createBinding binding) (.ok _) => some binding
  | _ => none

/-- Whether an event changed the status of a policy. -/
def IsWrite : Event → Prop
  | .called (.updateStatus _) (.ok _) => True
  | _ => False

end Event

def callsOf (past : List Event) : List Event := past.filter Event.isCall

def createdIn (past : List Event) : List Binding := past.filterMap Event.created?

abbrev Ending.calls {α : Type} (ended : Ending α) : List Event := callsOf ended.past

namespace Course

variable {α : Type}

/-- Runs a program in a world after some events. -/
def run (course : Course) (past : List Event) (world : World) : Program α → Ending α
  | .done result => ⟨result, past, world⟩
  | .judge verdict next =>
    let moment := course.moment past
    course.run (past ++ [.judged verdict moment]) world (next moment)
  | .report item next =>
    let (result, after) := world.report item
    course.run (past ++ [.reported item result]) after (next result)
  | .call request next =>
    let (answer, after) := (world.facing (course.outage past request) request).call request
    course.run (past ++ [.called request answer]) after (next answer)

/-- Runs a program in a world that others may change before each call. -/
def runAmid (course : Course) (change : List Event → World → World) (past : List Event)
    (world : World) : Program α → Ending α
  | .done result => ⟨result, past, world⟩
  | .judge verdict next =>
    let moment := course.moment past
    course.runAmid change (past ++ [.judged verdict moment]) world (next moment)
  | .report item next =>
    let (result, after) := world.report item
    course.runAmid change (past ++ [.reported item result]) after (next result)
  | .call request next =>
    let (answer, after) :=
      ((change past world).facing (course.outage past request) request).call request
    course.runAmid change (past ++ [.called request answer]) after (next answer)

def play (course : Course) (world : World) (program : Program α) : Ending α :=
  course.run [] world program

/-- Runs some programs one after another, each on its own course. -/
def inTurn (world : World) : List (Course × Program α) → World
  | [] => world
  | (course, program) :: rest => inTurn (course.play world program).world rest

theorem past_run (course : Course) (past : List Event) (world : World) (program : Program α) :
    past <+: (course.run past world program).past := by
  induction program generalizing past world with
  | done result => exact List.prefix_refl past
  | judge verdict next ih => exact (List.prefix_append ..).trans (ih _ _ _)
  | report item next ih => exact (List.prefix_append ..).trans (ih _ _ _)
  | call request next ih => exact (List.prefix_append ..).trans (ih _ _ _)

/-- Either no call fails that the calm run makes, or a run has the history of the calm one up to a
call that fails. -/
theorem run_eq_or_fails (course : Course) (past : List Event) (world : World)
    (program : Program α) :
    course.run past world program = course.calm.run past world program ∨
      ∃ done request, ∃ outage : Outage, done <+: (course.calm.run past world program).past ∧
        done ++ [.called request (.error outage.failure)] <+:
          (course.run past world program).past := by
  induction program generalizing past world with
  | done result => exact .inl rfl
  | judge verdict next ih => exact ih _ _ _
  | report item next ih => exact ih _ _ _
  | call request next ih =>
    cases houtage : course.outage past request with
    | none =>
      have hrun : course.run past world (.call request next) = course.run
          (past ++ [.called request ((world.facing none request).call request).1])
          ((world.facing none request).call request).2
          (next ((world.facing none request).call request).1) := by
        simp only [run, houtage]
      rw [hrun]
      exact ih _ _ _
    | some outage =>
      refine .inr ⟨past, request, outage, past_run .., ?_⟩
      have hanswer : ((world.facing (some outage) request).call request).1 =
          .error outage.failure := by
        simp [World.call, World.facing, nextFailure?]
      simp only [run, houtage, hanswer]
      exact past_run ..

/-- A run on a course is one in a world that nobody else changes. -/
theorem run_eq_runAmid (course : Course) (past : List Event) (world : World)
    (program : Program α) :
    course.run past world program = course.runAmid (fun _ world => world) past world program := by
  induction program generalizing past world with
  | done result => rfl
  | judge verdict next ih => exact ih _ _ _
  | report item next ih => exact ih _ _ _
  | call request next ih => exact ih _ _ _

section

variable {σ : Type} {regime : Regime σ} {good : σ → α → Prop} {bad : σ → Failure → Prop}
  {course : Course}

/-- A program that ends well under a regime does so on a course, whatever others change meanwhile,
if what happens fits the regime. -/
theorem holds_runAmid {change : List Event → World → World}
    (Fits : List Event → World → σ → Prop)
    (hshows : ∀ past, regime.shows (course.moment past))
    (hjudged : ∀ past world state verdict moment, Fits past world state →
      Fits (past ++ [.judged verdict moment]) world state)
    (hreported : ∀ past world state item result, Fits past world state →
      Fits (past ++ [.reported item result]) (world.report item).2 state)
    (hcalled : ∀ past world state request, Fits past world state → ∃ later,
      let (answer, after) :=
        ((change past world).facing (course.outage past request) request).call request
      regime.answers state request answer later ∧
        Fits (past ++ [.called request answer]) after later)
    {program : Program α} (past : List Event) (world : World) {state : σ}
    (h : program.Holds regime.logic good bad state) (hfits : Fits past world state) :
    ∃ later, Fits (course.runAmid change past world program).past
        (course.runAmid change past world program).world later ∧
      (Program.done (course.runAmid change past world program).result).Holds regime.logic good bad
        later := by
  induction program generalizing past world state with
  | done result => exact ⟨state, hfits, h⟩
  | judge verdict next ih => exact ih _ _ _ (h _ (hshows past)) (hjudged _ _ _ _ _ hfits)
  | report item next ih =>
    have hnext : (next (world.report item).1).Holds regime.logic good bad state := by
      rw [world.report_result item]
      exact h
    exact ih _ _ _ hnext (hreported _ _ _ _ _ hfits)
  | call request next ih =>
    obtain ⟨later, hanswer, hlater⟩ := hcalled past world state request hfits
    exact ih _ _ _ (h _ later hanswer) hlater

end

end Course

@[simp] theorem Event.created?_failed {request : StoreCall} {failure : Failure} :
    (Event.called request (.error failure)).created? = none := by
  cases request <;> rfl

/-- A call adds to the bindings of a cluster what its event says, and changes a policy only if its
event says so. -/
theorem Cluster.answer_changes (cluster : Cluster) (request : StoreCall) :
    (cluster.answer request).2.bindings =
        cluster.bindings ++ createdIn [.called request (cluster.answer request).1] ∧
      (¬ Event.IsWrite (.called request (cluster.answer request).1) →
        (cluster.answer request).2.policies = cluster.policies) := by
  cases request with
  | createBinding binding =>
    dsimp only [answer]
    split
    · next after hafter =>
      obtain ⟨rfl, -⟩ := createBinding_ok hafter
      exact ⟨rfl, fun _ => rfl⟩
    · exact ⟨(List.append_nil _).symm, fun _ => rfl⟩
  | updateStatus written =>
    dsimp only [answer]
    split
    · next after hafter =>
      rw [updateStatus_ok hafter]
      exact ⟨(List.append_nil _).symm, fun hwrite => absurd trivial hwrite⟩
    · exact ⟨(List.append_nil _).symm, fun _ => rfl⟩
  | _ => exact ⟨(List.append_nil _).symm, fun _ => rfl⟩

namespace DryRun.World

theorem call_facing_outage (world : World) (outage : Outage) (request : StoreCall) :
    ((world.facing (some outage) request).call request).1 = .error outage.failure ∧
      ((world.facing (some outage) request).call request).2.cluster = world.cluster := by
  simp [call, facing, nextFailure?]

theorem call_facing_none (world : World) (request : StoreCall) :
    ((world.facing none request).call request).1 = (world.answer request).1 ∧
      ((world.facing none request).call request).2.cluster = (world.answer request).2 := by
  have hanswer : ∀ journal, ({ world with faults := [], journal } : World).answer request =
      world.answer request := by
    intro journal
    cases request <;> rfl
  simp only [call, facing, Option.toList, List.map_nil, nextFailure?, hanswer]
  split <;> next heq => simp [heq]

theorem report_isStale (world : World) (item : Report) :
    (world.report item).2.isStale = world.isStale := by
  cases item with
  | log level text => rfl
  | count counter => rfl
  | record series active => rfl
  | clear series =>
    unfold report
    dsimp only
    split <;> rfl

theorem call_isStale (world : World) (request : StoreCall) :
    (world.call request).2.isStale = world.isStale := by
  unfold call
  dsimp only
  split
  · rfl
  · split <;> rfl

theorem answer_changes (world : World) (request : StoreCall) :
    (world.answer request).2.bindings =
        world.cluster.bindings ++ createdIn [.called request (world.answer request).1] ∧
      (¬ Event.IsWrite (.called request (world.answer request).1) →
        (world.answer request).2.policies = world.cluster.policies) := by
  have hlisted : ∀ (request : StoreCall) (answer : Except Failure request.Answer),
      (Event.called request answer).created? = none →
      world.cluster.bindings = world.cluster.bindings ++ createdIn [.called request answer] := by
    intro request answer hnone
    simp [createdIn, hnone]
  cases request with
  | listClusterRoleBindings =>
    dsimp only [answer]
    split
    · exact ⟨hlisted _ _ rfl, fun _ => rfl⟩
    · exact Cluster.answer_changes _ _
  | listRoleBindings space =>
    dsimp only [answer]
    split
    · exact ⟨hlisted _ _ rfl, fun _ => rfl⟩
    · exact Cluster.answer_changes _ _
  | _ => exact Cluster.answer_changes _ _

theorem leads_answer (world : World) (request : StoreCall) :
    world.cluster.Leads (world.answer request).2 := by
  cases request with
  | listClusterRoleBindings =>
    dsimp only [answer]
    split
    · exact .refl _
    · exact Cluster.leads_answer _ _
  | listRoleBindings space =>
    dsimp only [answer]
    split
    · exact .refl _
    · exact Cluster.leads_answer _ _
  | _ => exact Cluster.leads_answer _ _

end DryRun.World

/-- What some events have made of a cluster: they added the bindings that they say were created, and
changed no policy unless they say that a status was written. -/
structure Cluster.Turned (before : Cluster) (past : List Event) (after : Cluster) : Prop where
  bindings : after.bindings = before.bindings ++ createdIn past
  policies : (∀ event ∈ past, ¬ event.IsWrite) → after.policies = before.policies

namespace Cluster.Turned

variable {before after last : Cluster} {past : List Event}

theorem refl (cluster : Cluster) : cluster.Turned [] cluster :=
  ⟨(List.append_nil _).symm, fun _ => rfl⟩

theorem step (h : before.Turned past after) {event : Event}
    (hbindings : last.bindings = after.bindings ++ createdIn [event])
    (hpolicies : ¬ event.IsWrite → last.policies = after.policies) :
    before.Turned (past ++ [event]) last where
  bindings := by
    rw [hbindings, h.bindings, List.append_assoc]
    simp only [createdIn, List.filterMap_append]
  policies hquiet := by
    have hpast : ∀ other ∈ past, ¬ other.IsWrite := fun other hmem =>
      hquiet other (List.mem_append_left _ hmem)
    rw [hpolicies (hquiet event List.mem_concat_self), h.policies hpast]

end Cluster.Turned

namespace Course

variable {α : Type}

theorem turned_call {origin : Cluster} (course : Course) {past : List Event} {world : World}
    (h : origin.Turned past world.cluster) (request : StoreCall) :
    let (answer, after) := (world.facing (course.outage past request) request).call request
    origin.Turned (past ++ [.called request answer]) after.cluster := by
  dsimp only
  cases course.outage past request with
  | none =>
    obtain ⟨hanswer, hcluster⟩ := world.call_facing_none request
    obtain ⟨hbindings, hpolicies⟩ := world.answer_changes request
    rw [hanswer, hcluster]
    exact h.step hbindings hpolicies
  | some outage =>
    obtain ⟨hanswer, hcluster⟩ := world.call_facing_outage outage request
    rw [hanswer, hcluster]
    exact h.step (by simp [createdIn]) fun _ => rfl

/-- What a run makes of a cluster is what its history says. -/
theorem turned_run {origin : Cluster} (course : Course) {past : List Event} {world : World}
    (h : origin.Turned past world.cluster) (program : Program α) :
    origin.Turned (course.run past world program).past
      (course.run past world program).world.cluster := by
  induction program generalizing past world with
  | done result => exact h
  | judge verdict next ih => exact ih _ (h.step (by simp [createdIn, Event.created?]) fun _ => rfl)
  | report item next ih =>
    have hlater : origin.Turned (past ++ [.reported item (world.report item).1])
        (world.report item).2.cluster := by
      rw [(world.report_cluster item).1]
      exact h.step (by simp [createdIn, Event.created?]) fun _ => rfl
    exact ih _ hlater
  | call request next ih => exact ih _ (course.turned_call h request)

/-- A run changes of a cluster only what calls may change. -/
theorem leads_run (course : Course) (past : List Event) (world : World) (program : Program α) :
    world.cluster.Leads (course.run past world program).world.cluster := by
  induction program generalizing past world with
  | done result => exact .refl _
  | judge verdict next ih => exact ih _ _ _
  | report item next ih =>
    have hrest := ih (world.report item).1 (past ++ [.reported item (world.report item).1])
      (world.report item).2
    rwa [(world.report_cluster item).1] at hrest
  | call request next ih =>
    have hcall : world.cluster.Leads
        ((world.facing (course.outage past request) request).call request).2.cluster := by
      cases course.outage past request with
      | none =>
        rw [(world.call_facing_none request).2]
        exact world.leads_answer request
      | some outage =>
        rw [(world.call_facing_outage outage request).2]
        exact .refl _
    exact hcall.trans (ih _ _ _)

theorem isStale_run (course : Course) (past : List Event) (world : World) (program : Program α) :
    (course.run past world program).world.isStale = world.isStale := by
  induction program generalizing past world with
  | done result => rfl
  | judge verdict next ih => exact ih _ _ _
  | report item next ih => exact (ih _ _ _).trans (world.report_isStale item)
  | call request next ih => exact (ih _ _ _).trans (World.call_isStale _ request)

theorem leads_play (course : Course) (world : World) (program : Program α) :
    world.cluster.Leads (course.play world program).world.cluster :=
  course.leads_run [] world program

theorem isStale_play (course : Course) (world : World) (program : Program α) :
    (course.play world program).world.isStale = world.isStale :=
  course.isStale_run [] world program

end Course

end RoleGrants
