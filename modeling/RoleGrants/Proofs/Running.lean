import RoleGrants.Handlers
import RoleGrants.Proofs.Stopping

/-! Runs of programs with any clock, in which each call may be refused in any way in which the store
can refuse one. What a run makes of a world is told by its history alone: the bindings that it
created, the statuses that it wrote and the series that it recorded and cleared. The runs of the
handlers, one after another with changes of the cluster by others between them, reach the worlds of
`World.Reaches`. -/

namespace RoleGrants

open DryRun

/-- A refusal of the store, of any kind. -/
structure Refusal where
  fault : StoreFault
  message : String

def Refusal.failure (refusal : Refusal) : Failure := .store refusal.fault refusal.message

def Outage.refusal (outage : Outage) : Refusal := ⟨outage.fault, outage.message⟩

namespace DryRun.World

/-- The world in which the next call of an operation is refused, or in which no call is. -/
def refusing (world : World) (refusal : Option Refusal) (request : StoreCall) : World :=
  { world with
    faults := refusal.toList.map fun refusal =>
      { operation := request.operation, failure := refusal.failure } }

theorem facing_eq (world : World) (outage : Option Outage) (request : StoreCall) :
    world.facing outage request = world.refusing (outage.map Outage.refusal) request := by
  cases outage <;> rfl

theorem call_refused (world : World) (refusal : Refusal) (request : StoreCall) :
    ((world.refusing (some refusal) request).call request).1 = .error refusal.failure ∧
      ((world.refusing (some refusal) request).call request).2.cluster = world.cluster := by
  simp [call, refusing, nextFailure?]

theorem call_answered (world : World) (request : StoreCall) :
    ((world.refusing none request).call request).1 = (world.answer request).1 ∧
      ((world.refusing none request).call request).2.cluster = (world.answer request).2 :=
  world.call_facing_none request

theorem call_sink (world : World) (request : StoreCall) :
    (world.call request).2.sink = world.sink := by
  unfold call
  dsimp only
  split
  · rfl
  · split <;> rfl

/-- What may happen in a world, whatever the clock shows and whether or not a call is refused, and
the world after it. -/
inductive Undergoes (world : World) : Event → World → Prop
  | judged (verdict : Verdict) (moment : Int) : Undergoes world (.judged verdict moment) world
  | reported (item : Report) :
      Undergoes world (.reported item (world.report item).1) (world.report item).2
  | called (refusal : Option Refusal) (request : StoreCall) :
      Undergoes world (.called request ((world.refusing refusal request).call request).1)
        ((world.refusing refusal request).call request).2

/-- What may happen from a world on, and the world after it. -/
inductive Lives (first : World) : List Event → World → Prop
  | start : Lives first [] first
  | step {past : List Event} {event : Event} {world later : World} : Lives first past world →
      world.Undergoes event later → Lives first (past ++ [event]) later

end DryRun.World

/-- Whether a run of a program from a world can end so. -/
structure Program.Ends {α : Type} (program : Program α) (world : World) (ended : Ending α) :
    Prop where
  follows : program.After ended.past (.done ended.result)
  lives : world.Lives ended.past ended.world

/-- What holds of a program in a world, and is kept by whatever the program does in a world that
undergoes it, holds wherever a run comes to. -/
theorem Program.After.along {α : Type} {program rest : Program α} {first world : World}
    {past : List Event} {motive : List Event → Program α → World → Prop}
    (hfollows : program.After past rest) (hlives : first.Lives past world)
    (hstart : motive [] program first)
    (hstep : ∀ {past middle world event rest later}, program.After past middle →
      motive past middle world → middle.Resumes event rest → world.Undergoes event later →
      motive (past ++ [event]) rest later) : motive past rest world := by
  induction hfollows generalizing world with
  | start =>
    generalize hpast : ([] : List Event) = past at hlives
    cases hlives with
    | start => exact hstart
    | step => simp at hpast
  | @step past event middle rest hmiddle hresumes ih =>
    generalize hevents : past ++ [event] = events at hlives
    cases hlives with
    | start => simp at hevents
    | step hbefore hevent =>
      obtain ⟨rfl, heq⟩ := List.append_inj' hevents rfl
      cases heq
      exact hstep hmiddle (ih hbefore) hresumes hevent

namespace Course

variable {α : Type}

theorem ends_run (course : Course) {first world : World} {past : List Event}
    {program rest : Program α} (hfollows : program.After past rest)
    (hlives : first.Lives past world) : program.Ends first (course.run past world rest) := by
  induction rest generalizing past world with
  | done result => exact ⟨hfollows, hlives⟩
  | judge verdict next ih =>
    exact ih _ (hfollows.step (.judge _)) (hlives.step (.judged verdict _))
  | report item next ih => exact ih _ (hfollows.step (.report _)) (hlives.step (.reported item))
  | call request next ih =>
    have hcalled : world.Undergoes
        (.called request ((world.facing (course.outage past request) request).call request).1)
        ((world.facing (course.outage past request) request).call request).2 := by
      rw [world.facing_eq]
      exact .called _ request
    exact ih _ (hfollows.step (.call _)) (hlives.step hcalled)

/-- A run on a course is one of the runs. -/
theorem ends_play (course : Course) (world : World) (program : Program α) :
    program.Ends world (course.play world program) :=
  course.ends_run .start .start

end Course

/-! ### What a history tells -/

/-- A kept policy after an event: a status that is written under its key gives it its conditions. -/
def Policy.after (policy : Policy) : Event → Policy
  | .called (.updateStatus written) (.ok _) =>
    if Cluster.isPolicy written.space written.name policy then
      { policy with conditions := written.conditions }
    else policy
  | _ => policy

/-- The sink after an event. -/
def Sink.after (sink : Sink) : Event → Sink
  | .reported (.record series active) _ => (sink.record series active).2
  | .reported (.clear series) _ => (sink.clear series).2
  | _ => sink

theorem Policy.after_eq_self {policy : Policy} {event : Event} (h : ¬ event.IsWrite) :
    policy.after event = policy := by
  unfold after
  split
  · exact absurd trivial h
  · rfl

/-- A kept policy has its conditions from the last status that was written under its key, if any. -/
theorem Policy.foldl_after_cases (past : List Event) (policy : Policy) :
    past.foldl Policy.after policy = policy ∨ ∃ written,
      .called (.updateStatus written) (.ok ()) ∈ past ∧
      Cluster.isPolicy written.space written.name policy = true ∧
      past.foldl Policy.after policy = { policy with conditions := written.conditions } := by
  induction past generalizing policy with
  | nil => exact .inl rfl
  | cons event rest ih =>
    have hevent : policy.after event = policy ∨ ∃ written,
        event = .called (.updateStatus written) (.ok ()) ∧
        Cluster.isPolicy written.space written.name policy = true ∧
        policy.after event = { policy with conditions := written.conditions } := by
      unfold after
      split
      · next written value =>
        split
        · next hsame => exact .inr ⟨written, rfl, hsame, rfl⟩
        · exact .inl rfl
      · exact .inl rfl
    rw [List.foldl_cons]
    rcases ih (policy.after event) with heq | ⟨written, hmem, hsame, heq⟩
    · rw [heq]
      rcases hevent with hnone | ⟨written, rfl, hsame, hset⟩
      · exact .inl hnone
      · exact .inr ⟨written, List.mem_cons_self, hsame, hset⟩
    · refine .inr ⟨written, List.mem_cons_of_mem _ hmem, ?_, ?_⟩
      · rcases hevent with hnone | ⟨_, _, _, hset⟩
        · rwa [hnone] at hsame
        · rwa [hset] at hsame
      · rw [heq]
        rcases hevent with hnone | ⟨_, _, _, hset⟩
        · rw [hnone]
        · rw [hset]

theorem Policy.foldl_after_of_quiet {past : List Event} (h : ∀ event ∈ past, ¬ event.IsWrite)
    (policy : Policy) : past.foldl Policy.after policy = policy := by
  rcases foldl_after_cases past policy with heq | ⟨written, hmem, -⟩
  · exact heq
  · exact absurd trivial (h _ hmem)

namespace DryRun.World

variable {first world later : World} {past : List Event} {event : Event}

theorem answer_policies (world : World) (request : StoreCall) :
    (world.answer request).2.policies =
      world.cluster.policies.map (·.after (.called request (world.answer request).1)) := by
  by_cases hwrite : Event.IsWrite (.called request (world.answer request).1)
  · cases request with
    | updateStatus written =>
      change (Cluster.answer _ _).2.policies = _
      have hwrite : Event.IsWrite (.called (.updateStatus written)
          (world.cluster.answer (.updateStatus written)).1) := hwrite
      change _ = world.cluster.policies.map
        (·.after (.called (.updateStatus written)
          (world.cluster.answer (.updateStatus written)).1))
      dsimp only [Cluster.answer] at hwrite ⊢
      cases hafter : world.cluster.updateStatus written with
      | ok after => rw [Cluster.updateStatus_ok hafter]; rfl
      | error failure => rw [hafter] at hwrite; exact hwrite.elim
    | _ => exact hwrite.elim
  · rw [(world.answer_changes request).2 hwrite]
    simp only [Policy.after_eq_self hwrite, List.map_id']

theorem Undergoes.policies (h : world.Undergoes event later) :
    later.cluster.policies = world.cluster.policies.map (·.after event) := by
  cases h with
  | judged verdict moment => exact (List.map_id' _).symm
  | reported item =>
    rw [(world.report_cluster item).1]
    exact (List.map_id' _).symm
  | called refusal request =>
    cases refusal with
    | none =>
      obtain ⟨hanswer, hcluster⟩ := world.call_answered request
      rw [hanswer, hcluster]
      exact world.answer_policies request
    | some refusal =>
      obtain ⟨hanswer, hcluster⟩ := world.call_refused refusal request
      have hwrite : ¬ Event.IsWrite (.called request (.error refusal.failure)) := by
        cases request <;> exact id
      rw [hanswer, hcluster]
      simp only [Policy.after_eq_self hwrite, List.map_id']

theorem Undergoes.bindings (h : world.Undergoes event later) :
    later.cluster.bindings = world.cluster.bindings ++ createdIn [event] := by
  cases h with
  | judged verdict moment => exact (List.append_nil _).symm
  | reported item =>
    rw [(world.report_cluster item).1]
    exact (List.append_nil _).symm
  | called refusal request =>
    cases refusal with
    | none =>
      obtain ⟨hanswer, hcluster⟩ := world.call_answered request
      rw [hanswer, hcluster]
      exact (world.answer_changes request).1
    | some refusal =>
      obtain ⟨hanswer, hcluster⟩ := world.call_refused refusal request
      rw [hanswer, hcluster]
      simp [createdIn]

theorem Undergoes.leads (h : world.Undergoes event later) :
    world.cluster.Leads later.cluster := by
  cases h with
  | judged verdict moment => exact .refl _
  | reported item => exact (world.report_cluster item).1 ▸ .refl _
  | called refusal request =>
    cases refusal with
    | none =>
      rw [(world.call_answered request).2]
      exact world.leads_answer request
    | some refusal =>
      rw [(world.call_refused refusal request).2]
      exact .refl _

theorem Undergoes.sink (h : world.Undergoes event later) :
    later.sink = world.sink.after event := by
  cases h with
  | judged verdict moment => rfl
  | reported item =>
    cases item with
    | clear series =>
      unfold report
      dsimp only [Sink.after]
      split <;> next heq => simp [heq]
    | _ => rfl
  | called refusal request => exact call_sink ..

namespace Lives

theorem policies (h : first.Lives past later) :
    later.cluster.policies = first.cluster.policies.map (past.foldl Policy.after) := by
  induction h with
  | start => exact (List.map_id' _).symm
  | step _ hevent ih =>
    rw [hevent.policies, ih, List.map_map]
    refine List.map_congr_left fun policy _ => ?_
    simp only [Function.comp, List.foldl_append, List.foldl_cons, List.foldl_nil]

theorem policies_of_quiet (h : first.Lives past later) (hquiet : ∀ event ∈ past, ¬ event.IsWrite) :
    later.cluster.policies = first.cluster.policies := by
  rw [h.policies, funext (Policy.foldl_after_of_quiet hquiet), List.map_id']

theorem bindings (h : first.Lives past later) :
    later.cluster.bindings = first.cluster.bindings ++ createdIn past := by
  induction h with
  | start => exact (List.append_nil _).symm
  | step _ hevent ih => rw [hevent.bindings, ih, List.append_assoc, createdIn_append]

theorem leads (h : first.Lives past later) : first.cluster.Leads later.cluster := by
  induction h with
  | start => exact .refl _
  | step _ hevent ih => exact ih.trans hevent.leads

theorem sink (h : first.Lives past later) : later.sink = past.foldl Sink.after first.sink := by
  induction h with
  | start => rfl
  | step _ hevent ih =>
    rw [hevent.sink, ih, List.foldl_append, List.foldl_cons, List.foldl_nil]

end Lives

end DryRun.World

/-! ### Programs that only report -/

namespace Program

variable {α β : Type} {world : World}

/-- Whether a program does nothing but report. -/
def OnlyReports : Program α → Prop
  | .done _ => True
  | .judge _ _ => False
  | .report _ next => ∀ result, (next result).OnlyReports
  | .call _ _ => False

theorem OnlyReports.bind {program : Program α} {next : α → Program β} (h : program.OnlyReports)
    (hnext : ∀ value, (next value).OnlyReports) : (program.bind next).OnlyReports := by
  induction program with
  | done result =>
    cases result with
    | ok value => exact hnext value
    | error failure => trivial
  | judge verdict rest => exact h.elim
  | report item rest ih => exact fun result => ih result (h result)
  | call request rest => exact h.elim

theorem onlyReports_forEach {items : List α} {body : α → Program Unit}
    (h : ∀ item, (body item).OnlyReports) : (forEach items body).OnlyReports := by
  induction items with
  | nil => trivial
  | cons item rest ih => exact (h item).bind fun _ => ih

theorem OnlyReports.quiet {program rest : Program α} {past : List Event} (h : program.OnlyReports)
    (hafter : program.After past rest) :
    rest.OnlyReports ∧ ∀ event ∈ past, ¬ event.IsWrite := by
  induction hafter with
  | start => exact ⟨h, fun _ hmem => absurd hmem List.not_mem_nil⟩
  | step _ hresumes ih =>
    obtain ⟨hmiddle, hpast⟩ := ih
    cases hresumes with
    | judge moment => exact hmiddle.elim
    | call answer => exact hmiddle.elim
    | report result =>
      refine ⟨hmiddle result, fun event hmem => ?_⟩
      rcases List.mem_append.mp hmem with hmem | hmem
      · exact hpast event hmem
      · cases List.mem_singleton.mp hmem
        exact id

/-- A program that only reports has one run, which the clock and the store have no part in. -/
theorem OnlyReports.run_eq {program : Program α} {ended : Ending α} (h : program.OnlyReports)
    (hended : program.Ends world ended) : world.run program = (ended.result, ended.world) := by
  have hpart : ended.world.run (.done ended.result) = world.run program := by
    refine hended.follows.along hended.lives (motive := fun _ rest later =>
      later.run rest = world.run program) rfl fun hmiddle hrun hresumes hevent => ?_
    have honly := (h.quiet hmiddle).1
    cases hresumes with
    | judge moment => exact honly.elim
    | call answer => exact honly.elim
    | report result => cases hevent with | reported => exact hrun
  exact hpart.symm

end Program

/-! ### One run after another -/

/-- What makes the operator act: a policy is new or has changed, it is looked at again, it is
deleted, or a namespace is new or has changed. -/
inductive Occasion where
  | policyChanged (settings : Settings) (space name : Value)
  | policyResynced (space name : Value)
  | policyDeleted (space name body : Value)
  | namespaceChanged (event name : Value)

namespace Occasion

abbrev Answer : Occasion → Type
  | .policyChanged _ _ _ => Directive
  | _ => Unit

def handler : (occasion : Occasion) → Program occasion.Answer
  | .policyChanged settings space name => Handlers.policyChanged settings space name
  | .policyResynced space name => Handlers.periodicResync space name
  | .policyDeleted space name body => Handlers.policyDeleted space name body
  | .namespaceChanged event name => Handlers.namespaceChanged event name

end Occasion

namespace DryRun.World

/-- The worlds that runs of the handlers lead to, one after another and with changes of the cluster
by others between them. -/
inductive Reaches (changes : Cluster → Cluster → Prop) (first : World) : World → Prop
  | start : Reaches changes first first
  | handled {world : World} (occasion : Occasion) {ended : Ending occasion.Answer} :
      Reaches changes first world → occasion.handler.Ends world ended →
      Reaches changes first ended.world
  | changed {world : World} {cluster : Cluster} : Reaches changes first world →
      changes world.cluster cluster → Reaches changes first { world with cluster }

end DryRun.World

end RoleGrants
