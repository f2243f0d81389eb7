import RoleGrants.Proofs.Growth
import RoleGrants.Proofs.Trigger

/-! Passes that work on one cluster at the same time. A pool is a world with some workers, each at
some point of a pass; a step lets one worker go on by one event, so the workers interleave between
their calls in any order. A worker whose pass asks for another may start over. -/

namespace RoleGrants

open DryRun

/-- A pass at some point: what triggered it, how many passes its worker made before it, what
happened in it, and what is left of it. -/
structure Worker where
  trigger : Trigger
  earlier : Nat
  past : List Event
  rest : Program Bool
  reached : trigger.pass.After past rest

namespace Worker

def start (trigger : Trigger) (earlier : Nat) : Worker :=
  ⟨trigger, earlier, [], trigger.pass, .start⟩

def resume (worker : Worker) {event : Event} {rest : Program Bool}
    (h : worker.rest.Resumes event rest) : Worker where
  trigger := worker.trigger
  earlier := worker.earlier
  past := worker.past ++ [event]
  rest := rest
  reached := worker.reached.step h

def again (worker : Worker) : Worker := start worker.trigger (worker.earlier + 1)

/-- Whether a worker is about to write the status of a policy that passes a test, after a verdict
that passes another. -/
def concludes (worker : Worker) (test : Policy → Bool) (judged : Verdict → Bool) : Bool :=
  match worker.rest with
  | .call (.updateStatus written) _ =>
    test written && (verdicts worker.past).any fun (verdict, _) => judged verdict
  | _ => false

def isOver (worker : Worker) : Bool :=
  match worker.rest with
  | .done _ => worker.earlier == 0
  | _ => false

theorem earlier_of_isOver (worker : Worker) (h : worker.isOver = true) : worker.earlier = 0 := by
  unfold isOver at h
  split at h
  · exact eq_of_beq h
  · cases h

def isDone (worker : Worker) : Bool :=
  match worker.rest with
  | .done (.ok true) => false
  | .done _ => true
  | _ => false

end Worker

structure Pool where
  world : World
  workers : List Worker

namespace Pool

def start (world : World) (triggers : List Trigger) : Pool where
  world := world
  workers := triggers.map fun trigger => Worker.start trigger 0

def update (pool : Pool) (world : World) (index : Nat) (worker : Worker) : Pool where
  world := world
  workers := pool.workers.set index worker

/-- One worker goes on by one event. -/
inductive Step (pool : Pool) (index : Nat) (event : Event) : Pool → Prop
  | intro {worker : Worker} {rest : Program Bool} {after : World}
      (hworker : pool.workers[index]? = some worker) (hresumes : worker.rest.Resumes event rest)
      (hhappens : pool.world.Happens event after) :
      Step pool index event (pool.update after index (worker.resume hresumes))

/-- One worker goes on, or starts over after a pass that asks for another. -/
inductive Turn (pool : Pool) : Pool → Prop
  | step {index : Nat} {event : Event} {later : Pool} : Step pool index event later →
      Turn pool later
  | again {index : Nat} {worker : Worker} : pool.workers[index]? = some worker →
      worker.rest = .done (.ok true) → Turn pool (pool.update pool.world index worker.again)

/-- The pools that come of a pool by turns of its workers in any order. -/
inductive Run (first : Pool) : Pool → Prop
  | refl : Run first first
  | turn {pool later : Pool} : Run first pool → Turn pool later → Run first later

/-- The pools that come of a pool when no worker starts over. -/
inductive Steps (first : Pool) : Pool → Prop
  | refl : Steps first first
  | step {pool later : Pool} {index : Nat} {event : Event} : Steps first pool →
      Step pool index event later → Steps first later

/-- The pool after one worker went on by one event, at the moment that the clock shows. A worker
whose pass asks for another starts over. -/
def advance (pool : Pool) (index : Nat) : Pool :=
  match pool.workers[index]? with
  | none => pool
  | some worker =>
    match h : worker.rest with
    | .done (.ok true) => pool.update pool.world index worker.again
    | .done _ => pool
    | .judge _ _ =>
      pool.update pool.world index (worker.resume (Program.resumes_judge h pool.world.clock))
    | .report item _ =>
      pool.update (pool.world.report item).2 index
        (worker.resume (Program.resumes_report h (pool.world.report item).1))
    | .call request _ =>
      pool.update (pool.world.call request).2 index
        (worker.resume (Program.resumes_call h (pool.world.call request).1))

def play (pool : Pool) (schedule : List Nat) : Pool := schedule.foldl advance pool

def IsFinished (pool : Pool) : Prop :=
  ∀ worker ∈ pool.workers, ∃ result, worker.rest = .done result ∧ result ≠ .ok true

theorem isFinished_iff {pool : Pool} :
    pool.IsFinished ↔ pool.workers.all Worker.isDone = true := by
  rw [List.all_eq_true]
  refine forall_congr' fun worker => imp_congr_right fun _ => ?_
  unfold Worker.isDone
  split
  · next hrest => simp [hrest]
  · next hother hrest => simpa [hrest] using hother
  · next hother => exact ⟨fun ⟨result, hrest, _⟩ => absurd hrest (hother result), nofun⟩

instance (pool : Pool) : Decidable pool.IsFinished := decidable_of_iff _ isFinished_iff.symm

theorem Steps.run {first later : Pool} (h : first.Steps later) : first.Run later := by
  induction h with
  | refl => exact .refl
  | step _ hstep ih => exact ih.turn (.step hstep)

theorem Run.trans {first middle later : Pool} (h : first.Run middle) (hlater : middle.Run later) :
    first.Run later := by
  induction hlater with
  | refl => exact h
  | turn _ hturn ih => exact ih.turn hturn

theorem advance_eq_or_turn {pool : Pool} {index : Nat} {text : String}
    (hclock : Timestamp.ofMoment pool.world.clock = .ok text) :
    pool.advance index = pool ∨ pool.Turn (pool.advance index) := by
  unfold advance
  split
  · exact .inl rfl
  · next worker hworker =>
    split
    · next hdone => exact .inr (.again hworker hdone)
    · exact .inl rfl
    · next hrest => exact .inr (.step ⟨hworker, Program.resumes_judge hrest _, .judge hclock⟩)
    · next hrest => exact .inr (.step ⟨hworker, Program.resumes_report hrest _, .report⟩)
    · next hrest => exact .inr (.step ⟨hworker, Program.resumes_call hrest _, .call⟩)

theorem advance_clock (pool : Pool) (index : Nat) :
    (pool.advance index).world.clock = pool.world.clock := by
  unfold advance
  split
  · rfl
  · split
    · rfl
    · rfl
    · rfl
    · exact pool.world.report_clock _
    · exact pool.world.call_clock _

theorem play_clock (schedule : List Nat) (pool : Pool) :
    (pool.play schedule).world.clock = pool.world.clock := by
  induction schedule generalizing pool with
  | nil => rfl
  | cons index rest ih => exact (ih (pool.advance index)).trans (pool.advance_clock index)

theorem run_play (schedule : List Nat) (pool : Pool) {text : String}
    (hclock : Timestamp.ofMoment pool.world.clock = .ok text) : pool.Run (pool.play schedule) := by
  induction schedule generalizing pool with
  | nil => exact .refl
  | cons index rest ih =>
    have hrest := ih (pool.advance index) (by rw [advance_clock]; exact hclock)
    change pool.Run ((pool.advance index).play rest)
    rcases pool.advance_eq_or_turn hclock with heq | hturn
    · rw [heq] at hrest ⊢
      exact hrest
    · exact Run.trans (.turn .refl hturn) hrest

theorem Step.happens {pool later : Pool} {index : Nat} {event : Event}
    (h : pool.Step index event later) : pool.world.Happens event later.world := by
  obtain ⟨-, -, hhappens⟩ := h
  exact hhappens

theorem exists_step_of_concludes {pool : Pool} {index : Nat} {test : Policy → Bool}
    {judged : Verdict → Bool} (h : (pool.workers[index]?).any (·.concludes test judged) = true) :
    ∃ worker written answer verdict moment, pool.workers[index]? = some worker ∧
      pool.Step index (.called (.updateStatus written) answer) (pool.advance index) ∧
      .judged verdict moment ∈ worker.past ∧ test written = true ∧ judged verdict = true := by
  obtain ⟨⟨trigger, earlier, past, rest, reached⟩, hworker, hconcludes⟩ :=
    (Option.any_eq_true ..).mp h
  unfold Worker.concludes at hconcludes
  split at hconcludes
  · next written next hrest =>
    cases hrest
    have hstep := Step.intro hworker (.call (pool.world.call (.updateStatus written)).1) .call
    have hadvance : pool.advance index = pool.update
        (pool.world.call (.updateStatus written)).2 index
        (Worker.resume ⟨trigger, earlier, past, _, reached⟩
          (.call (pool.world.call (.updateStatus written)).1)) := by
      unfold advance
      rw [hworker]
    obtain ⟨htest, hverdicts⟩ := Bool.and_eq_true_iff.mp hconcludes
    obtain ⟨⟨verdict, moment⟩, hmem, hverdict⟩ := List.any_eq_true.mp hverdicts
    exact ⟨_, written, _, verdict, moment, hworker, hadvance ▸ hstep, mem_verdicts hmem, htest,
      hverdict⟩
  · cases hconcludes

theorem Steps.trans {first middle later : Pool} (h : first.Steps middle)
    (hlater : middle.Steps later) : first.Steps later := by
  induction hlater with
  | refl => exact h
  | step _ hstep ih => exact ih.step hstep

/-- A step changes the worker that makes it, and no other. -/
theorem Step.exists_worker {pool later : Pool} {index : Nat} {event : Event}
    (h : pool.Step index event later) : ∃ worker rest, ∃ hresumes : worker.rest.Resumes event rest,
      pool.workers[index]? = some worker ∧
      later.workers[index]? = some (worker.resume hresumes) ∧
      ∀ other, index ≠ other → later.workers[other]? = pool.workers[other]? := by
  obtain ⟨hworker, hresumes, -⟩ := h
  exact ⟨_, _, hresumes, hworker,
    List.getElem?_set_self (List.getElem?_eq_some_iff.mp hworker).1,
    fun other hne => List.getElem?_set_ne hne⟩

/-- If no worker has started over, all turns were steps. -/
theorem Run.steps {first later : Pool} (h : first.Run later)
    (hfirst : ∀ worker ∈ later.workers, worker.earlier = 0) : first.Steps later := by
  induction h with
  | refl => exact .refl
  | @turn pool later _ hturn ih =>
    cases hturn with
    | @step index event _ hstep =>
      refine (ih fun worker hmem => ?_).step hstep
      obtain ⟨other, rest, hresumes, hbefore, hafter, hothers⟩ := hstep.exists_worker
      obtain ⟨place, hplace⟩ := List.getElem?_of_mem hmem
      by_cases hindex : index = place
      · subst hindex
        cases hbefore.symm.trans hplace
        exact hfirst (Worker.resume _ hresumes) (List.mem_of_getElem? hafter)
      · exact hfirst worker (List.mem_of_getElem? ((hothers place hindex).trans hplace))
    | @again index worker hworker _ =>
      -- A worker that starts over has made a pass before.
      have hmem : worker.again ∈ (pool.update pool.world index worker.again).workers :=
        List.mem_set (List.getElem?_eq_some_iff.mp hworker).1 _
      cases hfirst _ hmem

theorem Steps.exists_worker {first later : Pool} (h : first.Steps later) {index : Nat}
    {worker : Worker} (hworker : first.workers[index]? = some worker) :
    ∃ ended, later.workers[index]? = some ended ∧ worker.past <+: ended.past ∧
      ended.trigger = worker.trigger := by
  induction h with
  | refl => exact ⟨worker, hworker, List.prefix_refl _, rfl⟩
  | @step pool later place event _ hstep ih =>
    obtain ⟨middle, hmiddle, hpart, htrigger⟩ := ih
    obtain ⟨other, rest, hresumes, hbefore, hafter, hothers⟩ := hstep.exists_worker
    by_cases hindex : place = index
    · subst hindex
      cases hbefore.symm.trans hmiddle
      exact ⟨_, hafter, hpart.trans (List.prefix_append ..), htrigger⟩
    · exact ⟨middle, (hothers index hindex).trans hmiddle, hpart, htrigger⟩

theorem Steps.exists_first {first later : Pool} (h : first.Steps later) {index : Nat}
    {ended : Worker} (hended : later.workers[index]? = some ended) :
    ∃ worker, first.workers[index]? = some worker ∧ worker.past <+: ended.past ∧
      ended.trigger = worker.trigger := by
  have hlength : later.workers.length = first.workers.length := by
    clear hended
    induction h with
    | refl => rfl
    | step _ hstep ih =>
      obtain ⟨-, -, -⟩ := hstep
      exact List.length_set.trans ih
  have hlt : index < first.workers.length := hlength ▸ (List.getElem?_eq_some_iff.mp hended).1
  obtain ⟨other, hother, hpart, htrigger⟩ := h.exists_worker (List.getElem?_eq_getElem hlt)
  cases hother.symm.trans hended
  exact ⟨_, List.getElem?_eq_getElem hlt, hpart, htrigger⟩

end Pool

/-- A policy that grants one role on the whole cluster, and another in one namespace. -/
def Policy.editor : Policy :=
  { viewer with name := "editor", permissions := [{ role := "edit", allowed := "web" }] }

def DryRun.World.web : World where
  cluster := {
    policies := [Policy.editor], namespaces := [{ name := "web" }]
    roles := [.text "view", .text "edit"] }

end RoleGrants
