import RoleGrants.Proofs.Chart
import RoleGrants.Proofs.History

/-! Contracts of programs, for typed answers. A contract says which verdicts may be given, and which
calls may be made after some events; `Program.Meets` says that a program keeps to it, and that what
is good holds at its end; a failure is a good end only if the contract excuses it or something
irregular happened before. A program that meets its contract does so at every point that it
reaches. -/

namespace RoleGrants

/-- What a program has to keep to. -/
structure Contract where
  /-- The verdicts that may be given. -/
  judges : Verdict → Prop
  /-- What has to hold of the events before a call. -/
  demands : List Event → StoreCall → Prop
  /-- The failures, after some events, that need no irregular event. -/
  excuses : List Event → Failure → Prop
  /-- An excused failure stays excused. -/
  keeps : ∀ {past : List Event} {failure : Failure}, excuses past failure →
    ∀ more, excuses (past ++ more) failure

namespace Contract

variable {contract : Contract} {past : List Event}

/-- Whether a program may fail after some events. -/
def Forgives (contract : Contract) (past : List Event) (failure : Failure) : Prop :=
  Troubled past ∨ contract.excuses past failure

/-- The logic of what a program that keeps a contract has learned from typed answers. -/
def logic (contract : Contract) : Logic (List Event) where
  judge past verdict post := contract.judges verdict ∧
    ∀ moment, post moment (past ++ [.judged verdict moment])
  report past item post := ∀ result, post result (past ++ [.reported item result])
  call past request post := contract.demands past request ∧
    ∀ answer, request.IsTyped answer → post answer (past ++ [.called request answer])
  judge_mono h hpost := ⟨h.1, fun moment => hpost _ _ (h.2 moment)⟩
  report_mono h hpost result := hpost _ _ (h result)
  call_mono h hpost := ⟨h.1, fun answer htyped => hpost _ _ (h.2 answer htyped)⟩

theorem Forgives.append {failure : Failure} (h : contract.Forgives past failure)
    (more : List Event) : contract.Forgives (past ++ more) failure :=
  h.imp (·.mono (List.subset_append_left ..)) (contract.keeps · more)

theorem forgives_last {event : Event} (h : ¬ event.IsRegular) (failure : Failure) :
    contract.Forgives (past ++ [event]) failure :=
  .inl (.last h)

/-- A report of a series whose parts can be keys, or of no series, fails only if something irregular
happens. -/
theorem takes {item : Report} (hkeyed : item.IsKeyed) {point : List Event → Prop}
    (h : ∀ result, point (past ++ [.reported item result])) :
    contract.logic.Takes contract.Forgives point item past := by
  refine fun result => ⟨fun _ => h result, ?_⟩
  rintro failure rfl told
  exact forgives_last (fun hregular => by cases hregular hkeyed) told

theorem takes_count {counter : Counter} {point : List Event → Prop}
    (h : ∀ result, point (past ++ [.reported (.count counter) result])) :
    contract.logic.Takes contract.Forgives point (.count counter) past :=
  have hkeyed : Report.IsKeyed (.count counter) := trivial
  takes hkeyed h

/-- What quiet events do not change goes on to hold while lines are reported. -/
theorem rests {point : List Event → Prop}
    (h : ∀ {past later}, Quietly past later → point past → point later) :
    contract.logic.Rests contract.Forgives point := by
  intro item hline past hpoint
  have hkeyed : item.IsKeyed := by
    cases item with
    | log level text => trivial
    | count counter => trivial
    | _ => exact hline.elim
  exact takes hkeyed fun result => h ((Quietly.refl past).reported item result) hpoint

theorem forgives_rests (failure : Failure) :
    contract.logic.Rests contract.Forgives (contract.Forgives · failure) := by
  refine rests fun hlater hpast => ?_
  obtain ⟨more, rfl, -⟩ := hlater
  exact hpast.append more

theorem allows {event : Event} (htyped : event.IsTyped) :
    contract.logic.Allows past event (past ++ [event]) := by
  cases event with
  | judged verdict moment => exact .judged fun _ h => h.2 moment
  | reported item result => exact .reported fun _ h => h result
  | called request answer => exact .called fun _ h => h.2 answer htyped

theorem leads (htyped : ∀ event ∈ past, event.IsTyped) : contract.logic.Leads [] past past := by
  -- The events before are general, so that they can grow while those to come get fewer.
  suffices h : ∀ rest before, contract.logic.Leads [] before before →
      (∀ event ∈ rest, event.IsTyped) →
      contract.logic.Leads [] (before ++ rest) (before ++ rest) from h past [] .start htyped
  intro rest
  induction rest with
  | nil =>
    intro before hbefore _
    rwa [List.append_nil]
  | cons event rest ih =>
    intro before hbefore htyped
    rw [List.append_cons]
    exact ih _ (hbefore.step (allows (htyped event List.mem_cons_self)))
      fun other hmem => htyped other (List.mem_cons_of_mem _ hmem)

end Contract

namespace Program

variable {α : Type} {contract : Contract} {past : List Event}

/-- Whether a program that goes on after the events `past` keeps a contract, and what is good holds
of its result and of all events before it. -/
abbrev Meets (contract : Contract) (good : List Event → α → Prop) (past : List Event)
    (program : Program α) : Prop :=
  program.Holds contract.logic good contract.Forgives past

/-- A call that a program is about to make is demanded by the events before it. -/
theorem Meets.demands_of_resumes {good : List Event → α → Prop} {program rest : Program α}
    {request : StoreCall} {answer : Except Failure request.Answer}
    (h : program.Meets contract good past)
    (hresumes : program.Resumes (.called request answer) rest) : contract.demands past request := by
  cases hresumes with
  | call answer => exact h.1

/-- A program meets its contract at every point that it reaches. -/
theorem Meets.after {good : List Event → α → Prop} {program rest : Program α}
    {events : List Event} (h : program.Meets contract good []) (hafter : program.After events rest)
    (htyped : ∀ event ∈ events, event.IsTyped) : rest.Meets contract good events :=
  Holds.after h hafter (Contract.leads htyped)

/-- Each call that a program has made was demanded by the events before it. -/
theorem Meets.demanded_at {good : List Event → α → Prop} {program rest : Program α}
    {earlier later : List Event} {request : StoreCall} {answer : Except Failure request.Answer}
    (h : program.Meets contract good [])
    (hafter : program.After (earlier ++ .called request answer :: later) rest)
    (htyped : ∀ event ∈ earlier ++ .called request answer :: later, event.IsTyped) :
    contract.demands earlier request := by
  generalize hevents : earlier ++ .called request answer :: later = events at hafter htyped
  induction hafter generalizing later with
  | start => simp at hevents
  | @step past event middle rest hpast hresumes ih =>
    have hbefore : ∀ event ∈ past, event.IsTyped := fun event hmem =>
      htyped event (List.mem_append_left _ hmem)
    rcases List.eq_nil_or_concat later with rfl | ⟨more, last, rfl⟩
    · obtain ⟨rfl, heq⟩ := List.append_inj' hevents rfl
      cases heq
      exact (h.after hpast hbefore).demands_of_resumes hresumes
    · have hsplit : (earlier ++ .called request answer :: more) ++ [last] = past ++ [event] := by
        rw [← hevents]
        simp
      obtain ⟨heq, -⟩ := List.append_inj' hsplit rfl
      exact ih heq hbefore

theorem Meets.demanded {good : List Event → α → Prop} {program rest : Program α}
    {events : List Event} (h : program.Meets contract good []) (hafter : program.After events rest)
    (htyped : ∀ event ∈ events, event.IsTyped) {request : StoreCall}
    {answer : Except Failure request.Answer} (hmem : .called request answer ∈ events) :
    ∃ earlier, earlier ⊆ events ∧ contract.demands earlier request := by
  obtain ⟨earlier, later, rfl⟩ := List.append_of_mem hmem
  exact ⟨earlier, List.subset_append_left .., h.demanded_at hafter htyped⟩

theorem Meets.judged {good : List Event → α → Prop} {program rest : Program α}
    {events : List Event} (h : program.Meets contract good []) (hafter : program.After events rest)
    (htyped : ∀ event ∈ events, event.IsTyped) {verdict : Verdict} {moment : Int}
    (hmem : .judged verdict moment ∈ events) : contract.judges verdict := by
  induction hafter with
  | start => exact absurd hmem List.not_mem_nil
  | @step earlier event middle rest hearlier hresumes ih =>
    have hbefore : ∀ event ∈ earlier, event.IsTyped := fun event hmem =>
      htyped event (List.mem_append_left _ hmem)
    rcases List.mem_append.mp hmem with hmem | hmem
    · exact ih hbefore hmem
    · cases List.mem_singleton.mp hmem
      cases hresumes with
      | judge moment => exact (h.after hearlier hbefore).1

end Program

end RoleGrants
