import RoleGrants.Pass.Basic
import RoleGrants.Proofs.Event

/-! Logics of programs. A logic says, for each thing that a program can do in a state, what it takes
that something holds of whatever is answered and of the state after it. `Program.Holds` says that a
program that starts in a state ends well under a logic: with a result, or with a failure, that is
good for the state at its end. There is one rule for each way in which programs are put together,
whatever the logic. -/

namespace RoleGrants

/-- What it takes that something holds after each thing that a program can do. It takes no more that
something weaker holds. -/
structure Logic (σ : Type) where
  judge : σ → Verdict → (Int → σ → Prop) → Prop
  report : σ → Report → (Except Failure Unit → σ → Prop) → Prop
  call : σ → (request : StoreCall) → (Except Failure request.Answer → σ → Prop) → Prop
  judge_mono {state : σ} {verdict : Verdict} {post weaker : Int → σ → Prop} :
    judge state verdict post → (∀ moment later, post moment later → weaker moment later) →
      judge state verdict weaker
  report_mono {state : σ} {item : Report} {post weaker : Except Failure Unit → σ → Prop} :
    report state item post → (∀ result later, post result later → weaker result later) →
      report state item weaker
  call_mono {state : σ} {request : StoreCall}
      {post weaker : Except Failure request.Answer → σ → Prop} :
    call state request post → (∀ answer later, post answer later → weaker answer later) →
      call state request weaker

/-- A failure as it leaves a step: that of the store says what the step was to do. -/
def Failure.within (description : String) : Failure → Failure
  | .store _ message => .store .general s!"failed to {description}: {message}"
  | failure => failure

namespace Logic

variable {σ : Type} {logic : Logic σ} {state : σ}

theorem judge_congr {verdict : Verdict} {post other : Int → σ → Prop}
    (h : ∀ moment later, post moment later ↔ other moment later) :
    logic.judge state verdict post ↔ logic.judge state verdict other where
  mp hjudge := logic.judge_mono hjudge fun moment later => (h moment later).mp
  mpr hjudge := logic.judge_mono hjudge fun moment later => (h moment later).mpr

theorem report_congr {item : Report} {post other : Except Failure Unit → σ → Prop}
    (h : ∀ result later, post result later ↔ other result later) :
    logic.report state item post ↔ logic.report state item other where
  mp hreport := logic.report_mono hreport fun result later => (h result later).mp
  mpr hreport := logic.report_mono hreport fun result later => (h result later).mpr

theorem call_congr {request : StoreCall} {post other : Except Failure request.Answer → σ → Prop}
    (h : ∀ answer later, post answer later ↔ other answer later) :
    logic.call state request post ↔ logic.call state request other where
  mp hcall := logic.call_mono hcall fun answer later => (h answer later).mp
  mpr hcall := logic.call_mono hcall fun answer later => (h answer later).mpr

/-- Whether what is logged and counted does not matter to a logic. -/
class IsCalm (logic : Logic σ) : Prop where
  log {state : σ} {level : LogLevel} {text : String} {post : Except Failure Unit → σ → Prop} :
    logic.report state (.log level text) post ↔ post (.ok ()) state
  count {state : σ} {counter : Counter} {post : Except Failure Unit → σ → Prop} :
    logic.report state (.count counter) post ↔ post (.ok ()) state

/-- What may happen in a state under a logic, and the state after it: that of which everything holds
that the logic promises. -/
inductive Allows (logic : Logic σ) (state : σ) : Event → σ → Prop
  | judged {verdict : Verdict} {moment : Int} {later : σ} :
      (∀ post, logic.judge state verdict post → post moment later) →
      Allows logic state (.judged verdict moment) later
  | reported {item : Report} {result : Except Failure Unit} {later : σ} :
      (∀ post, logic.report state item post → post result later) →
      Allows logic state (.reported item result) later
  | called {request : StoreCall} {answer : Except Failure request.Answer} {later : σ} :
      (∀ post, logic.call state request post → post answer later) →
      Allows logic state (.called request answer) later

/-- The histories that a logic allows, with the states that they lead to. -/
inductive Leads (logic : Logic σ) (first : σ) : List Event → σ → Prop
  | start : Leads logic first [] first
  | step {past : List Event} {state later : σ} {event : Event} : Leads logic first past state →
      logic.Allows state event later → Leads logic first (past ++ [event]) later

end Logic

namespace Program

variable {σ α β : Type} {logic : Logic σ} {good : σ → α → Prop} {bad : σ → Failure → Prop}
  {state : σ}

/-- Whether a program that starts in a state ends well under a logic. -/
def Holds (logic : Logic σ) (good : σ → α → Prop) (bad : σ → Failure → Prop) (state : σ) :
    Program α → Prop
  | .done (.ok value) => good state value
  | .done (.error failure) => bad state failure
  | .judge verdict next =>
    logic.judge state verdict fun moment later => (next moment).Holds logic good bad later
  | .report item next =>
    logic.report state item fun result later => (next result).Holds logic good bad later
  | .call request next =>
    logic.call state request fun answer later => (next answer).Holds logic good bad later

theorem Holds.mono {better : σ → α → Prop} {worse : σ → Failure → Prop} {program : Program α}
    (h : program.Holds logic good bad state)
    (hgood : ∀ later value, good later value → better later value)
    (hbad : ∀ later failure, bad later failure → worse later failure) :
    program.Holds logic better worse state := by
  induction program generalizing state with
  | done result =>
    cases result with
    | ok value => exact hgood _ _ h
    | error failure => exact hbad _ _ h
  | judge verdict next ih => exact logic.judge_mono h fun moment _ hnext => ih moment hnext
  | report item next ih => exact logic.report_mono h fun result _ hnext => ih result hnext
  | call request next ih => exact logic.call_mono h fun answer _ hnext => ih answer hnext

/-- What is good may be better where the program comes to it. -/
theorem Holds.imp {better : σ → α → Prop} {program : Program α}
    (h : program.Holds logic good bad state)
    (hgood : ∀ later value, good later value → better later value) :
    program.Holds logic better bad state :=
  h.mono hgood fun _ _ hbad => hbad

theorem holds_congr {better : σ → α → Prop} {worse : σ → Failure → Prop} {program : Program α}
    (hgood : ∀ later value, good later value ↔ better later value)
    (hbad : ∀ later failure, bad later failure ↔ worse later failure) :
    program.Holds logic good bad state ↔ program.Holds logic better worse state where
  mp h := h.mono (fun later value => (hgood later value).mp)
    fun later failure => (hbad later failure).mp
  mpr h := h.mono (fun later value => (hgood later value).mpr)
    fun later failure => (hbad later failure).mpr

/-- A program that ends well under a logic does so under any that promises no less. -/
theorem Holds.under {other : Logic σ} {program : Program α}
    (h : program.Holds logic good bad state)
    (hjudge : ∀ {state verdict post}, logic.judge state verdict post →
      other.judge state verdict post)
    (hreport : ∀ {state item post}, logic.report state item post → other.report state item post)
    (hcall : ∀ {state request post}, logic.call state request post →
      other.call state request post) :
    program.Holds other good bad state := by
  induction program generalizing state with
  | done result => cases result <;> exact h
  | judge verdict next ih =>
    exact other.judge_mono (hjudge h) fun moment _ hnext => ih moment hnext
  | report item next ih =>
    exact other.report_mono (hreport h) fun result _ hnext => ih result hnext
  | call request next ih =>
    exact other.call_mono (hcall h) fun answer _ hnext => ih answer hnext

@[simp] theorem holds_done {value : α} :
    (done (.ok value)).Holds logic good bad state ↔ good state value := Iff.rfl

@[simp] theorem holds_failed {failure : Failure} :
    (done (.error failure) : Program α).Holds logic good bad state ↔ bad state failure := Iff.rfl

theorem holds_bind {good : σ → β → Prop} {program : Program α} {next : α → Program β} :
    (program.bind next).Holds logic good bad state ↔
      program.Holds logic (fun later value => (next value).Holds logic good bad later) bad
        state := by
  induction program generalizing state with
  | done result => cases result <;> exact Iff.rfl
  | judge verdict rest ih => exact Logic.judge_congr fun moment _ => ih moment
  | report item rest ih => exact Logic.report_congr fun result _ => ih result
  | call request rest ih => exact Logic.call_congr fun answer _ => ih answer

/-- Of two programs one after another, the second has to end well wherever the first does. -/
theorem Holds.bind {middle : σ → α → Prop} {good : σ → β → Prop} {program : Program α}
    {next : α → Program β} (h : program.Holds logic middle bad state)
    (hnext : ∀ later value, middle later value → (next value).Holds logic good bad later) :
    (program.bind next).Holds logic good bad state :=
  holds_bind.mpr (h.imp hnext)

theorem holds_attempt {good : σ → Except Failure α → Prop} {program : Program α} :
    program.attempt.Holds logic good bad state ↔
      program.Holds logic (fun later value => good later (.ok value))
        (fun later failure => good later (.error failure)) state := by
  induction program generalizing state with
  | done result => cases result <;> exact Iff.rfl
  | judge verdict rest ih => exact Logic.judge_congr fun moment _ => ih moment
  | report item rest ih => exact Logic.report_congr fun result _ => ih result
  | call request rest ih => exact Logic.call_congr fun answer _ => ih answer

theorem holds_ofExcept {result : Except Failure α} :
    (ofExcept result).Holds logic good bad state ↔
      (∀ value, result = .ok value → good state value) ∧
        ∀ failure, result = .error failure → bad state failure := by
  cases result <;> simp [ofExcept]

theorem holds_fold {items : List α} {start : β} {body : β → α → Program β}
    (inv : List α → σ → β → Prop) (hstart : inv [] state start)
    (hbody : ∀ done item, done ++ [item] <+: items → ∀ state value, inv done state value →
      (body value item).Holds logic (inv (done ++ [item])) bad state) :
    (fold items start body).Holds logic (inv items) bad state := by
  -- The invariant speaks of the items done, so these are general while the rest gets shorter.
  suffices h : ∀ rest done state value, items = done ++ rest → inv done state value →
      (fold rest value body).Holds logic (inv items) bad state from
    h items [] state start rfl hstart
  intro rest
  induction rest with
  | nil =>
    intro done state value hitems hinv
    rw [List.append_nil] at hitems
    exact hitems ▸ hinv
  | cons item rest ih =>
    intro done state value hitems hinv
    have hpart : done ++ [item] <+: items := ⟨rest, by simp [hitems]⟩
    refine (hbody done item hpart state value hinv).bind fun later value hlater => ?_
    exact ih (done ++ [item]) later value (by simp [hitems]) hlater

theorem holds_forEach {items : List α} {body : α → Program Unit} (inv : List α → σ → Prop)
    (hstart : inv [] state)
    (hbody : ∀ done item, done ++ [item] <+: items → ∀ state, inv done state →
      (body item).Holds logic (fun later _ => inv (done ++ [item]) later) bad state) :
    (forEach items body).Holds logic (fun later _ => inv items later) bad state := by
  suffices h : ∀ rest done state, items = done ++ rest → inv done state →
      (forEach rest body).Holds logic (fun later _ => inv items later) bad state from
    h items [] state rfl hstart
  intro rest
  induction rest with
  | nil =>
    intro done state hitems hinv
    rw [List.append_nil] at hitems
    exact hitems ▸ hinv
  | cons item rest ih =>
    intro done state hitems hinv
    have hpart : done ++ [item] <+: items := ⟨rest, by simp [hitems]⟩
    refine (hbody done item hpart state hinv).bind fun later _ hlater => ?_
    exact ih (done ++ [item]) later (by simp [hitems]) hlater

/-! ### Where lines and counters do not matter -/

section

variable [logic.IsCalm]

@[simp] theorem holds_log {good : σ → Unit → Prop} {context : List (String × Value)}
    {level : LogLevel} {message : String} :
    (log context level message).Holds logic good bad state ↔ good state () :=
  Logic.IsCalm.log

@[simp] theorem holds_count {good : σ → Unit → Prop} {counter : Counter} :
    (count counter).Holds logic good bad state ↔ good state () :=
  Logic.IsCalm.count

/-- A step ends as the program in it does, but for the text of its failure. -/
theorem holds_inStep {description : String} {program : Program α} :
    (inStep description program).Holds logic good bad state ↔
      program.Holds logic good (fun later failure => bad later (failure.within description))
        state := by
  unfold inStep
  rw [bind_eq, holds_bind, holds_attempt]
  have hend : ∀ (later : σ) (failure : Failure),
      (if failure.isStore then
        (do count (.errors "repository")
            fail (.store .general s!"failed to {description}: {failure.message}") : Program α)
        else fail failure).Holds logic good bad later ↔
      bad later (failure.within description) := by
    intro later failure
    cases failure with
    | store fault message => exact holds_bind.trans holds_count
    | _ => exact Iff.rfl
  exact holds_congr (fun _ _ => Iff.rfl) hend

/-- The namespaces that cannot receive bindings are dropped, and nothing else happens. -/
@[simp] theorem holds_validNamespaces {good : σ → List Namespace → Prop}
    {spaces : List Namespace} :
    (validNamespaces spaces).Holds logic good bad state ↔
      good state (spaces.filter Namespace.isValid) := by
  have hlogged : ∀ (passed : List Namespace) (next : Unit → Program (List Namespace)),
      ((forEach passed fun space => log [] .debug space.passedOver).bind next).Holds logic good
        bad state ↔ (next ()).Holds logic good bad state := by
    intro passed next
    induction passed with
    | nil => exact Iff.rfl
    | cons space rest ih =>
      refine (holds_bind.trans (holds_bind.trans holds_log)).trans ?_
      exact holds_bind.symm.trans ih
  exact hlogged _ _

end

/-! ### Histories -/

theorem Holds.resumes {program rest : Program α} {event : Event} {later : σ}
    (h : program.Holds logic good bad state) (hresumes : program.Resumes event rest)
    (hallows : logic.Allows state event later) : rest.Holds logic good bad later := by
  cases hresumes with
  | judge moment => cases hallows with | judged hpost => exact hpost _ h
  | report result => cases hallows with | reported hpost => exact hpost _ h
  | call answer => cases hallows with | called hpost => exact hpost _ h

/-- A program ends well after every history that its logic allows. -/
theorem Holds.after {program rest : Program α} {past : List Event} {first : σ}
    (h : program.Holds logic good bad first) (hafter : program.After past rest)
    (hleads : logic.Leads first past state) : rest.Holds logic good bad state := by
  induction hafter generalizing state with
  | start =>
    generalize hpast : ([] : List Event) = past at hleads
    cases hleads with
    | start => exact h
    | step => simp at hpast
  | @step past event middle rest _ hresumes ih =>
    generalize hevents : past ++ [event] = events at hleads
    cases hleads with
    | start => simp at hevents
    | step hbefore hallows =>
      obtain ⟨rfl, heq⟩ := List.append_inj' hevents rfl
      cases heq
      exact (ih hbefore).resumes hresumes hallows

end Program

end RoleGrants
