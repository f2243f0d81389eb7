import RoleGrants.Proofs.Logic

/-! Charts of passes. A chart says what a pass may do at each of its points, one thing at a time,
and to which points that leads. An outline says what holds at each point; if that is kept along
every edge of the chart, it holds wherever the pass comes to the point. The functions of a pass are
walked through once, for its chart and any outline in any logic. What is shown of the pass beyond
that is shown of the edges of its chart. -/

namespace RoleGrants

namespace Counter

def isCreation : Counter → Bool
  | .creations _ _ => true
  | _ => false

def isPass : Counter → Bool
  | .passes _ _ => true
  | _ => false

end Counter

/-- Whether a report is a line of the log, or counts neither an attempt to create a binding nor a
pass. -/
def Report.IsLine : Report → Prop
  | .log _ _ => True
  | .count counter => counter.isCreation = false ∧ counter.isPass = false
  | _ => False

namespace Logic

variable {σ : Type} {logic : Logic σ} {bad : σ → Failure → Prop} {point : σ → Prop}

/-- What it takes that something holds once a report was made. A failure to make it may be told in
any words. -/
def Takes (logic : Logic σ) (bad : σ → Failure → Prop) (point : σ → Prop) (item : Report)
    (state : σ) : Prop :=
  logic.report state item fun result later => (result = .ok () → point later) ∧
    ∀ failure, result = .error failure → ∀ told, bad later told

/-- What it takes that something holds at each point while reports on some roles are made, each
role once and in order. -/
structure Tells (logic : Logic σ) (bad : σ → Failure → Prop) (start : σ → Prop)
    (point : List Value → σ → Prop) (report : Value → Report) (roles : List Value) : Prop where
  keys : ∀ state, start state →
    (∀ value, Value.requireKeys roles = .ok value → point [] state) ∧
      ∀ failure, Value.requireKeys roles = .error failure → bad state failure
  reports : ∀ done role, done ++ [role] <+: Value.distinct roles → ∀ state, point done state →
    (Program.report (report role) .done).Holds logic (fun later _ => point (done ++ [role]) later)
      bad state

/-- Whether something that holds goes on to hold while lines are reported. -/
def Rests (logic : Logic σ) (bad : σ → Failure → Prop) (point : σ → Prop) : Prop :=
  ∀ item, item.IsLine → ∀ state, point state → logic.Takes bad point item state

theorem Takes.report {item : Report} {state : σ} (h : logic.Takes bad point item state) :
    (Program.report item .done).Holds logic (fun later _ => point later) bad state := by
  refine logic.report_mono h fun result later hlater => ?_
  cases result with
  | ok value => exact hlater.1 rfl
  | error failure => exact hlater.2 failure rfl failure

theorem Takes.imp {item : Report} {state : σ} {weaker : σ → Prop}
    (h : logic.Takes bad point item state) (himp : ∀ later, point later → weaker later) :
    logic.Takes bad weaker item state :=
  logic.report_mono h fun _ later hlater => ⟨fun hok => himp later (hlater.1 hok), hlater.2⟩

theorem Takes.within {item : Report} {state : σ} (h : logic.Takes bad point item state)
    (description : String) :
    logic.Takes (fun later failure => bad later (failure.within description)) point item state :=
  logic.report_mono h fun _ _ hlater =>
    ⟨hlater.1, fun failure hfailed _ => hlater.2 failure hfailed _⟩

namespace Rests

theorem of_isCalm [logic.IsCalm] : logic.Rests bad point := by
  intro item hline state hpoint
  cases item with
  | log level text => exact IsCalm.log.mpr ⟨fun _ => hpoint, nofun⟩
  | count counter => exact IsCalm.count.mpr ⟨fun _ => hpoint, nofun⟩
  | _ => exact hline.elim

theorem within (h : logic.Rests bad point) (description : String) :
    logic.Rests (fun later failure => bad later (failure.within description)) point :=
  fun item hline state hpoint => (h item hline state hpoint).within description

theorem log (h : logic.Rests bad point) {state : σ} (hpoint : point state)
    {context : List (String × Value)} {level : LogLevel} {message : String} :
    (Program.log context level message).Holds logic (fun later _ => point later) bad state :=
  (h (.log level (message ++ Log.contextText context)) trivial state hpoint).report

theorem count (h : logic.Rests bad point) {state : σ} (hpoint : point state) {counter : Counter}
    (hcreation : counter.isCreation = false) (hpass : counter.isPass = false) :
    (Program.count counter).Holds logic (fun later _ => point later) bad state :=
  (h (.count counter) ⟨hcreation, hpass⟩ state hpoint).report

end Rests

end Logic

namespace Program

variable {σ α : Type} {logic : Logic σ} {good : σ → α → Prop} {bad : σ → Failure → Prop}
  {state : σ}

/-- A step ends as the program in it does, but for the text of its failure. -/
theorem Holds.inStep {description : String} {program : Program α}
    (hbad : ∀ failure, logic.Rests bad (bad · failure))
    (h : program.Holds logic good (fun later failure => bad later (failure.within description))
      state) :
    (inStep description program).Holds logic good bad state := by
  unfold Program.inStep
  rw [bind_eq, holds_bind, holds_attempt]
  refine h.mono (fun _ _ hgood => hgood) fun later failure hfailed => ?_
  cases failure with
  | store fault message => exact ((hbad _).count hfailed rfl rfl).bind fun _ _ hlater => hlater
  | _ => exact hfailed

/-- The namespaces that cannot receive bindings are dropped while what holds goes on to hold. -/
theorem holds_validNamespaces_of_rests {spaces : List Namespace} {point : σ → Prop}
    (hrests : logic.Rests bad point) (h : point state) :
    (validNamespaces spaces).Holds logic
      (fun later kept => kept = spaces.filter Namespace.isValid ∧ point later) bad state := by
  unfold validNamespaces
  refine (holds_forEach (fun _ => point) h
    fun _ _ _ state hstate => hrests.log hstate).bind fun later _ hlater => ?_
  exact ⟨rfl, hlater⟩

end Program

namespace Pass

open Program

theorem mem_of_mem_distinct {values : List Value} {value : Value}
    (h : value ∈ Value.distinct values) : value ∈ values := by
  match values with
  | [] => exact h
  | first :: rest =>
    rw [Value.distinct, List.eraseDups_cons] at h
    rcases List.mem_cons.mp h with rfl | h
    · exact List.mem_cons_self
    · exact List.mem_cons_of_mem _ (List.mem_filter.mp (mem_of_mem_distinct h)).1
termination_by values.length
decreasing_by
  have hshort := List.length_filter_le (fun other => !other == first) rest
  simp only [List.length_cons]
  omega

variable {σ α : Type} {logic : Logic σ} {good : σ → α → Prop} {bad : σ → Failure → Prop}
  {state : σ}

/-- The names of the namespaces that can receive bindings. -/
def validNames (spaces : List Namespace) : List Value :=
  (spaces.filter Namespace.isValid).map (·.name)

/-- The call that writes the conditions of a policy. -/
abbrev writing (policy : Policy) (tracker : Tracker) : StoreCall :=
  .updateStatus { policy with conditions := tracker.current }

theorem requireKeys_failed {values : List Value} {failure : Failure}
    (h : Value.requireKeys values = .error failure) : failure = .wrongType := by
  unfold Value.requireKeys require at h
  split at h
  · cases h
  · exact (Except.error.inj h).symm

theorem holds_series {report : Value → Report} {roles : List Value} {start : σ → Prop}
    {point : List Value → σ → Prop} (h : logic.Tells bad start point report roles)
    (hstart : start state) :
    Holds logic (fun later _ => point (Value.distinct roles) later) bad state (do
      ofExcept (Value.requireKeys roles)
      forEach (Value.distinct roles) fun role => .report (report role) .done) :=
  Holds.bind (holds_ofExcept.mpr (h.keys state hstart)) fun _ _ hlater =>
    holds_forEach point hlater h.reports

/-- A policy is released on the whole cluster first, and then in namespaces. -/
theorem holds_release {policy : Policy} {start : σ → Prop}
    {onCluster inNamespaces : List Value → σ → Prop} (hrests : logic.Rests bad start)
    (honCluster : logic.Tells bad start onCluster
      (fun role => .clear (series policy clusterScope role)) policy.clusterPermissions)
    (hinNamespaces : logic.Tells bad (onCluster (Value.distinct policy.clusterPermissions))
      inNamespaces (fun role => .clear (series policy namespaceScope role)) policy.permissionRoles)
    (hstart : start state) :
    (release policy).Holds logic
      (fun later _ => inNamespaces (Value.distinct policy.permissionRoles) later) bad state := by
  unfold release
  refine (hrests.log hstart).bind fun later _ hlater => ?_
  refine (holds_series honCluster hlater).bind fun later _ hlater => ?_
  exact holds_series hinNamespaces hlater

theorem holds_timed {controller : String} {work : Program α}
    (hgood : ∀ value, logic.Rests bad (good · value))
    (hbad : ∀ failure, logic.Rests bad (bad · failure)) (h : work.Holds logic good bad state) :
    (timed controller work).Holds logic good bad state := by
  unfold timed
  rw [bind_eq, holds_bind, holds_attempt]
  refine h.mono (fun later value hlater => ?_) fun later failure hlater => ?_
  · exact ((hgood value).count hlater rfl rfl).bind fun _ _ hlast => hlast
  · exact ((hbad failure).count hlater rfl rfl).bind fun _ _ hlast => hlast

end Pass

/-! ### Edges -/

/-- What a pass may do next, and the points that it leads to. -/
inductive Edge (Point : Type) : Type 1 where
  /-- The pass goes on at another point. -/
  | turns (next : Point)
  | tries {α : Type} (result : Except Failure α) (next : α → Point)
  /-- A step with one call, whose failure ends the pass. -/
  | asks (purpose : String) (request : StoreCall) (next : request.Answer → Point)
  /-- A step with one call, for an object that need not be there. -/
  | finds (purpose : String) (request : StoreCall) (found : request.Answer → Point) (absent : Point)
  | judges (tracker : Tracker) (verdict : Verdict) (next : Tracker → Point)
  | reports (item : Report) (next : Point)
  /-- An attempt to create a binding, and whether it is counted when the store fails. -/
  | creates (purpose : String) (binding : Binding) (isCounted : Bool) (next : Bool → Point)
  /-- The pass ends with a failure, after a call in which the store may fail. -/
  | refuses (request : StoreCall) (failure : Failure)

/-- The edges of a pass at each of its points. -/
abbrev Chart (Point : Type) : Type 1 := Point → Edge Point → Prop

/-- What it takes that a pass goes on after an attempt to create a binding was answered. -/
structure Attempted {σ : Type} (logic : Logic σ) (bad : σ → Failure → Prop) (purpose : String)
    (binding : Binding) (isCounted : Bool) (good : Bool → σ → Prop)
    (answer : Except Failure Binding) (state : σ) : Prop where
  created : ∀ value, answer = .ok value →
    logic.Takes bad (good true) (.count (.creations binding.kind "created")) state
  existed : ∀ message, answer = .error (.store .alreadyExists message) →
    logic.Takes bad (good false) (.count (.creations binding.kind "exists")) state
  counted : isCounted = true → ∀ failure, answer = .error failure → failure.isStore = true →
    (∀ message, failure ≠ .store .alreadyExists message) →
    logic.Takes bad (bad · (failure.within purpose)) (.count (.creations binding.kind "error"))
      state
  uncounted : ∀ failure, answer = .error failure → isCounted = false ∨ failure.isStore = false →
    (∀ message, failure ≠ .store .alreadyExists message) → bad state (failure.within purpose)

theorem Attempted.of_isCalm {σ : Type} {logic : Logic σ} [logic.IsCalm] {bad : σ → Failure → Prop}
    {purpose : String} {binding : Binding} {isCounted : Bool} {good : Bool → σ → Prop}
    {answer : Except Failure Binding} {state : σ}
    (hcreated : ∀ value, answer = .ok value → good true state)
    (hexisted : ∀ message, answer = .error (.store .alreadyExists message) → good false state)
    (hfailed : ∀ failure, answer = .error failure →
      (∀ message, failure ≠ .store .alreadyExists message) → bad state (failure.within purpose)) :
    Attempted logic bad purpose binding isCounted good answer state where
  created value h := Logic.IsCalm.count.mpr ⟨fun _ => hcreated value h, nofun⟩
  existed message h := Logic.IsCalm.count.mpr ⟨fun _ => hexisted message h, nofun⟩
  counted _ failure h _ hnew := Logic.IsCalm.count.mpr ⟨fun _ => hfailed failure h hnew, nofun⟩
  uncounted failure h _ hnew := hfailed failure h hnew

namespace Edge

variable {Point σ : Type}

/-- What it takes that an edge leads from a state in which its start is reached only to states in
which what holds at its ends does. -/
def Keeps (logic : Logic σ) (holds : Point → σ → Prop) (failed : σ → Failure → Prop)
    (state : σ) : Edge Point → Prop
  | .turns next => holds next state
  | .tries result next => (∀ value, result = .ok value → holds (next value) state) ∧
      ∀ failure, result = .error failure → failed state failure
  | .asks purpose request next =>
      (Program.ask request).Holds logic (fun later value => holds (next value) later)
        (fun later failure => failed later (failure.within purpose)) state
  | .finds purpose request found absent =>
      (Program.ask request).Holds logic (fun later value => holds (found value) later)
        (fun later failure => (∀ message, failure = .store .notFound message → holds absent later) ∧
          ((∀ message, failure ≠ .store .notFound message) →
            failed later (failure.within purpose))) state
  | .judges tracker verdict next =>
      (Program.upsert tracker verdict).Holds logic (fun later after => holds (next after) later)
        failed state
  | .reports item next =>
      (Program.report item .done).Holds logic (fun later _ => holds next later) failed state
  | .creates purpose binding isCounted next =>
      logic.call state (.createBinding binding) fun answer later =>
        Attempted logic failed purpose binding isCounted (fun isNew => holds (next isNew)) answer
          later
  | .refuses request failure =>
      (Program.ask request).Holds logic (fun later _ => failed later failure)
        (fun later cause => (cause.isStore = true → failed later failure) ∧
          (cause.isStore = false → failed later cause)) state

/-- A look at values that succeeds leads on. -/
theorem keeps_tries {logic : Logic σ} {holds : Point → σ → Prop} {failed : σ → Failure → Prop}
    {state : σ} {α : Type} {result : Except Failure α} {next : α → Point} {value : α}
    (hresult : result = .ok value) (h : holds (next value) state) :
    (tries result next).Keeps logic holds failed state := by
  rw [hresult]
  exact ⟨fun other heq => Except.ok.inj heq ▸ h, fun failure heq => by cases heq⟩

end Edge

/-- What holds at the points of a chart and after failures, if it is kept along every edge and while
lines are reported. -/
structure Outline {Point σ : Type} (logic : Logic σ) (chart : Chart Point)
    (holds : Point → σ → Prop) (failed : σ → Failure → Prop) : Prop where
  points : ∀ point, logic.Rests failed (holds point)
  failures : ∀ failure, logic.Rests failed (failed · failure)
  edges : ∀ {point edge}, chart point edge → ∀ {state}, holds point state →
    edge.Keeps logic holds failed state

namespace Outline

open Program

variable {Point σ : Type} {logic : Logic σ} {chart : Chart Point} {holds : Point → σ → Prop}
  {failed : σ → Failure → Prop} {point : Point} {state : σ}

theorem of_isCalm [logic.IsCalm] (edges : ∀ {point edge}, chart point edge → ∀ {state},
    holds point state → edge.Keeps logic holds failed state) :
    Outline logic chart holds failed :=
  ⟨fun _ => .of_isCalm, fun _ => .of_isCalm, edges⟩

variable (outline : Outline logic chart holds failed)

include outline

theorem log (h : holds point state) {context : List (String × Value)} {level : LogLevel}
    {message : String} :
    (Program.log context level message).Holds logic (fun later _ => holds point later) failed
      state :=
  (outline.points point).log h

theorem turns {next : Point} (hedge : chart point (.turns next)) (h : holds point state) :
    holds next state :=
  outline.edges hedge h

theorem tries {α : Type} {result : Except Failure α} {next : α → Point}
    (hedge : chart point (.tries result next)) (h : holds point state) :
    (ofExcept result).Holds logic (fun later value => holds (next value) later) failed state :=
  holds_ofExcept.mpr (outline.edges hedge h)

theorem asks {purpose : String} {request : StoreCall} {next : request.Answer → Point}
    (hedge : chart point (.asks purpose request next)) (h : holds point state) :
    (inStep purpose (ask request)).Holds logic (fun later value => holds (next value) later) failed
      state :=
  Holds.inStep outline.failures (outline.edges hedge h)

theorem asksNamespaces {purpose : String} {next : List Namespace → Point}
    (hedge : chart point (.asks purpose .listNamespaces next)) (h : holds point state) :
    (inStep purpose (ask .listNamespaces >>= validNamespaces)).Holds logic
      (fun later spaces => ∃ listed, spaces = listed.filter Namespace.isValid ∧
        holds (next listed) later) failed state := by
  refine Holds.inStep outline.failures
    (Holds.bind (outline.edges hedge h) fun later listed hlater => ?_)
  refine (holds_validNamespaces_of_rests ((outline.points _).within purpose) hlater).imp ?_
  exact fun last spaces hlast => ⟨listed, hlast⟩

theorem finds {purpose absence : String} {request : StoreCall} {found : request.Answer → Point}
    {absent : Point} {context : List (String × Value)}
    (hedge : chart point (.finds purpose request found absent)) (h : holds point state) :
    (Pass.find purpose context absence (ask request)).Holds logic
      (fun later answer => holds (answer.elim absent found) later) failed state := by
  unfold Pass.find
  refine Holds.inStep outline.failures ?_
  rw [bind_eq, holds_bind, holds_attempt]
  refine Holds.mono (outline.edges hedge h) (fun _ _ hfound => hfound)
    fun later failure hfailed => ?_
  split
  · next heq => cases heq
  · next message heq =>
    cases heq
    exact (((outline.points absent).within purpose).log (hfailed.1 message rfl)).bind
      fun _ _ hlast => hlast
  · next other hother heq =>
    cases heq
    exact hfailed.2 hother

theorem judges {tracker : Tracker} {verdict : Verdict} {next : Tracker → Point}
    (hedge : chart point (.judges tracker verdict next)) (h : holds point state) :
    (upsert tracker verdict).Holds logic (fun later after => holds (next after) later) failed
      state :=
  outline.edges hedge h

theorem tells {report : Value → Report} {roles : List Value} {next : List Value → Point}
    (hkeys : chart point (.tries (Value.requireKeys roles) fun _ => next []))
    (hreports : ∀ done role, done ++ [role] <+: Value.distinct roles →
      chart (next done) (.reports (report role) (next (done ++ [role])))) :
    logic.Tells failed (holds point) (fun done => holds (next done)) report roles :=
  ⟨fun _ hpoint => outline.edges hkeys hpoint,
    fun done role hpart _ hpoint => outline.edges (hreports done role hpart) hpoint⟩

end Outline

end RoleGrants
