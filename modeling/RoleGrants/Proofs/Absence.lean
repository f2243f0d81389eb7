import RoleGrants.Proofs.NamespaceChart
import RoleGrants.Proofs.Stopping

/-! Where a pass misses a policy that is not there any more. A pass reads policies once, at its
start, and from then on asks for one only where it writes its status. That there is none both kinds
of pass take for a failure of the store, and stop; only when a pass refuses a policy does it not
matter that the breach cannot be recorded. The logic of phases says what a pass does by then. -/

namespace RoleGrants

/-- Whether a call reads policies. -/
def StoreCall.readsPolicies : StoreCall → Bool
  | .getPolicy _ _ => true
  | .listPolicies => true
  | _ => false

def Event.readsPolicies : Event → Bool
  | .called request _ => request.readsPolicies
  | _ => false

/-! ### The phases of a pass -/

/-- What a pass still has to do. -/
inductive Phase where
  /-- It goes on, and it has read policies or has not. -/
  | going (hasRead : Bool)
  /-- It was told that a policy is missing whose status it was to write, and has to fail for it. -/
  | missed (cause : String)
  /-- It has to fail in one way, whatever it was told. -/
  | doomed (failure : Failure)

namespace Phase

def isGoing : Phase → Prop
  | .going _ => True
  | _ => False

/-- Which failures end a pass, by what it still has to do. -/
def Fails (kind : String → Failure → Prop) : Phase → Failure → Prop
  | .going _, _ => True
  | .missed cause, failure => kind cause failure
  | .doomed expected, failure => failure = expected

/-- The logic of programs that read policies only once, and only report and fail when the policy is
not there whose status they write: for what they were told, or as they would have failed anyway. -/
def logic : Logic Phase where
  judge phase _ post := phase.isGoing ∧ ∀ moment, post moment phase
  report phase item post := post item.result phase
  call
    | .going false, request, post => ∀ answer, post answer (.going request.readsPolicies)
    | .going true, request, post => (∀ answer, post answer (.going true)) ∧
        (request.IsQuiet ∨ (∃ written, request = .updateStatus written) ∧
          ((∀ cause, post (.error (.store .notFound cause)) (.missed cause)) ∨
            ∃ failure, (∀ value, post (.ok value) (.doomed failure)) ∧
              ∀ cause, post (.error (.store .notFound cause)) (.doomed failure)))
    | _, _, _ => False
  judge_mono h hpost := ⟨h.1, fun moment => hpost _ _ (h.2 moment)⟩
  report_mono h hpost := hpost _ _ h
  call_mono {phase request post weaker} h hpost := by
    match phase with
    | .going false => exact fun answer => hpost _ _ (h answer)
    | .going true =>
      refine ⟨fun answer => hpost _ _ (h.1 answer), h.2.imp id fun ⟨hwrites, hmissed⟩ => ?_⟩
      refine ⟨hwrites, hmissed.imp (fun htold cause => hpost _ _ (htold cause)) ?_⟩
      rintro ⟨failure, hok, hmissed⟩
      exact ⟨failure, fun value => hpost _ _ (hok value), fun cause => hpost _ _ (hmissed cause)⟩
    | .missed _ | .doomed _ => exact h.elim

instance : logic.IsCalm := ⟨Iff.rfl, Iff.rfl⟩

end Phase

namespace Program

variable {α : Type} {kind : String → Failure → Prop} {program : Program α} {failure : Failure}

/-- Whether a program that is in some phase does what it still has to do, and fails for a missing
policy in a way of some kind. -/
abbrev Misses (kind : String → Failure → Prop) (phase : Phase) (program : Program α) : Prop :=
  program.Holds Phase.logic (fun phase _ => phase.isGoing) (Phase.Fails kind) phase

/-- A program that has to fail because it was told that a policy is missing can only report before
that. -/
theorem Misses.doomed {cause : String} (h : program.Misses kind (.missed cause)) :
    ∃ failure, kind cause failure ∧ program.Misses kind (.doomed failure) := by
  induction program with
  | done result =>
    cases result with
    | ok value => exact h.elim
    | error failure => exact ⟨failure, h, rfl⟩
  | judge verdict next => exact h.1.elim
  | report item next ih => exact ih item.result h
  | call request next => exact h.elim

end Program

namespace Pass

open Program

variable {hasRead : Bool} {phase : Phase} {kind : String → Failure → Prop} {purpose : String}

/-! ### What the edges of a pass do -/

/-- A call that does not concern policies makes no difference. -/
theorem misses_quiet (request : StoreCall) {post : Except Failure request.Answer → Phase → Prop}
    (hquiet : request.IsQuiet) (h : ∀ answer, post answer (.going hasRead)) :
    Phase.logic.call (.going hasRead) request post := by
  cases hasRead with
  | true => exact ⟨h, .inl hquiet⟩
  | false =>
    have hreads : request.readsPolicies = false := by
      cases request with
      | getPolicy | listPolicies => exact hquiet.elim
      | _ => rfl
    intro answer
    rw [hreads]
    exact h answer

theorem misses_asks (h : phase = .going true) (request : StoreCall) (hquiet : request.IsQuiet) :
    (ask request).Holds Phase.logic (fun phase _ => phase = .going true)
      (fun phase failure => Phase.Fails kind phase (failure.within purpose)) phase := by
  cases h
  refine misses_quiet request hquiet ?_
  rintro (failure | value)
  · trivial
  · exact rfl

/-- That the status of a policy cannot be written is told with what the step was to do. -/
theorem misses_writes (h : phase = .going true) {policy : Policy} {tracker : Tracker}
    (hkind : ∀ cause, kind cause (.store .general s!"failed to {purpose}: {cause}")) :
    (ask (writing policy tracker)).Holds Phase.logic (fun phase _ => phase = .going true)
      (fun phase failure => Phase.Fails kind phase (failure.within purpose)) phase := by
  cases h
  refine ⟨?_, .inr ⟨⟨_, rfl⟩, .inl hkind⟩⟩
  rintro (failure | value)
  · trivial
  · exact rfl

theorem misses_creates (h : phase = .going true) {binding : Binding} {isCounted : Bool} :
    Phase.logic.call phase (.createBinding binding) fun answer phase =>
      Attempted Phase.logic (Phase.Fails kind) purpose binding isCounted
        (fun _ phase => phase = .going true) answer phase := by
  cases h
  exact misses_quiet (.createBinding binding) trivial fun _ =>
    .of_isCalm (fun _ _ => rfl) (fun _ _ => rfl) fun _ _ _ => trivial

/-- A look at values goes on, or fails for another cause. -/
theorem misses_tries (h : phase = .going true) {α : Type} {result : Except Failure α} :
    (∀ value, result = .ok value → phase = .going true) ∧
      ∀ failure, result = .error failure → Phase.Fails kind phase failure := by
  cases h
  exact ⟨fun _ _ => rfl, fun _ _ => trivial⟩

theorem misses_reports (h : phase = .going true) (item : Report) :
    (Program.report item .done).Holds Phase.logic (fun phase _ => phase = .going true)
      (Phase.Fails kind) phase :=
  holds_ofExcept.mpr (misses_tries h)

theorem misses_judges (h : phase = .going true) (tracker : Tracker) (verdict : Verdict) :
    (upsert tracker verdict).Holds Phase.logic (fun phase _ => phase = .going true)
      (Phase.Fails kind) phase :=
  ⟨h ▸ trivial, fun _ => holds_ofExcept.mpr (misses_tries h)⟩

end Pass

namespace PolicyPass

open Program Pass

/-- How a pass fails that cannot write the status of its policy. -/
def GivesUp (cause : String) (failure : Failure) : Prop :=
  ∃ purpose, (∀ written, Serves purpose (.updateStatus written)) ∧
    failure = .store .general s!"failed to {purpose}: {cause}"

/-- Whether a pass that has come to a point has read its policy. -/
def Point.hasRead : Point → Bool
  | .opened => false
  | _ => true

/-- That a breach cannot be recorded makes no difference; elsewhere a pass that is told that its
policy is missing gives up. -/
theorem misses_outline (space name : Value) :
    Outline Phase.logic (Flows space name) (fun point phase => phase = .going point.hasRead)
      (Phase.Fails GivesUp) := by
  refine .of_isCalm fun {point edge} hedge phase h => ?_
  cases hedge with
  | fetch =>
    cases h
    rintro (failure | policy)
    · exact ⟨fun _ _ => rfl, fun _ => trivial⟩
    · exact rfl
  | refuse =>
    cases h
    refine ⟨?_, .inr ⟨⟨_, rfl⟩, .inr ⟨_, fun _ => rfl, fun _ => ⟨fun _ => rfl, nofun⟩⟩⟩⟩
    rintro (failure | value)
    · exact ⟨fun _ => trivial, fun _ => trivial⟩
    · trivial
  | roles => exact misses_asks h .listClusterRoles trivial
  | clusterBindings => exact misses_asks h .listClusterRoleBindings trivial
  | namespaces => exact misses_asks h .listNamespaces trivial
  | bindings => exact misses_asks h (.listRoleBindings none) trivial
  | createOnCluster | createInTarget => exact misses_creates h
  | writeLack => exact misses_writes h fun _ => ⟨_, fun _ => .missing, rfl⟩
  | writeOnCluster => exact misses_writes h fun _ => ⟨_, fun _ => .grantedOnCluster, rfl⟩
  | writeInNamespaces => exact misses_writes h fun _ => ⟨_, fun _ => .grantedInNamespaces, rfl⟩
  | writeChanges => exact misses_writes h fun _ => ⟨_, fun _ => .changes, rfl⟩
  | note | lackOnCluster | lackInNamespaces | judgeOnCluster | judgeInNamespaces =>
    exact misses_judges h _ _
  | forget | «break» | releaseOnCluster | releaseInNamespaces | compareOnCluster
    | compareInNamespaces | keysOnCluster | select | keysInNamespaces => exact misses_tries h
  | clearOnCluster | clearInNamespaces | recordOnCluster | recordInNamespaces =>
    exact misses_reports h _
  | _ => exact h

theorem misses_run (space name : Value) : (run space name).Misses GivesUp (.going false) :=
  (holds_run_of_isCalm (misses_outline space name) rfl).imp fun _ _ h => h ▸ trivial

end PolicyPass

namespace NamespacePass

open Program Pass

/-- How a pass fails that cannot write the status of a policy. -/
def GivesUp (cause : String) (failure : Failure) : Prop :=
  failure = .store .general s!"failed to update PermissionPolicy status: {cause}"

/-- What a pass still has to do that has come to a point. -/
def Heading : Point → Phase → Prop
  | .opened, phase | .found _, phase | .visited, phase => phase = .going false
  | .ended _, phase => phase.isGoing
  | _, phase => phase = .going true

theorem misses_outline (name : Value) :
    Outline Phase.logic (Flows name) Heading (Phase.Fails GivesUp) := by
  refine .of_isCalm fun {point edge} hedge phase h => ?_
  cases hedge with
  | fetch =>
    cases h
    refine misses_quiet (.getNamespace name) trivial ?_
    rintro (failure | space)
    · exact ⟨fun _ _ => trivial, fun _ => trivial⟩
    · exact rfl
  | policies =>
    cases h
    rintro (failure | policies)
    · trivial
    · exact rfl
  | passOver | none | finishAll =>
    cases h
    trivial
  | roles => exact misses_asks h .listClusterRoles trivial
  | bindings => exact misses_asks h (.listRoleBindings (some name)) trivial
  | namespaces => exact misses_asks h .listNamespaces trivial
  | allBindings => exact misses_asks h (.listRoleBindings .none) trivial
  | create => exact misses_creates h
  | write => exact misses_writes h fun _ => rfl
  | judge => exact misses_judges h _ _
  | record => exact misses_reports h _
  | keys | «break» | key | choose | compare | recordKeys => exact misses_tries h
  | _ => exact h

theorem misses_run (name : Value) : (run name).Misses GivesUp (.going false) :=
  holds_run_of_isCalm (misses_outline name) rfl

end NamespacePass

end RoleGrants
