import RoleGrants.Handlers
import RoleGrants.Proofs.Bodies
import RoleGrants.Proofs.Failing

/-! Which failures come out of passes and handlers, over a store that fails only for reasons of its
own and answers with objects whose bodies are as declared. A pass over a policy fails only for the
store or for a breach of the rules by its policy, and a pass over a namespace only for the store; so
no handler fails, and no policy keeps a namespace from the other policies. The patterns matter: one
that is refused for its size, and not for a fault, is no breach, and it stops both kinds of pass. -/

namespace RoleGrants

/-- Whether a policy was read from a body as declared. -/
def Policy.IsRead (policy : Policy) : Prop :=
  ∃ body : Value, body.IsPolicyBody ∧ ofValue body = .ok policy

theorem Policy.IsRead.isSound {policy : Policy} (h : policy.IsRead) : policy.IsSound := by
  obtain ⟨body, hbody, hread⟩ := h
  obtain ⟨other, hother, hsound⟩ := ofValue_isSound hbody
  cases hread.symm.trans hother
  exact hsound

namespace StoreCall

/-- Whether an answer to a call is made of what is declared. -/
def IsDeclared : (request : StoreCall) → request.Answer → Prop
  | .getPolicy _ _, policy => policy.IsRead
  | .listPolicies, policies => ∀ policy ∈ policies, policy.IsRead
  | .listClusterRoles, roles => ∀ role ∈ roles, role.IsText
  | .getNamespace name, space => space.name = name
  | .listNamespaces, spaces => ∀ space ∈ spaces, space.name.IsText
  | _, _ => True

/-- Whether a call fails only for reasons of the store, and else is answered as declared. -/
def IsContained (request : StoreCall) : Except Failure request.Answer → Prop
  | .ok value => request.IsDeclared value
  | .error failure => failure.isStore = true

end StoreCall

/-- The regime of calls that are answered as declared or fail for reasons of the store, in whatever
order. -/
def Regime.declared : Regime Unit where
  shows moment := ∃ text, Timestamp.ofMoment moment = .ok text
  answers _ request answer _ := request.IsContained answer

theorem StoreCall.IsContained.isSound {request : StoreCall} {answer : Except Failure request.Answer}
    (h : request.IsContained answer) : request.IsSound answer := by
  cases answer with
  | error failure => exact h
  | ok value =>
    cases request with
    | getPolicy space name =>
      refine ⟨nofun, ?_⟩
      rintro _ ⟨⟩
      exact Policy.IsRead.isSound h
    | listPolicies => exact ⟨value, rfl, fun policy hmem => (h policy hmem).isSound⟩
    | listClusterRoles =>
      refine ⟨value, rfl, fun role hmem => ?_⟩
      obtain ⟨text, rfl⟩ := h role hmem
      rfl
    | listClusterRoleBindings => exact ⟨value, rfl⟩
    | listRoleBindings space => exact ⟨value, rfl⟩
    | getNamespace name => exact nofun
    | listNamespaces => exact ⟨value, rfl, h⟩
    | createBinding binding => trivial
    | updateStatus policy => rfl

/-- What ends well under answers with sound objects does so under answers as declared. -/
theorem Program.Holds.declared {α : Type} {good : Unit → α → Prop} {bad : Unit → Failure → Prop}
    {program : Program α} (h : program.Holds Regime.sound.logic good bad ()) :
    program.Holds Regime.declared.logic good bad () :=
  h.under (fun hjudge moment hshown => hjudge moment hshown) (fun hreport => hreport)
    fun hcall answer later hanswer => hcall answer later hanswer.isSound

theorem PolicyPass.holds_run_declared (space name : Value) :
    (run space name).Holds Regime.declared.logic (fun _ _ => True) (fun _ => Fails) () :=
  (holds_run_sound space name).declared

theorem NamespacePass.holds_run_declared {name : Value} (hname : name.IsText) :
    (run name).Holds Regime.declared.logic (fun _ _ => True) (fun _ => Fails) () :=
  (holds_run_sound hname).declared

/-! ### Handlers -/

namespace Handlers

open Program

theorem Failure.isOperator_of_fails {failure : Failure} (h : PolicyPass.Fails failure) :
    failure.isOperator = true := by
  cases failure with
  | invalidPolicy message types => rfl
  | store fault message => rfl
  | _ => exact h.elim nofun nofun

theorem holds_contained {α : Type} {description : String} {program : Program α}
    (h : program.Holds Regime.declared.logic (fun _ _ => True) (fun _ => PolicyPass.Fails) ()) :
    (contained description program).Holds Regime.declared.logic (fun _ _ => True)
      (fun _ _ => False) () := by
  unfold contained
  rw [bind_eq, holds_bind, holds_attempt]
  refine h.mono (fun _ _ _ => trivial) fun _ failure hfails => ?_
  simp only [Failure.isOperator_of_fails hfails, if_true]
  trivial

theorem holds_policyChanged (settings : Settings) (space name : Value) :
    (policyChanged settings space name).Holds Regime.declared.logic (fun _ _ => True)
      (fun _ _ => False) () := by
  unfold policyChanged passOver
  simp only [bind_eq, pure_eq, holds_bind, holds_log, holds_attempt]
  refine (PolicyPass.holds_run_declared space name).mono (fun _ result _ => ?_)
    fun _ failure hfails => ?_
  · split
    · trivial
    · trivial
  · have hoperator := Failure.isOperator_of_fails hfails
    split
    · next heq => cases heq
    · trivial
    · next other _ heq =>
      cases heq
      rw [if_pos hoperator]
      trivial

theorem holds_periodicResync (space name : Value) :
    (periodicResync space name).Holds Regime.declared.logic (fun _ _ => True)
      (fun _ _ => False) () :=
  holds_contained (PolicyPass.holds_run_declared space name)

theorem holds_namespaceChanged (fields : List (String × Value)) {name : Value}
    (hname : name.IsText) :
    (namespaceChanged (.object fields) name).Holds Regime.declared.logic (fun _ _ => True)
      (fun _ _ => False) () := by
  unfold namespaceChanged
  change Holds _ _ _ _ (if _ then _ else _)
  split
  · trivial
  · exact holds_contained ((NamespacePass.holds_run_declared hname).mono (fun _ _ h => h)
      fun _ _ => .inl)

end Handlers

/-! ### Runs over a store -/

/-- A store and a clock, which may answer in whatever way, depending on what happened before. -/
structure Repository where
  moment : List Event → Int
  answer : List Event → (request : StoreCall) → Except Failure request.Answer

namespace Repository

variable {α : Type} {repository : Repository}

/-- How a program ends that goes on after some events, and all events at its end. -/
def run (repository : Repository) (past : List Event) : Program α → Except Failure α × List Event
  | .done result => (result, past)
  | .judge verdict next =>
    let moment := repository.moment past
    repository.run (past ++ [.judged verdict moment]) (next moment)
  | .report item next => repository.run (past ++ [.reported item item.result]) (next item.result)
  | .call request next =>
    let answer := repository.answer past request
    repository.run (past ++ [.called request answer]) (next answer)

/-- Whether each moment has a timestamp, and each call fails only for reasons of the store and else
is answered as declared. -/
structure IsDeclared (repository : Repository) : Prop where
  dated : ∀ past, ∃ text, Timestamp.ofMoment (repository.moment past) = .ok text
  answers : ∀ past (request : StoreCall), request.IsContained (repository.answer past request)

open Program

theorem holds_run {good : Unit → α → Prop} {bad : Unit → Failure → Prop} {program : Program α}
    (h : repository.IsDeclared) (hprogram : program.Holds Regime.declared.logic good bad ())
    (past : List Event) :
    (Program.done (repository.run past program).1).Holds Regime.declared.logic good bad () := by
  induction program generalizing past with
  | done result => exact hprogram
  | judge verdict next ih => exact ih _ (hprogram _ (h.dated past)) _
  | report item next ih => exact ih _ hprogram _
  | call request next ih => exact ih _ (hprogram _ () (h.answers past request)) _

theorem failsOnly_run {kind : Failure → Prop} {program : Program α} (h : repository.IsDeclared)
    (hprogram : program.Holds Regime.declared.logic (fun _ _ => True) (fun _ => kind) ())
    (past : List Event) : FailsOnly kind (repository.run past program).1 := by
  intro failure hresult
  have hended := holds_run h hprogram past
  rwa [hresult] at hended

/-- A program that never fails has a result. -/
theorem run_ok {program : Program α} (h : repository.IsDeclared)
    (hprogram : program.Holds Regime.declared.logic (fun _ _ => True) (fun _ _ => False) ())
    (past : List Event) : ∃ value, (repository.run past program).1 = .ok value := by
  cases hresult : (repository.run past program).1 with
  | ok value => exact ⟨value, rfl⟩
  | error failure => exact (failsOnly_run h hprogram past failure hresult).elim

theorem typed_answer (h : repository.IsDeclared) (past : List Event) (request : StoreCall) :
    request.IsTyped (repository.answer past request) := by
  have hanswer := h.answers past request
  -- The type of an answer depends on its call, which is known only after the answer is general.
  generalize repository.answer past request = answer at hanswer
  cases answer with
  | error failure => exact request.isTyped_failed failure
  | ok value =>
    cases request with
    | getPolicy space name =>
      rintro _ ⟨⟩
      exact (Policy.IsRead.isSound hanswer).toIsTextual
    | listPolicies =>
      rintro _ ⟨⟩ policy hmem
      exact (hanswer policy hmem).isSound.toIsTextual
    | getNamespace name =>
      rintro _ ⟨⟩
      exact hanswer
    | _ => trivial

theorem meets_run {contract : Contract} {good : List Event → α → Prop} {program : Program α}
    (h : repository.IsDeclared) {past : List Event} (hprogram : program.Meets contract good past) :
    (Program.done (repository.run past program).1).Meets contract good
      (repository.run past program).2 := by
  induction program generalizing past with
  | done result => exact hprogram
  | judge verdict next ih => exact ih _ (hprogram.2 _)
  | report item next ih => exact ih _ (hprogram _)
  | call request next ih => exact ih _ (hprogram.2 _ (typed_answer h past request))

/-- The events that a repository gives to a program. -/
inductive Gives (repository : Repository) : Event → Prop
  | judged {verdict : Verdict} {past : List Event} :
      Gives repository (.judged verdict (repository.moment past))
  | reported {item : Report} : Gives repository (.reported item item.result)
  | called {request : StoreCall} {past : List Event} :
      Gives repository (.called request (repository.answer past request))

theorem gives_of_mem_run {program : Program α} {past : List Event} {event : Event}
    (h : event ∈ (repository.run past program).2) : event ∈ past ∨ repository.Gives event := by
  have hlast : ∀ {past : List Event} {last : Event}, repository.Gives last →
      event ∈ past ++ [last] ∨ repository.Gives event → event ∈ past ∨ repository.Gives event := by
    rintro past last hgives (hmem | hevent)
    · rcases List.mem_append.mp hmem with hmem | hmem
      · exact .inl hmem
      · exact .inr (List.mem_singleton.mp hmem ▸ hgives)
    · exact .inr hevent
  induction program generalizing past with
  | done result => exact .inl h
  | judge verdict next ih => exact hlast .judged (ih _ h)
  | report item next ih => exact hlast .reported (ih _ h)
  | call request next ih => exact hlast .called (ih _ h)

/-- Only a call that fails is not to be expected of a repository that answers as declared. -/
theorem Gives.failed {event : Event} (hgives : repository.Gives event) (h : repository.IsDeclared)
    (hirregular : ¬ event.IsRegular) : ∃ (request : StoreCall) (failure : Failure),
      event = .called request (.error failure) ∧ failure.isStore = true := by
  cases hgives with
  | @judged verdict past => exact absurd (h.dated past) hirregular
  | @reported item => exact absurd Report.result_of_isKeyed hirregular
  | @called request past =>
    have hanswer := h.answers past request
    generalize repository.answer past request = answer at hanswer hirregular ⊢
    cases answer with
    | error failure => exact ⟨request, failure, rfl, hanswer⟩
    | ok value => exact absurd hanswer.isSound hirregular

/-- A pass over a namespace ends as a pass does that does not fail, with every policy served, or a
call to the store has failed. -/
theorem served_or_failed (h : repository.IsDeclared) (name : String) :
    (∃ result, (repository.run [] (NamespacePass.run (.text name))).1 = .ok result ∧
      NamespacePass.Ended (repository.run [] (NamespacePass.run (.text name))).2 name) ∨
    ∃ fault message,
      (repository.run [] (NamespacePass.run (.text name))).1 = .error (.store fault message) ∧
      ∃ (request : StoreCall) (failure : Failure), failure.isStore = true ∧
        .called request (.error failure) ∈
          (repository.run [] (NamespacePass.run (.text name))).2 := by
  have hended := meets_run h (NamespacePass.meets_run name)
  have hfails := failsOnly_run h (NamespacePass.holds_run_declared ⟨name, rfl⟩) []
  have hgiven : ∀ event ∈ (repository.run [] (NamespacePass.run (.text name))).2,
      repository.Gives event := fun event hmem =>
    (gives_of_mem_run hmem).resolve_left List.not_mem_nil
  generalize repository.run [] (NamespacePass.run (.text name)) = ended at hended hfails hgiven
  obtain ⟨result, past⟩ := ended
  cases result with
  | ok result => exact .inl ⟨result, rfl, hended⟩
  | error failure =>
    obtain ⟨event, hmem, hirregular⟩ : Troubled past := hended.resolve_right id
    obtain ⟨request, cause, rfl, hstore⟩ := (hgiven event hmem).failed h hirregular
    have hfailure : failure.isStore = true := hfails failure rfl
    cases failure with
    | store fault message => exact .inr ⟨fault, message, rfl, request, cause, hstore, hmem⟩
    | _ => cases hfailure

/-- Over a repository that answers as declared, passes fail only as they may, no policy keeps a
namespace from the others, and no handler fails. -/
theorem contains_failures (h : repository.IsDeclared) :
    (∀ body : Value, body.IsPolicyBody → ∃ policy, Policy.ofValue body = .ok policy) ∧
    (∀ space name, FailsOnly (fun failure => failure.isStore = true ∨ failure.IsBreach)
      (repository.run [] (PolicyPass.run space name)).1) ∧
    (∀ name : String,
      let ended := repository.run [] (NamespacePass.run (.text name))
      (∃ result, ended.1 = .ok result ∧ NamespacePass.Ended ended.2 name) ∨
      ∃ fault message, ended.1 = .error (.store fault message) ∧
        ∃ (request : StoreCall) (failure : Failure), failure.isStore = true ∧
          .called request (.error failure) ∈ ended.2) ∧
    (∀ settings space name,
      ∃ directive, (repository.run [] (Handlers.policyChanged settings space name)).1 =
        .ok directive) ∧
    (∀ space name, (repository.run [] (Handlers.periodicResync space name)).1 = .ok ()) ∧
    ∀ event (name : String),
      (repository.run [] (Handlers.namespaceChanged (.object event) (.text name))).1 = .ok () := by
  refine ⟨fun body hbody => ?_, fun space name => ?_, served_or_failed h, fun settings space name =>
    ?_, fun space name => ?_, fun event name => ?_⟩
  · obtain ⟨policy, hread, -⟩ := Policy.ofValue_isSound hbody
    exact ⟨policy, hread⟩
  · exact failsOnly_run h (PolicyPass.holds_run_declared space name) []
  · exact run_ok h (Handlers.holds_policyChanged settings space name) []
  · obtain ⟨_, hresult⟩ := run_ok h (Handlers.holds_periodicResync space name) []
    exact hresult
  · obtain ⟨_, hresult⟩ := run_ok h (Handlers.holds_namespaceChanged event ⟨name, rfl⟩) []
    exact hresult

/-- A store that holds policies with some bodies, one namespace and one role, and whose statuses
cannot be written. -/
def holding (bodies : List Value) : Repository where
  moment _ := 0
  answer _
    | .getPolicy _ name => do
      match (← bodies.mapM Policy.ofValue).find? fun policy => policy.name == name with
      | some policy => .ok policy
      | none => .error (.store .notFound "not found")
    | .listPolicies => bodies.mapM Policy.ofValue
    | .listClusterRoles => .ok ["edit"]
    | .listClusterRoleBindings => .ok []
    | .listRoleBindings _ => .ok []
    | .getNamespace name => .ok { name }
    | .listNamespaces => .ok [{ name := "web" }]
    | .createBinding binding => .ok binding
    | .updateStatus _ => .error (.store .general "down")

theorem holding_isDeclared {bodies : List Value} (h : ∀ body ∈ bodies, body.IsPolicyBody) :
    (holding bodies).IsDeclared where
  dated _ := ⟨_, rfl⟩
  answers _ request := by
    obtain ⟨policies, hread, hpolicies⟩ := mapM_ok fun body hmem => by
      obtain ⟨policy, hpolicy, -⟩ := Policy.ofValue_isSound (h body hmem)
      exact ⟨policy, hpolicy, (⟨body, h body hmem, hpolicy⟩ : policy.IsRead)⟩
    cases request with
    | getPolicy space name =>
      dsimp only [holding]
      rw [hread]
      change StoreCall.IsContained _ (match policies.find? _ with | some policy => _ | none => _)
      split
      · next policy hfound => exact hpolicies policy (List.mem_of_find?_eq_some hfound)
      · rfl
    | listPolicies =>
      dsimp only [holding]
      rw [hread]
      exact hpolicies
    | listClusterRoles => exact fun role hmem => ⟨"edit", List.mem_singleton.mp hmem⟩
    | listNamespaces => exact fun space hmem => ⟨"web", by cases List.mem_singleton.mp hmem; rfl⟩
    | getNamespace name => rfl
    | updateStatus policy => rfl
    | _ => trivial

/-- A policy whose pattern is malformed does not keep the namespace from the next policy. -/
theorem contains_failures_malformed :
    let repository := holding [.grantBody "broken" "bob" "(", .grantBody "editor" "ann" "web"]
    let ended := repository.run [] (Handlers.namespaceChanged (.object []) "web")
    ended.1 = .ok () ∧ (createdIn ended.2).length = 1 := by
  have hbroken : Safelist.IsPlain (.text "(") := by decide +kernel
  have hweb : Safelist.IsPlain (.text "web") := by decide +kernel
  have hdeclared : (holding
      [.grantBody "broken" "bob" "(", .grantBody "editor" "ann" "web"]).IsDeclared := by
    refine holding_isDeclared fun body hmem => ?_
    rcases List.mem_cons.mp hmem with rfl | hmem
    · exact Value.grantBody_isPolicyBody hbroken
    · cases List.mem_singleton.mp hmem
      exact Value.grantBody_isPolicyBody hweb
  obtain ⟨-, -, -, -, -, hchanged⟩ := contains_failures hdeclared
  exact ⟨hchanged [] "web", by decide +kernel⟩

theorem holding_failsOnly {bodies : List Value} {policies : List Policy}
    (h : bodies.mapM Policy.ofValue = .ok policies) (past : List Event) (request : StoreCall) :
    FailsOnly (fun failure => failure.isStore = true) ((holding bodies).answer past request) := by
  cases request with
  | getPolicy space name =>
    dsimp only [holding]
    rw [h]
    change FailsOnly _ (match policies.find? _ with | some policy => _ | none => _)
    split
    · exact .ok
    · exact .error rfl
  | listPolicies =>
    dsimp only [holding]
    rw [h]
    exact .ok
  | updateStatus policy => exact .error rfl
  | _ => exact .ok

theorem eq_countTooLarge {result : Except Failure Unit} (h : (match result with
    | .error (.badPattern _ .countTooLarge) => true
    | _ => false) = true) : ∃ source, result = .error (.badPattern source .countTooLarge) := by
  split at h
  · exact ⟨_, rfl⟩
  · cases h

/-- A policy whose pattern is refused for its size stops a pass over a namespace before the next
policy, and neither handler contains the failure. -/
theorem escapes_oversized :
    let bodies := [.grantBody "big" "bob" "a\x7b99999999999\x7d", .grantBody "editor" "ann" "web"]
    let repository := holding bodies
    let changed := repository.run [] (Handlers.namespaceChanged (.object []) "web")
    let resynced := repository.run [] (Handlers.periodicResync "team" "big")
    (∀ past request, FailsOnly (fun failure => failure.isStore = true)
      (repository.answer past request)) ∧
    (∃ source, changed.1 = .error (.badPattern source .countTooLarge)) ∧
    createdIn changed.2 = [] ∧
    ∃ source, resynced.1 = .error (.badPattern source .countTooLarge) := by
  intro bodies repository changed resynced
  have hread : (bodies.mapM Policy.ofValue).isOk = true := by decide +kernel
  obtain ⟨policies, hpolicies⟩ : ∃ policies, bodies.mapM Policy.ofValue = .ok policies := by
    cases hresult : bodies.mapM Policy.ofValue with
    | ok policies => exact ⟨policies, rfl⟩
    | error failure => rw [hresult] at hread; cases hread
  refine ⟨holding_failsOnly hpolicies, eq_countTooLarge (by decide +kernel), ?_,
    eq_countTooLarge (by decide +kernel)⟩
  exact List.eq_nil_of_length_eq_zero (by decide +kernel)

end Repository

end RoleGrants
