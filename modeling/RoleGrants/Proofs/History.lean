import RoleGrants.Proofs.Place
import RoleGrants.Proofs.Tracking

/-! What the events of a pass say: which of them are to be expected of a store over sound objects in
which nothing goes wrong, which verdicts were given in them, and which events tell nothing of the
policies and their conditions. -/

namespace RoleGrants

/-- Whether a report is of a series whose parts can be keys, or of no series. -/
def Report.IsKeyed : Report → Prop
  | .log _ _ => True
  | .count _ => True
  | .record series _ => ∀ part ∈ series.parts, part.isKey
  | .clear series => ∀ part ∈ series.parts, part.isKey

namespace StoreCall

/-- Whether a call, if it fails, fails because there is no such object. -/
def FailsAbsent {α : Type} (answer : Except Failure α) : Prop :=
  ∀ failure, answer = .error failure → ∃ message, failure = .store .notFound message

/-- Whether an answer is that of a store over sound objects in which nothing goes wrong. -/
def IsRegular : (request : StoreCall) → Except Failure request.Answer → Prop
  | .getPolicy _ _, answer => FailsAbsent answer ∧ ∀ policy, answer = .ok policy → policy.IsSound
  | .listPolicies, answer => ∃ policies, answer = .ok policies ∧ ∀ policy ∈ policies, policy.IsSound
  | .listClusterRoles, answer => ∃ roles, answer = .ok roles ∧ ∀ role ∈ roles, role.isKey
  | .listClusterRoleBindings, answer => ∃ bindings, answer = .ok bindings
  | .listRoleBindings _, answer => ∃ bindings, answer = .ok bindings
  | .getNamespace _, answer => FailsAbsent answer
  | .listNamespaces, answer => ∃ spaces, answer = .ok spaces ∧ ∀ space ∈ spaces, space.name.IsText
  | .createBinding _, answer => Settled answer
  | .updateStatus _, answer => answer = .ok ()

/-- Whether the policies in an answer are made of texts, and a namespace that was asked for has the
name that it was asked for under. -/
def IsTyped : (request : StoreCall) → Except Failure request.Answer → Prop
  | .getPolicy _ _, answer => ∀ policy, answer = .ok policy → policy.IsTextual
  | .listPolicies, answer =>
    ∀ policies, answer = .ok policies → ∀ policy ∈ policies, policy.IsTextual
  | .getNamespace name, answer => ∀ space, answer = .ok space → space.name = name
  | _, _ => True

theorem isTyped_failed (request : StoreCall) (failure : Failure) :
    request.IsTyped (.error failure) := by
  cases request with
  | getPolicy space name => exact nofun
  | listPolicies => exact nofun
  | getNamespace name => exact nofun
  | _ => trivial

/-- Whether a call neither reads nor writes a policy. -/
def IsQuiet : StoreCall → Prop
  | .getPolicy _ _ => False
  | .listPolicies => False
  | .updateStatus _ => False
  | _ => True

end StoreCall

namespace Event

/-- Whether an event is to be expected when nothing goes wrong. -/
def IsRegular : Event → Prop
  | .judged _ moment => ∃ text, Timestamp.ofMoment moment = .ok text
  | .reported item result => item.IsKeyed → result = .ok ()
  | .called request answer => request.IsRegular answer

def IsTyped : Event → Prop
  | .called request answer => request.IsTyped answer
  | _ => True

/-- Whether an event neither sets a condition nor reads or writes a policy. -/
def IsQuiet : Event → Prop
  | .judged _ _ => False
  | .reported _ _ => True
  | .called request _ => request.IsQuiet

/-- Whether an event does not read a policy. -/
def IsSteady : Event → Prop
  | .called (.getPolicy _ _) _ => False
  | .called .listPolicies _ => False
  | _ => True

theorem IsQuiet.isSteady {event : Event} (h : event.IsQuiet) : event.IsSteady := by
  cases event with
  | judged verdict moment => trivial
  | reported item result => trivial
  | called request answer => cases request <;> trivial

def verdict? : Event → Option (Verdict × Int)
  | .judged verdict moment => some (verdict, moment)
  | _ => none

end Event

theorem typed_concat {past : List Event} {event : Event} (h : ∀ event ∈ past, event.IsTyped)
    (hevent : event.IsTyped) : ∀ other ∈ past ++ [event], other.IsTyped := by
  intro other hmem
  rcases List.mem_append.mp hmem with hmem | hmem
  · exact h other hmem
  · exact List.mem_singleton.mp hmem ▸ hevent

/-- Whether something is among some events that is not to be expected. -/
def Troubled (past : List Event) : Prop :=
  ∃ event ∈ past, ¬ event.IsRegular

theorem Troubled.mono {past later : List Event} (h : Troubled past) (hsub : past ⊆ later) :
    Troubled later := by
  obtain ⟨event, hmem, hirregular⟩ := h
  exact ⟨event, hsub hmem, hirregular⟩

theorem Troubled.last {past : List Event} {event : Event} (h : ¬ event.IsRegular) :
    Troubled (past ++ [event]) :=
  ⟨event, List.mem_concat_self, h⟩

def verdicts (past : List Event) : List (Verdict × Int) := past.filterMap Event.verdict?

theorem mem_verdicts {past : List Event} {verdict : Verdict} {moment : Int}
    (h : (verdict, moment) ∈ verdicts past) : .judged verdict moment ∈ past := by
  obtain ⟨event, hmem, hevent⟩ := List.mem_filterMap.mp h
  cases event with
  | judged other time =>
    cases hevent
    exact hmem
  | _ => cases hevent

theorem verdicts_called (past : List Event) (request : StoreCall)
    (answer : Except Failure request.Answer) :
    verdicts (past ++ [.called request answer]) = verdicts past := by
  simp [verdicts, Event.verdict?]

/-- Whether only events of a kind follow on some events. -/
def Extends (kind : Event → Prop) (past later : List Event) : Prop :=
  ∃ more, later = past ++ more ∧ ∀ event ∈ more, kind event

namespace Extends

variable {kind : Event → Prop} {past middle later : List Event}

theorem refl (past : List Event) : Extends kind past past :=
  ⟨[], by simp, fun _ hmem => absurd hmem List.not_mem_nil⟩

theorem trans (h₁ : Extends kind past middle) (h₂ : Extends kind middle later) :
    Extends kind past later := by
  obtain ⟨first, rfl, hfirst⟩ := h₁
  obtain ⟨second, rfl, hsecond⟩ := h₂
  refine ⟨first ++ second, List.append_assoc .., fun event hmem => ?_⟩
  exact (List.mem_append.mp hmem).elim (hfirst event) (hsecond event)

theorem step (h : Extends kind past later) {event : Event} (hkind : kind event) :
    Extends kind past (later ++ [event]) :=
  h.trans ⟨[event], rfl, fun _ hmem => List.mem_singleton.mp hmem ▸ hkind⟩

theorem subset (h : Extends kind past later) : past ⊆ later := by
  obtain ⟨more, rfl, -⟩ := h
  exact List.subset_append_left ..

theorem mem_of_not (h : Extends kind past later) {event : Event} (hmem : event ∈ later)
    (hnot : ¬ kind event) : event ∈ past := by
  obtain ⟨more, rfl, hkind⟩ := h
  exact (List.mem_append.mp hmem).resolve_right fun hmore => hnot (hkind event hmore)

/-- The only event of another kind is the one between the events that follow. -/
theorem eq_of_not {given event : Event} (hlater : Extends kind (past ++ [given]) later)
    (hpast : Extends kind [] past) (hmem : event ∈ later) (hnot : ¬ kind event) :
    event = given := by
  rcases List.mem_append.mp (hlater.mem_of_not hmem hnot) with hmem | hmem
  · exact absurd (hpast.mem_of_not hmem hnot) List.not_mem_nil
  · exact List.mem_singleton.mp hmem

theorem mono {other : Event → Prop} (h : Extends kind past later)
    (imp : ∀ event, kind event → other event) : Extends other past later := by
  obtain ⟨more, rfl, hkind⟩ := h
  exact ⟨more, rfl, fun event hmem => imp event (hkind event hmem)⟩

end Extends

abbrev Quietly : List Event → List Event → Prop := Extends Event.IsQuiet

namespace Quietly

variable {past later : List Event}

theorem refl (past : List Event) : Quietly past past := Extends.refl past

theorem reported (h : Quietly past later) (item : Report) (result : Except Failure Unit) :
    Quietly past (later ++ [.reported item result]) := h.step trivial

theorem verdicts_eq (h : Quietly past later) : verdicts later = verdicts past := by
  obtain ⟨more, rfl, hquiet⟩ := h
  have hnone : more.filterMap Event.verdict? = [] := by
    refine List.filterMap_eq_nil_iff.mpr fun event hmem => ?_
    have hevent := hquiet event hmem
    cases event with
    | judged verdict moment => exact hevent.elim
    | reported item result => rfl
    | called request answer => rfl
  rw [verdicts, List.filterMap_append, hnone, List.append_nil]
  rfl

end Quietly

abbrev Steadily : List Event → List Event → Prop := Extends Event.IsSteady

theorem Quietly.steadily {past later : List Event} (h : Quietly past later) : Steadily past later :=
  h.mono fun _ => Event.IsQuiet.isSteady

/-- Whether only quiet events follow on some events, and one of them says that a binding stands at
the place of one that was to be created. -/
def Obtained (past later : List Event) (binding : Binding) : Prop :=
  Quietly past later ∧ ∃ answer, .called (.createBinding binding) answer ∈ later ∧ Settled answer

namespace Obtained

variable {past later : List Event} {binding : Binding}

theorem intro {answer : Except Failure Binding} (h : Settled answer) :
    Obtained past (past ++ [.called (.createBinding binding) answer]) binding :=
  ⟨(Extends.refl past).step trivial, answer,
    List.mem_concat_self, h⟩

theorem reported (h : Obtained past later binding) (item : Report) (result : Except Failure Unit) :
    Obtained past (later ++ [.reported item result]) binding := by
  obtain ⟨hquiet, answer, hmem, hsettled⟩ := h
  exact ⟨hquiet.reported item result, answer, List.mem_append_left _ hmem, hsettled⟩

theorem confirmed (h : Obtained past later binding) {place : Place} (hat : binding.IsAt place) :
    Confirmed later place := by
  obtain ⟨-, answer, hmem, hsettled⟩ := h
  exact .created hmem hsettled hat

end Obtained

@[simp] theorem verdicts_judged (past : List Event) (verdict : Verdict) (moment : Int) :
    verdicts (past ++ [.judged verdict moment]) = verdicts past ++ [(verdict, moment)] := by
  simp [verdicts, Event.verdict?]

/-- Whether the events confirm all bindings that a policy asks for in one scope, in the namespaces
that were listed in them. -/
def Policy.IsGranted (policy : Policy) (past : List Event) : ConditionType → Prop
  | .clusterRoleBindingCreated =>
    ∀ role ∈ policy.clusterPermissions, Confirmed past (policy.clusterPlace role)
  | .roleBindingCreated =>
    ∀ permission ∈ policy.permissions, ∃ spaces,
      .called .listNamespaces (.ok spaces) ∈ past ∧
      ∀ space ∈ spaces, space.isValid = true → ∀ name, space.name = .text name →
        permission.Selects name → Confirmed past (policy.namespacePlace permission.role name)

theorem Policy.IsGranted.mono {policy : Policy} {past later : List Event} {type : ConditionType}
    (h : policy.IsGranted past type) (hsub : past ⊆ later) : policy.IsGranted later type := by
  cases type with
  | clusterRoleBindingCreated => exact fun role hmem => (h role hmem).mono hsub
  | roleBindingCreated =>
    intro permission hmem
    obtain ⟨spaces, hlisted, hconfirmed⟩ := h permission hmem
    refine ⟨spaces, hsub hlisted, fun space hspace hvalid name hname hselects => ?_⟩
    exact (hconfirmed space hspace hvalid name hname hselects).mono hsub

theorem Policy.isGranted_of_clusterPermissions_nil {policy : Policy} {past : List Event}
    (h : policy.clusterPermissions = []) : policy.IsGranted past .clusterRoleBindingCreated := by
  intro role hmem
  rw [h] at hmem
  exact absurd hmem List.not_mem_nil

theorem Policy.isGranted_of_permissions_nil {policy : Policy} {past : List Event}
    (h : policy.permissions = []) : policy.IsGranted past .roleBindingCreated := by
  intro permission hmem
  rw [h] at hmem
  exact absurd hmem List.not_mem_nil

theorem Policy.isGranted_of_both {policy : Policy} {past : List Event}
    (hcluster : policy.IsGranted past .clusterRoleBindingCreated)
    (hnamespaces : policy.IsGranted past .roleBindingCreated) (type : ConditionType) :
    policy.IsGranted past type := by
  cases type with
  | clusterRoleBindingCreated => exact hcluster
  | roleBindingCreated => exact hnamespaces

theorem Policy.IsGranted.withConditions {policy : Policy} {past : List Event} {type : ConditionType}
    (h : policy.IsGranted past type) (conditions : List Condition) :
    { policy with conditions }.IsGranted past type := by
  cases type <;> exact h

end RoleGrants
