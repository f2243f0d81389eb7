import RoleGrants.Proofs.Contract

/-! What the edges of passes over policies and over namespaces do under a contract. They fail only
after an irregular event. -/

namespace RoleGrants

/-- Whether a call lists objects other than policies. -/
def StoreCall.Lists : StoreCall → Prop
  | .listClusterRoles | .listClusterRoleBindings | .listRoleBindings _ | .listNamespaces => True
  | _ => False

theorem StoreCall.Lists.isQuiet {request : StoreCall} (h : request.Lists) : request.IsQuiet := by
  cases request with
  | getPolicy | listPolicies | updateStatus => exact h
  | _ => trivial

theorem StoreCall.Lists.not_isRegular {request : StoreCall} (h : request.Lists)
    (failure : Failure) : ¬ request.IsRegular (.error failure) := by
  intro hregular
  cases request with
  | listClusterRoles | listNamespaces =>
    obtain ⟨_, heq, -⟩ := hregular
    cases heq
  | listClusterRoleBindings | listRoleBindings =>
    obtain ⟨_, heq⟩ := hregular
    cases heq
  | _ => exact h

namespace Pass

open Program

theorem requireKeys_texts {values : List Value} (h : ∀ value ∈ values, value.IsText) :
    Value.requireKeys values = .ok () := by
  have hall : values.all Value.isKey = true := by
    refine List.all_eq_true.mpr fun value hmem => ?_
    obtain ⟨text, rfl⟩ := h value hmem
    rfl
  rw [Value.requireKeys, hall]
  rfl

theorem distinct_isEmpty {values : List Value} :
    (Value.distinct values).isEmpty = values.isEmpty := by
  unfold Value.distinct
  cases values with
  | nil => rfl
  | cons first rest => rw [List.eraseDups_cons]; rfl

/-- The series of roles that are texts can be recorded and cleared. -/
theorem isKeyed_series {policy : Policy} (hpolicy : policy.IsTextual) {role : Value}
    {roles done : List Value} {scope : String} (hroles : ∀ role ∈ roles, role.IsText)
    (hpart : done ++ [role] <+: Value.distinct roles) :
    ∀ part ∈ (series policy scope role).parts, part.isKey := by
  obtain ⟨subject, hsubject⟩ := hpolicy.subjectName
  obtain ⟨text, rfl⟩ := hroles role (mem_of_mem_distinct (hpart.subset List.mem_concat_self))
  simp [series, Series.parts, hsubject, Value.isKey]

theorem not_requireKeys {values : List Value} {failure : Failure}
    (h : Value.requireKeys values = .error failure) : ¬ ∀ value ∈ values, value.isKey := by
  intro hkeys
  rw [Value.requireKeys, List.all_eq_true.mpr hkeys] at h
  cases h

/-- Asking for missing roles fails only if some role that exists is no key. -/
theorem not_missingRoles {requested existing : List Value} {failure : Failure}
    (hrequested : ∀ role ∈ requested, role.IsText)
    (h : missingRoles requested existing = .error failure) : ¬ ∀ role ∈ existing, role.isKey := by
  unfold missingRoles at h
  cases hkeys : Value.requireKeys existing with
  | error other => exact not_requireKeys hkeys
  | ok _ =>
    rw [hkeys, requireKeys_texts hrequested] at h
    cases h

theorem mem_missingRoles {requested existing missing : List Value}
    (hrequested : ∀ role ∈ requested, role.IsText)
    (h : missingRoles requested existing = .ok missing) :
    (∀ role ∈ missing, role ∈ requested ∧ role ∉ existing) ∧
      (missing.isEmpty = true → ∀ role ∈ requested, role ∈ existing) := by
  obtain ⟨_, _, h⟩ := exists_of_bind_ok h
  obtain ⟨_, _, h⟩ := exists_of_bind_ok h
  cases h
  have hcontains : ∀ role ∈ requested, (existing.contains role = true ↔ role ∈ existing) := by
    intro role hmem
    obtain ⟨text, rfl⟩ := hrequested role hmem
    exact Value.contains_text
  constructor
  · intro role hmem
    obtain ⟨hmem, hmissing⟩ := List.mem_filter.mp (mem_of_mem_distinct hmem)
    refine ⟨hmem, fun hexists => ?_⟩
    rw [(hcontains role hmem).mpr hexists] at hmissing
    cases hmissing
  · intro hempty role hmem
    rw [distinct_isEmpty, List.isEmpty_iff, List.filter_eq_nil_iff] at hempty
    exact (hcontains role hmem).mp (by simpa using hempty role hmem)

/-- Roles that are texts can be set in a condition at any moment that has a timestamp. -/
theorem not_upsert {tracker : Tracker} {verdict : Verdict} {moment : Int} {failure : Failure}
    (hroles : ∀ role ∈ verdict.roles, role.IsText)
    (h : tracker.upsert moment verdict = .error failure) :
    ¬ Event.IsRegular (.judged verdict moment) := by
  rintro ⟨text, htext⟩
  obtain ⟨condition, hcondition⟩ :=
    Tracker.next_ok (requireKeys_texts hroles) htext (tracker.get? verdict.type)
  rw [Tracker.upsert, hcondition] at h
  cases h

theorem mem_validNames {spaces : List Namespace} {name : Value} :
    name ∈ validNames spaces ↔ ∃ space ∈ spaces, space.isValid = true ∧ space.name = name := by
  simp [validNames, and_assoc]

theorem validNames_texts {spaces : List Namespace} (h : ∀ space ∈ spaces, space.name.IsText) :
    ∀ name ∈ validNames spaces, name.IsText := by
  intro name hmem
  obtain ⟨space, hspace, -, rfl⟩ := mem_validNames.mp hmem
  exact h space hspace

/-! ### The edges of a pass -/

section

variable {contract : Contract} {past : List Event} {purpose : String}

theorem meets_asks (request : StoreCall) {next : request.Answer → List Event → Prop}
    (hdemand : contract.demands past request)
    (hnext : ∀ value, request.IsTyped (.ok value) →
      next value (past ++ [.called request (.ok value)]))
    (hfail : ∀ failure, ¬ request.IsRegular (.error failure)) :
    (ask request).Holds contract.logic (fun later value => next value later)
      (fun later failure => contract.Forgives later (failure.within purpose)) past := by
  refine ⟨hdemand, ?_⟩
  rintro (failure | value) htyped
  · have hirregular : ¬ Event.IsRegular (.called request (.error failure)) := hfail failure
    exact Contract.forgives_last hirregular _
  · exact hnext value htyped

/-- A call that lists objects changes nothing of what was learned before. -/
theorem meets_lists (request : StoreCall) {next : request.Answer → List Event → Prop}
    (hdemand : contract.demands past request) (hlists : request.Lists)
    (hnext : ∀ value later, Quietly past later → .called request (.ok value) ∈ later →
      next value later) :
    (ask request).Holds contract.logic (fun later value => next value later)
      (fun later failure => contract.Forgives later (failure.within purpose)) past :=
  meets_asks request hdemand (fun value _ => hnext value _
    ((Quietly.refl past).step hlists.isQuiet) List.mem_concat_self) hlists.not_isRegular

theorem meets_reports {item : Report} {point : List Event → Prop} (hkeyed : item.IsKeyed)
    (h : ∀ later, Quietly past later → point later) :
    (Program.report item .done).Holds contract.logic (fun later _ => point later) contract.Forgives
      past :=
  (Contract.takes hkeyed fun result => h _ ((Quietly.refl past).reported item result)).report

/-- That its end is counted does not change how a pass has ended. -/
theorem meets_counts {α : Type} {good : List Event → α → Prop} {ended : Except Failure α}
    {counter : Counter}
    (hgood : ∀ {last value}, Quietly past last → good past value → good last value)
    (h : (done ended).Meets contract good past) :
    (count counter).Meets contract (fun last _ => (done ended).Meets contract good last) past := by
  have hkeyed : Report.IsKeyed (.count counter) := trivial
  refine meets_reports hkeyed fun last hquiet => ?_
  cases ended with
  | ok value => exact hgood hquiet h
  | error failure =>
    obtain ⟨more, rfl, -⟩ := hquiet
    exact Contract.Forgives.append h more

/-- An object is found, or the store says that it is not there. -/
theorem meets_finds (request : StoreCall) {found : request.Answer → List Event → Prop}
    {absent : List Event → Prop} (hdemand : contract.demands past request)
    (hfound : ∀ value, request.IsTyped (.ok value) →
      found value (past ++ [.called request (.ok value)]))
    (habsent : ∀ message, absent (past ++ [.called request (.error (.store .notFound message))]))
    (hregular : ∀ failure, request.IsRegular (.error failure) →
      ∃ message, failure = .store .notFound message) :
    (ask request).Holds contract.logic (fun later value => found value later)
      (fun later failure => (∀ message, failure = .store .notFound message → absent later) ∧
        ((∀ message, failure ≠ .store .notFound message) →
          contract.Forgives later (failure.within purpose))) past := by
  refine ⟨hdemand, ?_⟩
  rintro (failure | value) htyped
  · refine ⟨?_, fun hother => Contract.forgives_last (fun hyes => ?_) _⟩
    · rintro message rfl
      exact habsent message
    · obtain ⟨message, heq⟩ := hregular failure hyes
      exact hother message heq
  · exact hfound value htyped

/-- A look at values fails only if one that was answered is not to be expected. -/
theorem meets_tries {α : Type} {result : Except Failure α} {next : α → Prop} {event : Event}
    (hmem : event ∈ past) (hnext : ∀ value, result = .ok value → next value)
    (hfail : ∀ failure, result = .error failure → ¬ event.IsRegular) :
    (∀ value, result = .ok value → next value) ∧
      ∀ failure, result = .error failure → contract.Forgives past failure :=
  ⟨hnext, fun failure hfailure => .inl ⟨event, hmem, hfail failure hfailure⟩⟩

theorem meets_keys {roles : List Value} {next : Prop} (hroles : ∀ role ∈ roles, role.IsText)
    (hnext : next) : (∀ value, Value.requireKeys roles = .ok value → next) ∧
      ∀ failure, Value.requireKeys roles = .error failure → contract.Forgives past failure := by
  rw [requireKeys_texts hroles]
  exact ⟨fun _ _ => hnext, nofun⟩

theorem meets_judges {tracker : Tracker} {verdict : Verdict} {next : Tracker → List Event → Prop}
    (hjudges : contract.judges verdict) (hroles : ∀ role ∈ verdict.roles, role.IsText)
    (hnext : ∀ moment after, tracker.upsert moment verdict = .ok after →
      next after (past ++ [.judged verdict moment])) :
    (upsert tracker verdict).Holds contract.logic (fun later after => next after later)
      contract.Forgives past :=
  ⟨hjudges, fun moment => holds_ofExcept.mpr ⟨hnext moment, fun failure hfailure =>
    Contract.forgives_last (not_upsert hroles hfailure) failure⟩⟩

/-- A binding that was asked for stands, or something irregular happened. -/
theorem meets_creates {binding : Binding} {isCounted : Bool} {next : Bool → List Event → Prop}
    (hdemand : contract.demands past (.createBinding binding))
    (hnext : ∀ isNew later, Obtained past later binding → next isNew later) :
    contract.logic.call past (.createBinding binding) fun answer later =>
      Attempted contract.logic contract.Forgives purpose binding isCounted next answer later := by
  refine ⟨hdemand, fun answer _ => ?_⟩
  have hobtained : Settled answer → ∀ isNew item result, next isNew
      (past ++ [.called (.createBinding binding) answer] ++ [.reported item result]) :=
    fun hsettled isNew item result =>
      hnext isNew _ ((Obtained.intro hsettled).reported item result)
  have hforgiven : ¬ Settled answer → ∀ failure,
      contract.Forgives (past ++ [.called (.createBinding binding) answer]) failure :=
    fun hunsettled => Contract.forgives_last hunsettled
  constructor
  · rintro value rfl
    exact Contract.takes_count fun result => hobtained trivial true _ result
  · rintro message rfl
    exact Contract.takes_count fun result => hobtained trivial false _ result
  · rintro _ failure rfl _ hother
    exact Contract.takes_count fun _ => (hforgiven (not_settled hother) _).append _
  · rintro failure rfl _ hother
    exact hforgiven (not_settled hother) _

end

/-- What comes of asking for a binding that may be known: it is, or it is obtained and added. -/
inductive Ensured (past : List Event) (space : Option Value) (binding : Binding) (grants : Grants) :
    List Event → Grants → Prop
  | known : grants.index.exists? binding.name space = true →
      Ensured past space binding grants past grants
  | obtained {later : List Event} (isNew : Bool) :
      grants.index.exists? binding.name space = false → Obtained past later binding →
      Ensured past space binding grants later (grants.add binding isNew)

namespace Ensured

variable {past later : List Event} {binding : Binding} {grants after : Grants}

theorem quietly {space : Option Value} (h : Ensured past space binding grants later after) :
    Quietly past later := by
  cases h with
  | known hknown => exact Quietly.refl past
  | obtained isNew hunknown hobtained => exact hobtained.1

theorem confirmedCluster {name : String} (h : Ensured past none binding grants later after)
    (hknown : grants.index.KnowsCluster past) (hat : binding.IsAt ⟨none, name⟩) :
    Confirmed later ⟨none, name⟩ := by
  cases h with
  | known hexists => exact hknown name (hat.1 ▸ hexists)
  | obtained isNew hunknown hobtained => exact hobtained.confirmed hat

theorem knowsCluster {name : String} (h : Ensured past none binding grants later after)
    (hknown : grants.index.KnowsCluster past) (hat : binding.IsAt ⟨none, name⟩) :
    after.index.KnowsCluster later := by
  have hconfirmed := h.confirmedCluster hknown hat
  have hquiet := h.quietly
  cases h with
  | known hexists => exact hknown
  | obtained isNew hunknown hobtained =>
    exact (hknown.mono hquiet.subset).add hat.1 hconfirmed

theorem confirmedNamespace {space name : String}
    (h : Ensured past (some (.text space)) binding grants later after)
    (hknown : grants.index.KnowsNamespaces past) (hat : binding.IsAt ⟨some space, name⟩) :
    Confirmed later ⟨some space, name⟩ := by
  cases h with
  | known hexists => exact hknown space name (hat.1 ▸ hexists)
  | obtained isNew hunknown hobtained => exact hobtained.confirmed hat

theorem knowsNamespaces {space name : String}
    (h : Ensured past (some (.text space)) binding grants later after)
    (hknown : grants.index.KnowsNamespaces past) (hat : binding.IsAt ⟨some space, name⟩) :
    after.index.KnowsNamespaces later := by
  have hconfirmed := h.confirmedNamespace hknown hat
  have hquiet := h.quietly
  cases h with
  | known hexists => exact hknown
  | obtained isNew hunknown hobtained => exact (hknown.mono hquiet.subset).add hat hconfirmed

end Ensured

end Pass

end RoleGrants
