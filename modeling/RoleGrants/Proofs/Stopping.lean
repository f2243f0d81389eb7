import RoleGrants.Proofs.Course
import RoleGrants.Proofs.PolicyChart
import RoleGrants.Proofs.Pool

/-! Where a pass over a policy stops. Whatever its calls are answered, the first that fails is its
last, unless the store only says that a binding exists; a status is written last and at most once,
and a failure of the store is told with what the step was to do. So a pass on which calls fail has
written no status when it ends with a failure of the store, and the bindings that it created are the
first of those that it creates when no call fails. -/

namespace RoleGrants

/-- Whether a failure says that a policy breaks a rule. -/
def Failure.IsBreach : Failure → Prop
  | .invalidPolicy _ _ => True
  | _ => False

/-- Whether a failure is neither the store's nor a breach of the rules for policies. -/
def Failure.IsInternal (failure : Failure) : Prop :=
  failure.isStore = false ∧ ¬ failure.IsBreach

/-- Whether a result, if it is a failure, is one of a kind. -/
def FailsOnly {α : Type} (kind : Failure → Prop) (result : Except Failure α) : Prop :=
  ∀ failure, result = .error failure → kind failure

namespace FailsOnly

variable {α β : Type} {kind : Failure → Prop}

theorem ok {value : α} : FailsOnly kind (.ok value) := nofun

theorem error {failure : Failure} (h : kind failure) :
    FailsOnly kind (.error failure : Except Failure α) := by
  rintro _ ⟨⟩
  exact h

theorem bind {first : Except Failure α} {next : α → Except Failure β} (h : FailsOnly kind first)
    (hnext : ∀ value, FailsOnly kind (next value)) : FailsOnly kind (first >>= next) := by
  cases first with
  | ok value => exact hnext value
  | error failure => exact error (h failure rfl)

theorem mono {other : Failure → Prop} {result : Except Failure α} (h : FailsOnly kind result)
    (imp : ∀ failure, kind failure → other failure) : FailsOnly other result :=
  fun failure heq => imp failure (h failure heq)

end FailsOnly

/-! ### Failures that are not the store's -/

theorem Failure.isInternal_wrongType : wrongType.IsInternal := ⟨rfl, id⟩

theorem Value.requireKeys_failsOnly (values : List Value) :
    FailsOnly Failure.IsInternal (requireKeys values) := by
  intro failure h
  cases Pass.requireKeys_failed h
  exact Failure.isInternal_wrongType

theorem missingRoles_failsOnly (requested existing : List Value) :
    FailsOnly Failure.IsInternal (missingRoles requested existing) :=
  (Value.requireKeys_failsOnly _).bind fun _ =>
    (Value.requireKeys_failsOnly _).bind fun _ => .ok

theorem Safelist.compile_failsOnly (pattern : Value) :
    FailsOnly Failure.IsInternal (compile pattern) := by
  unfold compile
  split
  · split
    · exact .ok
    · exact .error ⟨rfl, id⟩
  · exact .error ⟨rfl, id⟩

theorem Safelist.matchesName_failsOnly (pattern : Pattern) (name : Value) :
    FailsOnly Failure.IsInternal (matchesName pattern name) := by
  cases name with
  | text name => exact .ok
  | _ => exact .error ⟨rfl, id⟩

theorem Safelist.keep_failsOnly {test : Value → Except Failure Bool} {names : List Value}
    (h : ∀ name, FailsOnly Failure.IsInternal (test name)) :
    FailsOnly Failure.IsInternal (keep test names) := by
  induction names with
  | nil => exact .ok
  | cons name rest ih =>
    refine (h name).bind fun found => ?_
    cases found with
    | true => exact ih.bind fun _ => .ok
    | false => exact ih

theorem Safelist.resolve_failsOnly (allowed denied : Value) (names : List Value) :
    FailsOnly Failure.IsInternal (resolve allowed denied names) := by
  unfold resolve
  split
  · exact .ok
  refine (compile_failsOnly _).bind fun allow => ?_
  refine (keep_failsOnly (matchesName_failsOnly allow)).bind fun chosen => ?_
  split
  · exact .ok
  refine (compile_failsOnly _).bind fun deny => ?_
  exact keep_failsOnly fun name => (matchesName_failsOnly deny name).bind fun _ => .ok

theorem PolicyPass.forgetBreaches_failsOnly (types : List ConditionType) (tracker : Tracker) :
    FailsOnly Failure.IsInternal (forgetBreaches tracker types) := by
  induction types generalizing tracker with
  | nil => exact .ok
  | cons type rest ih =>
    refine FailsOnly.bind ?_ fun mended => ih _
    unfold tellsOfBreach
    split
    · exact .ok
    · split
      · exact .ok
      · exact .error ⟨rfl, id⟩

theorem Timestamp.ofMoment_failsOnly (moment : Int) :
    FailsOnly Failure.IsInternal ((ofMoment moment).map Value.text) := by
  intro failure h
  unfold ofMoment at h
  dsimp only at h
  split at h
  · cases h
  · cases h
    exact ⟨rfl, id⟩

theorem Tracker.next_failsOnly (moment : Int) (verdict : Verdict) (earlier : Option Condition) :
    FailsOnly Failure.IsInternal (next moment verdict earlier) := by
  refine (Value.requireKeys_failsOnly _).bind fun _ => ?_
  dsimp only
  split
  · split
    · exact .ok
    · exact (Timestamp.ofMoment_failsOnly moment).bind fun _ => .ok
  · exact (Timestamp.ofMoment_failsOnly moment).bind fun _ => .ok

theorem Tracker.upsert_failsOnly (tracker : Tracker) (moment : Int) (verdict : Verdict) :
    FailsOnly Failure.IsInternal (tracker.upsert moment verdict) :=
  (next_failsOnly _ _ _).bind fun _ => .ok

/-- A check of a policy never fails for the store. -/
theorem Policy.validate_failsOnly (policy : Policy) :
    FailsOnly (fun failure => failure.isStore = false) policy.validate := by
  have hrequire : ∀ (condition : Bool) (message : String) (types : List ConditionType),
      FailsOnly (fun failure => failure.isStore = false)
        (require condition (.invalidPolicy message types)) := by
    intro condition message types
    cases condition with
    | true => exact .ok
    | false => exact .error rfl
  have hroles : ∀ (roles : List Value) (index : Nat),
      FailsOnly (fun failure => failure.isStore = false) (checkClusterPermissions index roles) := by
    intro roles
    induction roles with
    | nil => exact fun _ => .ok
    | cons role rest ih => exact fun index => (hrequire _ _ _).bind fun _ => ih _
  have hpattern : ∀ place name pattern,
      FailsOnly (fun failure => failure.isStore = false) (checkPattern place name pattern) := by
    intro place name pattern
    unfold checkPattern
    split
    · exact .ok
    · split
      · exact .ok
      · next failure hfailure =>
        split
        · exact .error rfl
        · exact .error (Safelist.compile_failsOnly _ failure hfailure).1
  have hpermissions : ∀ (permissions : List Permission) (index : Nat),
      FailsOnly (fun failure => failure.isStore = false) (checkPermissions index permissions) := by
    intro permissions
    induction permissions with
    | nil => exact fun _ => .ok
    | cons permission rest ih =>
      refine fun index => FailsOnly.bind ?_ fun _ => ih _
      exact (hrequire _ _ _).bind fun _ => (hpattern _ _ _).bind fun _ => hpattern _ _ _
  exact (hrequire _ _ _).bind fun _ => (hrequire _ _ _).bind fun _ =>
    (hroles _ _).bind fun _ => hpermissions _ _

/-- A failure to check a policy that is no breach of a rule comes of a value of a wrong type. -/
theorem Policy.isInternal_of_validate {policy : Policy} {failure : Failure}
    (h : policy.validate = .error failure)
    (hother : ∀ message types, failure ≠ .invalidPolicy message types) : failure.IsInternal := by
  refine ⟨policy.validate_failsOnly _ h, fun hbreach => ?_⟩
  cases failure with
  | invalidPolicy message types => exact hother message types rfl
  | _ => exact hbreach

/-! ### Calls of any answers -/

/-- Whether more calls may follow a call: it did not fail, but for a binding that exists, and it
wrote no status. -/
def Event.GoesOn : Event → Prop
  | .called (.updateStatus _) _ => False
  | .called (.createBinding _) answer => Settled answer
  | .called _ answer => ∃ value, answer = .ok value
  | _ => True

/-- The regime of calls that are answered in any way. Its states are the calls made, and no answer
speaks of a breach, which is for the check of a policy to do. -/
def Regime.anyAnswers : Regime (List Event) where
  shows _ := True
  answers calls request answer later := later = calls ++ [.called request answer] ∧
    ∀ failure, answer = .error failure → ¬ failure.IsBreach

/-- Whether no call but the last failed or wrote a status. -/
def Halted (calls : List Event) : Prop := ∀ event ∈ calls.dropLast, event.GoesOn

theorem Halted.of_all {calls : List Event} (h : ∀ event ∈ calls, event.GoesOn) : Halted calls :=
  fun event hmem => h event (List.dropLast_subset calls hmem)

/-- After a call on which no more may follow there are none. -/
theorem Halted.eq_nil {calls rest : List Event} {event : Event}
    (h : Halted (calls ++ event :: rest)) (hlast : ¬ event.GoesOn) : rest = [] := by
  rcases List.eq_nil_or_concat rest with hnil | ⟨others, last, rfl⟩
  · exact hnil
  · refine absurd (h event ?_) hlast
    have hsplit : calls ++ event :: (others ++ [last]) = (calls ++ event :: others) ++ [last] := by
      simp
    rw [List.concat_eq_append, hsplit, List.dropLast_concat]
    exact List.mem_append_right _ List.mem_cons_self

theorem Halted.of_last {calls : List Event} {event : Event} (h : ∀ event ∈ calls, event.GoesOn) :
    Halted (calls ++ [event]) := by
  intro other hmem
  rw [List.dropLast_concat] at hmem
  exact h other hmem

namespace PolicyPass

open Program Pass

/-- The calls that a pass makes, each with what the step is to do in which it makes the call, as
the message of a failure says. -/
inductive Serves : String → StoreCall → Prop
  | fetch {space name : Value} : Serves "fetch PermissionPolicy" (.getPolicy space name)
  | roles : Serves "list ClusterRoles" .listClusterRoles
  | clusterBindings : Serves "list ClusterRoleBindings" .listClusterRoleBindings
  | namespaces : Serves "list Namespaces" .listNamespaces
  | bindings : Serves "list RoleBindings" (.listRoleBindings none)
  | creation {binding : Binding} : Serves s!"create {binding.kind}" (.createBinding binding)
  | missing {written : Policy} :
      Serves "update status for missing ClusterRoles" (.updateStatus written)
  | grantedOnCluster {written : Policy} :
      Serves "update status after creating ClusterRoleBindings" (.updateStatus written)
  | grantedInNamespaces {written : Policy} :
      Serves "update status after creating RoleBindings" (.updateStatus written)
  | changes {written : Policy} : Serves "update status" (.updateStatus written)

/-- Whether more calls may follow on some calls, in which no policy was fetched that breaks a rule.
-/
structure Clear (calls : List Event) : Prop where
  goesOn : ∀ event ∈ calls, event.GoesOn
  valid : ∀ space name policy, .called (.getPolicy space name) (.ok policy) ∈ calls →
    policy.validate = .ok ()

/-- How a failure of a pass comes of its calls: the last of them failed, or a policy was fetched
that breaks a rule and its status was to be written, or it is internal. -/
inductive Stopped (calls : List Event) : Failure → Prop
  | atCall {earlier : List Event} {request : StoreCall} {fault : StoreFault}
      {cause purpose : String} : Clear earlier →
      calls = earlier ++ [.called request (.error (.store fault cause))] →
      Serves purpose request →
      Stopped calls (.store .general s!"failed to {purpose}: {cause}")
  | refused {space name : Value} {policy written : Policy} {answer : Except Failure Unit}
      {message : String} {types : List ConditionType} :
      calls = [.called (.getPolicy space name) (.ok policy),
        .called (.updateStatus written) answer] →
      policy.validate = .error (.invalidPolicy message types) →
      Stopped calls
        (.invalidPolicy s!"PermissionPolicy validation failed: {message}" types)
  | internal {failure : Failure} : failure.IsInternal → Stopped calls failure

/-- What holds of the calls of a pass that ends with a failure. -/
structure Aborted (calls : List Event) (failure : Failure) : Prop where
  halted : Halted calls
  stopped : Stopped calls failure

theorem Clear.halted {calls : List Event} (h : Clear calls) : Halted calls := .of_all h.goesOn

theorem Clear.aborted {calls : List Event} {failure : Failure} (h : Clear calls)
    (hinternal : failure.IsInternal) : Aborted calls failure :=
  ⟨h.halted, .internal hinternal⟩

theorem Clear.step {calls : List Event} {request : StoreCall}
    {answer : Except Failure request.Answer} (h : Clear calls)
    (hgoesOn : (Event.called request answer).GoesOn)
    (hother : ∀ space name, request ≠ .getPolicy space name) :
    Clear (calls ++ [.called request answer]) where
  goesOn event hmem := by
    rcases List.mem_append.mp hmem with hmem | hmem
    · exact h.goesOn event hmem
    · cases List.mem_singleton.mp hmem
      exact hgoesOn
  valid space name policy hmem := by
    rcases List.mem_append.mp hmem with hmem | hmem
    · exact h.valid space name policy hmem
    · cases List.mem_singleton.mp hmem
      exact absurd rfl (hother space name)

/-- A call that fails in a step for a purpose ends the pass. -/
theorem Clear.failed {calls : List Event} {request : StoreCall} {failure : Failure}
    {purpose : String} (h : Clear calls) (hpurpose : Serves purpose request)
    (hbreach : ¬ failure.IsBreach) :
    Aborted (calls ++ [.called request (.error failure)]) (failure.within purpose) := by
  refine ⟨.of_last h.goesOn, ?_⟩
  cases failure with
  | store fault cause => exact .atCall h rfl hpurpose
  | invalidPolicy message types => exact absurd trivial hbreach
  | _ => exact .internal ⟨rfl, id⟩

/-! ### The outline of where a pass stops -/

variable {calls : List Event} {policy : Policy} {tracker : Tracker}

/-- What holds of the calls of a pass at each of its points. -/
def Stops (space name : Value) : Point → List Event → Prop
  | .opened, calls => calls = []
  | .fetched policy, calls => calls = [.called (.getPolicy space name) (.ok policy)]
  | .refusing policy _ message types _, calls =>
    calls = [.called (.getPolicy space name) (.ok policy)] ∧
      policy.validate = .error (.invalidPolicy message types)
  | .ended _, calls => Halted calls
  | _, calls => Clear calls

theorem Clear.start : Clear [] :=
  ⟨fun _ hmem => absurd hmem List.not_mem_nil, fun _ _ _ hmem => absurd hmem List.not_mem_nil⟩

/-- More calls may follow on one that is answered and writes no status. -/
theorem Clear.holds_ask (request : StoreCall) {purpose : String} (hclear : Clear calls)
    (hpurpose : Serves purpose request)
    (hgoesOn : ∀ value, (Event.called request (.ok value)).GoesOn)
    (hother : ∀ space name, request ≠ .getPolicy space name) :
    (ask request).Holds Regime.anyAnswers.logic (fun later _ => Clear later)
      (fun later failure => Aborted later (failure.within purpose)) calls := by
  rintro (failure | value) later ⟨rfl, hbreach⟩
  · exact hclear.failed hpurpose (hbreach failure rfl)
  · exact hclear.step (hgoesOn value) hother

theorem Clear.holds_write {purpose : String} (hclear : Clear calls)
    (hpurpose : Serves purpose (writing policy tracker)) :
    (ask (writing policy tracker)).Holds Regime.anyAnswers.logic (fun later _ => Halted later)
      (fun later failure => Aborted later (failure.within purpose)) calls := by
  rintro (failure | value) later ⟨rfl, hbreach⟩
  · exact hclear.failed hpurpose (hbreach failure rfl)
  · exact .of_last hclear.goesOn

theorem Clear.keeps_tries {α : Type} {result : Except Failure α} (hclear : Clear calls)
    (h : FailsOnly Failure.IsInternal result) :
    (∀ value, result = .ok value → Clear calls) ∧
      ∀ failure, result = .error failure → Aborted calls failure :=
  ⟨fun _ _ => hclear, fun failure hfailure => hclear.aborted (h failure hfailure)⟩

theorem Clear.holds_judge {verdict : Verdict} (hclear : Clear calls) :
    (upsert tracker verdict).Holds Regime.anyAnswers.logic (fun later _ => Clear later) Aborted
      calls :=
  fun _ _ => holds_ofExcept.mpr (hclear.keeps_tries (Tracker.upsert_failsOnly _ _ _))

theorem Clear.holds_report (item : Report) (hclear : Clear calls) :
    (Program.report item .done).Holds Regime.anyAnswers.logic (fun later _ => Clear later) Aborted
      calls := by
  refine holds_ofExcept.mpr (hclear.keeps_tries fun failure hfailure => ?_)
  cases Report.result_failed hfailure
  exact Failure.isInternal_wrongType

theorem Clear.keeps_creates {binding : Binding} {next : Bool → List Event → Prop}
    (hclear : Clear calls) (hnext : ∀ isNew later, Clear later → next isNew later) :
    Regime.anyAnswers.logic.call calls (.createBinding binding) fun answer later =>
      Attempted Regime.anyAnswers.logic Aborted s!"create {binding.kind}" binding true next answer
        later := by
  rintro answer later ⟨rfl, hbreach⟩
  refine .of_isCalm ?_ ?_ ?_
  · rintro value rfl
    exact hnext _ _ (hclear.step trivial nofun)
  · rintro message rfl
    exact hnext _ _ (hclear.step trivial nofun)
  · rintro failure rfl -
    exact hclear.failed .creation (hbreach failure rfl)

/-- A policy that is refused is told of its breach, whether or not its status can be written. -/
theorem holds_refusal {space name : Value} {message : String} {types : List ConditionType}
    (hcalls : calls = [.called (.getPolicy space name) (.ok policy)])
    (hinvalid : policy.validate = .error (.invalidPolicy message types)) :
    (Edge.refuses (writing policy tracker)
      (.invalidPolicy s!"PermissionPolicy validation failed: {message}" types)).Keeps
      Regime.anyAnswers.logic (Stops space name) Aborted calls := by
  subst hcalls
  have hgoesOn : ∀ event ∈ [Event.called (.getPolicy space name) (.ok policy)], event.GoesOn := by
    intro event hmem
    cases List.mem_singleton.mp hmem
    exact ⟨policy, rfl⟩
  rintro (failure | value) later ⟨rfl, hbreach⟩
  · exact ⟨fun _ => ⟨.of_last hgoesOn, .refused rfl hinvalid⟩, fun hinternal =>
      ⟨.of_last hgoesOn, .internal ⟨hinternal, hbreach failure rfl⟩⟩⟩
  · exact ⟨.of_last hgoesOn, .refused rfl hinvalid⟩

theorem stops_outline (space name : Value) :
    Outline Regime.anyAnswers.logic (Flows space name) (Stops space name) Aborted := by
  refine .of_isCalm fun hedge calls h => ?_
  cases hedge with
  | fetch =>
    cases h
    rintro (failure | policy) later ⟨rfl, hbreach⟩
    · have hfailed := Clear.start.failed (@Serves.fetch space name) (hbreach failure rfl)
      exact ⟨fun _ _ => hfailed.halted, fun _ => hfailed⟩
    · rfl
  | forget hvalid =>
    have hclear : Clear calls := by
      cases h
      refine ⟨fun event hmem => ?_, fun otherSpace otherName other hmem => ?_⟩
      · cases List.mem_singleton.mp hmem
        exact ⟨_, rfl⟩
      · cases List.mem_singleton.mp hmem
        exact hvalid
    exact hclear.keeps_tries (forgetBreaches_failsOnly _ _)
  | @«break» _ failure hfailure hother =>
    cases h
    refine ⟨nofun, ?_⟩
    rintro _ ⟨⟩
    exact ⟨fun _ hmem => absurd hmem List.not_mem_nil,
      .internal (Policy.isInternal_of_validate hfailure hother)⟩
  | breach hinvalid => exact ⟨h, hinvalid⟩
  | note =>
    refine fun moment _ => holds_ofExcept.mpr ⟨fun _ _ => h, fun failure hfailure => ?_⟩
    obtain ⟨rfl, -⟩ := h
    refine ⟨fun _ hmem => absurd hmem List.not_mem_nil, .internal ?_⟩
    exact Tracker.upsert_failsOnly _ _ _ failure hfailure
  | refuse => exact holds_refusal h.1 h.2
  | releaseOnCluster | releaseInNamespaces | keysOnCluster | keysInNamespaces =>
    exact Clear.keeps_tries h (Value.requireKeys_failsOnly _)
  | clearOnCluster | clearInNamespaces | recordOnCluster | recordInNamespaces =>
    exact Clear.holds_report _ h
  | roles => exact Clear.holds_ask .listClusterRoles h .roles (fun _ => ⟨_, rfl⟩) nofun
  | clusterBindings =>
    exact Clear.holds_ask .listClusterRoleBindings h .clusterBindings (fun _ => ⟨_, rfl⟩) nofun
  | namespaces => exact Clear.holds_ask .listNamespaces h .namespaces (fun _ => ⟨_, rfl⟩) nofun
  | bindings =>
    exact Clear.holds_ask (.listRoleBindings none) h .bindings (fun _ => ⟨_, rfl⟩) nofun
  | compareOnCluster | compareInNamespaces =>
    exact Clear.keeps_tries h (missingRoles_failsOnly _ _)
  | select => exact Clear.keeps_tries h (Safelist.resolve_failsOnly _ _ _)
  | lackOnCluster | lackInNamespaces | judgeOnCluster | judgeInNamespaces =>
    exact Clear.holds_judge h
  | writeLack => exact Clear.holds_write h .missing
  | writeOnCluster => exact Clear.holds_write h .grantedOnCluster
  | writeInNamespaces => exact Clear.holds_write h .grantedInNamespaces
  | writeChanges => exact Clear.holds_write h .changes
  | createOnCluster | createInTarget => exact Clear.keeps_creates h fun _ _ => id
  | released | keep => exact Clear.halted h
  | lack | completeOnCluster | completeInNamespaces | startOnCluster | knownOnCluster | goOn
    | startInNamespaces | upToDate | selectNone | knownInTarget | leaveTargets | incomplete =>
    exact h

theorem holds_run_anyAnswers (space name : Value) :
    (run space name).Holds Regime.anyAnswers.logic (fun later _ => Halted later) Aborted [] :=
  holds_run_of_isCalm (stops_outline space name) rfl

end PolicyPass

/-! ### Passes on a course -/

open DryRun

theorem Cluster.answer_failsOnly (cluster : Cluster) (request : StoreCall) :
    FailsOnly (fun failure => ¬ failure.IsBreach) (cluster.answer request).1 := by
  have hkeys : ∀ values, FailsOnly (fun failure => ¬ failure.IsBreach) (Value.requireKeys values) :=
    fun values => (Value.requireKeys_failsOnly values).mono fun failure h => h.2
  have hrequire : ∀ condition fault message, FailsOnly (fun failure => ¬ failure.IsBreach)
      (require condition (.store fault message)) := by
    intro condition fault message
    cases condition with
    | true => exact .ok
    | false => exact .error id
  cases request with
  | getPolicy space name =>
    refine (hkeys _).bind fun _ => ?_
    split
    · exact .ok
    · exact .error id
  | getNamespace name =>
    dsimp only [answer, getNamespace]
    split
    · exact .ok
    · exact .error id
  | createBinding binding =>
    have hcreate : FailsOnly (fun failure => ¬ failure.IsBreach) (cluster.createBinding binding) :=
      (hkeys _).bind fun _ => (hrequire _ _ _).bind fun _ => .ok
    dsimp only [answer]
    split
    · exact .ok
    · next failure hfailure => exact .error (hcreate failure hfailure)
  | updateStatus written =>
    have hwrite : FailsOnly (fun failure => ¬ failure.IsBreach) (cluster.updateStatus written) :=
      (hkeys _).bind fun _ => (hrequire _ _ _).bind fun _ => .ok
    dsimp only [answer]
    split
    · exact .ok
    · next failure hfailure => exact .error (hwrite failure hfailure)
  | _ => exact .ok

theorem DryRun.World.facing_failsOnly (world : World) (outage : Option Outage)
    (request : StoreCall) : FailsOnly (fun failure => ¬ failure.IsBreach)
      ((world.facing outage request).call request).1 := by
  cases outage with
  | some outage =>
    rw [(world.call_facing_outage outage request).1]
    exact .error id
  | none =>
    rw [(world.call_facing_none request).1]
    cases request with
    | listClusterRoleBindings =>
      dsimp only [World.answer]
      split
      · exact .ok
      · exact .ok
    | listRoleBindings space =>
      dsimp only [World.answer]
      split
      · exact .ok
      · exact .ok
    | _ => exact Cluster.answer_failsOnly _ _

theorem Outage.not_goesOn (outage : Outage) (request : StoreCall) :
    ¬ (Event.called request (.error outage.failure)).GoesOn := by
  have hfailed : ∀ {α : Type}, ¬ ∃ value : α, Except.error outage.failure = Except.ok value := by
    rintro _ ⟨value, heq⟩
    cases heq
  cases request with
  | updateStatus written => exact id
  | createBinding binding =>
    exact not_settled fun message heq => outage.isOutage (Failure.store.inj heq).1
  | _ => exact hfailed

theorem Event.GoesOn.not_isWrite {event : Event} (h : event.GoesOn) : ¬ event.IsWrite := by
  intro hwrite
  unfold IsWrite at hwrite
  split at hwrite
  · exact h
  · exact hwrite

theorem callsOf_append (past later : List Event) :
    callsOf (past ++ later) = callsOf past ++ callsOf later := by
  simp only [callsOf, List.filter_append]

theorem createdIn_append (past later : List Event) :
    createdIn (past ++ later) = createdIn past ++ createdIn later := by
  simp only [createdIn, List.filterMap_append]

theorem createdIn_callsOf (past : List Event) : createdIn (callsOf past) = createdIn past := by
  simp only [createdIn, callsOf, List.filterMap_filter]
  congr 1
  funext event
  cases event <;> rfl

theorem isWrite_of_callsOf {past : List Event} (h : ∀ event ∈ callsOf past, ¬ event.IsWrite) :
    ∀ event ∈ past, ¬ event.IsWrite := by
  intro event hmem
  cases event with
  | called request answer => exact h _ (List.mem_filter.mpr ⟨hmem, rfl⟩)
  | _ => exact id

/-- A program that ends well however its calls are answered does so on every course, whatever others
change meanwhile. -/
theorem Course.holds_amid {α : Type} {good : List Event → α → Prop}
    {bad : List Event → Failure → Prop} {program : Program α} (course : Course)
    (change : List Event → World → World) (world : World)
    (h : program.Holds Regime.anyAnswers.logic good bad []) :
    (Program.done (course.runAmid change [] world program).result).Holds Regime.anyAnswers.logic
      good bad (course.runAmid change [] world program).calls := by
  have hquiet : ∀ (past : List Event) (event : Event), event.isCall = false →
      callsOf past = callsOf (past ++ [event]) := by
    intro past event hevent
    rw [callsOf_append, callsOf, callsOf, List.filter_cons, hevent]
    exact (List.append_nil _).symm
  have hrun : ∃ calls, calls = (course.runAmid change [] world program).calls ∧
      (Program.done (course.runAmid change [] world program).result).Holds
        Regime.anyAnswers.logic good bad calls := by
    refine course.holds_runAmid (fun past _ calls => calls = callsOf past) (fun _ => trivial)
      (fun past _ _ _ _ hcalls => hcalls.trans (hquiet past _ rfl))
      (fun past _ _ _ _ hcalls => hcalls.trans (hquiet past _ rfl)) ?_ [] world h rfl
    rintro past world _ request rfl
    refine ⟨_, ⟨rfl, (change past world).facing_failsOnly _ request⟩, ?_⟩
    rw [callsOf_append]
    rfl
  obtain ⟨_, rfl, hended⟩ := hrun
  exact hended

theorem Course.holds_anyAnswers {α : Type} {good : List Event → α → Prop}
    {bad : List Event → Failure → Prop} {program : Program α} (course : Course) (world : World)
    (h : program.Holds Regime.anyAnswers.logic good bad []) :
    (Program.done (course.play world program).result).Holds Regime.anyAnswers.logic good bad
      (course.play world program).calls := by
  rw [play, run_eq_runAmid]
  exact course.holds_amid _ world h

namespace PolicyPass

open Program

variable {course : Course} {world : World} {space name : Value}

/-- The calls of a pass on a course are as those of any pass. -/
theorem play_halts (course : Course) (world : World) (space name : Value) :
    match (course.play world (run space name)).result with
    | .ok _ => Halted (course.play world (run space name)).calls
    | .error failure => Aborted (course.play world (run space name)).calls failure := by
  have hended := course.holds_anyAnswers world (holds_run_anyAnswers space name)
  cases hresult : (course.play world (run space name)).result with
  | ok result => exact (hresult ▸ hended :)
  | error failure => exact (hresult ▸ hended :)

theorem play_halted (course : Course) (world : World) (space name : Value) :
    Halted (course.play world (run space name)).calls := by
  have hends := play_halts course world space name
  split at hends
  · exact hends
  · exact hends.halted

/-- Either no call fails that a pass makes, or it writes no status and the bindings that it creates
are the first of those that it creates when no call fails. -/
theorem eq_calm_or_stops (course : Course) (world : World) (space name : Value) :
    course.play world (run space name) = course.calm.play world (run space name) ∨
      (∀ event ∈ (course.play world (run space name)).past, ¬ event.IsWrite) ∧
        createdIn (course.play world (run space name)).past <+:
          createdIn (course.calm.play world (run space name)).past := by
  have hhalted := play_halted course world space name
  refine (course.run_eq_or_fails [] world (run space name)).imp id ?_
  rintro ⟨done, request, outage, ⟨more, hcalm⟩, rest, hpast⟩
  have hcalls : (course.play world (run space name)).calls =
      callsOf done ++ .called request (.error outage.failure) :: callsOf rest := by
    rw [Ending.calls, Course.play, ← hpast, callsOf_append, callsOf_append, List.append_assoc]
    rfl
  -- The call that failed was the last, as no call follows on a failure.
  have hlast : callsOf rest = [] :=
    Halted.eq_nil (hcalls ▸ hhalted) (outage.not_goesOn request)
  rw [hlast] at hcalls
  constructor
  · refine isWrite_of_callsOf fun event hmem => ?_
    have hmem : event ∈ (course.play world (run space name)).calls := hmem
    rw [hcalls] at hmem
    rcases List.mem_append.mp hmem with hmem | hmem
    · refine Event.GoesOn.not_isWrite (hhalted event ?_)
      rw [hcalls, List.dropLast_concat]
      exact hmem
    · cases List.mem_singleton.mp hmem
      cases request <;> exact id
  · have hcreated : createdIn (course.play world (run space name)).past = createdIn done := by
      rw [← createdIn_callsOf, ← createdIn_callsOf done]
      change createdIn (course.play world (run space name)).calls = _
      rw [hcalls, createdIn_append]
      simp [createdIn]
    rw [hcreated, Course.play, ← hcalm, createdIn_append]
    exact List.prefix_append ..

theorem created_isPrefix (course : Course) (world : World) (space name : Value) :
    createdIn (course.play world (run space name)).past <+:
      createdIn (course.calm.play world (run space name)).past := by
  rcases eq_calm_or_stops course world space name with heq | ⟨-, hcreated⟩
  · exact heq ▸ List.prefix_refl _
  · exact hcreated

/-- What holds of a pass that a failure of the store has ended, beside the pass on which no call
fails: the call that failed was the last, no status is changed, and the bindings created are the
first of those that the other creates. If a policy was fetched, it breaks no rule. -/
structure CutShort (world : World) (calm ended : Ending Result) (fault : StoreFault)
    (message : String) : Prop where
  last : ∃ earlier request kind cause purpose,
    ended.calls = earlier ++ [.called request (.error (.store kind cause))] ∧
      Serves purpose request ∧ fault = .general ∧ message = s!"failed to {purpose}: {cause}"
  policies : ended.world.cluster.policies = world.cluster.policies
  bindings : ∃ planned created, created <+: planned ∧
    calm.world.cluster.bindings = world.cluster.bindings ++ planned ∧
    ended.world.cluster.bindings = world.cluster.bindings ++ created
  valid : ∀ space name policy, .called (.getPolicy space name) (.ok policy) ∈ ended.calls →
    policy.validate = .ok ()

/-- What holds of a pass that has refused a policy: all it did was to fetch the policy and to write
its status, whether or not that succeeded. -/
structure Refused (world : World) (ended : Ending Result) (message : String)
    (types : List ConditionType) : Prop where
  calls : ∃ space name policy written answer cause, ended.calls =
    [.called (.getPolicy space name) (.ok policy), .called (.updateStatus written) answer] ∧
    policy.validate = .error (.invalidPolicy cause types) ∧
    message = s!"PermissionPolicy validation failed: {cause}"
  bindings : ended.world.cluster.bindings = world.cluster.bindings

theorem turned_play (course : Course) (world : World) (space name : Value) :
    world.cluster.Turned (course.play world (run space name)).past
      (course.play world (run space name)).world.cluster :=
  course.turned_run (.refl _) _

theorem aborted_play {failure : Failure}
    (h : (course.play world (run space name)).result = .error failure) :
    Aborted (course.play world (run space name)).calls failure := by
  have hends := play_halts course world space name
  rwa [h] at hends

theorem isCutShort {fault : StoreFault} {message : String}
    (h : (course.play world (run space name)).result = .error (.store fault message)) :
    CutShort world (course.calm.play world (run space name))
      (course.play world (run space name)) fault message := by
  have hturned := turned_play course world space name
  cases (aborted_play h).stopped with
  | internal hinternal => cases hinternal.1
  | @atCall earlier request kind cause purpose hclear hcalls hpurpose =>
    refine ⟨⟨earlier, request, kind, cause, purpose, hcalls, hpurpose, rfl, rfl⟩, ?_, ?_, ?_⟩
    · refine hturned.policies (isWrite_of_callsOf fun event hmem => ?_)
      have hmem : event ∈ (course.play world (run space name)).calls := hmem
      rw [hcalls] at hmem
      rcases List.mem_append.mp hmem with hmem | hmem
      · exact (hclear.goesOn event hmem).not_isWrite
      · cases List.mem_singleton.mp hmem
        cases request <;> exact id
    · exact ⟨_, _, created_isPrefix course world space name,
        (turned_play course.calm world space name).bindings, hturned.bindings⟩
    · intro space name policy hmem
      rw [hcalls] at hmem
      rcases List.mem_append.mp hmem with hmem | hmem
      · exact hclear.valid space name policy hmem
      · cases List.mem_singleton.mp hmem

theorem isRefused {message : String} {types : List ConditionType}
    (h : (course.play world (run space name)).result = .error (.invalidPolicy message types)) :
    Refused world (course.play world (run space name)) message types := by
  have hbindings := (turned_play course world space name).bindings
  cases (aborted_play h).stopped with
  | internal hinternal => exact absurd trivial hinternal.2
  | @refused home label policy written answer cause _ hcalls hinvalid =>
    refine ⟨⟨home, label, policy, written, answer, cause, hcalls, hinvalid, rfl⟩, ?_⟩
    have hnone : createdIn (course.play world (run space name)).calls = [] := by
      rw [hcalls]
      rfl
    rw [hbindings, ← createdIn_callsOf, hnone, List.append_nil]

/-- A pass that ends with a failure of the store or of its policy has stopped at the failure, and
whatever calls fail, the status of a policy is written last and at most once. -/
theorem stops_at_failure (course : Course) (world : World) (space name : Value) :
    let ended := course.play world (run space name)
    (∀ fault message, ended.result = .error (.store fault message) →
      CutShort world (course.calm.play world (run space name)) ended fault message) ∧
    (∀ message types, ended.result = .error (.invalidPolicy message types) →
      Refused world ended message types) ∧
    ∀ written answer, .called (.updateStatus written) answer ∉ ended.calls.dropLast :=
  ⟨fun _ _ => isCutShort, fun _ _ => isRefused,
    fun _ _ hmem => play_halted course world space name _ hmem⟩

end PolicyPass

/-- Whether a run ended with a failure of the store that says something. -/
def Ending.isFailure (ended : Ending α) (message : String) : Bool :=
  match ended.result with
  | .error (.store _ text) => text == message
  | _ => false

theorem Ending.result_of_isFailure {ended : Ending α} {message : String}
    (h : ended.isFailure message = true) :
    ∃ fault, ended.result = .error (.store fault message) := by
  unfold isFailure at h
  split at h
  · next fault text hresult => exact ⟨fault, eq_of_beq h ▸ hresult⟩
  · cases h

/-- A result that passes a test is none of a failure. -/
theorem exists_ok_of_any {result : Except Failure α} {test : α → Bool}
    (h : result.toOption.any test = true) : ∃ value, result = .ok value ∧ test value = true := by
  cases result with
  | ok value => exact ⟨value, rfl, h⟩
  | error failure => cases h

/-- A course on which no status can be written. -/
def Course.unwritable : Course where
  moment _ := 0
  dated _ := ⟨_, rfl⟩
  outage _ request :=
    match request with
    | .updateStatus _ => some ⟨.general, "down", nofun⟩
    | _ => none

/-- The pass creates the binding on the whole cluster and stops when it comes to tell of it. -/
theorem PolicyPass.stops_at_failure_web : ∃ fault,
    let ended := Course.unwritable.play .web (run "team" "editor")
    let message := "failed to update status after creating ClusterRoleBindings: down"
    ended.result = .error (.store fault message) ∧
      ended.world.cluster.bindings.length = 1 ∧
      CutShort .web (Course.unwritable.calm.play .web (run "team" "editor")) ended fault
        message := by
  have hcheck : ((Course.unwritable.play .web (run "team" "editor")).isFailure
      "failed to update status after creating ClusterRoleBindings: down" &&
      (Course.unwritable.play .web (run "team" "editor")).world.cluster.bindings.length == 1) =
      true := by
    decide +kernel
  obtain ⟨hfailure, hlength⟩ := Bool.and_eq_true_iff.mp hcheck
  obtain ⟨fault, hresult⟩ := Ending.result_of_isFailure hfailure
  exact ⟨fault, hresult, eq_of_beq hlength,
    (stops_at_failure .unwritable .web "team" "editor").1 fault _ hresult⟩

end RoleGrants
