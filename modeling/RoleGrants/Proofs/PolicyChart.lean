import RoleGrants.Proofs.Chart
import RoleGrants.Pass.Policy

/-! The chart of a pass over a policy. Its points are those between the calls of the pass, each with
what the pass has learned and done by then. A pass ends as an outline of the chart says that it
does. -/

namespace RoleGrants

open Program Pass

/-- The message of a condition that tells of missing roles. -/
def lackMessage : ConditionType → String
  | .clusterRoleBindingCreated => "ClusterRole for ClusterPermission does not exist"
  | .roleBindingCreated => "ClusterRole for Permission does not exist"

/-- The verdict on a scope of which some roles are missing. -/
def lacking (type : ConditionType) (roles : List Value) : Verdict :=
  { type, state := .failed, status := true, message := lackMessage type, roles }

namespace PolicyPass

/-- The verdict on a policy that breaks a rule, for one condition type. -/
def breached (message : String) (type : ConditionType) : Verdict :=
  { type, state := .failed, status := true, message := s!"{breach}: {message}", roles := [] }

/-- The points of a pass over a policy. -/
inductive Point where
  | opened
  | fetched (policy : Policy)
  /-- The breach is noted for some of the types of conditions. -/
  | refusing (policy : Policy) (tracker : Tracker) (message : String)
      (types done : List ConditionType)
  | checked (policy : Policy) (tracker : Tracker)
  /-- The series of some of the roles on the whole cluster are cleared. -/
  | releasingOnCluster (policy : Policy) (tracker : Tracker) (done : List Value)
  | releasingInNamespaces (policy : Policy) (tracker : Tracker) (done : List Value)
  | listed (policy : Policy) (tracker : Tracker) (roles : List Value)
  | surveyed (policy : Policy) (tracker : Tracker) (roles : List Value) (bindings : List Binding)
  /-- The roles that are missing for the whole cluster are known. -/
  | compared (policy : Policy) (tracker : Tracker) (roles : List Value) (bindings : List Binding)
      (onCluster : List Value)
  | decided (policy : Policy) (tracker : Tracker) (roles : List Value) (bindings : List Binding)
      (onCluster inNamespaces : List Value)
  | lacking (policy : Policy) (tracker : Tracker) (onCluster inNamespaces : List Value)
  | lackingInNamespaces (policy : Policy) (tracker : Tracker) (inNamespaces : List Value)
  | lacked (policy : Policy) (tracker : Tracker)
  /-- Some of the roles on the whole cluster are done. -/
  | onCluster (policy : Policy) (tracker : Tracker) (bindings : List Binding) (done : List Value)
      (grants : Grants)
  | grantedOnCluster (policy : Policy) (tracker : Tracker) (bindings : List Binding)
      (grants : Grants)
  /-- The series of some of the roles on the whole cluster are recorded. -/
  | recordingOnCluster (policy : Policy) (tracker : Tracker) (bindings : List Binding)
      (grants : Grants) (done : List Value)
  /-- What is left to do is to be done in namespaces. -/
  | ready (policy : Policy) (tracker : Tracker)
  | located (policy : Policy) (tracker : Tracker) (spaces : List Namespace)
  /-- Some of the permissions are done. -/
  | inNamespaces (policy : Policy) (tracker : Tracker) (spaces : List Namespace)
      (done : List Permission) (progress : Grants × Bool)
  /-- Some of the namespaces that one permission selects are done. -/
  | inTargets (policy : Policy) (tracker : Tracker) (spaces : List Namespace)
      (before : List Permission) (permission : Permission) (isComplete : Bool)
      (targets done : List Value) (grants : Grants)
  | grantedInNamespaces (policy : Policy) (tracker : Tracker) (grants : Grants)
  | recordingInNamespaces (policy : Policy) (tracker : Tracker) (grants : Grants)
      (done : List Value)
  /-- The pass has its result, and the conditions are written if they have changed. -/
  | settled (policy : Policy) (tracker : Tracker) (result : Result)
  | ended (result : Result)

namespace Point

/-- The policy that a pass works on, and its conditions as the pass has set them. -/
def work? : Point → Option (Policy × Tracker)
  | .opened | .ended _ => none
  | .fetched policy => some (policy, .start policy.conditions)
  | .refusing policy tracker _ _ _ | .checked policy tracker
    | .releasingOnCluster policy tracker _ | .releasingInNamespaces policy tracker _
    | .listed policy tracker _ | .surveyed policy tracker _ _ | .compared policy tracker _ _ _
    | .decided policy tracker _ _ _ _ | .lacking policy tracker _ _
    | .lackingInNamespaces policy tracker _ | .lacked policy tracker
    | .onCluster policy tracker _ _ _ | .grantedOnCluster policy tracker _ _
    | .recordingOnCluster policy tracker _ _ _ | .ready policy tracker | .located policy tracker _
    | .inNamespaces policy tracker _ _ _ | .inTargets policy tracker _ _ _ _ _ _ _
    | .grantedInNamespaces policy tracker _ | .recordingInNamespaces policy tracker _ _
    | .settled policy tracker _ => some (policy, tracker)

/-- The bindings that a pass has created. -/
def created : Point → List Binding
  | .onCluster _ _ _ _ grants | .grantedOnCluster _ _ _ grants
    | .recordingOnCluster _ _ _ grants _ | .inNamespaces _ _ _ _ (grants, _)
    | .inTargets _ _ _ _ _ _ _ _ grants | .grantedInNamespaces _ _ grants
    | .recordingInNamespaces _ _ grants _ => grants.created
  | .settled _ _ result | .ended result => result.created
  | _ => []

end Point

/-- What a pass over the policy `name` in the namespace `space` may do at each of its points. -/
inductive Flows (space name : Value) : Chart Point
  | fetch : Flows space name .opened
      (.finds "fetch PermissionPolicy" (.getPolicy space name) .fetched
        (.ended { outcome := .notFound }))
  | forget {policy : Policy} : policy.validate = .ok () → Flows space name (.fetched policy)
      (.tries (forgetBreaches (.start policy.conditions) ConditionType.all) (.checked policy))
  | break {policy : Policy} {failure : Failure} : policy.validate = .error failure →
      (∀ message types, failure ≠ .invalidPolicy message types) → Flows space name (.fetched policy)
      (.tries (.error failure) (.checked policy))
  | breach {policy : Policy} {message : String} {types : List ConditionType} :
      policy.validate = .error (.invalidPolicy message types) → Flows space name (.fetched policy)
      (.turns (.refusing policy (.start policy.conditions) message types []))
  | note {policy : Policy} {tracker : Tracker} {message : String}
      {types done : List ConditionType} {type : ConditionType} : done ++ [type] <+: types →
      Flows space name (.refusing policy tracker message types done)
      (.judges tracker (breached message type) (.refusing policy · message types (done ++ [type])))
  | refuse {policy : Policy} {tracker : Tracker} {message : String} {types : List ConditionType} :
      Flows space name (.refusing policy tracker message types types)
      (.refuses (writing policy tracker)
        (.invalidPolicy s!"PermissionPolicy validation failed: {message}" types))
  | releaseOnCluster {policy : Policy} {tracker : Tracker} : policy.isDeleting = true →
      Flows space name (.checked policy tracker)
      (.tries (Value.requireKeys policy.clusterPermissions)
        fun _ => .releasingOnCluster policy tracker [])
  | clearOnCluster {policy : Policy} {tracker : Tracker} {done : List Value} {role : Value} :
      done ++ [role] <+: Value.distinct policy.clusterPermissions →
      Flows space name (.releasingOnCluster policy tracker done)
      (.reports (.clear (series policy clusterScope role))
        (.releasingOnCluster policy tracker (done ++ [role])))
  | releaseInNamespaces {policy : Policy} {tracker : Tracker} : Flows space name
      (.releasingOnCluster policy tracker (Value.distinct policy.clusterPermissions))
      (.tries (Value.requireKeys policy.permissionRoles)
        fun _ => .releasingInNamespaces policy tracker [])
  | clearInNamespaces {policy : Policy} {tracker : Tracker} {done : List Value} {role : Value} :
      done ++ [role] <+: Value.distinct policy.permissionRoles →
      Flows space name (.releasingInNamespaces policy tracker done)
      (.reports (.clear (series policy namespaceScope role))
        (.releasingInNamespaces policy tracker (done ++ [role])))
  | released {policy : Policy} {tracker : Tracker} : Flows space name
      (.releasingInNamespaces policy tracker (Value.distinct policy.permissionRoles))
      (.turns (.ended { outcome := .deleted }))
  | roles {policy : Policy} {tracker : Tracker} : policy.isDeleting = false →
      Flows space name (.checked policy tracker)
      (.asks "list ClusterRoles" .listClusterRoles (.listed policy tracker))
  | clusterBindings {policy : Policy} {tracker : Tracker} {roles : List Value} :
      Flows space name (.listed policy tracker roles)
      (.asks "list ClusterRoleBindings" .listClusterRoleBindings (.surveyed policy tracker roles))
  | compareOnCluster {policy : Policy} {tracker : Tracker} {roles : List Value}
      {bindings : List Binding} : Flows space name (.surveyed policy tracker roles bindings)
      (.tries (missingRoles policy.clusterPermissions roles)
        (.compared policy tracker roles bindings))
  | compareInNamespaces {policy : Policy} {tracker : Tracker} {roles onCluster : List Value}
      {bindings : List Binding} :
      Flows space name (.compared policy tracker roles bindings onCluster)
      (.tries (missingRoles policy.permissionRoles roles)
        (.decided policy tracker roles bindings onCluster))
  | lack {policy : Policy} {tracker : Tracker} {roles onCluster inNamespaces : List Value}
      {bindings : List Binding} : (!onCluster.isEmpty || !inNamespaces.isEmpty) = true →
      Flows space name (.decided policy tracker roles bindings onCluster inNamespaces)
      (.turns (.lacking policy tracker onCluster inNamespaces))
  | lackOnCluster {policy : Policy} {tracker : Tracker} {onCluster inNamespaces : List Value} :
      onCluster.isEmpty = false → Flows space name (.lacking policy tracker onCluster inNamespaces)
      (.judges tracker (RoleGrants.lacking .clusterRoleBindingCreated onCluster)
        (.lackingInNamespaces policy · inNamespaces))
  | completeOnCluster {policy : Policy} {tracker : Tracker} {onCluster inNamespaces : List Value} :
      onCluster.isEmpty = true → Flows space name (.lacking policy tracker onCluster inNamespaces)
      (.turns (.lackingInNamespaces policy tracker inNamespaces))
  | lackInNamespaces {policy : Policy} {tracker : Tracker} {inNamespaces : List Value} :
      inNamespaces.isEmpty = false →
      Flows space name (.lackingInNamespaces policy tracker inNamespaces)
      (.judges tracker (RoleGrants.lacking .roleBindingCreated inNamespaces) (.lacked policy))
  | completeInNamespaces {policy : Policy} {tracker : Tracker} {inNamespaces : List Value} :
      inNamespaces.isEmpty = true →
      Flows space name (.lackingInNamespaces policy tracker inNamespaces)
      (.turns (.lacked policy tracker))
  | writeLack {policy : Policy} {tracker : Tracker} : Flows space name (.lacked policy tracker)
      (.asks "update status for missing ClusterRoles" (writing policy tracker)
        fun _ => .ended { outcome := .rolesMissing })
  | startOnCluster {policy : Policy} {tracker : Tracker} {roles onCluster inNamespaces : List Value}
      {bindings : List Binding} : (!onCluster.isEmpty || !inNamespaces.isEmpty) = false →
      policy.clusterPermissions.isEmpty = false →
      Flows space name (.decided policy tracker roles bindings onCluster inNamespaces)
      (.turns (.onCluster policy tracker bindings [] { index := .ofList bindings }))
  | knownOnCluster {policy : Policy} {tracker : Tracker} {bindings : List Binding}
      {done : List Value} {grants : Grants} {role : Value} :
      done ++ [role] <+: policy.clusterPermissions →
      grants.index.exists? (Binding.onCluster role policy).name none = true →
      Flows space name (.onCluster policy tracker bindings done grants)
      (.turns (.onCluster policy tracker bindings (done ++ [role]) grants))
  | createOnCluster {policy : Policy} {tracker : Tracker} {bindings : List Binding}
      {done : List Value} {grants : Grants} {role : Value} :
      done ++ [role] <+: policy.clusterPermissions →
      grants.index.exists? (Binding.onCluster role policy).name none = false →
      Flows space name (.onCluster policy tracker bindings done grants)
      (.creates s!"create {(Binding.onCluster role policy).kind}" (.onCluster role policy) true
        fun isNew => .onCluster policy tracker bindings (done ++ [role])
          (grants.add (.onCluster role policy) isNew))
  | judgeOnCluster {policy : Policy} {tracker : Tracker} {bindings : List Binding}
      {grants : Grants} :
      Flows space name (.onCluster policy tracker bindings policy.clusterPermissions grants)
      (.judges tracker (granted .clusterRoleBindingCreated policy.clusterPermissions)
        (.grantedOnCluster policy · bindings grants))
  | keysOnCluster {policy : Policy} {tracker : Tracker} {bindings : List Binding}
      {grants : Grants} : Flows space name (.grantedOnCluster policy tracker bindings grants)
      (.tries (Value.requireKeys policy.clusterPermissions)
        fun _ => .recordingOnCluster policy tracker bindings grants [])
  | recordOnCluster {policy : Policy} {tracker : Tracker} {bindings : List Binding}
      {grants : Grants} {done : List Value} {role : Value} :
      done ++ [role] <+: Value.distinct policy.clusterPermissions →
      Flows space name (.recordingOnCluster policy tracker bindings grants done)
      (.reports (.record (series policy clusterScope role) true)
        (.recordingOnCluster policy tracker bindings grants (done ++ [role])))
  | writeOnCluster {policy : Policy} {tracker : Tracker} {bindings : List Binding}
      {grants : Grants} : (!grants.created.isEmpty || policy.permissions.isEmpty) = true →
      Flows space name (.recordingOnCluster policy tracker bindings grants
        (Value.distinct policy.clusterPermissions))
      (.asks "update status after creating ClusterRoleBindings" (writing policy tracker)
        fun _ => .ended {
          outcome := .clusterBindingsCreated
          requeue := !policy.permissions.isEmpty
          created := grants.created })
  | goOn {policy : Policy} {tracker : Tracker} {bindings : List Binding} {grants : Grants} :
      (!grants.created.isEmpty || policy.permissions.isEmpty) = false →
      Flows space name (.recordingOnCluster policy tracker bindings grants
        (Value.distinct policy.clusterPermissions))
      (.turns (.ready policy tracker))
  | startInNamespaces {policy : Policy} {tracker : Tracker}
      {roles onCluster inNamespaces : List Value} {bindings : List Binding} :
      (!onCluster.isEmpty || !inNamespaces.isEmpty) = false →
      policy.clusterPermissions.isEmpty = true → policy.permissions.isEmpty = false →
      Flows space name (.decided policy tracker roles bindings onCluster inNamespaces)
      (.turns (.ready policy tracker))
  | upToDate {policy : Policy} {tracker : Tracker} {roles onCluster inNamespaces : List Value}
      {bindings : List Binding} : (!onCluster.isEmpty || !inNamespaces.isEmpty) = false →
      policy.clusterPermissions.isEmpty = true → policy.permissions.isEmpty = true →
      Flows space name (.decided policy tracker roles bindings onCluster inNamespaces)
      (.turns (.settled policy tracker { outcome := .upToDate }))
  | namespaces {policy : Policy} {tracker : Tracker} : Flows space name (.ready policy tracker)
      (.asks "list Namespaces" .listNamespaces (.located policy tracker))
  | bindings {policy : Policy} {tracker : Tracker} {spaces : List Namespace} :
      Flows space name (.located policy tracker spaces)
      (.asks "list RoleBindings" (.listRoleBindings none) fun bindings =>
        .inNamespaces policy tracker spaces [] ({ index := .ofList bindings }, true))
  | select {policy : Policy} {tracker : Tracker} {spaces : List Namespace} {done : List Permission}
      {progress : Grants × Bool} {permission : Permission} :
      done ++ [permission] <+: policy.permissions →
      Flows space name (.inNamespaces policy tracker spaces done progress)
      (.tries (Safelist.resolve permission.allowed permission.denied (validNames spaces))
        (.inTargets policy tracker spaces done permission progress.2 · [] progress.1))
  | selectNone {policy : Policy} {tracker : Tracker} {spaces : List Namespace}
      {before : List Permission} {permission : Permission} {isComplete : Bool} {grants : Grants} :
      Flows space name (.inTargets policy tracker spaces before permission isComplete [] [] grants)
      (.turns (.inNamespaces policy tracker spaces (before ++ [permission]) (grants, false)))
  | knownInTarget {policy : Policy} {tracker : Tracker} {spaces : List Namespace}
      {before : List Permission} {permission : Permission} {isComplete : Bool}
      {targets done : List Value} {grants : Grants} {target : Value} :
      done ++ [target] <+: targets → grants.index.exists?
        (Binding.inNamespace permission.role policy target).name (some target) = true →
      Flows space name
        (.inTargets policy tracker spaces before permission isComplete targets done grants)
      (.turns (.inTargets policy tracker spaces before permission isComplete targets
        (done ++ [target]) grants))
  | createInTarget {policy : Policy} {tracker : Tracker} {spaces : List Namespace}
      {before : List Permission} {permission : Permission} {isComplete : Bool}
      {targets done : List Value} {grants : Grants} {target : Value} :
      done ++ [target] <+: targets → grants.index.exists?
        (Binding.inNamespace permission.role policy target).name (some target) = false →
      Flows space name
        (.inTargets policy tracker spaces before permission isComplete targets done grants)
      (.creates s!"create {(Binding.inNamespace permission.role policy target).kind}"
        (.inNamespace permission.role policy target) true fun isNew =>
          .inTargets policy tracker spaces before permission isComplete targets (done ++ [target])
            (grants.add (.inNamespace permission.role policy target) isNew))
  | leaveTargets {policy : Policy} {tracker : Tracker} {spaces : List Namespace}
      {before : List Permission} {permission : Permission} {isComplete : Bool}
      {targets : List Value} {grants : Grants} : targets.isEmpty = false → Flows space name
        (.inTargets policy tracker spaces before permission isComplete targets targets grants)
      (.turns (.inNamespaces policy tracker spaces (before ++ [permission]) (grants, isComplete)))
  | incomplete {policy : Policy} {tracker : Tracker} {spaces : List Namespace} {grants : Grants} :
      Flows space name (.inNamespaces policy tracker spaces policy.permissions (grants, false))
      (.turns (.settled policy tracker { outcome := .incomplete, created := grants.created }))
  | judgeInNamespaces {policy : Policy} {tracker : Tracker} {spaces : List Namespace}
      {grants : Grants} :
      Flows space name (.inNamespaces policy tracker spaces policy.permissions (grants, true))
      (.judges tracker (granted .roleBindingCreated policy.permissionRoles)
        (.grantedInNamespaces policy · grants))
  | keysInNamespaces {policy : Policy} {tracker : Tracker} {grants : Grants} :
      Flows space name (.grantedInNamespaces policy tracker grants)
      (.tries (Value.requireKeys policy.permissionRoles)
        fun _ => .recordingInNamespaces policy tracker grants [])
  | recordInNamespaces {policy : Policy} {tracker : Tracker} {grants : Grants} {done : List Value}
      {role : Value} : done ++ [role] <+: Value.distinct policy.permissionRoles →
      Flows space name (.recordingInNamespaces policy tracker grants done)
      (.reports (.record (series policy namespaceScope role) true)
        (.recordingInNamespaces policy tracker grants (done ++ [role])))
  | writeInNamespaces {policy : Policy} {tracker : Tracker} {grants : Grants} : Flows space name
      (.recordingInNamespaces policy tracker grants (Value.distinct policy.permissionRoles))
      (.asks "update status after creating RoleBindings" (writing policy tracker)
        fun _ => .ended { outcome := .roleBindingsCreated, created := grants.created })
  | writeChanges {policy : Policy} {tracker : Tracker} {result : Result} :
      tracker.changed = true → Flows space name (.settled policy tracker result)
      (.asks "update status" (writing policy tracker) fun _ => .ended result)
  | keep {policy : Policy} {tracker : Tracker} {result : Result} : tracker.changed = false →
      Flows space name (.settled policy tracker result) (.turns (.ended result))

section

variable {σ : Type} {logic : Logic σ} {space name : Value} {holds : Point → σ → Prop}
  {failed : σ → Failure → Prop} {state : σ} {policy : Policy} {tracker : Tracker}
  {context : List (String × Value)} (outline : Outline logic (Flows space name) holds failed)

include outline

/-- A binding is created, it exists, or the failure to create it is told with its kind. -/
theorem holds_create {point : Point} {binding : Binding} {next : Bool → Point}
    (hedge : Flows space name point (.creates s!"create {binding.kind}" binding true next))
    (h : holds point state) :
    (create binding context).Holds logic (fun later isNew => holds (next isNew) later) failed
      state := by
  unfold create
  -- A binding that exists is counted in the step, and one that is new only after it.
  refine Holds.bind (?_ : Holds logic (fun later isNew =>
    (isNew = true → logic.Takes failed (holds (next true))
      (.count (.creations binding.kind "created")) later) ∧
    (isNew = false → holds (next false) later)) failed state _) fun later isNew hlater => ?_
  · refine Holds.inStep outline.failures ?_
    refine logic.call_mono (outline.edges hedge h) fun answer later hattempted => ?_
    cases answer with
    | ok value => exact ⟨fun _ => hattempted.created value rfl, nofun⟩
    | error failure =>
      dsimp only [attempt, Program.bind]
      split
      · next heq => cases heq
      · next message heq =>
        cases heq
        refine ((hattempted.existed message rfl).within _).report.bind fun _ _ hcounted => ?_
        exact (((outline.points _).within _).log hcounted).bind
          fun _ _ hlast => ⟨nofun, fun _ => hlast⟩
      · next other hother heq =>
        cases heq
        split
        · next hstore =>
          refine ((hattempted.counted rfl failure rfl hstore hother).within _).report.bind ?_
          exact fun _ _ hlast => hlast
        · next hinternal =>
          exact hattempted.uncounted failure rfl (.inr (Bool.eq_false_iff.mpr hinternal)) hother
  · cases isNew with
    | true =>
      exact (hlater.1 rfl).report.bind fun _ _ hcounted =>
        (outline.log hcounted).bind fun _ _ hlast => hlast
    | false => exact hlater.2 rfl

theorem holds_ensure {point : Point} {place : Option Value} {binding : Binding} {grants : Grants}
    {next : Grants → Point}
    (hknown : grants.index.exists? binding.name place = true →
      Flows space name point (.turns (next grants)))
    (hnew : grants.index.exists? binding.name place = false →
      Flows space name point (.creates s!"create {binding.kind}" binding true
        fun isNew => next (grants.add binding isNew))) (h : holds point state) :
    (ensure context place binding grants).Holds logic (fun later after => holds (next after) later)
      failed state := by
  unfold ensure
  split
  · next hexists => exact outline.turns (hknown hexists) h
  · next hmissing =>
    have hmissing := Bool.eq_false_iff.mpr hmissing
    exact (holds_create outline (hnew hmissing) h).bind fun _ _ hlast => hlast

theorem holds_writeChanges {result : Result} (h : holds (.settled policy tracker result) state) :
    (writeChanges policy tracker).Holds logic (fun later _ => holds (.ended result) later) failed
      state := by
  unfold writeChanges
  split
  · next hchanged => exact outline.asks (.writeChanges hchanged) h
  · next hsame => exact outline.turns (.keep (Bool.eq_false_iff.mpr hsame)) h

theorem holds_grantPermission {spaces : List Namespace} {done : List Permission}
    {progress : Grants × Bool} {permission : Permission}
    (hpart : done ++ [permission] <+: policy.permissions)
    (h : holds (.inNamespaces policy tracker spaces done progress) state) :
    (grantPermission policy context (validNames spaces) progress permission).Holds logic
      (fun later after =>
        holds (.inNamespaces policy tracker spaces (done ++ [permission]) after) later) failed
      state := by
  unfold grantPermission
  refine (outline.tries (.select hpart) h).bind fun later targets hlater => ?_
  split
  · next hempty =>
    rw [List.isEmpty_iff.mp hempty] at hlater
    exact (outline.log hlater).bind fun _ _ hlogged => outline.turns .selectNone hlogged
  · next hsome =>
    refine (holds_fold (fun finished later grants => holds (.inTargets policy tracker spaces done
      permission progress.2 targets finished grants) later) hlater
      fun finished target htarget _ _ hinv => ?_).bind fun _ grants hlast => ?_
    · exact holds_ensure outline (.knownInTarget htarget) (.createInTarget htarget) hinv
    · exact outline.turns (.leaveTargets (Bool.eq_false_iff.mpr hsome)) hlast

theorem holds_grantInNamespaces (h : holds (.ready policy tracker) state) :
    (grantInNamespaces policy tracker context).Holds logic
      (fun later result => holds (.ended result) later) failed state := by
  unfold grantInNamespaces
  refine (outline.asksNamespaces .namespaces h).bind ?_
  rintro later _ ⟨spaces, rfl, hlater⟩
  refine (outline.asks .bindings hlater).bind fun later bindings hlater => ?_
  refine (holds_fold (fun done later progress =>
    holds (.inNamespaces policy tracker spaces done progress) later) hlater
    fun done permission hpart _ _ hinv => holds_grantPermission outline hpart hinv).bind ?_
  rintro later ⟨grants, isComplete⟩ hlater
  cases isComplete with
  | false =>
    exact (holds_writeChanges outline (outline.turns .incomplete hlater)).bind
      fun _ _ hlast => hlast
  | true =>
    refine (outline.judges .judgeInNamespaces hlater).bind fun later after hlater => ?_
    refine (Pass.holds_series (outline.tells .keysInNamespaces fun _ _ => .recordInNamespaces)
      hlater).bind fun later _ hlater => ?_
    exact (outline.asks .writeInNamespaces hlater).bind fun _ _ hlast => hlast

theorem holds_grantOnCluster {bindings : List Binding}
    (h : holds (.onCluster policy tracker bindings [] { index := .ofList bindings }) state) :
    (grantOnCluster policy tracker context bindings).Holds logic
      (fun later result => holds (.ended result) later) failed state := by
  unfold grantOnCluster
  refine (holds_fold (fun done later grants =>
    holds (.onCluster policy tracker bindings done grants) later) h
    fun done role hpart _ _ hinv => ?_).bind fun later grants hlater => ?_
  · exact holds_ensure outline (.knownOnCluster hpart) (.createOnCluster hpart) hinv
  refine (outline.judges .judgeOnCluster hlater).bind fun later after hlater => ?_
  refine (Pass.holds_series (outline.tells .keysOnCluster fun _ _ => .recordOnCluster)
    hlater).bind fun later _ hlater => ?_
  split
  · next hlast => exact (outline.asks (.writeOnCluster hlast) hlater).bind fun _ _ hlast => hlast
  · next hmore =>
    have hmore := Bool.eq_false_iff.mpr hmore
    exact holds_grantInNamespaces outline (outline.turns (.goOn hmore) hlater)

theorem holds_noteMissing {point : Point} {type : ConditionType} {grants : String}
    {missing : List Value} {next : Tracker → Point}
    (hsome : missing.isEmpty = false →
      Flows space name point (.judges tracker (RoleGrants.lacking type missing) next))
    (hnone : missing.isEmpty = true → Flows space name point (.turns (next tracker)))
    (h : holds point state) :
    (noteMissing tracker context type grants (lackMessage type) missing).Holds logic
      (fun later after => holds (next after) later) failed state := by
  unfold noteMissing
  split
  · next hempty => exact outline.turns (hnone hempty) h
  · next hmissing =>
    refine (outline.log h).bind fun _ _ hlogged => ?_
    exact outline.judges (hsome (Bool.eq_false_iff.mpr hmissing)) hlogged

theorem holds_recordMissing {onCluster inNamespaces : List Value}
    (h : holds (.lacking policy tracker onCluster inNamespaces) state) :
    (recordMissing policy tracker context onCluster inNamespaces).Holds logic
      (fun later result => holds (.ended result) later) failed state := by
  unfold recordMissing
  refine ((outline.points _).count h rfl rfl).bind fun later _ hlater => ?_
  refine (holds_noteMissing outline .lackOnCluster .completeOnCluster hlater).bind
    fun later middle hlater => ?_
  refine (holds_noteMissing outline .lackInNamespaces .completeInNamespaces hlater).bind
    fun later after hlater => ?_
  exact (outline.asks .writeLack hlater).bind fun _ _ hlast => hlast

theorem holds_grant (hactive : policy.isDeleting = false)
    (h : holds (.checked policy tracker) state) :
    (grant policy tracker context).Holds logic (fun later result => holds (.ended result) later)
      failed state := by
  unfold grant
  refine (outline.asks (.roles hactive) h).bind fun later roles hlater => ?_
  refine (outline.asks .clusterBindings hlater).bind fun later bindings hlater => ?_
  refine (outline.tries .compareOnCluster hlater).bind fun later onCluster hlater => ?_
  refine (outline.tries .compareInNamespaces hlater).bind fun later inNamespaces hlater => ?_
  split
  · next hlack => exact holds_recordMissing outline (outline.turns (.lack hlack) hlater)
  next hcomplete =>
  have hcomplete := Bool.eq_false_iff.mpr hcomplete
  split
  · next hroles =>
    have hroles : policy.clusterPermissions.isEmpty = false := by simpa using hroles
    exact holds_grantOnCluster outline (outline.turns (.startOnCluster hcomplete hroles) hlater)
  next hroles =>
  have hroles : policy.clusterPermissions.isEmpty = true := by simpa using hroles
  split
  · next hpermissions =>
    have hpermissions : policy.permissions.isEmpty = false := by simpa using hpermissions
    exact holds_grantInNamespaces outline
      (outline.turns (.startInNamespaces hcomplete hroles hpermissions) hlater)
  · next hpermissions =>
    have hpermissions : policy.permissions.isEmpty = true := by simpa using hpermissions
    have hsettled := outline.turns (.upToDate hcomplete hroles hpermissions) hlater
    exact (holds_writeChanges outline hsettled).bind fun _ _ hlast => hlast

theorem holds_refuse {α : Type} {good : σ → α → Prop} {message : String}
    {types : List ConditionType} (h : holds (.refusing policy tracker message types []) state) :
    (refuse policy tracker context message types : Program α).Holds logic good failed state := by
  unfold refuse
  refine ((outline.points _).count h rfl rfl).bind fun later _ hlater => ?_
  refine (outline.log hlater).bind fun later _ hlater => ?_
  refine (holds_fold (fun done later after =>
    holds (.refusing policy after message types done) later) hlater
    fun _ _ hpart _ _ hinv => outline.judges (.note hpart) hinv).bind fun later after hlater => ?_
  rw [bind_eq, holds_bind, holds_attempt]
  refine Holds.mono (outline.edges .refuse hlater) (fun _ _ hlast => hlast)
    fun last failure hfailed => ?_
  dsimp only
  split
  · next hstore =>
    exact ((outline.failures _).log (hfailed.1 hstore)).bind fun _ _ hlogged => hlogged
  · next hother => exact hfailed.2 (Bool.eq_false_iff.mpr hother)

theorem holds_check (h : holds (.fetched policy) state) :
    (check policy context).Holds logic (fun later after => holds (.checked policy after) later)
      failed state := by
  unfold check
  dsimp only
  split
  · next hvalid => exact outline.tries (.forget hvalid) h
  · next message types hinvalid => exact holds_refuse outline (outline.turns (.breach hinvalid) h)
  · next failure hother hfailure => exact outline.tries (.break hfailure hother) h

theorem holds_release (hdeleting : policy.isDeleting = true)
    (h : holds (.checked policy tracker) state) :
    (release policy).Holds logic (fun later _ => holds (.ended { outcome := .deleted }) later)
      failed state :=
  (Pass.holds_release (outline.points _)
    (outline.tells (.releaseOnCluster hdeleting) fun _ _ => .clearOnCluster)
    (outline.tells .releaseInNamespaces fun _ _ => .clearInNamespaces) h).imp
    fun _ _ hlater => outline.turns .released hlater

theorem holds_work (h : holds .opened state) :
    (work space name context).Holds logic (fun later result => holds (.ended result) later) failed
      state := by
  unfold work
  refine (outline.finds .fetch h).bind fun later found hlater => ?_
  cases found with
  | none => exact hlater
  | some policy =>
    refine (holds_check outline hlater).bind fun later tracker hlater => ?_
    split
    · next hdeleting =>
      exact (holds_release outline hdeleting hlater).bind fun _ _ hlast => hlast
    · next hactive => exact holds_grant outline (Bool.eq_false_iff.mpr hactive) hlater

/-- A pass ends as its work does, once its end is counted. -/
theorem holds_run {better : σ → Result → Prop} {worse : σ → Failure → Prop}
    (hbetter : ∀ result, logic.Rests worse (better · result))
    (hopened : ∀ item, item.IsLine → logic.Takes worse (holds .opened) item state)
    (hend : ∀ ended later, (done ended).Holds logic (fun last result => holds (.ended result) last)
      failed later → (countEnd ended).Holds logic
        (fun last _ => (done ended).Holds logic better worse last) worse later) :
    (run space name).Holds logic better worse state := by
  unfold run
  refine (hopened (.log .info _) trivial).report.bind fun later _ hlater => ?_
  have hwork : (timed controller (work space name [("policy",
      .text s!"{space.plain}/{name.plain}")])).attempt.Holds logic
      (fun last ended => (done ended).Holds logic (fun last result => holds (.ended result) last)
        failed last) worse later :=
    holds_attempt.mpr (holds_timed (fun _ => outline.points _) outline.failures
      (holds_work outline hlater))
  refine hwork.bind fun later ended hlater => ?_
  refine (hend ended later hlater).bind fun later _ hlater => ?_
  refine Holds.bind hlater fun later result hlater => ?_
  exact ((hbetter result).log hlater).bind fun _ _ hlast => hlast

/-- A pass ends as its work does, where lines and counters do not matter. -/
theorem holds_run_of_isCalm [logic.IsCalm] (h : holds .opened state) :
    (run space name).Holds logic (fun later result => holds (.ended result) later) failed
      state := by
  refine holds_run outline (fun result => outline.points (.ended result))
    (fun item hline => outline.points .opened item hline state h) fun ended later hended => ?_
  cases ended with
  | ok result => exact holds_count.mpr hended
  | error failure =>
    cases failure with
    | invalidPolicy message types => exact holds_count.mpr hended
    | store fault message => exact holds_count.mpr hended
    | _ => exact hended

end

end PolicyPass

end RoleGrants
