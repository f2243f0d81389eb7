import RoleGrants.Proofs.Dating
import RoleGrants.Proofs.NamespaceChart
import RoleGrants.Proofs.PolicyChart
import RoleGrants.Proofs.Running
import RoleGrants.Proofs.Scope

/-! What the passes touch. Whatever is answered, a pass over a policy records and clears only series
of the policy that was kept under the key of the pass when it began, and writes no other; a pass
over a namespace keeps to the policies that were kept when it began. The conditions that are written
keep their times, and a pass that has a result tells in it exactly which bindings it created. -/

namespace RoleGrants

open DryRun

/-- The series of all that a policy grants. -/
def Policy.series (policy : Policy) : List Series :=
  policy.clusterPermissions.map (Pass.series policy clusterScope) ++
    policy.permissionRoles.map (Pass.series policy namespaceScope)

theorem Policy.mem_series_onCluster {policy : Policy} {role : Value}
    (h : role ∈ policy.clusterPermissions) :
    Pass.series policy clusterScope role ∈ policy.series :=
  List.mem_append_left _ (List.mem_map_of_mem h)

theorem Policy.mem_series_inNamespaces {policy : Policy} {role : Value}
    (h : role ∈ policy.permissionRoles) :
    Pass.series policy namespaceScope role ∈ policy.series :=
  List.mem_append_right _ (List.mem_map_of_mem h)

/-- What an answer tells of the policies that are kept. -/
def StoreCall.Tells (kept : List Policy) :
    (request : StoreCall) → Except Failure request.Answer → Prop
  | .getPolicy space name, answer =>
    ∀ policy, answer = .ok policy → kept.find? (Cluster.isPolicy space name) = some policy
  | .listPolicies, answer => ∀ listed, answer = .ok listed → listed = kept
  | _, _ => True

/-- The scope of a work on some of the policies that are kept at its start. The work may drop some
of their conditions; its states are the calls that it has made. -/
def Scope.around (kept : List Policy) (concerns : Policy → Prop)
    (drops : Policy → Condition → Prop) : Scope (List Event) where
  shows _ := True
  answers calls request answer later := later = calls ++ [.called request answer] ∧
    ((∀ event ∈ calls, ¬ event.IsWrite) → request.Tells kept answer)
  touches series := ∃ policy, concerns policy ∧ series ∈ policy.series
  writes written := ∃ policy conditions, concerns policy ∧
    Tracker.Keeps (drops policy) (Tracker.firstOfType policy.conditions) conditions ∧
    written = { policy with conditions }

/-- Whether a tracker starts from the conditions of a policy, keeps their times and drops only those
that it may. -/
def Tracker.Tracks (drops : Policy → Condition → Prop) (policy : Policy) (tracker : Tracker) :
    Prop :=
  tracker.Follows (drops policy) (Tracker.firstOfType policy.conditions)

namespace Pass

open Program

variable {kept : List Policy} {concerns : Policy → Prop} {drops : Policy → Condition → Prop}
  {calls : List Event} {policy : Policy} {tracker : Tracker}

theorem createdIn_called {request : StoreCall} {answer : Except Failure request.Answer}
    (h : (Event.called request answer).created? = none) :
    createdIn (calls ++ [.called request answer]) = createdIn calls := by
  simp [createdIn, h]

/-- A call that creates no binding. -/
theorem within_ask (request : StoreCall) {good : List Event → request.Answer → Prop}
    (hwithin : request.IsWithin (Scope.around kept concerns drops).writes)
    (hquiet : ∀ answer, (Event.called request answer).created? = none)
    (hgood : ∀ value later, createdIn later = createdIn calls → good later value) :
    (ask request).Within (.around kept concerns drops) good calls := by
  refine ⟨hwithin, ?_⟩
  rintro (failure | value) later ⟨rfl, -⟩
  · trivial
  · exact hgood value _ (createdIn_called (hquiet _))

theorem isWithin_writing (hconcerns : concerns policy) (htracks : tracker.Tracks drops policy) :
    (writing policy tracker).IsWithin (Scope.around kept concerns drops).writes :=
  ⟨policy, _, hconcerns, htracks.toKeeps, rfl⟩

/-- A verdict that is true keeps the types and the times of conditions. -/
theorem within_judge {verdict : Verdict} {good : List Event → Tracker → Prop}
    (htrue : verdict.status = true) (htracks : tracker.Tracks drops policy)
    (hgood : ∀ after, Tracker.Tracks drops policy after → good calls after) :
    (upsert tracker verdict).Within (.around kept concerns drops) good calls :=
  fun _ _ => within_ofExcept fun after hset =>
    hgood after (htracks.upsert (Tracker.pairwise_firstOfType _) hset htrue)

theorem within_report {item : Report} {good : List Event → Prop}
    (hwithin : item.IsWithin (Scope.around kept concerns drops).touches) (hgood : good calls) :
    (Program.report item .done).Within (.around kept concerns drops) (fun later _ => good later)
      calls :=
  ⟨hwithin, within_ofExcept fun _ _ => hgood⟩

theorem touches_onCluster {done : List Value} {role : Value} (hconcerns : concerns policy)
    (hpart : done ++ [role] <+: Value.distinct policy.clusterPermissions) :
    (Scope.around kept concerns drops).touches (series policy clusterScope role) :=
  ⟨policy, hconcerns, policy.mem_series_onCluster
    (mem_of_mem_distinct (hpart.subset List.mem_concat_self))⟩

theorem touches_inNamespaces {done : List Value} {role : Value} (hconcerns : concerns policy)
    (hpart : done ++ [role] <+: Value.distinct policy.permissionRoles) :
    (Scope.around kept concerns drops).touches (series policy namespaceScope role) :=
  ⟨policy, hconcerns, policy.mem_series_inNamespaces
    (mem_of_mem_distinct (hpart.subset List.mem_concat_self))⟩

theorem within_release (hconcerns : concerns policy) :
    (release policy).Within (.around kept concerns drops) (fun _ _ => True) calls := by
  have honCluster : (Scope.around kept concerns drops).logic.Tells (fun _ _ => True)
      (fun _ => True) (fun _ _ => True) (fun role => .clear (series policy clusterScope role))
      policy.clusterPermissions :=
    ⟨fun _ _ => ⟨fun _ _ => trivial, fun _ _ => trivial⟩,
      fun _ _ hpart _ _ => within_report (touches_onCluster hconcerns hpart) trivial⟩
  have hinNamespaces : (Scope.around kept concerns drops).logic.Tells (fun _ _ => True)
      (fun _ => True) (fun _ _ => True) (fun role => .clear (series policy namespaceScope role))
      policy.permissionRoles :=
    ⟨fun _ _ => ⟨fun _ _ => trivial, fun _ _ => trivial⟩,
      fun _ _ hpart _ _ => within_report (touches_inNamespaces hconcerns hpart) trivial⟩
  exact holds_release .of_isCalm honCluster hinNamespaces trivial

/-- A binding is among those created exactly if it is new. -/
theorem keeps_creates_around {purpose : String} {binding : Binding} {isCounted : Bool}
    {next : Bool → List Event → Prop}
    (hnext : ∀ isNew later,
      createdIn later = createdIn calls ++ (if isNew then [binding] else []) → next isNew later) :
    (Scope.around kept concerns drops).logic.call calls (.createBinding binding)
      fun answer later => Attempted (Scope.around kept concerns drops).logic (fun _ _ => True)
        purpose binding isCounted next answer later := by
  refine ⟨trivial, ?_⟩
  rintro answer later ⟨rfl, -⟩
  refine .of_isCalm ?_ ?_ fun _ _ _ => trivial
  · rintro value rfl
    exact hnext true _ (createdIn_append ..)
  · rintro message rfl
    exact hnext false _ ((createdIn_called rfl).trans (List.append_nil _).symm)

theorem Grants.created_add (grants : Grants) (binding : Binding) (isNew : Bool) :
    (grants.add binding isNew).created = grants.created ++ if isNew then [binding] else [] := by
  cases isNew with
  | true => rfl
  | false => exact (List.append_nil _).symm

end Pass

/-! ### A pass over a policy -/

namespace PolicyPass

open Program Pass

variable {kept : List Policy} {concerns : Policy → Prop} {drops : Policy → Condition → Prop}
  {calls later : List Event} {point next : Point}

/-- What holds at each point of a pass around some policies. -/
structure Confines (concerns : Policy → Prop) (drops : Policy → Condition → Prop) (point : Point)
    (calls : List Event) : Prop where
  opened : point = .opened → calls = []
  created : createdIn calls = point.created
  work : ∀ policy tracker, point.work? = some (policy, tracker) →
    concerns policy ∧ tracker.Tracks drops policy

/-- Whether the result of a pass tells which bindings were created in its calls. -/
def Result.Tells (calls : List Event) (result : Result) : Prop := result.created = createdIn calls

namespace Confines

/-- The pass goes on without a binding that is new and without a change of its conditions. -/
theorem turn (h : Confines concerns drops point calls) (hlater : createdIn later = createdIn calls)
    (hcreated : next.created = point.created) (hopened : next ≠ .opened)
    (hwork : ∀ work, next.work? = some work → point.work? = some work) :
    Confines concerns drops next later where
  opened heq := absurd heq hopened
  created := hlater.trans (h.created.trans hcreated.symm)
  work policy tracker heq := h.work policy tracker (hwork _ heq)

theorem judged {policy : Policy} {tracker after : Tracker} (h : Confines concerns drops point calls)
    (hwork : point.work? = some (policy, tracker)) (hcreated : next.created = point.created)
    (hopened : next ≠ .opened) (hnext : next.work? = some (policy, after))
    (htracks : after.Tracks drops policy) : Confines concerns drops next calls where
  opened heq := absurd heq hopened
  created := h.created.trans hcreated.symm
  work other others heq := by
    cases hnext.symm.trans heq
    exact ⟨(h.work _ _ hwork).1, htracks⟩

theorem obtained {binding : Binding} {isNew : Bool} (h : Confines concerns drops point calls)
    (hlater : createdIn later = createdIn calls ++ if isNew then [binding] else [])
    (hcreated : next.created = point.created ++ if isNew then [binding] else [])
    (hopened : next ≠ .opened)
    (hwork : ∀ work, next.work? = some work → point.work? = some work) :
    Confines concerns drops next later where
  opened heq := absurd heq hopened
  created := by rw [hlater, h.created, hcreated]
  work policy tracker heq := h.work policy tracker (hwork _ heq)

end Confines

theorem confines_outline (space name : Value)
    (hconcerns : ∀ policy, kept.find? (Cluster.isPolicy space name) = some policy → concerns policy)
    (hdrops : ∀ policy : Policy, policy.validate = .ok () → ∀ condition : Condition,
      condition.tellsOfBreach = true → drops policy condition) :
    Outline (Scope.around kept concerns drops).logic (Flows space name) (Confines concerns drops)
      (fun _ _ => True) := by
  refine .of_isCalm fun hedge calls h => ?_
  cases hedge with
  | fetch =>
    cases h.opened rfl
    refine ⟨trivial, ?_⟩
    rintro (failure | policy) later ⟨rfl, htells⟩
    · exact ⟨fun _ _ => h.turn rfl rfl nofun nofun, fun _ => trivial⟩
    · refine ⟨nofun, rfl, ?_⟩
      rintro _ _ ⟨⟩
      have hfound := htells (fun _ hnone => absurd hnone List.not_mem_nil) policy rfl
      exact ⟨hconcerns policy hfound, .start⟩
  | @forget policy hvalid =>
    refine ⟨fun after hforgot => h.judged rfl rfl nofun rfl ?_, fun _ _ => trivial⟩
    exact Tracker.Follows.start.forgetBreaches (Tracker.pairwise_firstOfType _) (fun _ => id)
      (fun condition _ => hdrops policy hvalid condition) hforgot
  | «break» => exact ⟨nofun, fun _ _ => trivial⟩
  | note | lackOnCluster | lackInNamespaces | judgeOnCluster | judgeInNamespaces =>
    exact within_judge rfl (h.work _ _ rfl).2 fun _ => h.judged rfl rfl nofun rfl
  | refuse =>
    refine ⟨isWithin_writing (h.work _ _ rfl).1 (h.work _ _ rfl).2, ?_⟩
    rintro (failure | value) later -
    · exact ⟨fun _ => trivial, fun _ => trivial⟩
    · trivial
  | clearOnCluster hpart | recordOnCluster hpart =>
    exact within_report (touches_onCluster (h.work _ _ rfl).1 hpart)
      (h.turn rfl rfl nofun fun _ => id)
  | clearInNamespaces hpart | recordInNamespaces hpart =>
    exact within_report (touches_inNamespaces (h.work _ _ rfl).1 hpart)
      (h.turn rfl rfl nofun fun _ => id)
  | roles =>
    exact within_ask .listClusterRoles trivial (fun _ => rfl)
      fun _ _ hlater => h.turn hlater rfl nofun fun _ => id
  | clusterBindings =>
    exact within_ask .listClusterRoleBindings trivial (fun _ => rfl)
      fun _ _ hlater => h.turn hlater rfl nofun fun _ => id
  | namespaces =>
    exact within_ask .listNamespaces trivial (fun _ => rfl)
      fun _ _ hlater => h.turn hlater rfl nofun fun _ => id
  | bindings =>
    exact within_ask (.listRoleBindings none) trivial (fun _ => rfl)
      fun _ _ hlater => h.turn hlater rfl nofun fun _ => id
  | writeLack | writeOnCluster | writeInNamespaces | writeChanges =>
    exact within_ask (writing _ _) (isWithin_writing (h.work _ _ rfl).1 (h.work _ _ rfl).2)
      (fun _ => rfl) fun _ _ hlater => h.turn hlater rfl nofun nofun
  | releaseOnCluster | releaseInNamespaces | compareOnCluster | compareInNamespaces | keysOnCluster
    | keysInNamespaces | select =>
    exact ⟨fun _ _ => h.turn rfl rfl nofun fun _ => id, fun _ _ => trivial⟩
  | createOnCluster | createInTarget =>
    exact keeps_creates_around fun isNew _ hlater =>
      h.obtained hlater (Grants.created_add ..) nofun fun _ => id
  | @goOn _ _ _ grants hnone =>
    have hnone : grants.created = [] := by simpa using (Bool.or_eq_false_iff.mp hnone).1
    exact h.turn rfl hnone.symm nofun fun _ => id
  | released | keep => exact h.turn rfl rfl nofun nofun
  | breach | lack | completeOnCluster | completeInNamespaces | startOnCluster | knownOnCluster
    | startInNamespaces | upToDate | selectNone | knownInTarget | leaveTargets | incomplete =>
    exact h.turn rfl rfl nofun fun _ => id

theorem within_run (space name : Value)
    (hconcerns : ∀ policy, kept.find? (Cluster.isPolicy space name) = some policy → concerns policy)
    (hdrops : ∀ policy : Policy, policy.validate = .ok () → ∀ condition : Condition,
      condition.tellsOfBreach = true → drops policy condition) :
    (run space name).Within (.around kept concerns drops) Result.Tells [] := by
  refine Holds.imp (holds_run_of_isCalm (confines_outline space name hconcerns hdrops) ?_)
    fun _ _ h => h.created.symm
  exact ⟨fun _ => rfl, rfl, nofun⟩

end PolicyPass

/-! ### A pass over a namespace -/

namespace NamespacePass

open Program Pass

variable {kept : List Policy} {concerns : Policy → Prop} {drops : Policy → Condition → Prop}
  {calls later : List Event} {point next : Point}

/-- Whether a pass has still to read policies. -/
def Point.isOpening : Point → Bool
  | .opened | .found _ | .visited => true
  | _ => false

/-- What holds at each point of a pass around some policies. -/
structure Confines (concerns : Policy → Prop) (drops : Policy → Condition → Prop) (point : Point)
    (calls : List Event) : Prop where
  opening : point.isOpening = true → ∀ event ∈ calls, ¬ event.IsWrite
  created : createdIn calls = point.created
  policies : ∀ policy ∈ point.policies, concerns policy
  policy : ∀ policy, point.policy? = some policy → concerns policy
  tracker : ∀ policy tracker, point.work? = some (policy, tracker) → tracker.Tracks drops policy

/-- Whether the result of a pass tells which bindings were created in its calls. -/
def Result.Tells (calls : List Event) (result : Result) : Prop := result.created = createdIn calls

namespace Confines

/-- The pass goes on without a binding that is new, and with policies that it has read. -/
theorem turn (h : Confines concerns drops point calls) (hlater : createdIn later = createdIn calls)
    (hcreated : next.created = point.created) (hopening : next.isOpening = false)
    (hpolicies : ∀ policy ∈ next.policies, policy ∈ point.policies)
    (hpolicy : ∀ policy, next.policy? = some policy →
      point.policy? = some policy ∨ policy ∈ point.policies)
    (hwork : ∀ work, next.work? = some work → point.work? = some work) :
    Confines concerns drops next later where
  opening heq := by cases hopening.symm.trans heq
  created := hlater.trans (h.created.trans hcreated.symm)
  policies other hmem := h.policies other (hpolicies other hmem)
  policy other heq := (hpolicy other heq).elim (h.policy other) (h.policies other)
  tracker other tracker heq := h.tracker other tracker (hwork _ heq)

end Confines

theorem confines_outline (name : Value) (hconcerns : ∀ policy ∈ kept, concerns policy) :
    Outline (Scope.around kept concerns drops).logic (Flows name) (Confines concerns drops)
      (fun _ _ => True) := by
  refine .of_isCalm fun hedge calls h => ?_
  cases hedge with
  | fetch =>
    refine ⟨trivial, ?_⟩
    rintro (failure | found) later ⟨rfl, -⟩
    · refine ⟨fun _ _ => ?_, fun _ => trivial⟩
      exact h.turn (createdIn_called rfl) rfl rfl (fun _ => id) nofun nofun
    · refine ⟨fun _ event hmem => ?_, (createdIn_called rfl).trans h.created, nofun, nofun, nofun⟩
      rcases List.mem_append.mp hmem with hmem | hmem
      · exact h.opening rfl event hmem
      · cases List.mem_singleton.mp hmem
        exact id
  | passOver => exact h.turn rfl rfl rfl (fun _ => id) nofun nofun
  | visit => exact ⟨fun _ => h.opening rfl, h.created, nofun, nofun, nofun⟩
  | policies =>
    refine ⟨trivial, ?_⟩
    rintro (failure | policies) later ⟨rfl, htells⟩
    · trivial
    · cases htells (h.opening rfl) policies rfl
      exact ⟨nofun, (createdIn_called rfl).trans h.created, hconcerns, nofun, nofun⟩
  | none => exact h.turn rfl rfl rfl nofun nofun nofun
  | roles =>
    exact within_ask .listClusterRoles trivial (fun _ => rfl)
      fun _ _ hlater => h.turn hlater rfl rfl (fun _ => id) nofun nofun
  | keys => exact ⟨fun _ _ => h.turn rfl rfl rfl (fun _ => id) nofun nofun, fun _ _ => trivial⟩
  | bindings =>
    exact within_ask (.listRoleBindings (some name)) trivial (fun _ => rfl)
      fun _ _ hlater => h.turn hlater rfl rfl (fun _ => id) nofun nofun
  | deleting | invalid => exact h.turn rfl rfl rfl (fun _ => id) nofun nofun
  | «break» => exact ⟨nofun, fun _ _ => trivial⟩
  | start hpart =>
    refine h.turn rfl (List.append_nil _) rfl (fun _ => id) ?_ nofun
    rintro _ ⟨⟩
    exact .inr (hpart.subset List.mem_concat_self)
  | key | choose | compare =>
    exact ⟨fun _ _ => h.turn rfl rfl rfl (fun _ => id) (fun _ => .inl) nofun, fun _ _ => trivial⟩
  | lack | leave | known | finish | others | keep =>
    exact h.turn rfl rfl rfl (fun _ => id) (fun _ => .inl) nofun
  | create =>
    refine keeps_creates_around fun isNew later hlater =>
      ⟨nofun, hlater.trans ?_, h.policies, h.policy, nofun⟩
    rw [h.created]
    simp only [Point.created, Grants.created_add, List.append_assoc]
  | namespaces =>
    exact within_ask .listNamespaces trivial (fun _ => rfl)
      fun _ _ hlater => h.turn hlater rfl rfl (fun _ => id) (fun _ => .inl) nofun
  | allBindings =>
    exact within_ask (.listRoleBindings .none) trivial (fun _ => rfl)
      fun _ _ hlater => h.turn hlater rfl rfl (fun _ => id) (fun _ => .inl) nofun
  | judge =>
    refine within_judge rfl .start fun tracker htracks =>
      ⟨nofun, h.created, h.policies, h.policy, ?_⟩
    rintro _ _ ⟨⟩
    exact htracks
  | recordKeys =>
    exact ⟨fun _ _ => h.turn rfl rfl rfl (fun _ => id) (fun _ => .inl) fun _ => id,
      fun _ _ => trivial⟩
  | record hpart =>
    exact within_report (touches_inNamespaces (h.policy _ rfl) hpart)
      (h.turn rfl rfl rfl (fun _ => id) (fun _ => .inl) fun _ => id)
  | write =>
    exact within_ask (writing _ _)
      (isWithin_writing (h.policy _ rfl) (h.tracker _ _ rfl)) (fun _ => rfl)
      fun _ _ hlater => h.turn hlater rfl rfl (fun _ => id) (fun _ => .inl) nofun
  | next => exact h.turn rfl rfl rfl (fun _ => id) nofun nofun
  | finishAll => exact h.turn rfl rfl rfl nofun nofun nofun

theorem within_run (name : Value) (hconcerns : ∀ policy ∈ kept, concerns policy) :
    (run name).Within (.around kept concerns drops) Result.Tells [] := by
  refine Holds.imp (holds_run_of_isCalm (confines_outline name hconcerns) ?_)
    fun _ _ h => h.created.symm
  exact ⟨fun _ _ hnone => absurd hnone List.not_mem_nil, rfl, nofun, nofun, nofun⟩

end NamespacePass

end RoleGrants
