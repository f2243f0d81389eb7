import RoleGrants.Proofs.Chart
import RoleGrants.Pass.Namespace

/-! The chart of a pass over a namespace. Its points are those between the calls of the pass, each
with what the pass has learned and done by then. A pass ends as an outline of the chart says that it
does. -/

namespace RoleGrants.NamespacePass

open Program Pass

/-- What a pass has learned and done when it comes to a policy. -/
structure Visit where
  policies : List Policy
  roles : List Value
  done : List Policy
  before : Grants
  policy : Policy

/-- The points of a pass over a namespace. -/
inductive Point where
  | opened
  | found (space : Namespace)
  | visited
  | read (policies : List Policy)
  | supplying (policies : List Policy) (roles : List Value)
  | supplied (policies : List Policy) (roles : List Value)
  /-- Some of the policies are done. -/
  | serving (policies : List Policy) (roles : List Value) (done : List Policy) (grants : Grants)
  /-- Some of the permissions of a policy are done. -/
  | granting (visit : Visit) (done : List Permission) (grants : Grants)
  | choosing (visit : Visit) (done : List Permission) (permission : Permission) (grants : Grants)
  | chosen (visit : Visit) (done : List Permission) (permission : Permission) (grants : Grants)
      (targets : List Value)
  | located (visit : Visit) (grants : Grants) (spaces : List Namespace)
  | compared (visit : Visit) (grants : Grants) (spaces : List Namespace) (bindings : List Binding)
  /-- Whether the policy is granted everywhere is known. -/
  | answered (visit : Visit) (grants : Grants) (isFull : Bool)
  | judged (visit : Visit) (grants : Grants) (tracker : Tracker)
  /-- The series of some of the roles of a policy are recorded. -/
  | recording (visit : Visit) (grants : Grants) (tracker : Tracker) (done : List Value)
  | granted (visit : Visit) (grants : Grants)
  | ended (result : Result)

namespace Point

/-- The policies that a pass has read. -/
def policies : Point → List Policy
  | .opened | .found _ | .visited | .ended _ => []
  | .read policies | .supplying policies _ | .supplied policies _ | .serving policies _ _ _ =>
    policies
  | .granting visit _ _ | .choosing visit _ _ _ | .chosen visit _ _ _ _ | .located visit _ _
    | .compared visit _ _ _ | .answered visit _ _ | .judged visit _ _ | .recording visit _ _ _
    | .granted visit _ => visit.policies

/-- The policy that a pass has come to. -/
def policy? : Point → Option Policy
  | .granting visit _ _ | .choosing visit _ _ _ | .chosen visit _ _ _ _ | .located visit _ _
    | .compared visit _ _ _ | .answered visit _ _ | .judged visit _ _ | .recording visit _ _ _
    | .granted visit _ => some visit.policy
  | _ => none

/-- The policy whose conditions a pass has set, with these. -/
def work? : Point → Option (Policy × Tracker)
  | .judged visit _ tracker | .recording visit _ tracker _ => some (visit.policy, tracker)
  | _ => none

/-- The bindings that a pass has created. -/
def created : Point → List Binding
  | .serving _ _ _ grants => grants.created
  | .granting visit _ grants | .choosing visit _ _ grants | .chosen visit _ _ grants _
    | .located visit grants _ | .compared visit grants _ _ | .answered visit grants _
    | .judged visit grants _ | .recording visit grants _ _ | .granted visit grants =>
    visit.before.created ++ grants.created
  | .ended result => result.created
  | _ => []

end Point

/-- What a pass over the namespace `name` may do at each of its points. -/
inductive Flows (name : Value) : Chart Point
  | fetch : Flows name .opened (.finds "fetch Namespace" (.getNamespace name) .found
      (.ended { space := name, skipped := true }))
  | passOver {space : Namespace} : space.isValid = false →
      Flows name (.found space) (.turns (.ended { space := name, skipped := true }))
  | visit {space : Namespace} : space.isValid = true → Flows name (.found space) (.turns .visited)
  | policies : Flows name .visited (.asks "list PermissionPolicies" .listPolicies .read)
  | none {policies : List Policy} : policies.isEmpty = true →
      Flows name (.read policies) (.turns (.ended { space := name }))
  | roles {policies : List Policy} : policies.isEmpty = false → Flows name (.read policies)
      (.asks "list ClusterRoles" .listClusterRoles (.supplying policies))
  | keys {policies : List Policy} {roles : List Value} : Flows name (.supplying policies roles)
      (.tries (Value.requireKeys roles) fun _ => .supplied policies roles)
  | bindings {policies : List Policy} {roles : List Value} : Flows name (.supplied policies roles)
      (.asks "list RoleBindings" (.listRoleBindings (some name)) fun bindings =>
        .serving policies roles [] { index := .ofList bindings })
  | deleting {policies done : List Policy} {roles : List Value} {grants : Grants}
      {policy : Policy} : done ++ [policy] <+: policies → policy.isDeleting = true →
      Flows name (.serving policies roles done grants)
      (.turns (.serving policies roles (done ++ [policy]) grants))
  | invalid {policies done : List Policy} {roles : List Value} {grants : Grants} {policy : Policy}
      {message : String} {types : List ConditionType} : done ++ [policy] <+: policies →
      policy.validate = .error (.invalidPolicy message types) →
      Flows name (.serving policies roles done grants)
      (.turns (.serving policies roles (done ++ [policy]) grants))
  | break {policies done : List Policy} {roles : List Value} {grants : Grants} {policy : Policy}
      {failure : Failure} : done ++ [policy] <+: policies → policy.validate = .error failure →
      (∀ message types, failure ≠ .invalidPolicy message types) →
      Flows name (.serving policies roles done grants)
      (.tries (.error failure) fun () => .serving policies roles (done ++ [policy]) grants)
  | start {policies done : List Policy} {roles : List Value} {grants : Grants} {policy : Policy} :
      done ++ [policy] <+: policies → policy.isDeleting = false → policy.validate = .ok () →
      Flows name (.serving policies roles done grants)
      (.turns (.granting ⟨policies, roles, done, grants, policy⟩ [] { index := grants.index }))
  | key {visit : Visit} {done : List Permission} {permission : Permission} {grants : Grants} :
      done ++ [permission] <+: visit.policy.permissions → Flows name (.granting visit done grants)
      (.tries (Value.requireKeys [permission.role]) fun _ => .choosing visit done permission grants)
  | lack {visit : Visit} {done : List Permission} {permission : Permission} {grants : Grants} :
      visit.roles.contains permission.role = false →
      Flows name (.choosing visit done permission grants)
      (.turns (.granting visit (done ++ [permission]) grants))
  | choose {visit : Visit} {done : List Permission} {permission : Permission} {grants : Grants} :
      visit.roles.contains permission.role = true →
      Flows name (.choosing visit done permission grants)
      (.tries (Safelist.resolve permission.allowed permission.denied [name])
        (.chosen visit done permission grants))
  | leave {visit : Visit} {done : List Permission} {permission : Permission} {grants : Grants}
      {targets : List Value} : targets.contains name = false →
      Flows name (.chosen visit done permission grants targets)
      (.turns (.granting visit (done ++ [permission]) grants))
  | known {visit : Visit} {done : List Permission} {permission : Permission} {grants : Grants}
      {targets : List Value} : targets.contains name = true →
      grants.index.exists? (Binding.inNamespace permission.role visit.policy name).name
        (some name) = true → Flows name (.chosen visit done permission grants targets)
      (.turns (.granting visit (done ++ [permission]) grants))
  | create {visit : Visit} {done : List Permission} {permission : Permission} {grants : Grants}
      {targets : List Value} : targets.contains name = true →
      grants.index.exists? (Binding.inNamespace permission.role visit.policy name).name
        (some name) = false → Flows name (.chosen visit done permission grants targets)
      (.creates "create RoleBinding" (.inNamespace permission.role visit.policy name) false
        fun isNew => .granting visit (done ++ [permission])
          (grants.add (.inNamespace permission.role visit.policy name) isNew))
  | finish {visit : Visit} {grants : Grants} : (grants.created.isEmpty ||
        !visit.policy.permissionRoles.all visit.roles.contains) = true →
      Flows name (.granting visit visit.policy.permissions grants) (.turns (.granted visit grants))
  | namespaces {visit : Visit} {grants : Grants} : (grants.created.isEmpty ||
        !visit.policy.permissionRoles.all visit.roles.contains) = false →
      Flows name (.granting visit visit.policy.permissions grants)
      (.asks "list Namespaces" .listNamespaces (.located visit grants))
  | allBindings {visit : Visit} {grants : Grants} {spaces : List Namespace} :
      Flows name (.located visit grants spaces)
      (.asks "list RoleBindings" (.listRoleBindings .none) (.compared visit grants spaces))
  | compare {visit : Visit} {grants : Grants} {spaces : List Namespace} {bindings : List Binding} :
      Flows name (.compared visit grants spaces bindings)
      (.tries (isGranted visit.policy (validNames spaces) (.ofList bindings)
        visit.policy.permissions) (.answered visit grants))
  | others {visit : Visit} {grants : Grants} :
      Flows name (.answered visit grants false) (.turns (.granted visit grants))
  | judge {visit : Visit} {grants : Grants} : Flows name (.answered visit grants true)
      (.judges (.start visit.policy.conditions)
        (Pass.granted .roleBindingCreated visit.policy.permissionRoles) (.judged visit grants))
  | recordKeys {visit : Visit} {grants : Grants} {tracker : Tracker} :
      Flows name (.judged visit grants tracker)
      (.tries (Value.requireKeys visit.policy.permissionRoles)
        fun _ => .recording visit grants tracker [])
  | record {visit : Visit} {grants : Grants} {tracker : Tracker} {done : List Value}
      {role : Value} : done ++ [role] <+: Value.distinct visit.policy.permissionRoles →
      Flows name (.recording visit grants tracker done)
      (.reports (.record (series visit.policy namespaceScope role) true)
        (.recording visit grants tracker (done ++ [role])))
  | write {visit : Visit} {grants : Grants} {tracker : Tracker} : tracker.changed = true → Flows
      name (.recording visit grants tracker (Value.distinct visit.policy.permissionRoles))
      (.asks "update PermissionPolicy status" (writing visit.policy tracker)
        fun _ => .granted visit grants)
  | keep {visit : Visit} {grants : Grants} {tracker : Tracker} : tracker.changed = false → Flows
      name (.recording visit grants tracker (Value.distinct visit.policy.permissionRoles))
      (.turns (.granted visit grants))
  | next {visit : Visit} {grants : Grants} : Flows name (.granted visit grants)
      (.turns (.serving visit.policies visit.roles (visit.done ++ [visit.policy])
        { grants with created := visit.before.created ++ grants.created }))
  | finishAll {policies : List Policy} {roles : List Value} {grants : Grants} :
      Flows name (.serving policies roles policies grants)
      (.turns (.ended { space := name, created := grants.created }))

section

variable {σ : Type} {logic : Logic σ} {name : Value} {holds : Point → σ → Prop}
  {failed : σ → Failure → Prop} {state : σ} {visit : Visit} {context : List (String × Value)}
  (outline : Outline logic (Flows name) holds failed)

include outline

/-- A binding is created, or it exists. -/
theorem holds_create {point : Point} {binding : Binding} {next : Bool → Point}
    (hedge : Flows name point (.creates "create RoleBinding" binding false next))
    (h : holds point state) :
    (create binding context).Holds logic (fun later isNew => holds (next isNew) later) failed
      state := by
  unfold create
  -- A binding that exists is counted in the step, and one that is new only after it.
  refine Holds.bind (?_ : Holds logic (fun later isNew =>
    (isNew = true → logic.Takes failed (holds (next true))
      (.count (.creations binding.kind "created")) later) ∧
    (isNew = false → holds (next false) later)) failed state _) fun later isNew hlater => ?_
  · refine Holds.inStep outline.failures ?_
    refine logic.call_mono (outline.edges hedge h) fun answer later hattempted => ?_
    cases answer with
    | ok value => exact ⟨fun _ => hattempted.created value rfl, nofun⟩
    | error failure =>
      dsimp only [attempt, Program.bind]
      split
      · next heq => cases heq
      · next message heq =>
        cases heq
        exact ((hattempted.existed message rfl).within _).report.bind
          fun _ _ hlast => ⟨nofun, fun _ => hlast⟩
      · next other hother heq =>
        cases heq
        exact hattempted.uncounted failure rfl (.inl rfl) hother
  · cases isNew with
    | true =>
      exact (hlater.1 rfl).report.bind fun _ _ hcounted =>
        (outline.log hcounted).bind fun _ _ hlast => hlast
    | false => exact hlater.2 rfl

theorem holds_grantPermission {done : List Permission} {permission : Permission} {grants : Grants}
    (hpart : done ++ [permission] <+: visit.policy.permissions)
    (h : holds (.granting visit done grants) state) :
    (grantPermission visit.policy name visit.roles context grants permission).Holds logic
      (fun later after => holds (.granting visit (done ++ [permission]) after) later) failed
      state := by
  unfold grantPermission
  refine (outline.tries (.key hpart) h).bind fun later _ hlater => ?_
  split
  · next hlack =>
    have hlack : visit.roles.contains permission.role = false := by simpa using hlack
    exact (outline.log hlater).bind fun _ _ hlogged => outline.turns (.lack hlack) hlogged
  next hrole =>
  have hrole : visit.roles.contains permission.role = true := by simpa using hrole
  refine (outline.tries (.choose hrole) hlater).bind fun later targets hlater => ?_
  split
  · next hother =>
    have hother : targets.contains name = false := by simpa using hother
    exact outline.turns (.leave hother) hlater
  next htarget =>
  have htarget : targets.contains name = true := by simpa using htarget
  dsimp only
  split
  · next hknown => exact outline.turns (.known htarget hknown) hlater
  · next hnew =>
    have hedge : Flows name (.chosen visit done permission grants targets) _ :=
      .create htarget (Bool.eq_false_iff.mpr hnew)
    exact (holds_create outline hedge hlater).bind fun _ _ hlast => hlast

theorem holds_fullyGranted {grants : Grants} (h : holds (.granting visit visit.policy.permissions
    grants) state) (hmore : (grants.created.isEmpty ||
      !visit.policy.permissionRoles.all visit.roles.contains) = false) :
    (fullyGranted visit.policy).Holds logic
      (fun later isFull => holds (.answered visit grants isFull) later) failed state := by
  unfold fullyGranted
  refine (outline.asksNamespaces (.namespaces hmore) h).bind ?_
  rintro later _ ⟨spaces, rfl, hlater⟩
  refine (outline.asks .allBindings hlater).bind fun later bindings hlater => ?_
  exact outline.tries .compare hlater

theorem holds_recordGranted {grants : Grants} (h : holds (.answered visit grants true) state) :
    (recordGranted visit.policy).Holds logic (fun later _ => holds (.granted visit grants) later)
      failed state := by
  unfold recordGranted
  refine (outline.judges .judge h).bind fun later tracker hlater => ?_
  refine (Pass.holds_series (outline.tells .recordKeys fun _ _ => .record) hlater).bind
    fun later _ hlater => ?_
  split
  · next hchanged => exact outline.asks (.write hchanged) hlater
  · next hsame => exact outline.turns (.keep (Bool.eq_false_iff.mpr hsame)) hlater

theorem holds_grant {index : BindingIndex} (h : holds (.granting visit [] { index }) state) :
    (grant visit.policy name visit.roles context index).Holds logic
      (fun later grants => holds (.granted visit grants) later) failed state := by
  unfold grant
  refine (holds_fold (fun done later grants => holds (.granting visit done grants) later) h
    fun done permission hpart _ _ hinv => holds_grantPermission outline hpart hinv).bind
    fun later grants hlater => ?_
  split
  · next hlast => exact outline.turns (.finish hlast) hlater
  next hmore =>
  refine (holds_fullyGranted outline hlater (Bool.eq_false_iff.mpr hmore)).bind
    fun later isFull hlater => ?_
  cases isFull with
  | true => exact (holds_recordGranted outline hlater).bind fun _ _ hlast => hlast
  | false => exact (outline.log hlater).bind fun _ _ hlogged => outline.turns .others hlogged

theorem holds_apply {policies done : List Policy} {roles : List Value} {grants : Grants}
    {policy : Policy} (hpart : done ++ [policy] <+: policies)
    (h : holds (.serving policies roles done grants) state) :
    (apply name roles grants policy).Holds logic
      (fun later after => holds (.serving policies roles (done ++ [policy]) after) later) failed
      state := by
  unfold apply
  dsimp only
  split
  · next hdeleting =>
    exact (outline.log h).bind fun _ _ hlogged => outline.turns (.deleting hpart hdeleting) hlogged
  next hactive =>
  split
  · next message types hinvalid =>
    exact (outline.log h).bind fun _ _ hlogged => outline.turns (.invalid hpart hinvalid) hlogged
  · next failure hother hfailure =>
    exact ((outline.edges (.break hpart hfailure hother) h).2 failure rfl :)
  · next hvalid =>
    have hstarted := outline.turns (.start hpart (Bool.eq_false_iff.mpr hactive) hvalid) h
    refine (holds_grant outline hstarted).bind fun later after hlater => ?_
    exact outline.turns .next hlater

theorem holds_applyAll (h : holds .visited state) :
    (applyAll name context).Holds logic (fun later result => holds (.ended result) later) failed
      state := by
  unfold applyAll
  refine (outline.asks .policies h).bind fun later policies hlater => ?_
  split
  · next hnone => exact outline.turns (.none hnone) hlater
  next hsome =>
  refine Holds.bind (?_ : Holds logic (fun later roles => holds (.supplied policies roles) later)
    failed later _) fun later roles hlater => ?_
  · refine Holds.inStep outline.failures
      (Holds.bind (outline.edges (.roles (Bool.eq_false_iff.mpr hsome)) hlater) ?_)
    intro later roles hlater
    obtain ⟨hkeyed, hfailed⟩ := outline.edges .keys hlater
    rw [bind_eq, holds_bind, holds_ofExcept]
    refine ⟨fun _ heq => hkeyed _ heq, fun failure heq => ?_⟩
    cases requireKeys_failed heq
    exact hfailed _ heq
  refine (outline.asks .bindings hlater).bind fun later bindings hlater => ?_
  refine (holds_fold (fun done later grants => holds (.serving policies roles done grants) later)
    hlater fun done policy hpart _ _ hinv => holds_apply outline hpart hinv).bind
    fun later grants hlater => ?_
  have hended := outline.turns .finishAll hlater
  split
  · exact (outline.log hended).bind fun _ _ hlast => hlast
  · exact hended

theorem holds_work (h : holds .opened state) :
    (work name context).Holds logic (fun later result => holds (.ended result) later) failed
      state := by
  unfold work
  refine (outline.finds .fetch h).bind fun later found hlater => ?_
  cases found with
  | none => exact hlater
  | some space =>
    dsimp only
    split
    · next hinvalid =>
      have hinvalid : space.isValid = false := by simpa using hinvalid
      have hended := outline.turns (.passOver hinvalid) hlater
      exact (outline.log hended).bind fun _ _ hlast => hlast
    · next hvalid =>
      have hvalid : space.isValid = true := by simpa using hvalid
      exact holds_applyAll outline (outline.turns (.visit hvalid) hlater)

/-- A pass ends as its work does, once its end is counted. -/
theorem holds_run {better : σ → Result → Prop} {worse : σ → Failure → Prop}
    (h : holds .opened state)
    (hend : ∀ ended later, (done ended).Holds logic (fun last result => holds (.ended result) last)
      failed later → (countEnd ended).Holds logic
        (fun last _ => (done ended).Holds logic better worse last) worse later) :
    (run name).Holds logic better worse state := by
  unfold run
  have hwork : (timed controller (work name [("namespace", name)])).attempt.Holds logic
      (fun last ended => (done ended).Holds logic (fun last result => holds (.ended result) last)
        failed last) worse state :=
    holds_attempt.mpr (holds_timed (fun _ => outline.points _) outline.failures
      (holds_work outline h))
  refine hwork.bind fun later ended hlater => ?_
  exact (hend ended later hlater).bind fun _ _ hlast => hlast

/-- A pass ends as its work does, where lines and counters do not matter. -/
theorem holds_run_of_isCalm [logic.IsCalm] (h : holds .opened state) :
    (run name).Holds logic (fun later result => holds (.ended result) later) failed state := by
  refine holds_run outline h fun ended later hended => ?_
  cases ended with
  | ok result => exact holds_count.mpr hended
  | error failure =>
    cases failure with
    | store fault message => exact holds_count.mpr hended
    | _ => exact hended

end

end RoleGrants.NamespacePass
