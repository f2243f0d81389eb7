import RoleGrants.Proofs.NamespaceChart
import RoleGrants.Proofs.NamespacePass
import RoleGrants.Proofs.Stopping

/-! Which failures come out of passes over a store that fails only for reasons of its own and else
answers with sound objects. A pass over a policy fails only for the store or for a breach of the
rules by its policy, and a pass over a namespace only for the store. -/

namespace RoleGrants

/-- Whether a call fails only for reasons of the store, and else is answered as is to be
expected. -/
def StoreCall.IsSound (request : StoreCall) : Except Failure request.Answer → Prop
  | .ok value => request.IsRegular (.ok value)
  | .error failure => failure.isStore = true

/-- The regime of calls that are answered with sound objects or fail for reasons of the store, in
whatever order. -/
def Regime.sound : Regime Unit where
  shows moment := ∃ text, Timestamp.ofMoment moment = .ok text
  answers _ request answer _ := request.IsSound answer

theorem Failure.isStore_within {failure : Failure} (h : failure.isStore = true)
    (description : String) : (failure.within description).isStore = true := by
  cases failure with
  | store fault message => rfl
  | _ => cases h

namespace Pass

open Program

variable {α : Type} {kind : Failure → Prop} {policy : Policy} {tracker : Tracker}

theorem holds_ask_sound (request : StoreCall) {purpose : String} {good : request.Answer → Prop}
    (hstore : ∀ failure, failure.isStore = true → kind failure)
    (hgood : ∀ value, request.IsRegular (.ok value) → good value) :
    (ask request).Holds Regime.sound.logic (fun _ => good)
      (fun _ failure => kind (failure.within purpose)) () := by
  rintro (failure | value) later hanswer
  · exact hstore _ (Failure.isStore_within hanswer purpose)
  · exact hgood value hanswer

theorem holds_find_sound (request : StoreCall) {purpose : String} {good : request.Answer → Prop}
    {absent : Prop} (hstore : ∀ failure, failure.isStore = true → kind failure)
    (hgood : ∀ value, request.IsRegular (.ok value) → good value) (habsent : absent) :
    (ask request).Holds Regime.sound.logic (fun _ => good)
      (fun _ failure => (∀ message, failure = .store .notFound message → absent) ∧
        ((∀ message, failure ≠ .store .notFound message) → kind (failure.within purpose))) () :=
  (holds_ask_sound request hstore hgood).mono (fun _ _ h => h)
    fun _ _ hfailed => ⟨fun _ _ => habsent, fun _ => hfailed⟩

theorem holds_judge_sound {verdict : Verdict} {good : Tracker → Prop}
    (hroles : ∀ role ∈ verdict.roles, role.IsText) (hgood : ∀ after, good after) :
    (upsert tracker verdict).Holds Regime.sound.logic (fun _ => good) (fun _ => kind) () :=
  fun _ hshown => holds_ofExcept.mpr ⟨fun after _ => hgood after, fun _ hfailure =>
    absurd hshown (not_upsert hroles hfailure)⟩

theorem keeps_keys_sound {values : List Value} {point : Prop}
    (h : ∀ value ∈ values, value.IsText) (hpoint : point) :
    (∀ value, Value.requireKeys values = .ok value → point) ∧
      ∀ failure, Value.requireKeys values = .error failure → kind failure := by
  rw [requireKeys_texts h]
  exact ⟨fun _ _ => hpoint, nofun⟩

theorem holds_report_sound {item : Report} {point : Prop} (hkeyed : item.IsKeyed)
    (hpoint : point) : (Program.report item .done).Holds Regime.sound.logic (fun _ _ => point)
      (fun _ => kind) () := by
  refine holds_ofExcept.mpr ?_
  rw [Report.result_of_isKeyed hkeyed]
  exact ⟨fun _ _ => hpoint, nofun⟩

theorem keeps_creates_sound {purpose : String} {binding : Binding} {isCounted : Bool}
    {next : Bool → Prop} (hstore : ∀ failure, failure.isStore = true → kind failure)
    (hnext : ∀ isNew, next isNew) :
    Regime.sound.logic.call () (.createBinding binding) fun answer later =>
      Attempted Regime.sound.logic (fun _ => kind) purpose binding isCounted
        (fun isNew _ => next isNew) answer later := by
  rintro answer later hanswer
  refine .of_isCalm (fun _ _ => hnext true) (fun _ _ => hnext false) ?_
  rintro failure rfl -
  exact hstore _ (Failure.isStore_within hanswer purpose)

theorem keeps_missingRoles {requested existing : List Value} {good : List Value → Prop}
    (hrequested : ∀ role ∈ requested, role.IsText) (hexisting : ∀ role ∈ existing, role.isKey)
    (hgood : ∀ missing, (∀ role ∈ missing, role.IsText) → good missing) :
    (∀ missing, missingRoles requested existing = .ok missing → good missing) ∧
      ∀ failure, missingRoles requested existing = .error failure → kind failure :=
  ⟨fun missing hmissing => hgood missing fun role hmem =>
    hrequested role (((mem_missingRoles hrequested hmissing).1 role hmem).1),
    fun _ hfailure => absurd hexisting (not_missingRoles hrequested hfailure)⟩

theorem keeps_resolve {permission : Permission} {names : List Value}
    {good : List Value → Prop} (hvalid : policy.validate = .ok ())
    (hmem : permission ∈ policy.permissions) (hnames : ∀ name ∈ names, name.IsText)
    (hgood : ∀ targets, good targets) :
    (∀ targets, Safelist.resolve permission.allowed permission.denied names = .ok targets →
      good targets) ∧
      ∀ failure, Safelist.resolve permission.allowed permission.denied names = .error failure →
        kind failure := by
  obtain ⟨targets, htargets⟩ := policy.resolve_of_validate hvalid hmem hnames
  rw [htargets]
  exact ⟨fun _ _ => hgood _, nofun⟩

end Pass

/-- Whether a policy is made of texts and breaks no rule. -/
structure Policy.IsProper (policy : Policy) : Prop extends policy.IsTextual where
  valid : policy.validate = .ok ()

namespace PolicyPass

open Program Pass

/-- The failures of a pass: those of the store, and a breach of the rules by its policy. -/
def Fails (failure : Failure) : Prop := failure.isStore = true ∨ failure.IsBreach

/-- What is known at each point of a pass that sound objects are answered to. -/
def Vouched : Point → Prop
  | .opened | .refusing .. | .lacked .. | .settled .. | .ended _ => True
  | .fetched policy => policy.IsSound
  | .checked policy _ | .releasingOnCluster policy .. | .releasingInNamespaces policy ..
    | .onCluster policy .. | .grantedOnCluster policy .. | .recordingOnCluster policy ..
    | .ready policy _ | .grantedInNamespaces policy .. | .recordingInNamespaces policy .. =>
    policy.IsProper
  | .listed policy _ roles | .surveyed policy _ roles _ =>
    policy.IsProper ∧ ∀ role ∈ roles, role.isKey
  | .compared policy _ roles _ onCluster =>
    (policy.IsProper ∧ ∀ role ∈ roles, role.isKey) ∧ ∀ role ∈ onCluster, role.IsText
  | .decided policy _ _ _ onCluster inNamespaces => policy.IsProper ∧
      (∀ role ∈ onCluster, role.IsText) ∧ ∀ role ∈ inNamespaces, role.IsText
  | .lacking _ _ onCluster inNamespaces =>
    (∀ role ∈ onCluster, role.IsText) ∧ ∀ role ∈ inNamespaces, role.IsText
  | .lackingInNamespaces _ _ inNamespaces => ∀ role ∈ inNamespaces, role.IsText
  | .located policy _ spaces | .inNamespaces policy _ spaces .. | .inTargets policy _ spaces .. =>
    policy.IsProper ∧ ∀ name ∈ validNames spaces, name.IsText

/-- A policy that was checked is sound and breaks no rule, or it is told why not. -/
theorem sound_outline (space name : Value) :
    Outline Regime.sound.logic (Flows space name) (fun point _ => Vouched point)
      (fun _ => Fails) := by
  have hstore : ∀ failure : Failure, failure.isStore = true → Fails failure := fun _ => .inl
  refine .of_isCalm fun hedge _ h => ?_
  cases hedge with
  | fetch =>
    exact holds_find_sound (.getPolicy space name) hstore
      (fun policy hanswer => hanswer.2 policy rfl) trivial
  | @forget policy hvalid =>
    have hsound : policy.IsSound := h
    obtain ⟨after, hafter⟩ := forgetBreaches_ok ConditionType.all
      (Tracker.start policy.conditions) fun condition hmem =>
        hsound.messages condition (Tracker.mem_of_mem_firstOfType hmem)
    exact Edge.keeps_tries hafter ⟨hsound.toIsTextual, hvalid⟩
  | @«break» policy failure hfailure hother =>
    have hsound : policy.IsSound := h
    obtain ⟨message, types, heq⟩ := hsound.isVerdict _ hfailure
    exact absurd heq (hother message types)
  | note => exact holds_judge_sound (fun _ hnone => absurd hnone List.not_mem_nil) fun _ => h
  | refuse =>
    rintro (failure | value) later hanswer
    · have hstore : failure.isStore = true := hanswer
      exact ⟨fun _ => .inr trivial, fun hother => by rw [hstore] at hother; cases hother⟩
    · exact .inr trivial
  | releaseOnCluster | keysOnCluster => exact keeps_keys_sound h.clusterPermissions h
  | releaseInNamespaces | keysInNamespaces =>
    exact keeps_keys_sound h.toIsTextual.permissionRoles h
  | clearOnCluster hpart | recordOnCluster hpart =>
    exact holds_report_sound (isKeyed_series h.toIsTextual h.clusterPermissions hpart) h
  | clearInNamespaces hpart | recordInNamespaces hpart =>
    exact holds_report_sound (isKeyed_series h.toIsTextual h.toIsTextual.permissionRoles hpart) h
  | roles =>
    refine holds_ask_sound .listClusterRoles hstore ?_
    rintro roles ⟨_, ⟨⟩, hroles⟩
    exact ⟨h, hroles⟩
  | clusterBindings => exact holds_ask_sound .listClusterRoleBindings hstore fun _ _ => h
  | compareOnCluster =>
    exact keeps_missingRoles h.1.clusterPermissions h.2 fun _ hmissing => ⟨h, hmissing⟩
  | compareInNamespaces =>
    exact keeps_missingRoles h.1.1.toIsTextual.permissionRoles h.1.2
      fun _ hmissing => ⟨h.1.1, h.2, hmissing⟩
  | lack => exact h.2
  | lackOnCluster => exact holds_judge_sound h.1 fun _ => h.2
  | completeOnCluster => exact h.2
  | lackInNamespaces => exact holds_judge_sound h fun _ => trivial
  | writeLack | writeOnCluster | writeInNamespaces | writeChanges =>
    exact holds_ask_sound (writing _ _) hstore fun _ _ => trivial
  | judgeOnCluster => exact holds_judge_sound h.clusterPermissions fun _ => h
  | judgeInNamespaces => exact holds_judge_sound h.1.toIsTextual.permissionRoles fun _ => h.1
  | createOnCluster => exact keeps_creates_sound hstore fun _ => h
  | createInTarget => exact keeps_creates_sound hstore fun _ => h
  | namespaces =>
    refine holds_ask_sound .listNamespaces hstore ?_
    rintro spaces ⟨_, ⟨⟩, hspaces⟩
    exact ⟨h, validNames_texts hspaces⟩
  | bindings => exact holds_ask_sound (.listRoleBindings none) hstore fun _ _ => h
  | select hpart =>
    exact keeps_resolve h.1.valid (hpart.subset List.mem_concat_self) h.2 fun _ => h
  | startOnCluster | startInNamespaces => exact h.1
  | breach | released | completeInNamespaces | upToDate | incomplete | keep => trivial
  | knownOnCluster | goOn | selectNone | knownInTarget | leaveTargets => exact h

/-- A pass over a policy fails only as it may. -/
theorem holds_run_sound (space name : Value) :
    (run space name).Holds Regime.sound.logic (fun _ _ => True) (fun _ => Fails) () :=
  (holds_run_of_isCalm (sound_outline space name) trivial).imp fun _ _ _ => trivial

end PolicyPass

namespace NamespacePass

open Program Pass

/-- The failures of a pass are those of the store. -/
def Fails (failure : Failure) : Prop := failure.isStore = true

/-- What is known at each point of a pass that sound objects are answered to. -/
def Vouched : Point → Prop
  | .opened | .found _ | .visited | .ended _ => True
  | .read policies | .supplied policies _ | .serving policies _ _ _ =>
    ∀ policy ∈ policies, policy.IsSound
  | .supplying policies roles => (∀ policy ∈ policies, policy.IsSound) ∧ ∀ role ∈ roles, role.isKey
  | .granting visit .. | .answered visit .. | .judged visit .. | .recording visit ..
    | .granted visit _ =>
    (∀ policy ∈ visit.policies, policy.IsSound) ∧ visit.policy.IsProper
  | .choosing visit _ permission _ | .chosen visit _ permission .. =>
    ((∀ policy ∈ visit.policies, policy.IsSound) ∧ visit.policy.IsProper) ∧
      permission ∈ visit.policy.permissions
  | .located visit _ spaces | .compared visit _ spaces _ =>
    ((∀ policy ∈ visit.policies, policy.IsSound) ∧ visit.policy.IsProper) ∧
      ∀ name ∈ validNames spaces, name.IsText

/-- Whatever a policy holds, the pass goes on to the next one unless the store fails. -/
theorem sound_outline {name : Value} (hname : name.IsText) :
    Outline Regime.sound.logic (Flows name) (fun point _ => Vouched point) (fun _ => Fails) := by
  have hstore : ∀ failure : Failure, failure.isStore = true → Fails failure := fun _ => id
  refine .of_isCalm fun hedge _ h => ?_
  cases hedge with
  | fetch => exact holds_find_sound (.getNamespace name) hstore (fun _ _ => trivial) trivial
  | passOver | visit | none | finishAll => trivial
  | policies =>
    refine holds_ask_sound .listPolicies hstore ?_
    rintro policies ⟨_, ⟨⟩, hpolicies⟩
    exact hpolicies
  | roles =>
    refine holds_ask_sound .listClusterRoles hstore ?_
    rintro roles ⟨_, ⟨⟩, hroles⟩
    exact ⟨h, hroles⟩
  | keys =>
    exact ⟨fun _ _ => h.1, fun _ hfailure => absurd h.2 (not_requireKeys hfailure)⟩
  | bindings => exact holds_ask_sound (.listRoleBindings (some name)) hstore fun _ _ => h
  | deleting | invalid => exact h
  | «break» hpart hfailure hother =>
    obtain ⟨message, types, heq⟩ :=
      (h _ (hpart.subset List.mem_concat_self)).isVerdict _ hfailure
    exact absurd heq (hother message types)
  | start hpart _ hvalid =>
    exact ⟨h, (h _ (hpart.subset List.mem_concat_self)).toIsTextual, hvalid⟩
  | @key visit _ permission _ hpart =>
    have hmem : permission ∈ visit.policy.permissions := hpart.subset List.mem_concat_self
    have hrole : Value.requireKeys [permission.role] = .ok () := requireKeys_texts fun role hone =>
      List.mem_singleton.mp hone ▸ (h.2.permissions permission hmem).role
    exact Edge.keeps_tries hrole ⟨h, hmem⟩
  | lack | leave | known => exact h.1
  | choose =>
    exact keeps_resolve h.1.2.valid h.2
      (fun other hone => List.mem_singleton.mp hone ▸ hname) fun _ => h
  | create => exact keeps_creates_sound hstore fun _ => h.1
  | finish | others | keep => exact h
  | namespaces =>
    refine holds_ask_sound .listNamespaces hstore ?_
    rintro spaces ⟨_, ⟨⟩, hspaces⟩
    exact ⟨h, validNames_texts hspaces⟩
  | allBindings => exact holds_ask_sound (.listRoleBindings .none) hstore fun _ _ => h
  | compare =>
    obtain ⟨answer, hanswer⟩ := isGranted_ok (BindingIndex.ofList _)
      fun permission hmem => Policy.resolve_of_validate h.1.2.valid hmem h.2
    exact Edge.keeps_tries hanswer h.1
  | judge => exact holds_judge_sound h.2.toIsTextual.permissionRoles fun _ => h
  | recordKeys => exact keeps_keys_sound h.2.toIsTextual.permissionRoles h
  | record hpart =>
    exact holds_report_sound (isKeyed_series h.2.toIsTextual h.2.toIsTextual.permissionRoles hpart)
      h
  | write => exact holds_ask_sound (writing _ _) hstore fun _ _ => h
  | next => exact h.1

/-- A pass over a namespace fails only for the store. -/
theorem holds_run_sound {name : Value} (hname : name.IsText) :
    (run name).Holds Regime.sound.logic (fun _ _ => True) (fun _ => Fails) () :=
  (holds_run_of_isCalm (sound_outline hname) trivial).imp fun _ _ _ => trivial

end NamespacePass

end RoleGrants
