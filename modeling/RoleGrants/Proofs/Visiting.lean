import RoleGrants.Proofs.Granting
import RoleGrants.Proofs.NamespaceChart

/-! What a pass over a namespace makes of a scene when nothing fails. It creates, policy by policy
in their order, the bindings that are missing of those that the policies want there. It passes over
policies that are being deleted or break a rule, and over permissions whose role does not exist. If
no binding is missing, it leaves the scene as it is. -/

namespace RoleGrants

open DryRun Program Pass

namespace Policy

/-- Whether passes grant a policy: it is not being deleted and breaks no rule. -/
def active (policy : Policy) : Bool := !policy.isDeleting && policy.validate.isOk

theorem active_iff {policy : Policy} :
    policy.active = true ↔ policy.isDeleting = false ∧ policy.validate = .ok () := by
  unfold active
  cases policy.isDeleting <;> cases hvalid : policy.validate <;> simp [Except.isOk, Except.toBool]

/-- What passes grant of a policy in some namespaces. -/
def grantsIn (policy : Policy) (names : List Value) : List Binding :=
  if policy.active then policy.wantedIn names else []

@[simp] theorem grantsIn_nil (policy : Policy) : policy.grantsIn [] = [] := by
  unfold grantsIn
  split
  · exact List.flatMap_eq_nil_iff.mpr fun _ _ => rfl
  · rfl

/-- What a permission of a policy wants in a namespace, if its role is one of some. -/
def wantedAt (policy : Policy) (roles : List Value) (name : Value) (permission : Permission) :
    List Binding :=
  if roles.contains permission.role then policy.wantedBy [name] permission else []

/-- What passes over a namespace grant of a policy there. -/
def grantsAt (policy : Policy) (roles : List Value) (name : Value) : List Binding :=
  if policy.active then policy.permissions.flatMap (policy.wantedAt roles name) else []

/-- What a permission wants in a namespace, by whether that is selected for it. -/
theorem wantedAt_eq {policy : Policy} {roles : List Value} {name : String} {permission : Permission}
    (hrole : roles.contains permission.role = true) :
    policy.wantedAt roles (.text name) permission =
      if ([Value.text name].filter permission.chooses).contains (.text name) then
        [.inNamespace permission.role policy (.text name)]
      else [] := by
  have hself : [Value.text name].contains (.text name) = true :=
    Value.contains_text.mpr (List.mem_singleton_self _)
  rw [wantedAt, if_pos hrole, wantedBy, List.filter_cons, List.filter_nil]
  cases permission.chooses (.text name) with
  | true => exact (if_pos hself).symm
  | false => rfl

theorem grantsAt_of_inactive {policy : Policy} (h : policy.active = false) (roles : List Value)
    (name : Value) : policy.grantsAt roles name = [] :=
  if_neg (Bool.eq_false_iff.mp h)

/-- Whether what the owner of a policy wrote is well formed, and its roles exist if it is active. -/
structure IsReady (policy : Policy) (cluster : Cluster) : Prop where
  textual : policy.IsTextual
  verdict : IsVerdict policy.validate
  roles : policy.active = true →
    ∀ role ∈ policy.clusterPermissions ++ policy.permissionRoles, role ∈ cluster.roles

theorem isReady_unreported {policy : Policy} {cluster : Cluster} :
    policy.unreported.IsReady cluster ↔ policy.IsReady cluster :=
  ⟨fun h => ⟨isTextual_unreported.mp h.textual, h.verdict, h.roles⟩,
    fun h => ⟨isTextual_unreported.mpr h.textual, h.verdict, h.roles⟩⟩

theorem IsReady.grantsAt_eq {policy : Policy} {cluster : Cluster} (h : policy.IsReady cluster)
    (name : Value) : policy.grantsAt cluster.roles name = policy.grantsIn [name] := by
  unfold grantsAt grantsIn
  split
  · next hactive =>
    rw [wantedIn, List.flatMap_def, List.flatMap_def]
    refine congrArg _ (List.map_congr_left fun permission hmem => if_pos ?_)
    obtain ⟨text, htext⟩ := (h.textual.permissions permission hmem).role
    have hrole := h.roles hactive permission.role
      (List.mem_append_right _ (List.mem_map_of_mem hmem))
    rw [htext] at hrole ⊢
    exact Value.contains_text.mpr hrole
  · rfl

end Policy

/-- Whether the policies, namespaces and roles of a cluster are well formed. -/
structure Cluster.IsReadable (cluster : Cluster) : Prop where
  policies : ∀ policy ∈ cluster.policies, policy.IsTextual ∧ Policy.IsVerdict policy.validate
  spaces : ∀ space ∈ cluster.namespaces, space.name.IsText
  keys : ∀ role ∈ cluster.roles, role.isKey = true

theorem Cluster.IsReadable.canRecord {cluster : Cluster} (h : cluster.IsReadable) {policy : Policy}
    (hmem : policy ∈ cluster.policies) : policy.CanRecord policy.permissionRoles where
  keys role hrole := Value.isKey_of_isText ((h.policies policy hmem).1.permissionRoles role hrole)
  subject _ := Value.isKey_of_isText (h.policies policy hmem).1.subjectName

/-- Whether the policies, namespaces and roles of a cluster are well formed, and each active policy
has its roles. -/
structure Cluster.IsReady (cluster : Cluster) : Prop where
  policies : ∀ policy ∈ cluster.owned, policy.IsReady cluster
  spaces : ∀ space ∈ cluster.namespaces, space.name.IsText
  keys : ∀ role ∈ cluster.roles, role.isKey

/-- What passes over a namespace of a cluster grant there. -/
def Cluster.grantsAt (cluster : Cluster) (name : Value) : List Binding :=
  cluster.policies.flatMap (·.grantsAt cluster.roles name)

/-- What is made of policies whatever their conditions are is made of what their owners wrote. -/
theorem Cluster.flatMap_owned {α : Type} (cluster : Cluster) (f : Policy → List α)
    (h : ∀ policy, f policy.unreported = f policy) :
    cluster.owned.flatMap f = cluster.policies.flatMap f := by
  rw [owned, List.flatMap_map]
  exact congrArg (cluster.policies.flatMap ·) (funext h)

namespace Cluster.IsReady

variable {cluster later : Cluster}

theorem mono (h : cluster.IsReady) (hleads : cluster.Leads later) : later.IsReady where
  policies policy hmem := by
    have hready := h.policies policy (hleads.owned ▸ hmem)
    exact ⟨hready.textual, hready.verdict, hleads.roles ▸ hready.roles⟩
  spaces := hleads.namespaces ▸ h.spaces
  keys := hleads.roles ▸ h.keys

theorem policy (h : cluster.IsReady) {policy : Policy} (hmem : policy ∈ cluster.policies) :
    policy.IsReady cluster :=
  Policy.isReady_unreported.mp (h.policies _ (List.mem_map_of_mem hmem))

theorem isReadable (h : cluster.IsReady) : cluster.IsReadable where
  policies _ hmem := ⟨(h.policy hmem).textual, (h.policy hmem).verdict⟩
  spaces := h.spaces
  keys := h.keys

theorem grantsAt_eq (h : cluster.IsReady) (name : Value) :
    cluster.grantsAt name = cluster.policies.flatMap (·.grantsIn [name]) := by
  rw [Cluster.grantsAt, List.flatMap_def, List.flatMap_def]
  exact congrArg _ (List.map_congr_left fun _ hmem => (h.policy hmem).grantsAt_eq name)

end Cluster.IsReady

namespace NamespacePass

variable {scene later after : Scene} {middle : Cluster} {policy : Policy} {name : String}
  {wanted : List Binding} {grants : Grants}

/-! ### Where a pass has come to -/

/-- How far a pass over a namespace has come from a scene on: of some wanted bindings it has created
those that were missing, and it knows those in its namespace. -/
structure Swept (scene : Scene) (name : String) (wanted : List Binding) (later : Scene)
    (grants : Grants) : Prop where
  bindings : later.cluster.bindings =
    scene.cluster.bindings ++ Binding.missing scene.cluster.bindings wanted
  created : grants.created = Binding.missing scene.cluster.bindings wanted
  owned : later.cluster.owned = scene.cluster.owned
  namespaces : later.cluster.namespaces = scene.cluster.namespaces
  roles : later.cluster.roles = scene.cluster.roles
  mirrors : grants.index.Mirrors later.cluster (some name)
  idle : Binding.missing scene.cluster.bindings wanted = [] → later = scene

namespace Swept

theorem start : Swept scene name [] scene
    { index := .ofList (scene.cluster.roleBindings (some (.text name))) } where
  bindings := (List.append_nil _).symm
  created := rfl
  owned := rfl
  namespaces := rfl
  roles := rfl
  mirrors := BindingIndex.mirrors_inNamespace fun _ heq => (Option.some.inj heq).symm
  idle _ := rfl

/-- A policy that is not active is done. -/
theorem onward {done : List Policy} {roles : List Value}
    (h : Swept scene name (done.flatMap (·.grantsAt roles (.text name))) later grants)
    (hinactive : policy.active = false) :
    Swept scene name ((done ++ [policy]).flatMap (·.grantsAt roles (.text name))) later grants := by
  rw [List.flatMap_append, List.flatMap_singleton, Policy.grantsAt_of_inactive hinactive,
    List.append_nil]
  exact h

theorem next {more : List Binding} {before : Grants}
    (h : Swept scene name wanted later before)
    (hfilled : Filled later.cluster (· = some name) more middle grants)
    (hreports : middle.Reports policy after.cluster)
    (hidle : grants.created = [] → after = later) :
    Swept scene name (wanted ++ more) after
      { grants with created := before.created ++ grants.created } := by
  obtain ⟨rfl, hcreated, hmirrors⟩ := hfilled
  have hmissing : Binding.missing scene.cluster.bindings (wanted ++ more) =
      Binding.missing scene.cluster.bindings wanted ++
        Binding.missing later.cluster.bindings more := by
    rw [Binding.missing_append, h.bindings]
  have hafter : after.cluster.bindings =
        later.cluster.bindings ++ Binding.missing later.cluster.bindings more ∧
      after.cluster.owned = later.cluster.owned ∧
      after.cluster.namespaces = later.cluster.namespaces ∧
      after.cluster.roles = later.cluster.roles := by
    rcases hreports with heq | ⟨conditions, heq⟩
    · rw [heq]
      exact ⟨rfl, rfl, rfl, rfl⟩
    · rw [heq]
      exact ⟨rfl, Cluster.owned_report _, rfl, rfl⟩
  obtain ⟨hbindings, howned, hnamespaces, hroles⟩ := hafter
  constructor
  · rw [hmissing, ← List.append_assoc, ← h.bindings, hbindings]
  · rw [hmissing, h.created, hcreated]
  · exact howned.trans h.owned
  · exact hnamespaces.trans h.namespaces
  · exact hroles.trans h.roles
  · intro text
    refine (hmirrors (some name) rfl text).trans ?_
    rw [Cluster.Holds, Cluster.Holds, hbindings]
    rfl
  · intro hnone
    obtain ⟨hfirst, hsecond⟩ := List.append_eq_nil_iff.mp (hmissing.symm.trans hnone)
    rw [hidle (hcreated.trans hsecond), h.idle hfirst]

end Swept

/-- How a pass over a namespace that is there ends when nothing fails. -/
inductive Concludes (scene : Scene) (name : String) (space : Namespace) : Scene → Result → Prop
  | passedOver : space.isValid = false →
      Concludes scene name space scene { space := .text name, skipped := true }
  | swept {later : Scene} {grants : Grants} : space.isValid = true →
      Swept scene name (scene.cluster.grantsAt (.text name)) later grants →
      Concludes scene name space later { space := .text name, created := grants.created }

/-- What a pass over a namespace that can receive bindings has read of a cluster. -/
structure HasRead (scene : Scene) (name : String) (policies : List Policy) (roles : List Value) :
    Prop where
  space : ∃ space, scene.cluster.getNamespace (.text name) = .ok space ∧ space.isValid = true
  policies : policies = scene.cluster.policies
  roles : roles = scene.cluster.roles

/-- How far a pass over a namespace has come with one policy: of some bindings that the policy wants
there it has created those that were missing. -/
structure Stocking (scene : Scene) (name : String) (visit : Visit)
    (wanted : List Binding) (grants : Grants) (later : Scene) : Prop
    extends HasRead scene name visit.policies visit.roles where
  mem : visit.policy ∈ scene.cluster.policies
  active : visit.policy.active = true
  filled : ∃ middle, Swept scene name
      (visit.done.flatMap (·.grantsAt scene.cluster.roles (.text name))) middle visit.before ∧
    Filled middle.cluster (· = some name) wanted later.cluster grants ∧
    (grants.created = [] → later = middle)

/-- How far a pass over a namespace has come that has created bindings of a policy. -/
structure Stocked (scene : Scene) (name : String) (visit : Visit)
    (grants : Grants) (later : Scene) : Prop
    extends Stocking scene name visit (visit.policy.permissions.flatMap
      (visit.policy.wantedAt scene.cluster.roles (.text name))) grants later where
  some : grants.created ≠ []

/-- What has become of a scene at each point of a pass over a namespace when nothing fails. -/
def Reached (scene : Scene) (name : String) : Point → Scene → Prop
  | .opened, later => later = scene
  | .found space, later => later = scene ∧ scene.cluster.getNamespace (.text name) = .ok space
  | .visited, later => later = scene ∧
    ∃ space, scene.cluster.getNamespace (.text name) = .ok space ∧ space.isValid = true
  | .read policies, later => later = scene ∧ HasRead scene name policies scene.cluster.roles
  | .supplying policies roles, later | .supplied policies roles, later =>
    later = scene ∧ HasRead scene name policies roles
  | .serving policies roles finished grants, later => HasRead scene name policies roles ∧
    Swept scene name (finished.flatMap (·.grantsAt scene.cluster.roles (.text name))) later grants
  | .granting visit finished grants, later => Stocking scene name visit
    (finished.flatMap (visit.policy.wantedAt scene.cluster.roles (.text name))) grants later
  | .choosing visit finished permission grants, later =>
    permission ∈ visit.policy.permissions ∧ Stocking scene name visit
      (finished.flatMap (visit.policy.wantedAt scene.cluster.roles (.text name))) grants later
  | .chosen visit finished permission grants targets, later =>
    (visit.roles.contains permission.role = true ∧
      targets = [Value.text name].filter permission.chooses) ∧ Stocking scene name visit
      (finished.flatMap (visit.policy.wantedAt scene.cluster.roles (.text name))) grants later
  | .located visit grants spaces, later | .compared visit grants spaces _, later =>
    spaces = scene.cluster.namespaces ∧ Stocked scene name visit grants later
  | .answered visit grants _, later | .judged visit grants _, later
    | .recording visit grants _ _, later => Stocked scene name visit grants later
  | .granted visit grants, later => HasRead scene name visit.policies visit.roles ∧
    Swept scene name ((visit.done ++ [visit.policy]).flatMap
      (·.grantsAt scene.cluster.roles (.text name))) later
      { grants with created := visit.before.created ++ grants.created }
  | .ended result, later => ∀ space, scene.cluster.getNamespace (.text name) = .ok space →
    Concludes scene name space later result

theorem HasRead.name_ne_empty {policies : List Policy} {roles : List Value}
    (h : HasRead scene name policies roles) : name ≠ "" := by
  obtain ⟨space, hfound, hvalid⟩ := h.space
  exact (Namespace.ne_empty_of_isValid hvalid (Cluster.name_of_getNamespace hfound)).1

/-- A pass that has come past all policies of the cluster has done what it should. -/
theorem HasRead.concludes {roles : List Value}
    (h : HasRead scene name scene.cluster.policies roles)
    (hswept : Swept scene name (scene.cluster.grantsAt (.text name)) later grants)
    (space : Namespace) (hfound : scene.cluster.getNamespace (.text name) = .ok space) :
    Concludes scene name space later { space := .text name, created := grants.created } := by
  obtain ⟨other, hother, hvalid⟩ := h.space
  cases hfound.symm.trans hother
  exact .swept hvalid hswept

namespace Stocking

variable {visit : Visit} {done : List Permission} {permission : Permission}

theorem valid_policy (h : Stocking scene name visit wanted grants later) :
    visit.policy.validate = .ok () :=
  (Policy.active_iff.mp h.active).2

/-- A pass over a namespace has changed neither the namespaces nor what owners of policies wrote. -/
theorem cluster_later (h : Stocking scene name visit wanted grants later) :
    later.cluster.namespaces = scene.cluster.namespaces ∧
      later.cluster.owned = scene.cluster.owned := by
  obtain ⟨middle, hswept, hfilled, -⟩ := h.filled
  rw [hfilled.grown]
  exact ⟨hswept.namespaces, hswept.owned⟩

/-- A permission that wants nothing in the namespace is done. -/
theorem onward (h : Stocking scene name visit
      (done.flatMap (visit.policy.wantedAt scene.cluster.roles (.text name))) grants later)
    (hnone : visit.policy.wantedAt scene.cluster.roles (.text name) permission = []) :
    Stocking scene name visit ((done ++ [permission]).flatMap
      (visit.policy.wantedAt scene.cluster.roles (.text name))) grants later := by
  rw [List.flatMap_append, List.flatMap_singleton, hnone, List.append_nil]
  exact h

/-- A permission that selects the namespace wants its binding there. -/
theorem wanted_concat (h : Stocking scene name visit wanted grants later)
    (hrole : visit.roles.contains permission.role = true)
    (htarget : ([Value.text name].filter permission.chooses).contains (.text name) = true) :
    (done ++ [permission]).flatMap
        (visit.policy.wantedAt scene.cluster.roles (.text name)) =
      done.flatMap (visit.policy.wantedAt scene.cluster.roles (.text name)) ++
        [.inNamespace permission.role visit.policy (.text name)] := by
  rw [List.flatMap_append, List.flatMap_singleton, Policy.wantedAt_eq (h.roles ▸ hrole),
    if_pos htarget]

theorem known (h : Stocking scene name visit
      (done.flatMap (visit.policy.wantedAt scene.cluster.roles (.text name))) grants later)
    (hrole : visit.roles.contains permission.role = true)
    (htarget : ([Value.text name].filter permission.chooses).contains (.text name) = true)
    (hknown : grants.index.exists?
      (Binding.inNamespace permission.role visit.policy (.text name)).name
      (some (.text name)) = true) :
    Stocking scene name visit ((done ++ [permission]).flatMap
      (visit.policy.wantedAt scene.cluster.roles (.text name))) grants later := by
  have hat := visit.policy.inNamespace_isAt permission.role h.name_ne_empty
  obtain ⟨middle, hswept, hfilled, hsame⟩ := h.filled
  rw [h.wanted_concat hrole htarget]
  exact { h with filled := ⟨middle, hswept, hfilled.of_exists? rfl hat hknown, hsame⟩ }

theorem leaves_create {purpose : String} {isCounted : Bool} {next : Bool → Scene → Prop}
    {bad : Scene → Failure → Prop} (h : Stocking scene name visit
      (done.flatMap (visit.policy.wantedAt scene.cluster.roles (.text name))) grants later)
    (hrole : visit.roles.contains permission.role = true)
    (htarget : ([Value.text name].filter permission.chooses).contains (.text name) = true)
    (hnew : grants.index.exists?
      (Binding.inNamespace permission.role visit.policy (.text name)).name
      (some (.text name)) = false)
    (hnext : ∀ after, Stocking scene name visit ((done ++ [permission]).flatMap
      (visit.policy.wantedAt scene.cluster.roles (.text name)))
      (grants.add (.inNamespace permission.role visit.policy (.text name)) true) after →
        next true after) :
    Scene.logic.call later (.createBinding (.inNamespace permission.role visit.policy (.text name)))
      fun answer after => Attempted Scene.logic bad purpose
        (.inNamespace permission.role visit.policy (.text name)) isCounted next answer after := by
  have hat := visit.policy.inNamespace_isAt permission.role h.name_ne_empty
  obtain ⟨middle, hswept, hfilled, hsame⟩ := h.filled
  refine hfilled.leaves_create rfl hat (by rintro ⟨⟩) ⟨.inr ⟨_, rfl⟩, _, rfl⟩ hnew fun hadded =>
    hnext _ { h with filled := ⟨middle, hswept, ?_, fun hnone => ?_⟩ }
  · rw [h.wanted_concat hrole htarget]
    exact hadded
  · cases (List.append_eq_nil_iff.mp hnone).2

/-- When all permissions of a policy are done the pass has come past the policy. -/
theorem swept (h : Stocking scene name visit (visit.policy.permissions.flatMap
      (visit.policy.wantedAt scene.cluster.roles (.text name))) grants later)
    (hreports : later.cluster.Reports visit.policy after.cluster)
    (hidle : grants.created = [] → after = later) :
    Swept scene name ((visit.done ++ [visit.policy]).flatMap
      (·.grantsAt scene.cluster.roles (.text name))) after
      { grants with created := visit.before.created ++ grants.created } := by
  obtain ⟨middle, hswept, hfilled, hsame⟩ := h.filled
  rw [List.flatMap_append, List.flatMap_singleton, Policy.grantsAt, if_pos h.active]
  exact hswept.next hfilled hreports fun hnone => (hidle hnone).trans (hsame hnone)

end Stocking

theorem Stocked.reported {visit : Visit} (h : Stocked scene name visit grants later)
    (item : Report) : Stocked scene name visit grants (later.reported item) := by
  obtain ⟨middle, hswept, hfilled, -⟩ := h.filled
  exact { h with filled := ⟨middle, hswept, hfilled, fun hnone => absurd hnone h.some⟩ }

/-! ### The edges -/

/-- A namespace is looked up, and the pass ends if it is not there. -/
theorem keeps_fetch (scene : Scene) (name : String) (purpose : String) :
    (Edge.finds purpose (.getNamespace (.text name)) Point.found
      (.ended { space := .text name, skipped := true })).Keeps Scene.logic (Reached scene name)
        (fun _ _ => False) scene := by
  refine (leaves_read (.getNamespace (.text name)) rfl).mpr ?_
  rw [Cluster.answer]
  cases hfound : scene.cluster.getNamespace (.text name) with
  | ok space => exact ⟨rfl, hfound⟩
  | error failure =>
    obtain ⟨message, rfl⟩ := Cluster.getNamespace_failed hfound
    refine ⟨fun _ _ space hother => ?_, fun hother => hother message rfl⟩
    cases hfound.symm.trans hother

theorem reached_outline (hreadable : scene.cluster.IsReadable) :
    Outline Scene.logic (Flows (.text name)) (Reached scene name) (fun _ _ => False) := by
  refine .of_isCalm fun {point edge} hedge later h => ?_
  cases hedge with
  | fetch =>
    cases h
    exact keeps_fetch scene name _
  | passOver hinvalid =>
    obtain ⟨rfl, hfound⟩ := h
    intro space hother
    cases hfound.symm.trans hother
    exact .passedOver hinvalid
  | visit hvalid =>
    exact ⟨h.1, _, h.2, hvalid⟩
  | policies =>
    obtain ⟨rfl, hspace⟩ := h
    exact (leaves_read .listPolicies rfl).mpr ⟨rfl, hspace, rfl, rfl⟩
  | none hnone =>
    obtain ⟨rfl, hread⟩ := h
    cases hread.policies
    have hswept : Swept later name (later.cluster.grantsAt (.text name)) later
        { index := .ofList (later.cluster.roleBindings (some (.text name))) } := by
      rw [Cluster.grantsAt, List.isEmpty_iff.mp hnone]
      exact .start
    exact hread.concludes hswept
  | roles =>
    obtain ⟨rfl, hread⟩ := h
    exact (leaves_read .listClusterRoles rfl).mpr ⟨rfl, hread⟩
  | keys =>
    have hkeys : Value.requireKeys scene.cluster.roles = .ok () :=
      Value.requireKeys_iff.mpr hreadable.keys
    rw [h.2.roles]
    exact Edge.keeps_tries hkeys (h.2.roles ▸ h)
  | bindings =>
    obtain ⟨rfl, hread⟩ := h
    exact (leaves_read (.listRoleBindings (some (.text name))) rfl).mpr ⟨hread, .start⟩
  | deleting hpart hdeleting =>
    refine ⟨h.1, h.2.onward ?_⟩
    simp [Policy.active, hdeleting]
  | invalid hpart hinvalid =>
    refine ⟨h.1, h.2.onward ?_⟩
    simp [Policy.active, hinvalid, Except.isOk, Except.toBool]
  | «break» hpart hfailure hother =>
    have hmem := h.1.policies ▸ hpart.subset List.mem_concat_self
    obtain ⟨message, types, heq⟩ := (hreadable.policies _ hmem).2 _ hfailure
    exact absurd heq (hother message types)
  | start hpart hkept hvalid =>
    obtain ⟨hread, hswept⟩ := h
    have hmem := hread.policies ▸ hpart.subset List.mem_concat_self
    exact ⟨hread, hmem, Policy.active_iff.mpr ⟨hkept, hvalid⟩, later, hswept,
      .start fun scope hscope => hscope ▸ hswept.mirrors, fun _ => rfl⟩
  | @key visit _ permission _ hpart =>
    have hmem : permission ∈ visit.policy.permissions := hpart.subset List.mem_concat_self
    obtain ⟨role, hrole⟩ :=
      ((hreadable.policies _ h.mem).1.permissions permission hmem).role
    have hkeys : Value.requireKeys [permission.role] = .ok () := by rw [hrole]; rfl
    exact Edge.keeps_tries hkeys ⟨hmem, h⟩
  | lack hlack =>
    obtain ⟨-, hstocking⟩ := h
    rw [hstocking.roles] at hlack
    exact hstocking.onward (if_neg (Bool.eq_false_iff.mp hlack))
  | @choose visit _ permission _ hrole =>
    obtain ⟨hmem, hstocking⟩ := h
    have hnames : ∀ other ∈ [Value.text name], other.IsText := fun other hother =>
      ⟨name, List.mem_singleton.mp hother⟩
    exact Edge.keeps_tries (Policy.resolve_eq hstocking.valid_policy hmem hnames)
      ⟨⟨hrole, rfl⟩, hstocking⟩
  | leave hother =>
    obtain ⟨⟨hrole, rfl⟩, hstocking⟩ := h
    refine hstocking.onward ?_
    rw [Policy.wantedAt_eq (hstocking.roles ▸ hrole), if_neg (Bool.eq_false_iff.mp hother)]
  | known htarget hknown =>
    obtain ⟨⟨hrole, rfl⟩, hstocking⟩ := h
    exact hstocking.known hrole htarget hknown
  | create htarget hnew =>
    obtain ⟨⟨hrole, rfl⟩, hstocking⟩ := h
    exact hstocking.leaves_create hrole htarget hnew fun _ hafter => hafter
  | finish =>
    exact ⟨h.toHasRead, h.swept (.inl rfl) fun _ => rfl⟩
  | namespaces hmore =>
    refine (leaves_read .listNamespaces rfl).mpr ⟨h.cluster_later.1, h, fun hnone => ?_⟩
    rw [hnone] at hmore
    cases hmore
  | allBindings => exact (leaves_read (.listRoleBindings .none) rfl).mpr h
  | compare =>
    obtain ⟨rfl, hstocked⟩ := h
    obtain ⟨answer, hanswer⟩ := isGranted_ok (BindingIndex.ofList _) fun permission hmem =>
      Policy.resolve_of_validate hstocked.valid_policy hmem (validNames_texts hreadable.spaces)
    exact Edge.keeps_tries hanswer hstocked
  | others => exact ⟨h.toHasRead, h.toStocking.swept (.inl rfl) fun _ => rfl⟩
  | judge => exact leaves_judge (hreadable.canRecord h.mem).keys fun _ _ _ => h
  | recordKeys =>
    exact Edge.keeps_tries (Value.requireKeys_iff.mpr (hreadable.canRecord h.mem).keys) h
  | record hpart =>
    have hcan := hreadable.canRecord h.mem
    have hmem := mem_of_mem_distinct (hpart.subset List.mem_concat_self)
    refine leaves_report (fun _ => h.reported _) fun failure hfailure => ?_
    have hsubject := hcan.subject (List.ne_nil_of_mem hmem)
    cases (requireKeys_parts.mpr ⟨hsubject, hcan.keys _ hmem⟩).symm.trans hfailure
  | @write visit =>
    have hkept : visit.policy.IsKept later.cluster :=
      (hreadable.policies _ h.mem).1.isKept
        (h.toStocking.cluster_later.2 ▸ List.mem_map_of_mem h.mem)
    exact leaves_write hkept ⟨h.toHasRead, h.toStocking.swept (.inr ⟨_, rfl⟩)
      fun hnone => absurd hnone h.some⟩
  | keep => exact ⟨h.toHasRead, h.toStocking.swept (.inl rfl) fun _ => rfl⟩
  | next => exact h
  | finishAll =>
    obtain ⟨hread, hswept⟩ := h
    cases hread.policies
    exact hread.concludes hswept

/-! ### A whole pass -/

theorem leaves_run (hreadable : scene.cluster.IsReadable) :
    (run (.text name)).Leaves (fun later result => ∀ space,
      scene.cluster.getNamespace (.text name) = .ok space → Concludes scene name space later result)
      (fun _ _ => False) scene :=
  holds_run_of_isCalm (reached_outline hreadable) rfl

section

variable {world : World} {space : Namespace}

/-- On a calm course a pass over a namespace that is there ends as it should. -/
theorem concludes_play (clock : Clock) (hfresh : world.isStale = false)
    (hreadable : world.cluster.IsReadable)
    (hfound : world.cluster.getNamespace (.text name) = .ok space) : ∃ later result,
    later.Shows (clock.calm.play world (run (.text name))).past
      (clock.calm.play world (run (.text name))).world ∧
    Concludes world.scene name space later result ∧
    (clock.calm.play world (run (.text name))).result = .ok result := by
  obtain ⟨later, hshows, hended⟩ := clock.leaves_play (leaves_run hreadable) hfresh
  generalize (clock.calm.play world (run (.text name))).result = ended at hended
  cases ended with
  | error failure => exact hended.elim
  | ok result => exact ⟨later, result, hshows, hended space hfound, rfl⟩

/-- A pass on a calm course creates what is missing of what the policies are granted in its
namespace. -/
theorem bindings_play (clock : Clock) (hfresh : world.isStale = false)
    (hready : world.cluster.IsReady)
    (hfound : world.cluster.getNamespace (.text name) = .ok space) :
    (clock.calm.play world (run (.text name))).world.cluster.bindings =
      world.cluster.bindings ++ Binding.missing world.cluster.bindings
        (world.cluster.policies.flatMap (·.grantsIn (validNames [space]))) := by
  obtain ⟨later, _, hshows, hconcludes, -⟩ :=
    concludes_play clock hfresh hready.isReadable hfound
  rw [hshows.cluster]
  obtain ⟨hpassed⟩ | ⟨hvalid, hswept⟩ := hconcludes
  · have hnames : validNames [space] = [] := by simp [validNames, hpassed]
    have hnone : world.cluster.policies.flatMap (·.grantsIn []) = [] :=
      List.flatMap_eq_nil_iff.mpr fun policy _ => policy.grantsIn_nil
    rw [hnames, hnone]
    exact (List.append_nil _).symm
  · have hnames : validNames [space] = [.text name] := by
      simp [validNames, hvalid, Cluster.name_of_getNamespace hfound]
    rw [hnames, ← hready.grantsAt_eq]
    exact hswept.bindings

end

end NamespacePass

end RoleGrants
