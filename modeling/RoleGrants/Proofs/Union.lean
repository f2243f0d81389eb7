import RoleGrants.Proofs.Recovery
import RoleGrants.Proofs.Transitions
import RoleGrants.Proofs.Visiting

/-! A pass over a namespace grants there the union of what its policies are granted one by one. So
the order of the policies does not matter for what stands in the end, a policy that is not active
adds nothing, and none takes away what another one gets. A second pass finds nothing to do. -/

namespace RoleGrants

open DryRun

namespace Policy

variable {policy : Policy} {roles : List Value} {name : String} {place : Place}

/-- Whether a policy is granted at a place in a namespace when some roles exist: it breaks no rule,
is not being deleted, and has a permission whose role exists and whose patterns select the
namespace. -/
def IsGrantedAt (policy : Policy) (roles : List Value) (name : String) (place : Place) : Prop :=
  policy.validate = .ok () ∧ policy.isDeleting = false ∧
    ∃ permission ∈ policy.permissions, permission.role ∈ roles ∧ permission.Selects name ∧
      place = policy.namespacePlace permission.role name

theorem mem_grantsAt {binding : Binding} {name : Value} :
    binding ∈ policy.grantsAt roles name ↔ policy.active = true ∧
      ∃ permission ∈ policy.permissions, roles.contains permission.role = true ∧
        permission.chooses name = true ∧ binding = .inNamespace permission.role policy name := by
  unfold grantsAt wantedAt wantedBy
  split
  · next hactive =>
    rw [List.mem_flatMap, hactive]
    constructor
    · rintro ⟨permission, hmem, hbinding⟩
      split at hbinding
      · next hrole =>
        obtain ⟨target, htarget, rfl⟩ := List.mem_map.mp hbinding
        obtain ⟨htarget, hchooses⟩ := List.mem_filter.mp htarget
        cases List.mem_singleton.mp htarget
        exact ⟨rfl, permission, hmem, hrole, hchooses, rfl⟩
      · cases hbinding
    · rintro ⟨-, permission, hmem, hrole, hchooses, rfl⟩
      refine ⟨permission, hmem, ?_⟩
      rw [if_pos hrole]
      exact List.mem_map_of_mem (List.mem_filter.mpr ⟨List.mem_singleton_self _, hchooses⟩)
  · next hinactive => simp [hinactive]

theorem exists_grantsAt (htextual : policy.IsTextual) (hname : name ≠ "") :
    (∃ binding ∈ policy.grantsAt roles (.text name), binding.IsAt place) ↔
      policy.IsGrantedAt roles name place := by
  have hcontains : ∀ permission ∈ policy.permissions,
      (roles.contains permission.role = true ↔ permission.role ∈ roles) := by
    intro permission hmem
    obtain ⟨role, hrole⟩ := (htextual.permissions permission hmem).role
    rw [hrole, Value.contains_text]
  constructor
  · rintro ⟨binding, hbinding, hat⟩
    obtain ⟨hactive, permission, hmem, hrole, hchooses, rfl⟩ := mem_grantsAt.mp hbinding
    obtain ⟨hdeleting, hvalid⟩ := active_iff.mp hactive
    exact ⟨hvalid, hdeleting, permission, hmem, (hcontains permission hmem).mp hrole,
      (chooses_iff hvalid hmem).mp hchooses,
      hat.unique (policy.inNamespace_isAt permission.role hname)⟩
  · rintro ⟨hvalid, hdeleting, permission, hmem, hrole, hselects, rfl⟩
    refine ⟨_, mem_grantsAt.mpr ⟨active_iff.mpr ⟨hdeleting, hvalid⟩, permission, hmem, ?_, ?_, rfl⟩,
      policy.inNamespace_isAt permission.role hname⟩
    · exact (hcontains permission hmem).mpr hrole
    · exact (chooses_iff hvalid hmem).mpr hselects

end Policy

namespace Cluster

variable {cluster later : Cluster} {place : Place}

theorem IsSound.isReadable (h : cluster.IsSound) : cluster.IsReadable where
  policies policy hmem := ⟨(h.policies policy hmem).toIsTextual, (h.policies policy hmem).isVerdict⟩
  spaces := h.namespaces
  keys := h.roles

/-- What stands when all that was missing was created. -/
theorem holds_fill {wanted : List Binding}
    (h : later.bindings = cluster.bindings ++ Binding.missing cluster.bindings wanted) :
    later.Holds place ↔ cluster.Holds place ∨ ∃ binding ∈ wanted, binding.IsAt place := by
  have hany : ∀ bindings : List Binding,
      (∃ binding ∈ bindings, binding.IsAt place) ↔
        bindings.any (fun binding => binding.place? == some place) = true := by
    intro bindings
    simp [Binding.isAt_iff]
  rw [Holds, Holds, hany, hany, hany, h, Binding.any_fill fun _ _ _ hplace => by rw [hplace],
    Bool.or_eq_true]

end Cluster

/-- The world with other policies. -/
def DryRun.World.withPolicies (world : World) (policies : List Policy) : World :=
  { world with cluster := { world.cluster with policies } }

namespace NamespacePass

/-- What a pass over a namespace of a cluster makes of it: it ends with the bindings that it has
created, in the order of the policies and their permissions, and what stands afterwards is what
stood before and what each policy is granted. -/
structure Unites (cluster later : Cluster) (name : String) (result : Result) : Prop where
  ended : result = { space := .text name, created := result.created }
  grown : later.bindings = cluster.bindings ++ result.created
  created : result.created = Binding.missing cluster.bindings (cluster.grantsAt (.text name))
  ordered : result.created.Sublist (cluster.grantsAt (.text name))
  once : result.created.Pairwise fun a b => a.place? ≠ b.place?
  new : ∀ binding ∈ result.created, ∀ place, binding.IsAt place → ¬ cluster.Holds place
  places : ∀ place, later.Holds place ↔ cluster.Holds place ∨
    ∃ policy ∈ cluster.policies, policy.IsGrantedAt cluster.roles name place

variable {cluster : Cluster} {scene later : Scene} {name : String}
  {grants : Pass.Grants}

theorem Swept.unites (h : Swept scene name (scene.cluster.grantsAt (.text name)) later grants)
    (hsound : scene.cluster.IsSound) (hname : name ≠ "") :
    Unites scene.cluster later.cluster name
      { space := .text name, created := grants.created } where
  ended := rfl
  grown := by rw [h.created, h.bindings]
  created := h.created
  ordered := h.created ▸ Binding.missing_sublist
  once := h.created ▸ Binding.pairwise_missing
  new binding hmem place hat := by
    rw [h.created] at hmem
    rw [← Cluster.isCovered_iff hat, (Binding.mem_of_mem_missing hmem).2]
    exact Bool.false_ne_true
  places place := by
    rw [Cluster.holds_fill h.bindings]
    refine or_congr_right ?_
    constructor
    · rintro ⟨binding, hbinding, hat⟩
      obtain ⟨policy, hmem, hpolicy⟩ := List.mem_flatMap.mp hbinding
      have htextual := (hsound.policies policy hmem).toIsTextual
      exact ⟨policy, hmem, (policy.exists_grantsAt htextual hname).mp ⟨binding, hpolicy, hat⟩⟩
    · rintro ⟨policy, hmem, hgranted⟩
      have htextual := (hsound.policies policy hmem).toIsTextual
      obtain ⟨binding, hbinding, hat⟩ := (policy.exists_grantsAt htextual hname).mpr hgranted
      exact ⟨binding, List.mem_flatMap.mpr ⟨policy, hmem, hbinding⟩, hat⟩

/-! ### Other policies -/

namespace Unites

variable {later other : Cluster} {policies before after : List Policy} {policy : Policy}
  {result more : Result} {place : Place}

/-- The order of the policies does not matter for what stands in the end. -/
theorem holds_perm (h : Unites cluster later name result)
    (hother : Unites { cluster with policies } other name more)
    (hperm : policies.Perm cluster.policies) : other.Holds place ↔ later.Holds place := by
  have hmem : ∀ policy, policy ∈ policies ↔ policy ∈ cluster.policies :=
    fun policy => hperm.mem_iff
  rw [hother.places, h.places]
  simp only [hmem]
  rfl

variable (h : Unites cluster later name result)
  (hmore : Unites { cluster with policies := before ++ policy :: after } other name more)
  (hpolicies : cluster.policies = before ++ after)

include h hmore hpolicies

/-- One more policy takes nothing away. -/
theorem holds_more (hheld : later.Holds place) : other.Holds place := by
  rw [hmore.places]
  refine ((h.places place).mp hheld).imp id ?_
  rintro ⟨granted, hmem, hgranted⟩
  rw [hpolicies] at hmem
  refine ⟨granted, ?_, hgranted⟩
  rcases List.mem_append.mp hmem with hmem | hmem
  · exact List.mem_append_left _ hmem
  · exact List.mem_append_right _ (List.mem_cons_of_mem _ hmem)

/-- One more policy that is not active changes nothing. -/
theorem eq_of_inactive (hinactive : policy.active = false) :
    more = result ∧ other.bindings = later.bindings := by
  have hnothing : policy.grantsAt cluster.roles (.text name) = [] := by
    rw [Policy.grantsAt, hinactive, if_neg Bool.false_ne_true]
  have hwanted : ({ cluster with policies := before ++ policy :: after } : Cluster).grantsAt
      (.text name) = cluster.grantsAt (.text name) := by
    simp [Cluster.grantsAt, hpolicies, hnothing]
  have hcreated : more.created = result.created := by rw [hmore.created, h.created, hwanted]
  have hsame : more = result := by rw [hmore.ended, h.ended, hcreated]
  refine ⟨hsame, ?_⟩
  rw [hmore.grown, h.grown, hsame]

end Unites

/-! ### Passes -/

/-- What the policies are granted does not depend on their conditions. -/
theorem grantsAt_eq_of_owned {later : Cluster} (howned : later.owned = cluster.owned)
    (hroles : later.roles = cluster.roles) (name : Value) :
    later.grantsAt name = cluster.grantsAt name := by
  have hgrants : ∀ cluster : Cluster, cluster.grantsAt name =
      cluster.owned.flatMap (·.grantsAt cluster.roles name) :=
    fun cluster => (cluster.flatMap_owned _ fun _ => rfl).symm
  rw [hgrants, hgrants, howned, hroles]

theorem Swept.isReadable {wanted : List Binding} (h : Swept scene name wanted later grants)
    (hreadable : scene.cluster.IsReadable) : later.cluster.IsReadable where
  policies policy hmem := by
    have howned : policy.unreported ∈ scene.cluster.owned := h.owned ▸ List.mem_map_of_mem hmem
    obtain ⟨kept, hkept, hsame⟩ := Cluster.exists_of_mem_owned howned
    obtain ⟨htextual, hverdict⟩ := hreadable.policies kept hkept
    have hvalidate : kept.unreported.validate = policy.unreported.validate := by rw [hsame]
    have hpolicy : policy.validate = kept.validate := hvalidate.symm
    exact ⟨Policy.isTextual_unreported.mp (hsame ▸ Policy.isTextual_unreported.mpr htextual),
      hpolicy ▸ hverdict⟩
  spaces := h.namespaces ▸ hreadable.spaces
  keys := h.roles ▸ hreadable.keys

section

variable {world : World} {space : Namespace}

/-- A pass over a valid namespace sweeps over all its policies. -/
theorem swept_play (clock : Clock) (hfresh : world.isStale = false)
    (hreadable : world.cluster.IsReadable)
    (hfound : world.cluster.getNamespace (.text name) = .ok space) (hvalid : space.isValid = true) :
    ∃ (later : Scene) (grants : Pass.Grants),
      later.Shows (clock.calm.play world (run (.text name))).past
        (clock.calm.play world (run (.text name))).world ∧
      Swept world.scene name (world.cluster.grantsAt (.text name)) later grants ∧
      (clock.calm.play world (run (.text name))).result =
        .ok { space := .text name, created := grants.created } := by
  obtain ⟨later, result, hshows, hconcludes, hresult⟩ :=
    concludes_play clock hfresh hreadable hfound
  cases hconcludes with
  | passedOver hpassed => cases hvalid.symm.trans hpassed
  | swept _ hswept => exact ⟨later, _, hshows, hswept, hresult⟩

theorem unites_once (clock : Clock) (hfresh : world.isStale = false)
    (hsound : world.cluster.IsSound)
    (hfound : world.cluster.getNamespace (.text name) = .ok space) (hvalid : space.isValid = true) :
    ∃ result, (clock.calm.play world (run (.text name))).result = .ok result ∧
      Unites world.cluster (clock.calm.play world (run (.text name))).world.cluster name
        result := by
  have hname := (Namespace.ne_empty_of_isValid hvalid (Cluster.name_of_getNamespace hfound)).1
  obtain ⟨later, grants, hshows, hswept, hresult⟩ :=
    swept_play clock hfresh hsound.isReadable hfound hvalid
  exact ⟨_, hresult, hshows.cluster ▸ hswept.unites hsound hname⟩

/-- A second pass creates nothing and writes nothing. -/
theorem idle_again (first second : Clock) (hfresh : world.isStale = false)
    (hreadable : world.cluster.IsReadable)
    (hfound : world.cluster.getNamespace (.text name) = .ok space) (hvalid : space.isValid = true) :
    let once := first.calm.play world (run (.text name))
    let again := second.calm.play once.world (run (.text name))
    again.result = .ok { space := .text name } ∧ mutationsIn again.past = [] := by
  obtain ⟨later, grants, hshows, hswept, -⟩ := swept_play first hfresh hreadable hfound hvalid
  generalize first.calm.play world (run (.text name)) = once at hshows ⊢
  dsimp only
  have hcluster : once.world.scene.cluster = later.cluster := hshows.cluster
  have hwanted := grantsAt_eq_of_owned hswept.owned hswept.roles (.text name)
  have hnone :
      Binding.missing later.cluster.bindings (later.cluster.grantsAt (.text name)) = [] := by
    rw [hwanted, hswept.bindings]
    exact Binding.missing_fill _ _
  have hfoundAgain : once.world.cluster.getNamespace (.text name) = .ok space := by
    rw [hshows.cluster, Cluster.getNamespace, hswept.namespaces]
    exact hfound
  obtain ⟨last, more, hlast, hagain, hresult⟩ := swept_play second hshows.fresh
    (hshows.cluster ▸ hswept.isReadable hreadable) hfoundAgain hvalid
  rw [hshows.cluster] at hagain
  have hidle : last = once.world.scene := hagain.idle (by rw [hcluster]; exact hnone)
  have hcreated : more.created = [] := by rw [hagain.created, hcluster, hnone]
  rw [hresult, hcreated]
  exact ⟨rfl, by rw [hlast.mutations, hidle]; rfl⟩

theorem unites_withPolicies (clock : Clock) {policies : List Policy}
    (hfresh : world.isStale = false) (hsound : world.cluster.IsSound)
    (hpolicies : ∀ policy ∈ policies, policy.IsSound)
    (hfound : world.cluster.getNamespace (.text name) = .ok space) (hvalid : space.isValid = true) :
    ∃ result, (clock.calm.play (world.withPolicies policies) (run (.text name))).result =
        .ok result ∧
      Unites { world.cluster with policies } (clock.calm.play (world.withPolicies policies)
        (run (.text name))).world.cluster name result := by
  have hother : (world.withPolicies policies).cluster.IsSound :=
    ⟨hpolicies, hsound.namespaces, hsound.roles⟩
  exact unites_once clock hfresh hother hfound hvalid

/-- A pass over a valid namespace grants there what each policy is granted, in whatever order the
policies are. One more policy takes no key away, and if it is not active it changes nothing. A
second pass creates no binding and writes no status. -/
theorem union_play (first second : Clock) (hfresh : world.isStale = false)
    (hsound : world.cluster.IsSound)
    (hfound : world.cluster.getNamespace (.text name) = .ok space) (hvalid : space.isValid = true) :
    let pass := run (.text name)
    let once := first.calm.play world pass
    let again := second.calm.play once.world pass
    (∃ result, once.result = .ok result ∧
      Unites world.cluster once.world.cluster name result) ∧
    (again.result = .ok { space := .text name } ∧
      ∀ request answer, .called request answer ∈ again.past →
        request.operation ∉ StoreCall.mutations) ∧
    (∀ policies, policies.Perm world.cluster.policies → ∀ place,
      (first.calm.play (world.withPolicies policies) pass).world.cluster.Holds place ↔
        once.world.cluster.Holds place) ∧
    ∀ before policy after, world.cluster.policies = before ++ after → policy.IsSound →
      let more := first.calm.play (world.withPolicies (before ++ policy :: after)) pass
      (∀ place, once.world.cluster.Holds place → more.world.cluster.Holds place) ∧
        (policy.active = false → more.result = once.result ∧
          more.world.cluster.bindings = once.world.cluster.bindings) := by
  obtain ⟨result, hresult, hunites⟩ := unites_once first hfresh hsound hfound hvalid
  obtain ⟨hagain, hnone⟩ := idle_again first second hfresh hsound.isReadable hfound hvalid
  refine ⟨⟨result, hresult, hunites⟩, ⟨hagain, not_mutates_of_mutationsIn hnone⟩,
    fun policies hperm place => ?_, fun before policy after hpolicies hpolicy => ?_⟩
  · obtain ⟨_, -, hother⟩ := unites_withPolicies first hfresh hsound
      (fun policy hmem => hsound.policies policy (hperm.subset hmem)) hfound hvalid
    exact hunites.holds_perm hother hperm
  · have hmore : ∀ other ∈ before ++ policy :: after, other.IsSound := by
      intro other hmem
      rcases List.mem_append.mp hmem with hmem | hmem
      · exact hsound.policies other (hpolicies ▸ List.mem_append_left _ hmem)
      · rcases List.mem_cons.mp hmem with rfl | hmem
        · exact hpolicy
        · exact hsound.policies other (hpolicies ▸ List.mem_append_right _ hmem)
    obtain ⟨grown, hgrown, hother⟩ := unites_withPolicies first hfresh hsound hmore hfound hvalid
    refine ⟨fun place => hunites.holds_more hother hpolicies, fun hinactive => ?_⟩
    obtain ⟨hsame, hbindings⟩ := hunites.eq_of_inactive hother hpolicies hinactive
    exact ⟨hgrown.trans (hsame ▸ hresult.symm), hbindings⟩

end

end NamespacePass

/-- A policy with a pattern that does not compile. -/
def Policy.broken : Policy :=
  { viewer with name := "broken", permissions := [{ role := "edit", allowed := "(" }] }

theorem Policy.broken_isSound : broken.IsSound := by
  have h := viewer_isTextual
  refine ⟨⟨⟨_, rfl⟩, h.space, h.subjectKind, h.subjectName, h.subjectNamespace,
    h.clusterPermissions, ?_⟩, ?_, fun _ hnone => absurd hnone List.not_mem_nil⟩
  · intro permission hmem
    cases List.mem_singleton.mp hmem
    exact ⟨⟨_, rfl⟩, ⟨_, rfl⟩, ⟨_, rfl⟩⟩
  · intro permission hmem
    cases List.mem_singleton.mp hmem
    have hallowed : Safelist.IsPlain (.text "(") := by decide +kernel
    have hdenied : Safelist.IsPlain (.text "") := by decide +kernel
    exact ⟨hallowed, hdenied⟩

namespace NamespacePass

/-- The editor is granted its role in the namespace, and a policy that breaks a rule changes
nothing there. -/
theorem union_play_web :
    (World.web.isStale = false ∧ World.web.cluster.IsSound ∧
      ∃ space, World.web.cluster.getNamespace (.text "web") = .ok space ∧ space.isValid = true) ∧
    (Course.unwritable.toClock.calm.play .web (run (.text "web"))).world.cluster.Holds
      ⟨some "web", "edit-ann"⟩ ∧
    (Course.unwritable.toClock.calm.play (World.web.withPolicies [.editor, .broken])
        (run (.text "web"))).world.cluster.bindings =
      (Course.unwritable.toClock.calm.play .web (run (.text "web"))).world.cluster.bindings ∧
    (Course.later.toClock.calm.play (Course.unwritable.toClock.calm.play .web
      (run (.text "web"))).world (run (.text "web"))).result = .ok { space := .text "web" } := by
  have hfresh : World.web.isStale = false := rfl
  have hfound : World.web.cluster.getNamespace (.text "web") = .ok { name := "web" } := by
    have hfirst : World.web.cluster.namespaces.find? (fun space => space.name == .text "web") =
        some { name := "web" } := List.find?_cons_of_pos (by decide +kernel)
    rw [Cluster.getNamespace, hfirst]
  have hvalid : ({ name := "web" } : Namespace).isValid = true := by decide +kernel
  have hbroken : Policy.broken.active = false := by decide +kernel
  obtain ⟨⟨result, hresult, hunites⟩, ⟨hagain, -⟩, -, hmore⟩ :=
    union_play Course.unwritable.toClock Course.later.toClock hfresh World.web_isSound hfound hvalid
  have hsame := ((hmore [.editor] .broken [] rfl Policy.broken_isSound).2 hbroken).2
  rw [List.singleton_append] at hsame
  have heditor := Policy.editor_isServable
  have hgranted : Policy.editor.IsGrantedAt World.web.cluster.roles "web"
      ⟨some "web", "edit-ann"⟩ := by
    refine ⟨heditor.valid, rfl, _, List.mem_singleton_self _, ?_, ?_, ?_⟩
    · exact List.mem_cons_of_mem _ (List.mem_singleton_self _)
    · exact (Policy.chooses_iff heditor.valid (List.mem_singleton_self _)).mp (by decide +kernel)
    · decide +kernel
  refine ⟨⟨hfresh, World.web_isSound, _, hfound, hvalid⟩, ?_, hsame, hagain⟩
  exact (hunites.places _).mpr (.inr ⟨.editor, List.mem_singleton_self _, hgranted⟩)

end NamespacePass

end RoleGrants
