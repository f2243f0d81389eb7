import RoleGrants.Proofs.History
import RoleGrants.DryRun.World

/-! How a cluster changes as it answers calls. Namespaces, roles and what the owners of policies
wrote stay as they are, and bindings are only added, each under a key that was free. What an event
told of the cluster at its time stays true of every later one. -/

namespace RoleGrants

/-- A policy as its owner wrote it, without what is reported of it. -/
def Policy.unreported (policy : Policy) : Policy := { policy with conditions := [] }

theorem Policy.isTextual_unreported {policy : Policy} :
    policy.unreported.IsTextual ↔ policy.IsTextual :=
  ⟨fun h => ⟨h.1, h.2, h.3, h.4, h.5, h.6, h.7⟩, fun h => ⟨h.1, h.2, h.3, h.4, h.5, h.6, h.7⟩⟩

/-- Whether two bindings are kept under different keys. -/
def Binding.IsApart (stored binding : Binding) : Prop :=
  Cluster.isBinding binding.space binding.name stored = false

theorem Value.requireKeys_pair {space name : Value} (hspace : space.IsText) (hname : name.IsText) :
    requireKeys [space, name] = .ok () := by
  obtain ⟨space, rfl⟩ := hspace
  obtain ⟨name, rfl⟩ := hname
  rfl

namespace Cluster

def owned (cluster : Cluster) : List Policy := cluster.policies.map Policy.unreported

theorem exists_of_mem_owned {cluster : Cluster} {policy : Policy} (h : policy ∈ cluster.owned) :
    ∃ kept ∈ cluster.policies, kept.unreported = policy :=
  List.mem_map.mp h

theorem isTextual_owned {cluster : Cluster} (h : ∀ policy ∈ cluster.policies, policy.IsTextual) :
    ∀ policy ∈ cluster.owned, policy.IsTextual := by
  intro policy hmem
  obtain ⟨kept, hkept, rfl⟩ := exists_of_mem_owned hmem
  exact Policy.isTextual_unreported.mpr (h kept hkept)

/-- Whether bindings were only added, each under a key that was free. -/
def Adds (before after : List Binding) : Prop :=
  ∃ new, after = before ++ new ∧ new.Pairwise Binding.IsApart ∧
    ∀ stored ∈ before, ∀ binding ∈ new, stored.IsApart binding

theorem Adds.refl (bindings : List Binding) : Adds bindings bindings :=
  ⟨[], by simp, .nil, fun _ _ _ hmem => absurd hmem List.not_mem_nil⟩

theorem Adds.trans {first second third : List Binding} (h₁ : Adds first second)
    (h₂ : Adds second third) : Adds first third := by
  obtain ⟨one, rfl, hone, hfirst⟩ := h₁
  obtain ⟨two, rfl, htwo, hsecond⟩ := h₂
  refine ⟨one ++ two, List.append_assoc .., List.pairwise_append.mpr ⟨hone, htwo, ?_⟩, ?_⟩
  · exact fun stored hstored => hsecond stored (List.mem_append_right _ hstored)
  · intro stored hstored binding hbinding
    rcases List.mem_append.mp hbinding with hbinding | hbinding
    · exact hfirst stored hstored binding hbinding
    · exact hsecond stored (List.mem_append_left _ hstored) binding hbinding

theorem Adds.subset {before after : List Binding} (h : Adds before after) : before ⊆ after := by
  obtain ⟨new, rfl, -⟩ := h
  exact List.subset_append_left ..

/-- What stays of a cluster as it answers calls. -/
structure Leads (before after : Cluster) : Prop where
  owned : after.owned = before.owned
  namespaces : after.namespaces = before.namespaces
  roles : after.roles = before.roles
  bindings : Adds before.bindings after.bindings

theorem Leads.refl (cluster : Cluster) : cluster.Leads cluster := ⟨rfl, rfl, rfl, Adds.refl _⟩

theorem Leads.trans {first second third : Cluster} (h₁ : first.Leads second)
    (h₂ : second.Leads third) : first.Leads third where
  owned := h₂.owned.trans h₁.owned
  namespaces := h₂.namespaces.trans h₁.namespaces
  roles := h₂.roles.trans h₁.roles
  bindings := h₁.bindings.trans h₂.bindings

theorem Leads.clusterRoleBindings_subset {before after : Cluster} (h : before.Leads after) :
    before.clusterRoleBindings ⊆ after.clusterRoleBindings := by
  intro binding hmem
  obtain ⟨hmem, hspace⟩ := List.mem_filter.mp hmem
  exact List.mem_filter.mpr ⟨h.bindings.subset hmem, hspace⟩

theorem owned_changePolicy (cluster : Cluster) (space name : Value) {change : Policy → Policy}
    (h : ∀ policy, (change policy).unreported = policy.unreported) :
    (cluster.changePolicy space name change).owned = cluster.owned := by
  simp only [owned, changePolicy, List.map_map]
  refine List.map_congr_left fun policy _ => ?_
  simp only [Function.comp]
  split
  · exact h policy
  · rfl

theorem name_of_getNamespace {cluster : Cluster} {name : String} {space : Namespace}
    (h : cluster.getNamespace (.text name) = .ok space) : space.name = .text name := by
  unfold getNamespace at h
  split at h
  · next found hfound =>
    cases h
    have hname : (space.name == .text name) = true := by simpa using List.find?_some hfound
    exact Value.beq_text_iff.mp hname
  · cases h

theorem createBinding_ok {cluster after : Cluster} {binding : Binding}
    (h : cluster.createBinding binding = .ok after) :
    after = { cluster with bindings := cluster.bindings ++ [binding] } ∧
      ∀ stored ∈ cluster.bindings, stored.IsApart binding := by
  obtain ⟨_, _, h⟩ := exists_of_bind_ok h
  obtain ⟨_, hnew, h⟩ := exists_of_bind_ok h
  cases h
  refine ⟨rfl, fun stored hmem => ?_⟩
  have hnone := Policy.of_require_ok hnew
  simp only [Bool.not_eq_true', List.any_eq_false, Bool.not_eq_true] at hnone
  exact hnone stored hmem

theorem updateStatus_ok {cluster after : Cluster} {written : Policy}
    (h : cluster.updateStatus written = .ok after) :
    after = cluster.changePolicy written.space written.name
      fun kept => { kept with conditions := written.conditions } := by
  obtain ⟨_, _, h⟩ := exists_of_bind_ok h
  obtain ⟨_, _, h⟩ := exists_of_bind_ok h
  cases h
  rfl

theorem leads_answer (cluster : Cluster) (request : StoreCall) :
    cluster.Leads (cluster.answer request).2 := by
  cases request with
  | createBinding binding =>
    dsimp only [answer]
    split
    · next after hafter =>
      obtain ⟨rfl, hnew⟩ := createBinding_ok hafter
      refine ⟨rfl, rfl, rfl, [binding], rfl, List.pairwise_singleton .., ?_⟩
      intro stored hstored other hother
      exact List.mem_singleton.mp hother ▸ hnew stored hstored
    · exact Leads.refl cluster
  | updateStatus written =>
    dsimp only [answer]
    split
    · next after hafter =>
      rw [updateStatus_ok hafter]
      exact ⟨owned_changePolicy _ _ _ fun _ => rfl, rfl, rfl, Adds.refl _⟩
    · exact Leads.refl cluster
  | _ => exact Leads.refl cluster

/-- A policy of an owner is found under its name. -/
theorem any_isPolicy_of_owned {cluster : Cluster} {policy : Policy} (hspace : policy.space.IsText)
    (hname : policy.name.IsText) (h : policy.unreported ∈ cluster.owned) :
    cluster.policies.any (isPolicy policy.space policy.name) = true := by
  obtain ⟨space, hspace⟩ := hspace
  obtain ⟨name, hname⟩ := hname
  obtain ⟨kept, hmem, hkept⟩ := List.mem_map.mp h
  have hkeptSpace : kept.space = policy.space :=
    show kept.unreported.space = policy.unreported.space from hkept ▸ rfl
  have hkeptName : kept.name = policy.name :=
    show kept.unreported.name = policy.unreported.name from hkept ▸ rfl
  refine List.any_eq_true.mpr ⟨kept, hmem, ?_⟩
  rw [isPolicy, hkeptSpace, hkeptName, hspace, hname]
  exact Bool.and_eq_true_iff.mpr ⟨Value.text_beq_iff.mpr rfl, Value.text_beq_iff.mpr rfl⟩

end Cluster

/-- Whether the key of a binding is made of texts, but for a binding on the whole cluster. -/
structure Binding.IsProper (binding : Binding) : Prop where
  space : binding.space = .null ∨ binding.space.IsText
  name : binding.name.IsText

theorem Value.beq_null_iff {value : Value} : (value == .null) = true ↔ value = .null := by
  cases value with
  | null => simp [BEq.beq, same]
  | bool b => constructor <;> intro h <;> cases h
  | int n => constructor <;> intro h <;> cases h
  | _ => simp [BEq.beq, same, asInt?]

/-- A binding in the way of a proper one has the same key. -/
theorem Binding.IsProper.key_eq {stored binding : Binding} (h : binding.IsProper)
    (hsame : Cluster.isBinding binding.space binding.name stored = true) :
    stored.space = binding.space ∧ stored.name = binding.name := by
  obtain ⟨hspace, hname⟩ := Bool.and_eq_true_iff.mp hsame
  constructor
  · rcases h.space with hnull | ⟨space, htext⟩
    · rw [hnull] at hspace ⊢
      exact Value.beq_null_iff.mp hspace
    · rw [htext] at hspace ⊢
      exact Value.beq_text_iff.mp hspace
  · obtain ⟨name, htext⟩ := h.name
    rw [htext] at hname ⊢
    exact Value.beq_text_iff.mp hname

namespace StoreCall

/-- Whether the keys of a call are texts, but for the namespace of a binding on the whole
cluster. -/
def IsKeyed : StoreCall → Prop
  | .getPolicy space name => space.IsText ∧ name.IsText
  | .getNamespace name => name.IsText
  | .createBinding binding => binding.IsProper
  | .updateStatus written => written.space.IsText ∧ written.name.IsText
  | _ => True

/-- Whether a call is one that passes make of a cluster: its keys are texts, and a status is written
to a policy that is there. -/
def IsProper (cluster : Cluster) : StoreCall → Prop
  | .getPolicy space name => space.IsText ∧ name.IsText
  | .getNamespace name => name.IsText
  | .createBinding binding => binding.IsProper
  | .updateStatus written =>
    written.space.IsText ∧ written.name.IsText ∧ written.unreported ∈ cluster.owned
  | _ => True

/-- What an answer told of a cluster, that still holds of a later one. Of the bindings on the whole
cluster, those in `base` were all listed. -/
def IsAnswered (base cluster : Cluster) :
    (request : StoreCall) → Except Failure request.Answer → Prop
  | .getPolicy space name, .ok policy =>
    cluster.owned.find? (Cluster.isPolicy space name) = some policy.unreported
  | .getPolicy space name, .error failure =>
    cluster.owned.find? (Cluster.isPolicy space name) = none ∧
      ∃ message, failure = .store .notFound message
  | .listPolicies, answer =>
    ∃ policies, answer = .ok policies ∧ policies.map Policy.unreported = cluster.owned
  | .listClusterRoles, answer => answer = .ok cluster.roles
  | .listClusterRoleBindings, answer => ∃ bindings, answer = .ok bindings ∧
    base.clusterRoleBindings ⊆ bindings ∧ bindings ⊆ cluster.clusterRoleBindings
  | .listRoleBindings _, answer => ∃ bindings, answer = .ok bindings ∧ bindings ⊆ cluster.bindings
  | .getNamespace name, answer => name.IsText ∧ answer = cluster.getNamespace name
  | .listNamespaces, answer => answer = .ok cluster.namespaces
  | .createBinding binding, answer => Settled answer ∧
    ∃ stored ∈ cluster.bindings, stored.space = binding.space ∧ stored.name = binding.name
  | .updateStatus _, answer => answer = .ok ()

variable {base cluster later : Cluster}

theorem IsAnswered.mono {request : StoreCall} {answer : Except Failure request.Answer}
    (h : request.IsAnswered base cluster answer) (hleads : cluster.Leads later) :
    request.IsAnswered base later answer := by
  cases request with
  | getPolicy space name => cases answer <;> simpa only [IsAnswered, hleads.owned] using h
  | listPolicies => simpa only [IsAnswered, hleads.owned] using h
  | listClusterRoles => simpa only [IsAnswered, hleads.roles] using h
  | listClusterRoleBindings =>
    obtain ⟨bindings, heq, hbase, hcluster⟩ := h
    exact ⟨bindings, heq, hbase, List.Subset.trans hcluster hleads.clusterRoleBindings_subset⟩
  | listRoleBindings space =>
    obtain ⟨bindings, heq, hcluster⟩ := h
    exact ⟨bindings, heq, List.Subset.trans hcluster hleads.bindings.subset⟩
  | getNamespace name => simpa only [IsAnswered, Cluster.getNamespace, hleads.namespaces] using h
  | listNamespaces => simpa only [IsAnswered, hleads.namespaces] using h
  | createBinding binding =>
    obtain ⟨hsettled, stored, hmem, hkey⟩ := h
    exact ⟨hsettled, stored, hleads.bindings.subset hmem, hkey⟩
  | updateStatus written => exact h

theorem find?_owned (space name : Value) :
    cluster.owned.find? (Cluster.isPolicy space name) =
      (cluster.policies.find? (Cluster.isPolicy space name)).map Policy.unreported :=
  List.find?_map ..

theorem isAnswered_getPolicy {space name : Value} (hspace : space.IsText) (hname : name.IsText) :
    (getPolicy space name).IsAnswered base cluster (cluster.getPolicy space name) := by
  obtain ⟨space, rfl⟩ := hspace
  obtain ⟨name, rfl⟩ := hname
  have hfind : cluster.owned.find? (Cluster.isPolicy (.text space) (.text name)) = _ :=
    find?_owned (.text space) (.text name)
  unfold Cluster.getPolicy
  cases hfound : cluster.policies.find? (Cluster.isPolicy (.text space) (.text name)) with
  | none =>
    rw [hfound] at hfind
    exact ⟨hfind, _, rfl⟩
  | some policy =>
    rw [hfound] at hfind
    exact hfind

theorem isAnswered_createBinding {binding : Binding} (h : binding.IsProper) :
    (createBinding binding).IsAnswered base (cluster.answer (.createBinding binding)).2
      (cluster.answer (.createBinding binding)).1 := by
  dsimp only [Cluster.answer]
  split
  · next after hafter =>
    obtain ⟨rfl, -⟩ := Cluster.createBinding_ok hafter
    exact ⟨trivial, binding, List.mem_concat_self, rfl, rfl⟩
  · next failure hfailure =>
    obtain ⟨name, hname⟩ := h.name
    have hkeys : Value.requireKeys [binding.space, binding.name] = .ok () := by
      rcases h.space with hspace | ⟨space, hspace⟩ <;> rw [hspace, hname] <;> rfl
    -- With keys that are texts, only a binding that is there already can be in the way.
    unfold Cluster.createBinding at hfailure
    rw [hkeys] at hfailure
    cases hany : cluster.bindings.any (Cluster.isBinding binding.space binding.name) with
    | false =>
      rw [hany] at hfailure
      cases hfailure
    | true =>
      rw [hany] at hfailure
      cases hfailure
      obtain ⟨stored, hmem, hsame⟩ := List.any_eq_true.mp hany
      exact ⟨trivial, stored, hmem, h.key_eq hsame⟩

theorem updateStatus_answer {written : Policy} (h : (updateStatus written).IsProper cluster) :
    (cluster.answer (.updateStatus written)) = (.ok (), cluster.changePolicy written.space
      written.name fun kept => { kept with conditions := written.conditions }) := by
  obtain ⟨hspace, hname, howned⟩ := h
  have hupdate : cluster.updateStatus written = .ok (cluster.changePolicy written.space
      written.name fun kept => { kept with conditions := written.conditions }) := by
    unfold Cluster.updateStatus
    rw [Value.requireKeys_pair hspace hname, Cluster.any_isPolicy_of_owned hspace hname howned]
    rfl
  simp only [Cluster.answer, hupdate]

theorem isAnswered_answer {request : StoreCall} (hbase : base.Leads cluster)
    (h : request.IsProper cluster) :
    request.IsAnswered base (cluster.answer request).2 (cluster.answer request).1 := by
  cases request with
  | getPolicy space name => exact isAnswered_getPolicy h.1 h.2
  | listPolicies => exact ⟨_, rfl, rfl⟩
  | listClusterRoles => rfl
  | listClusterRoleBindings =>
    exact ⟨_, rfl, hbase.clusterRoleBindings_subset, List.Subset.refl _⟩
  | listRoleBindings space => exact ⟨_, rfl, fun _ hmem => (List.mem_filter.mp hmem).1⟩
  | getNamespace name => exact ⟨h, rfl⟩
  | listNamespaces => rfl
  | createBinding binding => exact isAnswered_createBinding h
  | updateStatus written => rw [updateStatus_answer h]; rfl

end StoreCall

def Cluster.Holds (cluster : Cluster) (place : Place) : Prop :=
  ∃ binding ∈ cluster.bindings, binding.IsAt place

theorem Cluster.Holds.mono {before after : Cluster} {place : Place} (h : before.Holds place)
    (hleads : before.Leads after) : after.Holds place := by
  obtain ⟨binding, hmem, hat⟩ := h
  exact ⟨binding, hleads.bindings.subset hmem, hat⟩

/-- What an event told of a cluster, that still holds of a later one. -/
def Event.IsSeen (base cluster : Cluster) : Event → Prop
  | .judged _ moment => ∃ text, Timestamp.ofMoment moment = .ok text
  | .reported item result => item.IsKeyed → result = .ok ()
  | .called request answer => request.IsAnswered base cluster answer

theorem Event.IsSeen.mem_owned {base cluster : Cluster} {space name : Value} {policy : Policy}
    (h : Event.IsSeen base cluster (.called (.getPolicy space name) (.ok policy))) :
    policy.unreported ∈ cluster.owned :=
  List.mem_of_find?_eq_some h

theorem Event.IsSeen.mem_owned_list {base cluster : Cluster} {policies : List Policy}
    {policy : Policy} (h : Event.IsSeen base cluster (.called .listPolicies (.ok policies)))
    (hmem : policy ∈ policies) : policy.unreported ∈ cluster.owned := by
  obtain ⟨others, heq, howned⟩ := h
  cases heq
  exact howned ▸ List.mem_map_of_mem hmem

theorem Event.IsSeen.isTyped {base cluster : Cluster} {event : Event}
    (h : event.IsSeen base cluster) (htextual : ∀ policy ∈ cluster.owned, policy.IsTextual) :
    event.IsTyped := by
  cases event with
  | judged verdict moment => trivial
  | reported item result => trivial
  | called request answer =>
    cases request with
    | getPolicy space name =>
      rintro policy rfl
      exact Policy.isTextual_unreported.mp (htextual _ h.mem_owned)
    | listPolicies =>
      rintro policies rfl policy hmem
      exact Policy.isTextual_unreported.mp (htextual _ (h.mem_owned_list hmem))
    | getNamespace name =>
      rintro space rfl
      obtain ⟨⟨text, rfl⟩, hanswer⟩ := h
      exact Cluster.name_of_getNamespace hanswer.symm
    | _ => trivial

theorem typed_of_seen {base cluster : Cluster} {past : List Event}
    (hseen : ∀ event ∈ past, event.IsSeen base cluster)
    (htextual : ∀ policy ∈ cluster.owned, policy.IsTextual) : ∀ event ∈ past, event.IsTyped :=
  fun event hmem => (hseen event hmem).isTyped htextual

theorem Event.IsSeen.mono {base cluster later : Cluster} {event : Event}
    (h : event.IsSeen base cluster) (hleads : cluster.Leads later) : event.IsSeen base later := by
  cases event with
  | judged verdict moment => exact h
  | reported item result => exact h
  | called request answer => exact StoreCall.IsAnswered.mono h hleads

theorem Confirmed.holds {base cluster : Cluster} {past : List Event} {place : Place}
    (h : Confirmed past place) (hseen : ∀ event ∈ past, event.IsSeen base cluster) :
    cluster.Holds place := by
  cases h with
  | @onCluster bindings binding name hcall hmem hname =>
    obtain ⟨others, heq, -, hlisted⟩ := hseen _ hcall
    cases heq
    obtain ⟨hstored, hspace⟩ := List.mem_filter.mp (hlisted hmem)
    exact ⟨binding, hstored, hname, by simpa using hspace⟩
  | @inNamespace scope bindings binding space name hcall hmem hat =>
    obtain ⟨others, heq, hlisted⟩ := hseen _ hcall
    cases heq
    exact ⟨binding, hlisted hmem, hat⟩
  | @created binding answer place hcall hsettled hat =>
    obtain ⟨-, stored, hstored, hspace, hname⟩ := hseen _ hcall
    exact ⟨stored, hstored, hname.trans hat.1, by rw [hspace]; exact hat.2⟩

namespace DryRun.World

/-- Whether a world answers as its cluster does: no failure is asked for and bindings are listed. -/
structure IsFaultless (world : World) : Prop where
  faults : world.faults = []
  fresh : world.isStale = false

/-- What can happen in a world: verdicts at any moment that has a timestamp, reports and calls. -/
inductive Happens (world : World) : Event → World → Prop
  | judge {verdict : Verdict} {moment : Int} {text : String} :
      Timestamp.ofMoment moment = .ok text → Happens world (.judged verdict moment) world
  | report {item : Report} :
      Happens world (.reported item (world.report item).1) (world.report item).2
  | call {request : StoreCall} :
      Happens world (.called request (world.call request).1) (world.call request).2

theorem report_cluster (world : World) (item : Report) :
    (world.report item).2.cluster = world.cluster ∧
      (world.IsFaultless → (world.report item).2.IsFaultless) := by
  cases item with
  | clear series =>
    rcases hclear : world.sink.clear series with ⟨failure | (_ | _), sink⟩ <;>
      simp only [report, hclear] <;> exact ⟨trivial, fun h => ⟨h.faults, h.fresh⟩⟩
  | _ => exact ⟨rfl, fun h => ⟨h.faults, h.fresh⟩⟩

theorem report_clock (world : World) (item : Report) :
    (world.report item).2.clock = world.clock := by
  cases item with
  | clear series =>
    rcases hclear : world.sink.clear series with ⟨failure | (_ | _), sink⟩ <;>
      simp only [report, hclear]
  | _ => rfl

theorem call_clock (world : World) (request : StoreCall) :
    (world.call request).2.clock = world.clock := by
  dsimp only [call]
  split
  · rfl
  · split <;> rfl

theorem answer_eq {world : World} (h : world.isStale = false) (request : StoreCall) :
    world.answer request = world.cluster.answer request := by
  cases request with
  | listClusterRoleBindings => simp [answer, h]
  | listRoleBindings space => simp [answer, h]
  | _ => rfl

theorem report_ok (world : World) {item : Report} (h : item.IsKeyed) :
    (world.report item).1 = .ok () := by
  cases item with
  | log level text => rfl
  | count counter => rfl
  | record series active =>
    have hkeys : Value.requireKeys series.parts = .ok () := by
      rw [Value.requireKeys, List.all_eq_true.mpr h]
      rfl
    simp only [report, Sink.record, hkeys]
    split <;> rfl
  | clear series =>
    have hkeys : Value.requireKeys series.parts = .ok () := by
      rw [Value.requireKeys, List.all_eq_true.mpr h]
      rfl
    simp only [report, Sink.clear, hkeys]
    cases world.sink.recorded.any series.same <;> rfl

theorem call_eq {world : World} (h : world.IsFaultless) (request : StoreCall) :
    (world.call request).1 = (world.cluster.answer request).1 ∧
      (world.call request).2.cluster = (world.cluster.answer request).2 ∧
      (world.call request).2.IsFaultless := by
  have hanswer : ({ world with
      faults := [], journal := { world.journal with
        calls := world.journal.calls ++ [request.operation] } } : World).answer request =
      world.cluster.answer request := answer_eq h.fresh request
  simp only [call, h.faults, nextFailure?, hanswer]
  split
  · next failure cluster heq => exact ⟨by rw [heq], by rw [heq], rfl, h.fresh⟩
  · next value cluster heq => exact ⟨by rw [heq], by rw [heq], rfl, h.fresh⟩

theorem Happens.leads {world after : World} {event : Event} (h : world.Happens event after)
    (hworld : world.IsFaultless) : after.IsFaultless ∧ world.cluster.Leads after.cluster := by
  cases h with
  | judge htime => exact ⟨hworld, Cluster.Leads.refl _⟩
  | @report item =>
    obtain ⟨hcluster, hfaultless⟩ := world.report_cluster item
    exact ⟨hfaultless hworld, hcluster ▸ Cluster.Leads.refl _⟩
  | @call request =>
    obtain ⟨-, hcluster, hfaultless⟩ := call_eq hworld request
    exact ⟨hfaultless, hcluster ▸ Cluster.leads_answer _ _⟩

theorem Happens.isSeen {world after : World} {event : Event} {base : Cluster}
    (h : world.Happens event after) (hworld : world.IsFaultless) (hbase : base.Leads world.cluster)
    (hproper : ∀ request answer, event = .called request answer → request.IsProper world.cluster) :
    event.IsSeen base after.cluster := by
  cases h with
  | judge htime => exact ⟨_, htime⟩
  | @report item => exact fun hkeyed => world.report_ok hkeyed
  | @call request =>
    obtain ⟨hanswer, hcluster, -⟩ := call_eq hworld request
    rw [hanswer, hcluster]
    exact StoreCall.isAnswered_answer hbase (hproper request _ rfl)

end DryRun.World

end RoleGrants
