import RoleGrants.DryRun.Edit
import RoleGrants.Proofs.Growth
import RoleGrants.Proofs.RoundTrip
import RoleGrants.Proofs.Trigger

/-! The cluster in memory stands for an API server. A server keeps bodies and a cluster keeps what
is read of them; `Objects.Represents` relates the two, and each call keeps them related and gets the
same answer from both, be it a value or a failure of one kind. So a server and the world that is
made of its objects agree on any sequence of calls. -/

namespace RoleGrants

open DryRun

/-! ### Two lists side by side -/

section

variable {α β : Type} {keeps : α → β → Prop} {bodies : List α} {items : List β}

theorem rel_find? {p : α → Bool} {q : β → Bool} (h : List.Forall₂ keeps bodies items)
    (hpq : ∀ body item, keeps body item → p body = q item) :
    Option.Rel keeps (bodies.find? p) (items.find? q) := by
  induction h with
  | nil => exact .none
  | @cons body item _ _ hfirst _ ih =>
    rw [List.find?_cons, List.find?_cons, hpq body item hfirst]
    cases q item with
    | true => exact .some hfirst
    | false => exact ih

theorem any_eq_any {p : α → Bool} {q : β → Bool} (h : List.Forall₂ keeps bodies items)
    (hpq : ∀ body item, keeps body item → p body = q item) : bodies.any p = items.any q := by
  induction h with
  | nil => rfl
  | cons hfirst _ ih => rw [List.any_cons, List.any_cons, hpq _ _ hfirst, ih]

theorem forall₂_filter {p : α → Bool} {q : β → Bool} (h : List.Forall₂ keeps bodies items)
    (hpq : ∀ body item, keeps body item → p body = q item) :
    List.Forall₂ keeps (bodies.filter p) (items.filter q) :=
  List.rel_filter (fun body item hkeeps => by simp only [hpq body item hkeeps]) h

theorem forall₂_of_mem {read : α → Except Failure β}
    (h : ∀ body ∈ bodies, ∃ item, read body = .ok item ∧ keeps body item) :
    ∃ items, bodies.mapM read = .ok items ∧ List.Forall₂ keeps bodies items := by
  induction bodies with
  | nil => exact ⟨[], rfl, .nil⟩
  | cons body rest ih =>
    obtain ⟨item, hread, hkeeps⟩ := h body List.mem_cons_self
    obtain ⟨others, hothers, hrest⟩ := ih fun other hmem => h other (List.mem_cons_of_mem _ hmem)
    refine ⟨item :: others, ?_, .cons hkeeps hrest⟩
    rw [List.mapM_cons, hread, hothers]
    rfl

theorem pairwise_of_forall₂ {apart : α → α → Prop} {distinct : β → β → Prop}
    (h : List.Forall₂ keeps bodies items)
    (hdistinct : ∀ a b x y, keeps a x → keeps b y → apart a b → distinct x y)
    (hapart : bodies.Pairwise apart) : items.Pairwise distinct := by
  induction h with
  | nil => exact .nil
  | @cons body item bodies items hfirst hrest ih =>
    obtain ⟨hbody, hapart⟩ := List.pairwise_cons.mp hapart
    refine List.pairwise_cons.mpr ⟨fun other hother => ?_, ih hapart⟩
    obtain ⟨i, hi, rfl⟩ := List.getElem_of_mem hother
    have hi' : i < bodies.length := hrest.length_eq ▸ hi
    exact hdistinct _ _ _ _ hfirst (hrest.get hi' hi) (hbody _ (List.getElem_mem hi'))

end

namespace Api

/-- Whether an object is read as an item that has the namespace and the name of its place. -/
structure Keeps {α : Type} (read : Value → Except Failure α) (space name : α → Value)
    (body : Value) (item : α) : Prop where
  reads : read body = .ok item
  place : ∃ place, body.place? = some place ∧ space item = place.spaceValue ∧
    name item = .text place.name

section

variable {α : Type} {read : Value → Except Failure α} {space name : α → Value}
  {body other : Value} {item otherItem : α}

theorem Keeps.isAt (h : Keeps read space name body item) (home label : Value) :
    isAt home label body = (space item == home && name item == label) := by
  obtain ⟨place, hplace, hspace, hname⟩ := h.place
  rw [Api.isAt, hplace, hspace, hname]
  rfl

/-- Objects at different places are read as items with different keys. -/
theorem Keeps.apart (h : Keeps read space name body item)
    (hother : Keeps read space name other otherItem) (hne : body.place? ≠ other.place?) :
    (space item == space otherItem && name item == name otherItem) = false := by
  obtain ⟨place, hplace, hspace, hname⟩ := h.place
  obtain ⟨otherPlace, hotherPlace, hotherSpace, hotherName⟩ := hother.place
  rw [Bool.eq_false_iff, hspace, hotherSpace, hname, hotherName]
  intro hsame
  obtain ⟨hsame, hnames⟩ := Bool.and_eq_true_iff.mp hsame
  have hspaces := Place.spaceValue_beq.mp hsame
  have hnames := Value.text.inj (Value.text_beq_iff.mp hnames)
  refine hne (hplace.trans (Eq.trans (congrArg some ?_) hotherPlace.symm))
  obtain ⟨_, _⟩ := place
  obtain ⟨_, _⟩ := otherPlace
  exact congrArg₂ Place.mk hspaces hnames.symm

end

abbrev KeepsPolicy := Keeps Policy.ofValue Policy.space Policy.name

abbrev KeepsNamespace := Keeps Namespace.ofValue (fun _ => .null) Namespace.name

abbrev KeepsBinding := Keeps Binding.ofValue Binding.space Binding.name

theorem KeepsBinding.isInSome {body : Value} {binding : Binding} (h : KeepsBinding body binding) :
    isInSome body = binding.space.isTrue := by
  obtain ⟨⟨_ | space, name⟩, hplace, hspace, -⟩ := h.place
  · rw [Api.isInSome, hplace, hspace]
    rfl
  · obtain ⟨_, _, _, _, _, hhome⟩ := Value.place?_eq_some hplace
    have hne : space ≠ "" := (Value.of_orElse_null hhome).2
    rw [Api.isInSome, hplace, hspace, Place.spaceValue, Value.isTrue_text.mpr hne]
    rfl

theorem KeepsBinding.isIn {body : Value} {binding : Binding} (h : KeepsBinding body binding)
    (home : Value) : isIn home body = (binding.space.isTrue && binding.space == home) := by
  rw [← KeepsBinding.isInSome h]
  obtain ⟨place, hplace, hspace, -⟩ := h.place
  rw [Api.isIn, Api.isInSome, hplace, hspace]
  rfl

/-- An object whose status is written is read as the policy with the conditions written. -/
theorem KeepsPolicy.merged {body : Value} {policy : Policy} (h : KeepsPolicy body policy)
    (written : Policy) :
    KeepsPolicy (body.merged written.statusPatch)
      { policy with conditions := written.conditions } := by
  obtain ⟨place, hplace, hspace, hname⟩ := h.place
  exact ⟨Policy.ofValue_merged h.reads, place, place?_merged hplace written, hspace, hname⟩

/-- Whether a cluster holds what is read of the objects of a server, in their order. -/
structure Objects.Represents (objects : Objects) (resource : CustomResource) (cluster : Cluster) :
    Prop where
  policies : List.Forall₂ KeepsPolicy (objects.custom resource) cluster.policies
  namespaces : List.Forall₂ KeepsNamespace objects.namespaces cluster.namespaces
  roles : List.Forall₂ (fun body name => Reply.roleName body = .ok name) objects.roles cluster.roles
  bindings : List.Forall₂ KeepsBinding objects.bindings cluster.bindings

/-- Whether a reply to the request for a call, or the status of its refusal, comes to an answer. -/
def ComesTo (call : StoreCall) : Except Int Reply → Except Failure call.Answer → Prop
  | .ok reply, answer => ∃ value, reply.answer call = .ok value ∧ answer = .ok value
  | .error status, answer => ∃ message, answer = .error (.store (faultOf (.int status)) message)

end Api

/-- Whether a call is one that the operator makes: it names objects by texts, lists the bindings of
all namespaces or of one that has a name, creates a binding for a policy that passes the check, and
writes any conditions. -/
def StoreCall.IsOrdinary : StoreCall → Prop
  | .getPolicy space name => space.IsText ∧ name.IsText
  | .getNamespace name => name.IsText
  | .listRoleBindings space => ∀ value, space = some value → ∃ text, value = .text text ∧ text ≠ ""
  | .createBinding binding => ∃ role policy, policy.validate = .ok () ∧ policy.space.IsText ∧
    (binding = .onCluster (.text role) policy ∨
      ∃ space, space ≠ "" ∧ binding = .inNamespace (.text role) policy (.text space))
  | .updateStatus policy => policy.space.IsText ∧ policy.name.IsText
  | _ => True

namespace Api.Objects

/-! ### Reading -/

theorem comesTo_listed {call : StoreCall} {bodies : List Value} {value : call.Answer}
    (h : (Reply.items (.list bodies)).answer call = .ok value) :
    ComesTo call (listed bodies) (.ok value) :=
  ⟨value, h, rfl⟩

theorem comesTo_found {call : StoreCall} {bodies : List Value} {space name : Value}
    {item? : Option call.Answer} {keeps : Value → call.Answer → Prop} {message : String}
    (h : Option.Rel keeps (bodies.find? (isAt space name)) item?)
    (hread : ∀ body item, keeps body item → (Reply.object body).answer call = .ok item) :
    ComesTo call (found bodies space name)
      (item?.elim (.error (.store .notFound message)) .ok) := by
  unfold found
  generalize bodies.find? (isAt space name) = body? at h
  cases h with
  | none => exact ⟨message, rfl⟩
  | some hkeeps => exact ⟨_, hread _ _ hkeeps, rfl⟩

namespace Represents

variable {resource : CustomResource} {objects : Objects} {cluster : Cluster}

theorem comesTo_getPolicy (h : objects.Represents resource cluster) (space name : String) :
    ComesTo (.getPolicy (.text space) (.text name))
      (found (objects.custom resource) (.text space) (.text name))
      (cluster.getPolicy (.text space) (.text name)) := by
  have hanswer : cluster.getPolicy (.text space) (.text name) =
      (cluster.policies.find? (Cluster.isPolicy (.text space) (.text name))).elim
        (.error (.store .notFound s!"PermissionPolicy {space}/{name} not found")) .ok := by
    unfold Cluster.getPolicy
    cases cluster.policies.find? (Cluster.isPolicy (.text space) (.text name)) <;> rfl
  rw [hanswer]
  exact comesTo_found (rel_find? h.policies fun _ _ hkeeps => hkeeps.isAt _ _)
    fun _ _ hkeeps => hkeeps.reads

theorem comesTo_getNamespace (h : objects.Represents resource cluster) (name : String) :
    ComesTo (.getNamespace (.text name)) (found objects.namespaces .null (.text name))
      (cluster.getNamespace (.text name)) := by
  have hanswer : cluster.getNamespace (.text name) =
      (cluster.namespaces.find? fun space => space.name == .text name).elim
        (.error (.store .notFound s!"Namespace {name} not found")) .ok := by
    unfold Cluster.getNamespace
    cases cluster.namespaces.find? fun space => space.name == .text name <;> rfl
  rw [hanswer]
  exact comesTo_found (rel_find? h.namespaces fun _ _ hkeeps => hkeeps.isAt _ _)
    fun _ _ hkeeps => hkeeps.reads

theorem comesTo_listPolicies (h : objects.Represents resource cluster) :
    ComesTo .listPolicies (listed (objects.custom resource)) (.ok cluster.policies) :=
  comesTo_listed (mapM_eq_ok.mpr (h.policies.imp fun _ _ hkeeps => hkeeps.reads))

theorem comesTo_listNamespaces (h : objects.Represents resource cluster) :
    ComesTo .listNamespaces (listed objects.namespaces) (.ok cluster.namespaces) :=
  comesTo_listed (mapM_eq_ok.mpr (h.namespaces.imp fun _ _ hkeeps => hkeeps.reads))

theorem comesTo_listClusterRoles (h : objects.Represents resource cluster) :
    ComesTo .listClusterRoles (listed objects.roles) (.ok cluster.roles) :=
  comesTo_listed (mapM_eq_ok.mpr h.roles)

theorem comesTo_listClusterRoleBindings (h : objects.Represents resource cluster) :
    ComesTo .listClusterRoleBindings
      (listed (objects.bindings.filter fun body => !isInSome body))
      (.ok cluster.clusterRoleBindings) := by
  have hkept : List.Forall₂ KeepsBinding (objects.bindings.filter fun body => !isInSome body)
      cluster.clusterRoleBindings :=
    forall₂_filter h.bindings fun _ _ hkeeps => by rw [KeepsBinding.isInSome hkeeps]
  exact comesTo_listed (mapM_eq_ok.mpr (hkept.imp fun _ _ hkeeps => hkeeps.reads))

theorem comesTo_listRoleBindings (h : objects.Represents resource cluster) {space : Option Value}
    {test : Value → Bool} (htest : ∀ body binding, KeepsBinding body binding →
      test body = (binding.space.isTrue && space.all fun home => binding.space == home)) :
    ComesTo (.listRoleBindings space) (listed (objects.bindings.filter test))
      (.ok (cluster.roleBindings space)) := by
  have hkept : List.Forall₂ KeepsBinding (objects.bindings.filter test)
      (cluster.roleBindings space) := forall₂_filter h.bindings htest
  exact comesTo_listed (mapM_eq_ok.mpr (hkept.imp fun _ _ hkeeps => hkeeps.reads))

/-! ### Writing -/

/-- A binding that is created is refused by both, or is kept by both. -/
theorem comesTo_createBinding (h : objects.Represents resource cluster) {binding : Binding}
    {place : Place} (hplace : binding.IsAt place) (hspace : binding.space = place.spaceValue)
    (hfilled : binding.filled = binding) :
    ComesTo (.createBinding binding) (objects.create place.spaceValue binding.toValue).1
        (cluster.answer (.createBinding binding)).1 ∧
      (objects.create place.spaceValue binding.toValue).2.Represents resource
        (cluster.answer (.createBinding binding)).2 := by
  have hkeeps : KeepsBinding binding.toValue binding :=
    ⟨binding.ofValue_toValue.trans (congrArg Except.ok hfilled), place,
      binding.place?_toValue hplace, hspace, hplace.1⟩
  have hkeys : Value.requireKeys [binding.space, binding.name] = .ok () := by
    rw [hspace, hplace.1]
    obtain ⟨_ | space, name⟩ := place <;> rfl
  -- The one is refused exactly when the other is, since both look for the same key.
  have hany : objects.bindings.any (isAt place.spaceValue (.text place.name)) =
      cluster.bindings.any (Cluster.isBinding binding.space binding.name) := by
    rw [hspace, hplace.1]
    exact any_eq_any h.bindings fun _ _ hkeeps => hkeeps.isAt _ _
  have hcreate : objects.create place.spaceValue binding.toValue =
      if objects.bindings.any (isAt place.spaceValue (.text place.name)) then (.error 409, objects)
      else (.ok (.object binding.toValue),
        { objects with bindings := objects.bindings ++ [binding.toValue] }) := by
    have hsame : (place.spaceValue == place.spaceValue) = true := Place.spaceValue_beq.mpr rfl
    simp only [create, binding.place?_toValue hplace, Option.filter_some, hsame, if_true]
  rw [hcreate, hany, Cluster.answer, Cluster.createBinding, hkeys]
  cases cluster.bindings.any (Cluster.isBinding binding.space binding.name) with
  | true => exact ⟨⟨_, rfl⟩, h⟩
  | false =>
    refine ⟨⟨binding, hkeeps.reads, rfl⟩, h.policies, h.namespaces, h.roles, ?_⟩
    exact List.rel_append h.bindings (.cons hkeeps .nil)

/-- A status is written by both to the policies under its key, or is refused by both. -/
theorem comesTo_updateStatus (h : objects.Represents resource cluster) {policy : Policy}
    (hspace : policy.space.IsText) (hname : policy.name.IsText) :
    let served := objects.serve
      (.patchCustomStatus resource policy.space policy.name policy.statusPatch)
    ComesTo (.updateStatus policy) served.1 (cluster.answer (.updateStatus policy)).1 ∧
      served.2.Represents resource (cluster.answer (.updateStatus policy)).2 := by
  have hkeys : Value.requireKeys [policy.space, policy.name] = .ok () := by
    obtain ⟨_, hspace⟩ := hspace
    obtain ⟨_, hname⟩ := hname
    rw [hspace, hname]
    rfl
  have htest : ∀ body kept, KeepsPolicy body kept → isAt policy.space policy.name body =
      Cluster.isPolicy policy.space policy.name kept := fun _ _ hkeeps => hkeeps.isAt _ _
  have hany : cluster.policies.any (Cluster.isPolicy policy.space policy.name) =
      (cluster.policies.find? (Cluster.isPolicy policy.space policy.name)).isSome :=
    List.isSome_find?.symm
  have hwritten : (objects.patch resource policy.space policy.name policy.statusPatch).Represents
      resource (cluster.changePolicy policy.space policy.name fun kept =>
        { kept with conditions := policy.conditions }) := by
    refine ⟨?_, h.namespaces, h.roles, h.bindings⟩
    simp only [patch, if_true]
    refine List.rel_map (fun body kept hkeeps => ?_) h.policies
    simp only [htest body kept hkeeps]
    split
    · exact KeepsPolicy.merged hkeeps policy
    · exact hkeeps
  have hfound := rel_find? h.policies htest
  rw [Cluster.answer, Cluster.updateStatus, hkeys, hany]
  dsimp only [serve]
  generalize (objects.custom resource).find? (isAt policy.space policy.name) = body? at hfound
  generalize cluster.policies.find? (Cluster.isPolicy policy.space policy.name) = kept? at hfound
  cases hfound with
  | none => exact ⟨⟨_, rfl⟩, h⟩
  | some _ => exact ⟨⟨(), rfl, rfl⟩, hwritten⟩

/-- Each call comes to the same on both sides, and leaves a cluster that represents the objects. -/
theorem comesTo_answer {settings : Settings} (h : objects.Represents (.ofSettings settings) cluster)
    (hwide : settings.isClusterwide) {call : StoreCall} (hcall : call.IsOrdinary) :
    let served := objects.serve (.ofCall settings call)
    ComesTo call served.1 (cluster.answer call).1 ∧
      served.2.Represents (.ofSettings settings) (cluster.answer call).2 := by
  cases call with
  | getPolicy space name =>
    obtain ⟨⟨space, rfl⟩, ⟨name, rfl⟩⟩ := hcall
    exact ⟨h.comesTo_getPolicy space name, h⟩
  | listPolicies =>
    simp only [Request.ofCall, Option.isNone_iff_eq_none.mp hwide]
    exact ⟨h.comesTo_listPolicies, h⟩
  | listClusterRoles => exact ⟨h.comesTo_listClusterRoles, h⟩
  | listClusterRoleBindings => exact ⟨h.comesTo_listClusterRoleBindings, h⟩
  | listRoleBindings space =>
    cases space with
    | none =>
      refine ⟨h.comesTo_listRoleBindings fun body binding hkeeps => ?_, h⟩
      rw [KeepsBinding.isInSome hkeeps, Option.all_none, Bool.and_true]
    | some space =>
      obtain ⟨text, rfl, hne⟩ := hcall space rfl
      simp only [Request.ofCall, Value.isTrue_text.mpr hne, if_true]
      exact ⟨h.comesTo_listRoleBindings fun _ _ hkeeps => KeepsBinding.isIn hkeeps _, h⟩
  | getNamespace name =>
    obtain ⟨name, rfl⟩ := hcall
    exact ⟨h.comesTo_getNamespace name, h⟩
  | listNamespaces => exact ⟨h.comesTo_listNamespaces, h⟩
  | createBinding binding =>
    obtain ⟨role, policy, hvalid, hhome, rfl | ⟨space, hne, rfl⟩⟩ := hcall
    · exact h.comesTo_createBinding (policy.onCluster_isAt _) rfl
        (policy.filled_inNamespace hvalid hhome role .null)
    · have hpresent : (Value.text space).isTrue = true := Value.isTrue_text.mpr hne
      have hfilled := policy.filled_inNamespace hvalid hhome role (.text space)
      rw [Value.orElse_of_isTrue hpresent] at hfilled
      simp only [Request.ofCall, Binding.inNamespace, hpresent, if_true]
      exact h.comesTo_createBinding (policy.inNamespace_isAt _ hne) rfl hfilled
  | updateStatus policy => exact h.comesTo_updateStatus hcall.1 hcall.2

end Represents

end Api.Objects

namespace Api

/-! ### The world made of the objects of a server -/

/-- Whether the objects of a server can be read, and are told apart by their places: policies are in
namespaces, namespaces are not, and bindings may be. -/
structure Objects.IsReadable (objects : Objects) (resource : CustomResource) : Prop where
  policies : ∀ body ∈ objects.custom resource, (∃ policy, Policy.ofValue body = .ok policy) ∧
    ∃ space name, body.place? = some ⟨some space, name⟩
  namespaces : ∀ body ∈ objects.namespaces, (∃ space, Namespace.ofValue body = .ok space) ∧
    ∃ name, body.place? = some ⟨none, name⟩
  roles : ∀ body ∈ objects.roles, ∃ name, Reply.roleName body = .ok name
  bindings : ∀ body ∈ objects.bindings, (∃ binding, Binding.ofValue body = .ok binding) ∧
    ∃ place, body.place? = some place
  policiesApart : (objects.custom resource).Pairwise fun a b => a.place? ≠ b.place?
  bindingsApart : objects.bindings.Pairwise fun a b => a.place? ≠ b.place?

end Api

namespace Cluster

theorem put_of_none {α : Type} {test : α → Bool} {items : List α}
    (h : ∀ item ∈ items, test item = false) (item : α) : put test item items = items ++ [item] := by
  induction items with
  | nil => rfl
  | cons first rest ih =>
    rw [put, h first List.mem_cons_self, ih fun other hmem => h other (List.mem_cons_of_mem _ hmem)]
    rfl

/-- Adding items that have different keys, each under its own, puts them at the end. -/
theorem foldlM_put {α : Type} {add : Cluster → α → Except Failure Cluster} {test : α → α → Bool}
    {items kept : List α} (keep : List α → Cluster)
    (hadd : ∀ item ∈ items, ∀ kept,
      add (keep kept) item = .ok (keep (put (test item) item kept)))
    (hapart : (kept ++ items).Pairwise fun a b => test b a = false) :
    items.foldlM add (keep kept) = .ok (keep (kept ++ items)) := by
  induction items generalizing kept with
  | nil =>
    rw [List.append_nil]
    rfl
  | cons item rest ih =>
    obtain ⟨-, -, hacross⟩ := List.pairwise_append.mp hapart
    have hput := put_of_none (fun other hmem => hacross other hmem item List.mem_cons_self) item
    rw [List.append_cons] at hapart ⊢
    rw [List.foldlM_cons, hadd item List.mem_cons_self, hput]
    exact ih (fun other hmem => hadd other (List.mem_cons_of_mem _ hmem)) hapart

end Cluster

namespace Api

theorem Keeps.requireKeys {α : Type} {read : Value → Except Failure α} {space name : α → Value}
    {bodies : List Value} {items : List α} (h : List.Forall₂ (Keeps read space name) bodies items) :
    ∀ item ∈ items, Value.requireKeys [space item, name item] = .ok () := by
  induction h with
  | nil => exact fun _ hmem => absurd hmem List.not_mem_nil
  | cons hkeeps _ ih =>
    rintro item (_ | ⟨_, hmem⟩)
    · obtain ⟨⟨_ | home, label⟩, -, hspace, hname⟩ := hkeeps.place <;> rw [hspace, hname] <;> rfl
    · exact ih item hmem

/-- Objects that can be read make a world, which represents them. -/
theorem Objects.IsReadable.ofBodies {objects : Objects} {resource : CustomResource}
    (h : objects.IsReadable resource) (clock : Int) :
    ∃ names world, objects.roles.mapM Reply.roleName = .ok names ∧
      World.ofBodies clock (objects.custom resource) objects.namespaces names objects.bindings =
        .ok world ∧
      objects.Represents resource world.cluster ∧ world.IsFaultless := by
  obtain ⟨policies, hpolicies, hkeptPolicies⟩ :
      ∃ policies, (objects.custom resource).mapM Policy.ofValue = .ok policies ∧
        List.Forall₂ KeepsPolicy (objects.custom resource) policies :=
    forall₂_of_mem fun body hmem => by
      obtain ⟨⟨policy, hread⟩, space, name, hplace⟩ := h.policies body hmem
      exact ⟨policy, hread, hread, _, hplace, Policy.key_of_ofValue hread hplace⟩
  obtain ⟨namespaces, hnamespaces, hkeptNamespaces⟩ :
      ∃ namespaces, objects.namespaces.mapM Namespace.ofValue = .ok namespaces ∧
        List.Forall₂ KeepsNamespace objects.namespaces namespaces :=
    forall₂_of_mem fun body hmem => by
      obtain ⟨⟨space, hread⟩, name, hplace⟩ := h.namespaces body hmem
      exact ⟨space, hread, hread, _, hplace, rfl, Namespace.name_of_ofValue hread hplace⟩
  obtain ⟨bindings, hbindings, hkeptBindings⟩ :
      ∃ bindings, objects.bindings.mapM Binding.ofValue = .ok bindings ∧
        List.Forall₂ KeepsBinding objects.bindings bindings :=
    forall₂_of_mem fun body hmem => by
      obtain ⟨⟨binding, hread⟩, place, hplace⟩ := h.bindings body hmem
      exact ⟨binding, hread, hread, place, hplace, Binding.key_of_ofValue hread hplace⟩
  obtain ⟨names, hnames, hkeptRoles⟩ := forall₂_of_mem fun body hmem => by
    obtain ⟨name, hread⟩ := h.roles body hmem
    exact ⟨name, hread, hread⟩
  have hpoliciesApart : policies.Pairwise fun a b => Cluster.isPolicy b.space b.name a = false :=
    pairwise_of_forall₂ hkeptPolicies (fun _ _ _ _ ha hb hne => ha.apart hb hne) h.policiesApart
  have hbindingsApart : bindings.Pairwise fun a b => Cluster.isBinding b.space b.name a = false :=
    pairwise_of_forall₂ hkeptBindings (fun _ _ _ _ ha hb hne => ha.apart hb hne) h.bindingsApart
  have hputPolicies : policies.foldlM Cluster.putPolicy { namespaces, roles := names } =
      .ok { namespaces, roles := names, policies } :=
    Cluster.foldlM_put (fun policies => { namespaces, roles := names, policies })
      (fun policy hmem kept => by
        rw [Cluster.putPolicy, Keeps.requireKeys hkeptPolicies policy hmem]
        rfl)
      hpoliciesApart
  have hputBindings : bindings.foldlM Cluster.putBinding { namespaces, roles := names, policies } =
      .ok { namespaces, roles := names, policies, bindings } :=
    Cluster.foldlM_put (fun bindings => { namespaces, roles := names, policies, bindings })
      (fun binding hmem kept => by
        rw [Cluster.putBinding, Keeps.requireKeys hkeptBindings binding hmem]
        rfl)
      hbindingsApart
  refine ⟨names, { cluster := { policies, namespaces, roles := names, bindings }, clock }, hnames,
    ?_, ⟨hkeptPolicies, hkeptNamespaces, hkeptRoles, hkeptBindings⟩, rfl, rfl⟩
  unfold World.ofBodies
  simp only [hpolicies, hnamespaces, hbindings, bind, Except.bind, hputPolicies, hputBindings]
  rfl

end Api

/-! ### Agreement -/

/-- Whether two answers are the same value or failures of the store of one kind. -/
inductive Alike {α : Type} : Except Failure α → Except Failure α → Prop
  | value (value : α) : Alike (.ok value) (.ok value)
  | fault (fault : StoreFault) (message other : String) :
      Alike (.error (.store fault message)) (.error (.store fault other))

namespace Api.Server

variable {σ : Type} {server : Server σ} {settings : Settings}

/-- Whether a server from a state on and a world give the same answers to calls one after
another. -/
def Agrees (server : Server σ) (settings : Settings) : σ → World → List StoreCall → Prop
  | _, _, [] => True
  | state, world, call :: rest =>
    Alike (server.ask settings state call).1 (world.call call).1 ∧
      server.Agrees settings (server.ask settings state call).2 (world.call call).2 rest

/-- The answer of a faithful server is what its reply comes to. -/
theorem IsFaithful.ask_alike (h : server.IsFaithful) {state : σ} {call : StoreCall}
    {answer : Except Failure call.Answer}
    (hcomes : ComesTo call ((server.objects state).serve (.ofCall settings call)).1 answer) :
    Alike (server.ask settings state call).1 answer := by
  cases hserve : ((server.objects state).serve (.ofCall settings call)).1 with
  | ok reply =>
    rw [hserve] at hcomes
    obtain ⟨value, hreply, rfl⟩ := hcomes
    have hask : (server.ask settings state call).1 = .ok value := by
      rw [← hreply, ← h.replies state _ reply hserve]
      rfl
    rw [hask]
    exact .value value
  | error status =>
    rw [hserve] at hcomes
    obtain ⟨message, rfl⟩ := hcomes
    obtain ⟨reason, hreply⟩ := h.refuses state _ status hserve
    have hask : (server.ask settings state call).1 =
        .error (refusal call (.int status) reason) := by
      change (server.reply state (.ofCall settings call)).1.answer call = _
      rw [hreply]
      rfl
    rw [hask]
    exact .fault _ _ _

theorem IsFaithful.agrees_of_represents (h : server.IsFaithful) (hwide : settings.isClusterwide)
    {calls : List StoreCall} (hcalls : ∀ call ∈ calls, call.IsOrdinary) {state : σ} {world : World}
    (hworld : world.IsFaultless)
    (hkept : (server.objects state).Represents (.ofSettings settings) world.cluster) :
    server.Agrees settings state world calls := by
  induction calls generalizing state world with
  | nil => trivial
  | cons call rest ih =>
    obtain ⟨hanswer, hcluster, hfaultless⟩ := World.call_eq hworld call
    obtain ⟨hcomes, hlater⟩ := hkept.comesTo_answer hwide (hcalls call List.mem_cons_self)
    refine ⟨hanswer ▸ h.ask_alike hcomes,
      ih (fun other hmem => hcalls other (List.mem_cons_of_mem _ hmem)) hfaultless ?_⟩
    rw [hcluster, show server.objects (server.ask settings state call).2 = _ from h.keeps state _]
    exact hlater

/-- A store that is a faithful server and one that is the cluster in memory made of the objects of
the server give the same answers to any calls that the operator makes, be they values or failures of
one kind. -/
theorem IsFaithful.agrees (h : server.IsFaithful) (hwide : settings.isClusterwide) {state : σ}
    (hobjects : (server.objects state).IsReadable (.ofSettings settings)) (clock : Int) :
    ∃ names world, (server.objects state).roles.mapM Reply.roleName = .ok names ∧
      World.ofBodies clock ((server.objects state).custom (.ofSettings settings))
        (server.objects state).namespaces names (server.objects state).bindings = .ok world ∧
      ∀ calls, (∀ call ∈ calls, call.IsOrdinary) → server.Agrees settings state world calls := by
  obtain ⟨names, world, hnames, hworld, hkept, hfaultless⟩ := hobjects.ofBodies clock
  exact ⟨names, world, hnames, hworld, fun calls hcalls =>
    h.agrees_of_represents hwide hcalls hfaultless hkept⟩

end Api.Server

namespace Api

/-- Objects of a cluster, with a binding among them that leaves out what has a default. -/
def Objects.viewed : Objects where
  custom _ := [Policy.viewer.toValue]
  namespaces := [.object [("metadata", .object [("name", "web")])]]
  roles := [.object [("metadata", .object [("name", "view")])]]
  bindings := [.object [
    ("metadata", .object [("name", "edit-ann"), ("namespace", "web")]),
    ("roleRef", .object [("name", "edit")])]]

theorem Objects.viewed_isReadable (resource : CustomResource) : viewed.IsReadable resource where
  policies := by
    rintro body (_ | ⟨_, hnone⟩)
    · exact ⟨⟨Policy.viewer, rfl⟩, "team", "viewer", rfl⟩
    · cases hnone
  namespaces := by
    rintro body (_ | ⟨_, hnone⟩)
    · exact ⟨⟨_, rfl⟩, "web", rfl⟩
    · cases hnone
  roles := by
    rintro body (_ | ⟨_, hnone⟩)
    · exact ⟨_, rfl⟩
    · cases hnone
  bindings := by
    rintro body (_ | ⟨_, hnone⟩)
    · exact ⟨⟨_, rfl⟩, _, rfl⟩
    · cases hnone
  policiesApart := List.pairwise_singleton ..
  bindingsApart := List.pairwise_singleton ..

/-- The calls with which a role is granted, twice, and what was made of them is read. -/
def viewedCalls : List StoreCall := [
  .getPolicy "team" "viewer",
  .createBinding (.onCluster "view" .viewer),
  .createBinding (.onCluster "view" .viewer),
  .createBinding (.inNamespace "edit" .viewer "web"),
  .updateStatus .viewer,
  .listPolicies,
  .listClusterRoles,
  .listClusterRoleBindings,
  .listRoleBindings none,
  .listRoleBindings (some "web"),
  .getNamespace "web",
  .getNamespace "team",
  .listNamespaces]

theorem viewedCalls_isOrdinary : ∀ call ∈ viewedCalls, call.IsOrdinary := by
  have hvalid : Policy.viewer.validate = .ok () := rfl
  have htext : ∀ text : String, (Value.text text).IsText := fun text => ⟨text, rfl⟩
  simp only [viewedCalls, List.forall_mem_cons]
  refine ⟨⟨htext _, htext _⟩, ⟨"view", .viewer, hvalid, htext _, .inl rfl⟩,
    ⟨"view", .viewer, hvalid, htext _, .inl rfl⟩,
    ⟨"edit", .viewer, hvalid, htext _, .inr ⟨"web", by decide, rfl⟩⟩, ⟨htext _, htext _⟩, trivial,
    trivial, trivial, nofun, ?_, htext _, htext _, trivial, nofun⟩
  rintro value ⟨⟩
  exact ⟨"web", rfl, by decide⟩

theorem Server.IsFaithful.agrees_viewed :
    plain.IsFaithful ∧ ({} : Settings).isClusterwide ∧
      Objects.viewed.IsReadable (.ofSettings {}) ∧
      ∃ names world, Objects.viewed.roles.mapM Reply.roleName = .ok names ∧
        World.ofBodies 0 (Objects.viewed.custom (.ofSettings {})) Objects.viewed.namespaces names
          Objects.viewed.bindings = .ok world ∧ plain.Agrees {} .viewed world viewedCalls := by
  have hwide : ({} : Settings).isClusterwide := rfl
  have hobjects : (plain.objects .viewed).IsReadable (.ofSettings {}) :=
    Objects.viewed_isReadable _
  obtain ⟨names, world, hnames, hworld, hagrees⟩ :=
    Server.IsFaithful.agrees plain_isFaithful hwide hobjects 0
  exact ⟨plain_isFaithful, hwide, hobjects, names, world, hnames, hworld,
    hagrees viewedCalls viewedCalls_isOrdinary⟩

end Api

end RoleGrants
