import RoleGrants.Proofs.Event
import RoleGrants.Proofs.Selection

/-! Places of bindings, and what a program has learned of them. A binding stands at the place of its
name in its namespace, or on the whole cluster. A place is confirmed by some events if a binding
there was listed in them, or was created, or was found to exist when it was to be created. -/

namespace RoleGrants

/-- Where a binding stands: under a name, in a namespace or on the whole cluster. -/
structure Place where
  space : Option String
  name : String
  deriving DecidableEq

def Binding.IsAt (binding : Binding) (place : Place) : Prop :=
  binding.name = .text place.name ∧
    match place.space with
    | none => binding.space.isTrue = false
    | some space => space ≠ "" ∧ binding.space = .text space

theorem Binding.IsAt.unique {binding : Binding} {place other : Place} (h : binding.IsAt place)
    (hother : binding.IsAt other) : place = other := by
  obtain ⟨space, name⟩ := place
  obtain ⟨otherSpace, otherName⟩ := other
  obtain ⟨hname, hspace⟩ := h
  obtain ⟨hotherName, hotherSpace⟩ := hother
  have hnames : name = otherName := Value.text.inj (hname.symm.trans hotherName)
  cases space with
  | none =>
    cases otherSpace with
    | none => rw [hnames]
    | some text =>
      obtain ⟨hne, htext⟩ := hotherSpace
      have htrue : binding.space.isTrue = true := htext ▸ Value.isTrue_text.mpr hne
      rw [hspace] at htrue
      cases htrue
  | some text =>
    obtain ⟨hne, htext⟩ := hspace
    cases otherSpace with
    | none =>
      have htrue : binding.space.isTrue = true := htext ▸ Value.isTrue_text.mpr hne
      rw [hotherSpace] at htrue
      cases htrue
    | some otherText =>
      have htexts : text = otherText := Value.text.inj (htext.symm.trans hotherSpace.2)
      rw [hnames, htexts]

theorem Namespace.ne_empty_of_isValid {space : Namespace} {name : String}
    (h : space.isValid = true) (hname : space.name = .text name) :
    name ≠ "" ∧ space.isTerminating = false := by
  obtain ⟨htrue, hterminating⟩ := Bool.and_eq_true_iff.mp h
  rw [hname, Value.isTrue_text] at htrue
  exact ⟨htrue, by simpa using hterminating⟩

/-- The names of bindings of different roles to one subject are different. -/
theorem Binding.role_eq_of_nameOf {role other subject : Value} (hrole : role.IsText)
    (hother : other.IsText) (h : nameOf role subject = nameOf other subject) : role = other := by
  obtain ⟨text, rfl⟩ := hrole
  obtain ⟨label, rfl⟩ := hother
  have hlists : (toString text).toList = (toString label).toList := by
    simpa [nameOf] using congrArg String.toList h
  exact congrArg Value.text (String.toList_inj.mp hlists)

namespace Policy

def clusterPlace (policy : Policy) (role : Value) : Place :=
  ⟨none, Binding.nameOf role policy.subjectName⟩

def namespacePlace (policy : Policy) (role : Value) (space : String) : Place :=
  ⟨some space, Binding.nameOf role policy.subjectName⟩

theorem onCluster_isAt (policy : Policy) (role : Value) :
    (Binding.onCluster role policy).IsAt (policy.clusterPlace role) := ⟨rfl, rfl⟩

theorem inNamespace_isAt (policy : Policy) (role : Value) {space : String} (h : space ≠ "") :
    (Binding.inNamespace role policy (.text space)).IsAt (policy.namespacePlace role space) :=
  ⟨rfl, h, rfl⟩

end Policy

namespace BindingIndex

theorem exists?_foldl_none (bindings : List Binding) (index : BindingIndex) (name : String) :
    (bindings.foldl add index).exists? (.text name) none =
      (index.exists? (.text name) none ||
        bindings.any fun binding => Value.text name == binding.name) := by
  induction bindings generalizing index with
  | nil => simp
  | cons binding rest ih =>
    rw [List.foldl_cons, ih, exists?_add_none, List.any_cons, Bool.or_assoc]

theorem exists?_foldl_some (bindings : List Binding) (index : BindingIndex) (space name : String) :
    (bindings.foldl add index).exists? (.text name) (some (.text space)) =
      (index.exists? (.text name) (some (.text space)) ||
        bindings.any fun binding => binding.space.isTrue && Value.text space == binding.space &&
          Value.text name == binding.name) := by
  induction bindings generalizing index with
  | nil => simp
  | cons binding rest ih =>
    rw [List.foldl_cons, ih, exists?_add_some, List.any_cons, Bool.or_assoc]

theorem exists?_ofList_none {bindings : List Binding} {name : String} :
    (ofList bindings).exists? (.text name) none = true ↔
      ∃ binding ∈ bindings, binding.name = .text name := by
  rw [ofList, exists?_foldl_none]
  simp [exists?]

theorem exists?_ofList_some {bindings : List Binding} {space name : String} :
    (ofList bindings).exists? (.text name) (some (.text space)) = true ↔
      ∃ binding ∈ bindings, binding.IsAt ⟨some space, name⟩ := by
  rw [ofList, exists?_foldl_some]
  simp only [exists?, List.contains_nil, Bool.false_or, List.any_eq_true, Bool.and_eq_true,
    Value.text_beq_iff]
  refine exists_congr fun binding => and_congr_right fun _ => ?_
  constructor
  · rintro ⟨⟨htrue, hspace⟩, hname⟩
    rw [hspace, Value.isTrue_text] at htrue
    exact ⟨hname, htrue, hspace⟩
  · rintro ⟨hname, hne, hspace⟩
    exact ⟨⟨by rw [hspace]; exact Value.isTrue_text.mpr hne, hspace⟩, hname⟩

end BindingIndex

/-- Whether the answer to the creation of a binding says that one stands at its place now. -/
def Settled : Except Failure Binding → Prop
  | .ok _ => True
  | .error (.store .alreadyExists _) => True
  | .error _ => False

theorem not_settled {failure : Failure} (h : ∀ message, failure ≠ .store .alreadyExists message) :
    ¬ Settled (.error failure) := by
  intro hsettled
  unfold Settled at hsettled
  split at hsettled
  · next heq => cases heq
  · next message heq => exact h message (Except.error.inj heq)
  · exact hsettled

/-- Whether some events show that a binding stands at a place. -/
inductive Confirmed (past : List Event) : Place → Prop
  | onCluster {bindings : List Binding} {binding : Binding} {name : String} :
      .called .listClusterRoleBindings (.ok bindings) ∈ past → binding ∈ bindings →
      binding.name = .text name → Confirmed past ⟨none, name⟩
  | inNamespace {scope : Option Value} {bindings : List Binding} {binding : Binding}
      {space name : String} :
      .called (.listRoleBindings scope) (.ok bindings) ∈ past → binding ∈ bindings →
      binding.IsAt ⟨some space, name⟩ → Confirmed past ⟨some space, name⟩
  | created {binding : Binding} {answer : Except Failure Binding} {place : Place} :
      .called (.createBinding binding) answer ∈ past → Settled answer → binding.IsAt place →
      Confirmed past place

theorem Confirmed.mono {past later : List Event} {place : Place} (h : Confirmed past place)
    (hsub : past ⊆ later) : Confirmed later place := by
  cases h with
  | onCluster hcall hmem hname => exact .onCluster (hsub hcall) hmem hname
  | inNamespace hcall hmem hat => exact .inNamespace (hsub hcall) hmem hat
  | created hcall hsettled hat => exact .created (hsub hcall) hsettled hat

namespace BindingIndex

/-- Whether the names that an index has are confirmed to stand on the whole cluster. -/
def KnowsCluster (index : BindingIndex) (past : List Event) : Prop :=
  ∀ name, index.exists? (.text name) none = true → Confirmed past ⟨none, name⟩

def KnowsNamespaces (index : BindingIndex) (past : List Event) : Prop :=
  ∀ space name, index.exists? (.text name) (some (.text space)) = true →
    Confirmed past ⟨some space, name⟩

variable {index : BindingIndex} {past later : List Event}

theorem KnowsCluster.mono (h : index.KnowsCluster past) (hsub : past ⊆ later) :
    index.KnowsCluster later := fun name hexists => (h name hexists).mono hsub

theorem KnowsNamespaces.mono (h : index.KnowsNamespaces past) (hsub : past ⊆ later) :
    index.KnowsNamespaces later := fun space name hexists => (h space name hexists).mono hsub

theorem knowsCluster_ofList {bindings : List Binding}
    (h : .called .listClusterRoleBindings (.ok bindings) ∈ past) :
    (ofList bindings).KnowsCluster past := by
  intro name hexists
  obtain ⟨binding, hmem, hname⟩ := exists?_ofList_none.mp hexists
  exact .onCluster h hmem hname

theorem knowsNamespaces_ofList {scope : Option Value} {bindings : List Binding}
    (h : .called (.listRoleBindings scope) (.ok bindings) ∈ past) :
    (ofList bindings).KnowsNamespaces past := by
  intro space name hexists
  obtain ⟨binding, hmem, hat⟩ := exists?_ofList_some.mp hexists
  exact .inNamespace h hmem hat

theorem KnowsCluster.add (h : index.KnowsCluster past) {binding : Binding} {place : String}
    (hname : binding.name = .text place) (hconfirmed : Confirmed past ⟨none, place⟩) :
    (index.add binding).KnowsCluster past := by
  intro name hexists
  rw [exists?_add_none, Bool.or_eq_true, hname, Value.text_beq_iff] at hexists
  rcases hexists with hexists | hsame
  · exact h name hexists
  · cases hsame
    exact hconfirmed

theorem KnowsNamespaces.add (h : index.KnowsNamespaces past) {binding : Binding}
    {target place : String} (hat : binding.IsAt ⟨some target, place⟩)
    (hconfirmed : Confirmed past ⟨some target, place⟩) :
    (index.add binding).KnowsNamespaces past := by
  obtain ⟨hplace, -, htarget⟩ := hat
  intro space name hexists
  rw [exists?_add_some, Bool.or_eq_true, Bool.and_eq_true, Bool.and_eq_true, hplace, htarget,
    Value.text_beq_iff, Value.text_beq_iff] at hexists
  rcases hexists with hexists | ⟨⟨-, hspace⟩, hname⟩
  · exact h space name hexists
  · cases hspace
    cases hname
    exact hconfirmed

end BindingIndex

end RoleGrants
