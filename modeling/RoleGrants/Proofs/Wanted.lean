import RoleGrants.Proofs.Missing

/-! The bindings that policies want: one on the whole cluster for each role that is asked for there,
and for each permission one in each namespace that it chooses. Choosing is a matter of one name at a
time, so what a policy wants in one namespace is the part there of what it wants in all of them. -/

namespace RoleGrants

/-- Whether a pattern is found in a name. It is not in what is no text. -/
def Pattern.finds (pattern : Pattern) : Value → Bool
  | .text name => pattern.search name
  | _ => false

namespace Safelist

theorem matchesName_eq (pattern : Pattern) {name : Value} (h : name.IsText) :
    matchesName pattern name = .ok (pattern.finds name) := by
  obtain ⟨text, rfl⟩ := h
  rfl

theorem keep_eq_filter {test : Value → Except Failure Bool} {chosen : Value → Bool}
    {names : List Value} (h : ∀ name ∈ names, test name = .ok (chosen name)) :
    keep test names = .ok (names.filter chosen) := by
  induction names with
  | nil => rfl
  | cons name rest ih =>
    have hrest := ih fun other hmem => h other (List.mem_cons_of_mem name hmem)
    rw [keep, h name List.mem_cons_self, hrest, List.filter_cons]
    cases chosen name <;> rfl

/-- Patterns that compile choose among names one by one. -/
theorem resolve_eq_filter {allowed denied : Value}
    (hallowed : allowed.isTrue = true → ∃ pattern, compile allowed = .ok pattern)
    (hdenied : denied.isTrue = true → ∃ pattern, compile denied = .ok pattern) :
    ∃ chosen : Value → Bool, ∀ names, (∀ name ∈ names, name.IsText) →
      resolve allowed denied names = .ok (names.filter chosen) := by
  cases hpresent : allowed.isTrue with
  | false =>
    refine ⟨fun _ => false, fun names _ => ?_⟩
    have hnone : names.filter (fun _ => false) = [] := List.filter_eq_nil_iff.mpr (by simp)
    rw [resolve, hpresent, hnone]
    rfl
  | true =>
    obtain ⟨allow, hallow⟩ := hallowed hpresent
    have hkept : ∀ names : List Value, (∀ name ∈ names, name.IsText) →
        keep (matchesName allow) names = .ok (names.filter allow.finds) := fun names hnames =>
      keep_eq_filter fun name hmem => matchesName_eq allow (hnames name hmem)
    cases hdeny : denied.isTrue with
    | false =>
      refine ⟨allow.finds, fun names hnames => ?_⟩
      simp [resolve, hpresent, hallow, hkept names hnames, hdeny, bind, Except.bind, pure,
        Except.pure]
    | true =>
      obtain ⟨deny, hcompile⟩ := hdenied hdeny
      refine ⟨fun name => !deny.finds name && allow.finds name, fun names hnames => ?_⟩
      have hdropped : keep (fun name => return !(← matchesName deny name))
          (names.filter allow.finds) =
          .ok ((names.filter allow.finds).filter fun name => !deny.finds name) := by
        refine keep_eq_filter fun name hmem => ?_
        rw [matchesName_eq deny (hnames name (List.mem_filter.mp hmem).1)]
        rfl
      rw [List.filter_filter] at hdropped
      simp only [resolve, hpresent, hallow, hkept names hnames, hdeny, hcompile, bind, Except.bind]
      exact hdropped

end Safelist

/-- Whether a permission chooses a name. -/
def Permission.chooses (permission : Permission) (name : Value) : Bool :=
  match Safelist.resolve permission.allowed permission.denied [name] with
  | .ok targets => !targets.isEmpty
  | .error _ => false

namespace Policy

variable {policy : Policy} {permission : Permission}

theorem resolve_eq (h : policy.validate = .ok ()) (hmem : permission ∈ policy.permissions)
    {names : List Value} (hnames : ∀ name ∈ names, name.IsText) :
    Safelist.resolve permission.allowed permission.denied names =
      .ok (names.filter permission.chooses) := by
  obtain ⟨hallowed, hdenied⟩ := compile_of_validate h hmem
  obtain ⟨chosen, hchosen⟩ := Safelist.resolve_eq_filter hallowed hdenied
  have hsame : ∀ name ∈ names, permission.chooses name = chosen name := by
    intro name hname
    rw [Permission.chooses, hchosen [name] fun other hother =>
      List.mem_singleton.mp hother ▸ hnames name hname]
    cases hfound : chosen name <;> simp [hfound]
  rw [hchosen names hnames, List.filter_congr hsame]

theorem chooses_iff (h : policy.validate = .ok ()) (hmem : permission ∈ policy.permissions)
    {name : String} : permission.chooses (.text name) = true ↔ permission.Selects name := by
  have hresolve : Safelist.resolve permission.allowed permission.denied [.text name] = _ :=
    resolve_eq h hmem fun other hother => ⟨name, List.mem_singleton.mp hother⟩
  have hselected := @Safelist.mem_resolve _ _ _ (.text name) hresolve
  simpa using hselected

/-! ### What a policy wants -/

def wantedOnCluster (policy : Policy) : List Binding :=
  policy.clusterPermissions.map fun role => .onCluster role policy

/-- What a permission of a policy wants in some namespaces. -/
def wantedBy (policy : Policy) (names : List Value) (permission : Permission) : List Binding :=
  (names.filter permission.chooses).map (.inNamespace permission.role policy)

def wantedIn (policy : Policy) (names : List Value) : List Binding :=
  policy.permissions.flatMap (policy.wantedBy names)

theorem mem_wantedIn {names : List Value} {binding : Binding} :
    binding ∈ policy.wantedIn names ↔ ∃ permission ∈ policy.permissions, ∃ name ∈ names,
      permission.chooses name = true ∧ binding = .inNamespace permission.role policy name := by
  simp only [wantedIn, wantedBy, List.mem_flatMap, List.mem_map, List.mem_filter]
  constructor
  · rintro ⟨permission, hmem, name, ⟨hname, hchooses⟩, rfl⟩
    exact ⟨permission, hmem, name, hname, hchooses, rfl⟩
  · rintro ⟨permission, hmem, name, hname, hchooses, rfl⟩
    exact ⟨permission, hmem, name, ⟨hname, hchooses⟩, rfl⟩

end Policy

end RoleGrants
