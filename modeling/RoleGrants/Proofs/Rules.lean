import RoleGrants.Proofs.Wanted

/-! The rules for policies, and what the check of a policy says about them. The rules stand in one
order: of the subject its name and its kind, then the roles on the whole cluster, then of each
permission its role and its two patterns. A policy passes the check if and only if it breaks no
rule, and otherwise the check fails with the breach of the first rule that it breaks. -/

namespace RoleGrants

/-- A walk over a list fails if and only if some item fails and no item before it does. -/
theorem forM_eq_error {α : Type} {act : α → Except Failure Unit} {items : List α}
    {failure : Failure} : forM items act = .error failure ↔ ∃ before item after,
      items = before ++ item :: after ∧ (∀ earlier ∈ before, act earlier = .ok ()) ∧
        act item = .error failure := by
  induction items with
  | nil =>
    constructor
    · exact nofun
    · rintro ⟨before, item, after, hsplit, -⟩
      cases before <;> cases hsplit
  | cons first rest ih =>
    rw [List.forM_cons]
    cases hfirst : act first with
    | error other =>
      constructor
      · rintro ⟨⟩
        exact ⟨[], first, rest, rfl, nofun, hfirst⟩
      · rintro ⟨_ | ⟨other, before⟩, item, after, hsplit, hbefore, hitem⟩
        · obtain ⟨rfl, rfl⟩ := List.cons.inj hsplit
          exact hfirst.symm.trans hitem
        · obtain ⟨rfl, rfl⟩ := List.cons.inj hsplit
          exact nomatch hfirst.symm.trans (hbefore first List.mem_cons_self)
    | ok _ =>
      refine Iff.trans ih ⟨?_, ?_⟩
      · rintro ⟨before, item, after, rfl, hbefore, hitem⟩
        exact ⟨first :: before, item, after, rfl, List.forall_mem_cons.mpr ⟨hfirst, hbefore⟩, hitem⟩
      · rintro ⟨_ | ⟨other, before⟩, item, after, hsplit, hbefore, hitem⟩
        · obtain ⟨rfl, rfl⟩ := List.cons.inj hsplit
          exact nomatch hfirst.symm.trans hitem
        · obtain ⟨rfl, rfl⟩ := List.cons.inj hsplit
          exact ⟨before, item, after, rfl, (List.forall_mem_cons.mp hbefore).2, hitem⟩

theorem forM_eq_ok {α : Type} {act : α → Except Failure Unit} {items : List α} :
    forM items act = .ok () ↔ ∀ item ∈ items, act item = .ok () := by
  induction items with
  | nil => exact ⟨fun _ => nofun, fun _ => rfl⟩
  | cons first rest ih =>
    rw [List.forM_cons, List.forall_mem_cons, ← ih]
    cases hfirst : act first with
    | error failure => exact ⟨nofun, fun h => nomatch h.1⟩
    | ok _ => exact ⟨fun h => ⟨rfl, h⟩, fun h => h.2⟩

/-- A rule for policies, about one value in one place. -/
inductive Rule where
  | subjectName (name : Value)
  | subjectKind (kind : Value)
  | clusterRole (index : Nat) (role : Value)
  | permissionRole (index : Nat) (role : Value)
  | permissionPattern (index : Nat) (field : String) (pattern : Value)

/-- How messages name a permission. -/
def Permission.place (index : Nat) : String := s!"permissions[{index}]"

def Permission.rules (permission : Permission) (index : Nat) : List Rule :=
  [.permissionRole index permission.role,
    .permissionPattern index "namespacesAllowedRegex" permission.allowed,
    .permissionPattern index "namespacesDeniedRegex" permission.denied]

/-- The rules for a policy in the order in which they come. -/
def Policy.rules (policy : Policy) : List Rule :=
  [.subjectName policy.subjectName, .subjectKind policy.subjectKind] ++
    policy.clusterPermissions.zipIdx.map (fun (role, index) => .clusterRole index role) ++
    policy.permissions.zipIdx.flatMap fun (permission, index) => permission.rules index

/-- Whether a pattern can be searched for. -/
def Safelist.Compiles (pattern : Value) : Prop :=
  ∃ compiled, compile pattern = .ok compiled

namespace Rule

def IsBroken : Rule → Prop
  | .subjectName name => name = ""
  | .subjectKind kind => kind ∉ (["User", "Group", "ServiceAccount"] : List Value)
  | .clusterRole _ role => role = ""
  | .permissionRole _ role => role = ""
  | .permissionPattern _ _ pattern => pattern ≠ "" ∧ ¬ Safelist.Compiles pattern

/-- The types of the conditions that a breach is recorded against: both for the subject, and for a
grant that of its scope. -/
def types : Rule → List ConditionType
  | .subjectName _ => [.clusterRoleBindingCreated, .roleBindingCreated]
  | .subjectKind _ => [.clusterRoleBindingCreated, .roleBindingCreated]
  | .clusterRole _ _ => [.clusterRoleBindingCreated]
  | .permissionRole _ _ => [.roleBindingCreated]
  | .permissionPattern _ _ _ => [.roleBindingCreated]

/-- What is said of a breach. Of a pattern it names the fault that keeps it from compiling. -/
def message : Rule → String
  | .subjectName _ => "subjectName cannot be empty"
  | .subjectKind kind =>
    "subjectKind must be one of ['User', 'Group', 'ServiceAccount'], " ++ s!"got '{kind.plain}'"
  | .clusterRole index _ => s!"clusterPermissions[{index}]: clusterRoleName cannot be empty"
  | .permissionRole index _ => s!"{Permission.place index}: clusterRoleName cannot be empty"
  | .permissionPattern index field pattern =>
    match Safelist.compile pattern with
    | .ok _ => ""
    | .error failure =>
      s!"{Permission.place index}: invalid {field} '{pattern.plain}': " ++ failure.message

def breach (rule : Rule) : Failure := .invalidPolicy rule.message rule.types

/-- Whether the value that a rule is about is a text, and a pattern compiles or breaks a rule of
the syntax for patterns. -/
def IsAboutText : Rule → Prop
  | .subjectName name => name.IsText
  | .subjectKind kind => kind.IsText
  | .clusterRole _ role => role.IsText
  | .permissionRole _ role => role.IsText
  | .permissionPattern _ _ pattern => pattern.IsText ∧ Safelist.IsPlain pattern

/-- The check of a rule. -/
def check (rule : Rule) : Except Failure Unit :=
  match rule with
  | .subjectName name => require name.isTrue rule.breach
  | .subjectKind kind => require (Policy.subjectKinds.contains kind) rule.breach
  | .clusterRole _ role => require role.isTrue rule.breach
  | .permissionRole _ role => require role.isTrue rule.breach
  | .permissionPattern index field pattern =>
    Policy.checkPattern (Permission.place index) field pattern

theorem check_require {value : Value} {failure : Failure} (h : value.IsText) :
    (value ≠ "" ∧ require value.isTrue failure = .ok ()) ∨
      (value = "" ∧ require value.isTrue failure = .error failure) := by
  obtain ⟨text, rfl⟩ := h
  by_cases hempty : text = ""
  · subst hempty
    exact .inr ⟨rfl, rfl⟩
  · have htrue : (Value.text text).isTrue = true := Value.isTrue_text.mpr hempty
    exact .inl ⟨fun heq => hempty (Value.text.inj heq), by rw [htrue]; rfl⟩

/-- A plain pattern that does not compile breaks a rule of the syntax. -/
theorem exists_malformed {source : String} {failure : Failure}
    (hplain : Safelist.IsPlain (.text source))
    (hcompile : Safelist.compile (.text source) = .error failure) :
    ∃ fault position, failure = .badPattern source (.malformed fault position) := by
  unfold Safelist.compile at hcompile
  dsimp only at hcompile
  split at hcompile
  · cases hcompile
  · next error herror =>
    obtain ⟨fault, position, rfl⟩ := hplain source error rfl herror
    exact ⟨fault, position, (Except.error.inj hcompile).symm⟩

theorem check_permissionPattern {index : Nat} {field source : String} {fault : Pattern.Fault}
    {position : Option Nat} (hpresent : (Value.text source).isTrue = true)
    (hcompile : Safelist.compile (.text source) =
      .error (.badPattern source (.malformed fault position))) :
    (permissionPattern index field (.text source)).check =
      .error (permissionPattern index field (.text source)).breach := by
  have hmessage : (permissionPattern index field (.text source)).message =
      s!"{Permission.place index}: invalid {field} '{source}': " ++
        (Pattern.Error.malformed fault position).message source := by
    unfold message
    simp only [hcompile]
    rfl
  unfold breach check Policy.checkPattern
  rw [hmessage]
  simp only [hpresent, hcompile]
  rfl

/-- The check of a rule fails if and only if the rule is broken, with its breach. -/
theorem check_cases {rule : Rule} (h : rule.IsAboutText) :
    (¬ rule.IsBroken ∧ rule.check = .ok ()) ∨
      (rule.IsBroken ∧ rule.check = .error rule.breach) := by
  cases rule with
  | subjectName name => exact check_require h
  | subjectKind kind =>
    obtain ⟨text, rfl⟩ := h
    have hknown := @Value.contains_text Policy.subjectKinds text
    cases hfound : Policy.subjectKinds.contains (.text text) with
    | true => exact .inl ⟨not_not_intro (hknown.mp hfound), by rw [check, hfound]; rfl⟩
    | false =>
      refine .inr ⟨fun hmem => ?_, by rw [check, hfound]; rfl⟩
      exact Bool.false_ne_true (hfound.symm.trans (hknown.mpr hmem))
  | clusterRole index role => exact check_require h
  | permissionRole index role => exact check_require h
  | permissionPattern index field pattern =>
    obtain ⟨⟨source, rfl⟩, hplain⟩ := h
    by_cases hempty : source = ""
    · subst hempty
      have habsent : (Value.text "").isTrue = false := rfl
      exact .inl ⟨fun hbroken => hbroken.1 rfl, by rw [check, Policy.checkPattern, habsent]; rfl⟩
    · have hpresent : (Value.text source).isTrue = true := Value.isTrue_text.mpr hempty
      have hnamed : Value.text source ≠ "" := fun heq => hempty (Value.text.inj heq)
      cases hcompile : Safelist.compile (.text source) with
      | ok compiled =>
        refine .inl ⟨fun hbroken => hbroken.2 ⟨compiled, hcompile⟩, ?_⟩
        simp [check, Policy.checkPattern, hpresent, hcompile]
      | error failure =>
        have hnone : ¬ Safelist.Compiles (.text source) := by
          rintro ⟨compiled, hcompiled⟩
          exact nomatch hcompile.symm.trans hcompiled
        refine .inr ⟨⟨hnamed, hnone⟩, ?_⟩
        obtain ⟨fault, position, rfl⟩ := exists_malformed hplain hcompile
        exact check_permissionPattern hpresent hcompile

end Rule

namespace Policy

theorem checkClusterPermissions_eq (index : Nat) (roles : List Value) :
    checkClusterPermissions index roles =
      forM ((roles.zipIdx index).map fun (role, index) => Rule.clusterRole index role)
        Rule.check := by
  induction roles generalizing index with
  | nil => rfl
  | cons role rest ih =>
    rw [checkClusterPermissions, ih, List.zipIdx_cons, List.map_cons, List.forM_cons]
    rfl

theorem checkPermission_eq (index : Nat) (permission : Permission) :
    checkPermission (Permission.place index) permission =
      forM (permission.rules index) Rule.check := by
  unfold Permission.rules checkPermission
  simp only [List.forM_cons, List.forM_nil, bind_pure_unit]
  rfl

theorem checkPermissions_eq (index : Nat) (permissions : List Permission) :
    checkPermissions index permissions =
      forM ((permissions.zipIdx index).flatMap fun (permission, index) => permission.rules index)
        Rule.check := by
  induction permissions generalizing index with
  | nil => rfl
  | cons permission rest ih =>
    rw [checkPermissions, ih, List.zipIdx_cons, List.flatMap_cons, List.forM_append,
      ← checkPermission_eq]
    rfl

/-- The check of a policy goes through the rules in their order. -/
theorem validate_eq (policy : Policy) : policy.validate = forM policy.rules Rule.check := by
  rw [rules, List.forM_append, List.forM_append, ← checkClusterPermissions_eq,
    ← checkPermissions_eq]
  simp only [List.forM_cons, List.forM_nil, bind_pure_unit, bind_assoc]
  rfl

theorem IsTextual.isAboutText {policy : Policy} (h : policy.IsTextual)
    (hplain : ∀ permission ∈ policy.permissions,
      Safelist.IsPlain permission.allowed ∧ Safelist.IsPlain permission.denied) :
    ∀ rule ∈ policy.rules, rule.IsAboutText := by
  intro rule hmem
  simp only [rules, List.mem_append, List.mem_cons, List.not_mem_nil, or_false, List.mem_map,
    List.mem_flatMap] at hmem
  rcases hmem with ((rfl | rfl) | ⟨⟨role, index⟩, hrole, rfl⟩) | ⟨⟨permission, index⟩, hmem, hrule⟩
  · exact h.subjectName
  · exact h.subjectKind
  · exact h.clusterPermissions role (List.fst_mem_of_mem_zipIdx hrole)
  · have hmem := List.fst_mem_of_mem_zipIdx hmem
    have htextual := h.permissions permission hmem
    obtain ⟨hallowed, hdenied⟩ := hplain permission hmem
    simp only [Permission.rules, List.mem_cons, List.not_mem_nil, or_false] at hrule
    rcases hrule with rfl | rfl | rfl
    · exact htextual.role
    · exact ⟨htextual.allowed, hallowed⟩
    · exact ⟨htextual.denied, hdenied⟩

/-- What it takes to break no rule. -/
theorem breaks_none_iff {policy : Policy} : (∀ rule ∈ policy.rules, ¬ rule.IsBroken) ↔
    policy.subjectName ≠ "" ∧
      policy.subjectKind ∈ (["User", "Group", "ServiceAccount"] : List Value) ∧
      (∀ role ∈ policy.clusterPermissions, role ≠ "") ∧
      ∀ permission ∈ policy.permissions, permission.role ≠ "" ∧
        (permission.allowed ≠ "" → Safelist.Compiles permission.allowed) ∧
        (permission.denied ≠ "" → Safelist.Compiles permission.denied) := by
  have hzip : ∀ {α : Type} (items : List α) (kind : α → Prop),
      (∀ pair ∈ items.zipIdx, kind pair.1) ↔ ∀ item ∈ items, kind item := by
    intro α items kind
    rw [← List.forall_mem_map (f := Prod.fst), List.zipIdx_map_fst]
  have hroles : (∀ rule ∈ policy.clusterPermissions.zipIdx.map
        fun (role, index) => Rule.clusterRole index role, ¬ rule.IsBroken) ↔
      ∀ role ∈ policy.clusterPermissions, role ≠ "" := by
    rw [List.forall_mem_map]
    exact hzip policy.clusterPermissions fun role => role ≠ ""
  have hpermissions : (∀ rule ∈ policy.permissions.zipIdx.flatMap
        fun (permission, index) => permission.rules index, ¬ rule.IsBroken) ↔
      ∀ permission ∈ policy.permissions, permission.role ≠ "" ∧
        (permission.allowed ≠ "" → Safelist.Compiles permission.allowed) ∧
        (permission.denied ≠ "" → Safelist.Compiles permission.denied) := by
    rw [List.forall_mem_flatMap, ← hzip policy.permissions]
    refine forall_congr' fun pair => imp_congr_right fun _ => ?_
    simp [Permission.rules, Rule.IsBroken]
  rw [rules, List.forall_mem_append, List.forall_mem_append, hroles, hpermissions,
    List.forall_mem_cons, List.forall_mem_singleton]
  simp only [Rule.IsBroken, Classical.not_not, and_assoc, ne_eq]

/-- A policy passes the check if and only if it breaks no rule, and then each of its permissions
resolves to the names that it selects, in the order and as often as they are listed. Otherwise the
check fails with the breach of the first rule that the policy breaks. -/
theorem validate_reports_first {policy : Policy} (h : policy.IsTextual)
    (hplain : ∀ permission ∈ policy.permissions,
      Safelist.IsPlain permission.allowed ∧ Safelist.IsPlain permission.denied) :
    (policy.validate = .ok () ↔
      policy.subjectName ≠ "" ∧
        policy.subjectKind ∈ (["User", "Group", "ServiceAccount"] : List Value) ∧
        (∀ role ∈ policy.clusterPermissions, role ≠ "") ∧
        ∀ permission ∈ policy.permissions, permission.role ≠ "" ∧
          (permission.allowed ≠ "" → Safelist.Compiles permission.allowed) ∧
          (permission.denied ≠ "" → Safelist.Compiles permission.denied)) ∧
    (∀ failure, policy.validate = .error failure ↔ ∃ before rule after,
      policy.rules = before ++ rule :: after ∧ (∀ earlier ∈ before, ¬ earlier.IsBroken) ∧
        rule.IsBroken ∧ failure = .invalidPolicy rule.message rule.types) ∧
    (policy.validate = .ok () → ∀ permission ∈ policy.permissions,
      ∃ chosen : String → Bool, (∀ name, chosen name = true ↔ permission.Selects name) ∧
        ∀ names : List String,
          Safelist.resolve permission.allowed permission.denied (names.map .text) =
            .ok ((names.filter chosen).map .text)) := by
  have htexts := h.isAboutText hplain
  have hpasses : ∀ rule ∈ policy.rules, rule.check = .ok () ↔ ¬ rule.IsBroken := by
    intro rule hmem
    rcases Rule.check_cases (htexts rule hmem) with ⟨hobeyed, hcheck⟩ | ⟨hbroken, hcheck⟩
    · exact ⟨fun _ => hobeyed, fun _ => hcheck⟩
    · exact ⟨fun hok => (nomatch hcheck.symm.trans hok), fun hobeyed => absurd hbroken hobeyed⟩
  refine ⟨?_, fun failure => ?_, fun hvalid permission hmem => ?_⟩
  · rw [validate_eq, forM_eq_ok]
    exact (forall₂_congr hpasses).trans breaks_none_iff
  · rw [validate_eq, forM_eq_error]
    refine exists₃_congr fun before rule after => and_congr_right fun hsplit => ?_
    have hmem : ∀ other ∈ before ++ rule :: after, other ∈ policy.rules := by
      rw [hsplit]
      exact fun _ => id
    refine and_congr (forall₂_congr fun earlier hearlier =>
      hpasses earlier (hmem earlier (List.mem_append_left _ hearlier))) ?_
    have hrule := hmem rule (List.mem_append_right _ List.mem_cons_self)
    rcases Rule.check_cases (htexts rule hrule) with ⟨hobeyed, hcheck⟩ | ⟨hbroken, hcheck⟩
    · rw [hcheck]
      exact ⟨nofun, fun hbroken => absurd hbroken.1 hobeyed⟩
    · rw [hcheck, Except.error.injEq]
      exact ⟨fun heq => ⟨hbroken, heq.symm⟩, fun heq => heq.2.symm⟩
  · refine ⟨fun name => permission.chooses (.text name), fun name => chooses_iff hvalid hmem,
      fun names => ?_⟩
    rw [resolve_eq hvalid hmem fun name hname => ?_, List.filter_map]
    · rfl
    · obtain ⟨text, -, rfl⟩ := List.mem_map.mp hname
      exact ⟨text, rfl⟩

/-- A policy whose second role on the whole cluster is empty, and a pattern of which is broken. -/
def careless : Policy where
  name := "viewer"
  space := "team"
  subjectKind := "User"
  subjectName := "ann"
  clusterPermissions := ["view", ""]
  permissions := [{ role := "edit", allowed := "(" }]

theorem validate_reports_first_careless :
    careless.IsTextual ∧
      (∀ permission ∈ careless.permissions,
        Safelist.IsPlain permission.allowed ∧ Safelist.IsPlain permission.denied) ∧
      careless.validate = .error (.invalidPolicy
        "clusterPermissions[1]: clusterRoleName cannot be empty" [.clusterRoleBindingCreated]) := by
  have htextual : careless.IsTextual :=
    ⟨⟨_, rfl⟩, ⟨_, rfl⟩, ⟨_, rfl⟩, ⟨_, rfl⟩, ⟨_, rfl⟩, by simp [careless, Value.IsText], by
      simp only [careless, List.forall_mem_singleton]
      exact ⟨⟨_, rfl⟩, ⟨_, rfl⟩, ⟨_, rfl⟩⟩⟩
  have hplain : ∀ permission ∈ careless.permissions,
      Safelist.IsPlain permission.allowed ∧ Safelist.IsPlain permission.denied := by
    have hallowed : Safelist.IsPlain (.text "(") := by decide +kernel
    have hdenied : Safelist.IsPlain (.text "") := by decide +kernel
    simp only [careless, List.forall_mem_singleton]
    exact ⟨hallowed, hdenied⟩
  refine ⟨htextual, hplain, ((validate_reports_first htextual hplain).2.1 _).mpr ?_⟩
  refine ⟨[.subjectName "ann", .subjectKind "User", .clusterRole 0 "view"], .clusterRole 1 "",
    Permission.rules { role := "edit", allowed := "(" } 0, rfl, ?_, rfl, ?_⟩
  · simp [Rule.IsBroken]
  · exact congrArg (Failure.invalidPolicy · _) (by decide +kernel)

end Policy

end RoleGrants
