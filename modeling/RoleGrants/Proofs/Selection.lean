import RoleGrants.Policy.Validity
import RoleGrants.Proofs.Tracking

/-! Policies all of whose fields are texts, and what their permissions select. A permission selects
a name if its allowing pattern is present and matches the name, and its denying pattern is empty or
does not match it; resolving the two patterns over some names gives those of them that are
selected, and never fails for a policy that passes the check. -/

namespace RoleGrants

def Value.IsText (value : Value) : Prop := ∃ text, value = .text text

theorem Value.contains_text {values : List Value} {text : String} :
    values.contains (.text text) = true ↔ .text text ∈ values := by
  rw [List.contains_iff_exists_mem_beq]
  constructor
  · rintro ⟨value, hmem, hbeq⟩
    exact text_beq_iff.mp hbeq ▸ hmem
  · exact fun hmem => ⟨_, hmem, text_beq_iff.mpr rfl⟩

@[simp] theorem Value.isTrue_text {text : String} :
    (Value.text text).isTrue = true ↔ text ≠ "" := by
  simp [isTrue]

structure Permission.IsTextual (permission : Permission) : Prop where
  role : permission.role.IsText
  allowed : permission.allowed.IsText
  denied : permission.denied.IsText

/-- Whether what the owner of a policy writes is made of texts. -/
structure Policy.IsTextual (policy : Policy) : Prop where
  name : policy.name.IsText
  space : policy.space.IsText
  subjectKind : policy.subjectKind.IsText
  subjectName : policy.subjectName.IsText
  subjectNamespace : policy.subjectNamespace.IsText
  clusterPermissions : ∀ role ∈ policy.clusterPermissions, role.IsText
  permissions : ∀ permission ∈ policy.permissions, permission.IsTextual

theorem Policy.IsTextual.permissionRoles {policy : Policy} (h : policy.IsTextual) :
    ∀ role ∈ policy.permissionRoles, role.IsText := by
  intro role hmem
  obtain ⟨permission, hpermission, rfl⟩ := List.mem_map.mp hmem
  exact (h.permissions permission hpermission).role

namespace Safelist

/-- Whether a pattern compiles, or breaks a rule of the syntax for patterns. One that is refused for
the size of a number or for two alphabets is not plain. Of the limits of a machine, which
`Pattern.compile` leaves out, nothing is said. -/
def IsPlain (pattern : Value) : Prop :=
  ∀ source error, pattern = .text source → Pattern.compile source = .error error →
    ∃ fault position, error = .malformed fault position

theorem isPlain_text {source : String} : IsPlain (.text source) ↔
    (match Pattern.compile source with
      | .ok _ => true
      | .error (.malformed _ _) => true
      | .error _ => false) = true := by
  constructor
  · intro h
    split
    · rfl
    · rfl
    · next error hmalformed herror =>
      obtain ⟨fault, position, rfl⟩ := h source error rfl herror
      exact absurd rfl (hmalformed fault position)
  · intro h other error heq herror
    cases heq
    rw [herror] at h
    cases error with
    | malformed fault position => exact ⟨fault, position, rfl⟩
    | _ => cases h

instance (source : String) : Decidable (IsPlain (.text source)) :=
  decidable_of_iff _ isPlain_text.symm

def Matches (pattern : Value) (name : String) : Prop :=
  ∃ compiled, compile pattern = .ok compiled ∧ compiled.search name = true

def Misses (pattern : Value) (name : String) : Prop :=
  ∃ compiled, compile pattern = .ok compiled ∧ compiled.search name = false

theorem matchesName_ok {pattern : Pattern} {name : Value} {found : Bool}
    (h : matchesName pattern name = .ok found) :
    ∃ text, name = .text text ∧ found = pattern.search text := by
  cases name with
  | text text => exact ⟨text, rfl, (Except.ok.inj h).symm⟩
  | _ => cases h

theorem keep_ok {test : Value → Except Failure Bool} {names : List Value}
    (h : ∀ name ∈ names, ∃ found, test name = .ok found) : ∃ kept, keep test names = .ok kept := by
  induction names with
  | nil => exact ⟨[], rfl⟩
  | cons name rest ih =>
    obtain ⟨found, hfound⟩ := h name List.mem_cons_self
    obtain ⟨kept, hkept⟩ := ih fun other hmem => h other (List.mem_cons_of_mem name hmem)
    cases found with
    | true => exact ⟨name :: kept, by rw [keep, hfound, hkept]; rfl⟩
    | false => exact ⟨kept, by rw [keep, hfound, hkept]; rfl⟩

theorem mem_keep {test : Value → Except Failure Bool} {names kept : List Value} {value : Value}
    (h : keep test names = .ok kept) : value ∈ kept ↔ value ∈ names ∧ test value = .ok true := by
  induction names generalizing kept with
  | nil => cases h; simp
  | cons name rest ih =>
    rw [keep] at h
    cases htest : test name with
    | error failure => rw [htest] at h; cases h
    | ok found =>
      rw [htest] at h
      cases hrest : keep test rest with
      | error failure =>
        rw [hrest] at h
        cases found <;> cases h
      | ok others =>
        rw [hrest] at h
        cases found with
        | true =>
          cases h
          rw [List.mem_cons, List.mem_cons, ih hrest]
          constructor
          · rintro (rfl | ⟨hmem, hvalue⟩)
            · exact ⟨.inl rfl, htest⟩
            · exact ⟨.inr hmem, hvalue⟩
          · rintro ⟨rfl | hmem, hvalue⟩
            · exact .inl rfl
            · exact .inr ⟨hmem, hvalue⟩
        | false =>
          cases h
          rw [ih hrest, List.mem_cons]
          constructor
          · exact fun ⟨hmem, hvalue⟩ => ⟨.inr hmem, hvalue⟩
          · rintro ⟨rfl | hmem, hvalue⟩
            · rw [htest] at hvalue
              cases hvalue
            · exact ⟨hmem, hvalue⟩

end Safelist

structure Permission.Selects (permission : Permission) (name : String) : Prop where
  present : permission.allowed.isTrue = true
  allowed : Safelist.Matches permission.allowed name
  denied : permission.denied.isTrue = false ∨ Safelist.Misses permission.denied name

namespace Safelist

theorem matchesName_eq_true {source : Value} {pattern : Pattern} {name : Value}
    (hcompile : compile source = .ok pattern) :
    matchesName pattern name = .ok true ↔ ∃ text, name = .text text ∧ Matches source text := by
  constructor
  · intro h
    obtain ⟨text, rfl, hfound⟩ := matchesName_ok h
    exact ⟨text, rfl, pattern, hcompile, hfound.symm⟩
  · rintro ⟨text, rfl, compiled, hcompiled, hsearch⟩
    rw [hcompile] at hcompiled
    cases hcompiled
    exact congrArg Except.ok hsearch

theorem matchesName_eq_false {source : Value} {pattern : Pattern} {name : Value}
    (hcompile : compile source = .ok pattern) :
    matchesName pattern name = .ok false ↔ ∃ text, name = .text text ∧ Misses source text := by
  constructor
  · intro h
    obtain ⟨text, rfl, hfound⟩ := matchesName_ok h
    exact ⟨text, rfl, pattern, hcompile, hfound.symm⟩
  · rintro ⟨text, rfl, compiled, hcompiled, hsearch⟩
    rw [hcompile] at hcompiled
    cases hcompiled
    exact congrArg Except.ok hsearch

theorem mem_resolve {permission : Permission} {names targets : List Value} {value : Value}
    (h : resolve permission.allowed permission.denied names = .ok targets) :
    value ∈ targets ↔ value ∈ names ∧ ∃ name, value = .text name ∧ permission.Selects name := by
  unfold resolve at h
  cases hpresent : permission.allowed.isTrue with
  | false =>
    rw [hpresent] at h
    cases h
    simp only [List.not_mem_nil, false_iff, not_and]
    rintro - ⟨name, -, hselects⟩
    rw [hselects.present] at hpresent
    cases hpresent
  | true =>
    rw [hpresent] at h
    obtain ⟨allow, hallow, h⟩ := exists_of_bind_ok h
    obtain ⟨selected, hselected, h⟩ := exists_of_bind_ok h
    have hmem := @mem_keep _ _ _ value hselected
    rw [matchesName_eq_true hallow] at hmem
    cases hdenied : permission.denied.isTrue with
    | false =>
      rw [hdenied] at h
      cases h
      rw [hmem]
      refine and_congr_right fun _ => exists_congr fun name => and_congr_right fun _ => ?_
      exact ⟨fun hmatch => ⟨hpresent, hmatch, .inl hdenied⟩, fun hselects => hselects.allowed⟩
    | true =>
      rw [hdenied] at h
      obtain ⟨deny, hdeny, h⟩ := exists_of_bind_ok h
      have hdrop : (do return !(← matchesName deny value) : Except Failure Bool) = .ok true ↔
          ∃ text, value = .text text ∧ Misses permission.denied text := by
        rw [← matchesName_eq_false hdeny]
        rcases matchesName deny value with failure | (_ | _) <;>
          simp [bind, Except.bind, pure, Except.pure]
      rw [mem_keep h, hmem, hdrop]
      constructor
      · rintro ⟨⟨hnames, name, rfl, hmatch⟩, other, hother, hmiss⟩
        cases hother
        exact ⟨hnames, name, rfl, hpresent, hmatch, .inr hmiss⟩
      · rintro ⟨hnames, name, rfl, hselects⟩
        have hmiss := hselects.denied.resolve_left (by rw [hdenied]; exact Bool.noConfusion)
        exact ⟨⟨hnames, name, rfl, hselects.allowed⟩, name, rfl, hmiss⟩

theorem matchesName_text (pattern : Pattern) {name : Value} (h : name.IsText) :
    ∃ found, matchesName pattern name = .ok found := by
  obtain ⟨text, rfl⟩ := h
  exact ⟨pattern.search text, rfl⟩

theorem resolve_ok {allowed denied : Value} {names : List Value}
    (hallowed : allowed.isTrue = true → ∃ pattern, compile allowed = .ok pattern)
    (hdenied : denied.isTrue = true → ∃ pattern, compile denied = .ok pattern)
    (hnames : ∀ name ∈ names, name.IsText) :
    ∃ targets, resolve allowed denied names = .ok targets := by
  unfold resolve
  cases hpresent : allowed.isTrue with
  | false => exact ⟨[], rfl⟩
  | true =>
    obtain ⟨allow, hallow⟩ := hallowed hpresent
    obtain ⟨selected, hselected⟩ :=
      keep_ok fun name hmem => matchesName_text allow (hnames name hmem)
    simp only [hallow, hselected, bind, Except.bind]
    cases hpresent : denied.isTrue with
    | false => exact ⟨selected, rfl⟩
    | true =>
      obtain ⟨deny, hdeny⟩ := hdenied hpresent
      simp only [hdeny]
      refine keep_ok fun name hmem => ?_
      obtain ⟨found, hfound⟩ := matchesName_text deny (hnames name ((mem_keep hselected).mp hmem).1)
      exact ⟨!found, by rw [hfound]; rfl⟩

end Safelist

namespace Policy

/-! ### What the check of a policy says -/

theorem of_require_ok {condition : Bool} {failure : Failure}
    (h : require condition failure = .ok ()) : condition = true := by
  cases condition with
  | true => rfl
  | false => cases h

theorem compile_of_checkPattern {place name : String} {pattern : Value}
    (h : checkPattern place name pattern = .ok ()) (hpresent : pattern.isTrue = true) :
    ∃ compiled, Safelist.compile pattern = .ok compiled := by
  unfold checkPattern at h
  rw [hpresent] at h
  cases hcompile : Safelist.compile pattern with
  | ok compiled => exact ⟨compiled, rfl⟩
  | error failure =>
    simp only [hcompile, Bool.not_true, Bool.false_eq_true, if_false] at h
    split at h <;> cases h

theorem of_checkPermissions {index : Nat} {permissions : List Permission}
    (h : checkPermissions index permissions = .ok ()) :
    ∀ permission ∈ permissions, ∃ place, checkPermission place permission = .ok () := by
  induction permissions generalizing index with
  | nil => exact nofun
  | cons permission rest ih =>
    obtain ⟨_, hfirst, hrest⟩ := exists_of_bind_ok h
    rintro other (_ | ⟨_, hmem⟩)
    · exact ⟨_, hfirst⟩
    · exact ih hrest other hmem

/-- The patterns of a policy that passes the check compile. -/
theorem compile_of_validate {policy : Policy} (h : policy.validate = .ok ())
    {permission : Permission} (hmem : permission ∈ policy.permissions) :
    (permission.allowed.isTrue = true →
      ∃ pattern, Safelist.compile permission.allowed = .ok pattern) ∧
    (permission.denied.isTrue = true →
      ∃ pattern, Safelist.compile permission.denied = .ok pattern) := by
  obtain ⟨_, _, h⟩ := exists_of_bind_ok h
  obtain ⟨_, _, h⟩ := exists_of_bind_ok h
  obtain ⟨_, _, h⟩ := exists_of_bind_ok h
  obtain ⟨place, h⟩ := of_checkPermissions h permission hmem
  obtain ⟨_, _, h⟩ := exists_of_bind_ok h
  obtain ⟨_, hallowed, hdenied⟩ := exists_of_bind_ok h
  exact ⟨compile_of_checkPattern hallowed, compile_of_checkPattern hdenied⟩

/-- So its permissions resolve. -/
theorem resolve_of_validate {policy : Policy} (h : policy.validate = .ok ())
    {permission : Permission} (hmem : permission ∈ policy.permissions) {names : List Value}
    (hnames : ∀ name ∈ names, name.IsText) :
    ∃ targets, Safelist.resolve permission.allowed permission.denied names = .ok targets := by
  obtain ⟨hallowed, hdenied⟩ := compile_of_validate h hmem
  exact Safelist.resolve_ok hallowed hdenied hnames

/-- Whether a policy is made of texts, its patterns compile or break a rule of their syntax, and so
are the messages of its conditions. -/
structure IsSound (policy : Policy) : Prop extends policy.IsTextual where
  patterns : ∀ permission ∈ policy.permissions,
    Safelist.IsPlain permission.allowed ∧ Safelist.IsPlain permission.denied
  messages : ∀ condition ∈ policy.conditions, condition.message.IsText

/-- Whether a result is a success or a breach of the rules for policies. -/
def IsVerdict (result : Except Failure Unit) : Prop :=
  ∀ failure, result = .error failure → ∃ message types, failure = .invalidPolicy message types

theorem IsVerdict.bind {first second : Except Failure Unit} (hfirst : IsVerdict first)
    (hsecond : IsVerdict second) : IsVerdict (first >>= fun _ => second) := by
  intro failure h
  cases first with
  | ok _ => exact hsecond failure h
  | error other => exact hfirst failure h

theorem isVerdict_ok : IsVerdict (.ok ()) := nofun

theorem isVerdict_require {condition : Bool} {message : String} {types : List ConditionType} :
    IsVerdict (require condition (.invalidPolicy message types)) := by
  intro failure h
  cases condition with
  | true => cases h
  | false => exact ⟨message, types, (Except.error.inj h).symm⟩

theorem isVerdict_checkPattern {place name : String} {pattern : Value} (htext : pattern.IsText)
    (hplain : Safelist.IsPlain pattern) : IsVerdict (checkPattern place name pattern) := by
  obtain ⟨source, rfl⟩ := htext
  intro failure h
  unfold checkPattern Safelist.compile at h
  cases hcompile : Pattern.compile source with
  | ok compiled =>
    simp only [hcompile] at h
    split at h <;> cases h
  | error error =>
    obtain ⟨fault, position, rfl⟩ := hplain source error rfl hcompile
    simp only [hcompile] at h
    split at h
    · cases h
    · exact ⟨_, _, (Except.error.inj h).symm⟩

theorem isVerdict_checkClusterPermissions (index : Nat) (roles : List Value) :
    IsVerdict (checkClusterPermissions index roles) := by
  induction roles generalizing index with
  | nil => exact isVerdict_ok
  | cons role rest ih => exact isVerdict_require.bind (ih (index + 1))

theorem isVerdict_checkPermissions (index : Nat) {permissions : List Permission}
    (h : ∀ permission ∈ permissions, permission.IsTextual ∧
      Safelist.IsPlain permission.allowed ∧ Safelist.IsPlain permission.denied) :
    IsVerdict (checkPermissions index permissions) := by
  induction permissions generalizing index with
  | nil => exact isVerdict_ok
  | cons permission rest ih =>
    obtain ⟨htext, hallowed, hdenied⟩ := h permission List.mem_cons_self
    have hrest := fun other hmem => h other (List.mem_cons_of_mem _ hmem)
    refine IsVerdict.bind ?_ (ih (index + 1) hrest)
    exact isVerdict_require.bind ((isVerdict_checkPattern htext.allowed hallowed).bind
      (isVerdict_checkPattern htext.denied hdenied))

theorem IsSound.isVerdict {policy : Policy} (h : policy.IsSound) : IsVerdict policy.validate := by
  have hpermissions : IsVerdict (checkPermissions 0 policy.permissions) :=
    isVerdict_checkPermissions 0 fun permission hmem =>
      ⟨h.permissions permission hmem, h.patterns permission hmem⟩
  exact isVerdict_require.bind (isVerdict_require.bind
    ((isVerdict_checkClusterPermissions 0 _).bind hpermissions))

end Policy

end RoleGrants
