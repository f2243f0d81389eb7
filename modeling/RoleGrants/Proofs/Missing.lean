import RoleGrants.Proofs.Growth

/-! The bindings that a pass has to create: of those that are wanted, in their order, each that has
no stored binding and no earlier wanted one at its place. What is missing after some of it was
created is the rest of it, so it does not matter how often a pass is interrupted. -/

namespace RoleGrants

namespace Binding

/-- The place of a binding. One whose name or namespace is of a wrong type has none. -/
def place? (binding : Binding) : Option Place :=
  match binding.name, binding.space with
  | .text name, .text space => some ⟨if space = "" then none else some space, name⟩
  | .text name, space => if space.isTrue then none else some ⟨none, name⟩
  | _, _ => none

theorem isAt_iff {binding : Binding} {place : Place} :
    binding.IsAt place ↔ binding.place? = some place := by
  obtain ⟨name, role, subjects, space⟩ := binding
  obtain ⟨scope, text⟩ := place
  cases name with
  | text name =>
    cases space with
    | text space =>
      by_cases hspace : space = ""
      · subst hspace
        cases scope <;> simp [IsAt, place?, Value.isTrue]
      · cases scope with
        | none => simp [IsAt, place?, Value.isTrue, hspace]
        | some other =>
          simp only [IsAt, place?, if_neg hspace, Option.some.injEq, Place.mk.injEq,
            Value.text.injEq]
          constructor
          · rintro ⟨rfl, -, rfl⟩
            exact ⟨rfl, rfl⟩
          · rintro ⟨rfl, rfl⟩
            exact ⟨rfl, hspace, rfl⟩
    | _ => cases scope <;> simp [IsAt, place?, and_comm]
  | _ => simp [IsAt, place?]

/-- Whether one of some bindings stands where a binding is to stand. -/
def isCovered (stored : List Binding) (binding : Binding) : Bool :=
  stored.any fun other => other.place? == binding.place?

/-- The wanted bindings that are not covered, by the stored ones or by one before them. -/
def missing (stored : List Binding) : List Binding → List Binding
  | [] => []
  | binding :: rest =>
    if isCovered stored binding then missing stored rest
    else binding :: missing (stored ++ [binding]) rest

variable {stored wanted : List Binding} {binding : Binding}

@[simp] theorem missing_nil : missing stored [] = [] := rfl

theorem isCovered_append (first second : List Binding) (binding : Binding) :
    isCovered (first ++ second) binding = (isCovered first binding || isCovered second binding) :=
  List.any_append

theorem isCovered_of_mem (h : binding ∈ stored) : isCovered stored binding = true :=
  List.any_eq_true.mpr ⟨binding, h, beq_self_eq_true _⟩

theorem missing_append (stored first second : List Binding) :
    missing stored (first ++ second) =
      missing stored first ++ missing (stored ++ missing stored first) second := by
  induction first generalizing stored with
  | nil => simp
  | cons binding rest ih =>
    rw [List.cons_append, missing, missing]
    split
    · exact ih stored
    · rw [ih, List.cons_append, List.append_assoc, List.singleton_append]

theorem mem_of_mem_missing (h : binding ∈ missing stored wanted) :
    binding ∈ wanted ∧ isCovered stored binding = false := by
  induction wanted generalizing stored with
  | nil => exact absurd h List.not_mem_nil
  | cons first rest ih =>
    rw [missing] at h
    split at h
    · exact ⟨List.mem_cons_of_mem _ (ih h).1, (ih h).2⟩
    · next hfirst =>
      rcases List.mem_cons.mp h with rfl | h
      · exact ⟨List.mem_cons_self, Bool.eq_false_iff.mpr hfirst⟩
      · obtain ⟨hmem, hcovered⟩ := ih h
        rw [isCovered_append, Bool.or_eq_false_iff] at hcovered
        exact ⟨List.mem_cons_of_mem _ hmem, hcovered.1⟩

theorem missing_sublist : (missing stored wanted).Sublist wanted := by
  induction wanted generalizing stored with
  | nil => exact .refl _
  | cons first rest ih =>
    rw [missing]
    split
    · exact .cons _ ih
    · exact .cons_cons _ ih

/-- No two missing bindings are to stand at one place. -/
theorem pairwise_missing : (missing stored wanted).Pairwise fun a b => a.place? ≠ b.place? := by
  induction wanted generalizing stored with
  | nil => exact .nil
  | cons first rest ih =>
    rw [missing]
    split
    · exact ih
    · refine .cons (fun other hmem hplace => ?_) ih
      have hcovered : isCovered (stored ++ [first]) other = true := by
        simp [isCovered, hplace]
      rw [(mem_of_mem_missing hmem).2] at hcovered
      cases hcovered

/-- When what was missing is there, a test that tells of places passes if it did before, or passes
for a wanted binding. -/
theorem any_fill {test : Binding → Bool}
    (h : ∀ binding ∈ wanted, ∀ other, other.place? = binding.place? → test other = test binding) :
    (stored ++ missing stored wanted).any test = (stored.any test || wanted.any test) := by
  induction wanted generalizing stored with
  | nil => simp
  | cons first rest ih =>
    have hrest := fun binding hmem => h binding (List.mem_cons_of_mem first hmem)
    rw [missing, List.any_cons]
    split
    · next hcovered =>
      obtain ⟨other, hother, hplace⟩ := List.any_eq_true.mp hcovered
      have htest : test other = test first := h first List.mem_cons_self other (eq_of_beq hplace)
      rw [ih hrest]
      cases hfirst : test first with
      | false => rw [Bool.false_or]
      | true =>
        have hany : stored.any test = true :=
          List.any_eq_true.mpr ⟨other, hother, htest.trans hfirst⟩
        rw [hany, Bool.true_or, Bool.true_or]
    · rw [← List.singleton_append, ← List.append_assoc, ih hrest, List.any_append]
      simp [Bool.or_assoc]

theorem isCovered_fill (stored wanted : List Binding) (binding : Binding) :
    isCovered (stored ++ missing stored wanted) binding =
      (isCovered stored binding || isCovered wanted binding) :=
  any_fill fun _ _ _ hplace => by rw [hplace]

theorem missing_eq_nil :
    missing stored wanted = [] ↔ ∀ binding ∈ wanted, isCovered stored binding := by
  induction wanted with
  | nil => simp
  | cons first rest ih =>
    rw [missing]
    split
    · next hfirst => simp [ih, hfirst]
    · next hfirst => simp [hfirst]

/-- What is not missing is not missing either when there is more. -/
theorem missing_append_eq_nil (h : missing stored wanted = []) (more : List Binding) :
    missing (stored ++ more) wanted = [] := by
  rw [missing_eq_nil] at h ⊢
  intro binding hmem
  rw [isCovered_append, h binding hmem, Bool.true_or]

theorem missing_congr {other : List Binding}
    (h : ∀ binding ∈ wanted, isCovered stored binding = isCovered other binding) :
    missing stored wanted = missing other wanted := by
  induction wanted generalizing stored other with
  | nil => rfl
  | cons first rest ih =>
    have hrest := fun binding hmem => h binding (List.mem_cons_of_mem first hmem)
    rw [missing, missing, h first List.mem_cons_self]
    split
    · exact ih hrest
    · rw [ih fun binding hmem => ?_]
      rw [isCovered_append, isCovered_append, hrest binding hmem]

/-- Of wanted bindings only those need be looked at that are not covered. -/
theorem missing_filter {keep : Binding → Bool}
    (h : ∀ binding ∈ wanted, keep binding = false → isCovered stored binding = true) :
    missing stored (wanted.filter keep) = missing stored wanted := by
  induction wanted generalizing stored with
  | nil => rfl
  | cons first rest ih =>
    have hrest := fun binding hmem => h binding (List.mem_cons_of_mem first hmem)
    cases hkeep : keep first with
    | false =>
      rw [List.filter_cons_of_neg (by simp [hkeep]), missing,
        if_pos (h first List.mem_cons_self hkeep)]
      exact ih hrest
    | true =>
      rw [List.filter_cons_of_pos hkeep, missing, missing]
      split
      · exact ih hrest
      · rw [ih fun binding hmem hdropped => ?_]
        rw [isCovered_append, hrest binding hmem hdropped, Bool.true_or]

/-- Where none of the wanted bindings is to stand, one more binding makes no difference. -/
theorem missing_apart (hapart : ∀ other ∈ wanted, binding.place? ≠ other.place?) :
    missing (stored ++ [binding]) wanted = missing stored wanted := by
  refine missing_congr fun other hmem => ?_
  rw [isCovered_append]
  simp [isCovered, hapart other hmem]

/-- After a part of what was missing was created, the rest of it is missing. -/
theorem missing_resume {created : List Binding} (h : created <+: missing stored wanted) :
    created ++ missing (stored ++ created) wanted = missing stored wanted := by
  -- An uncovered binding is the first of those created or, if none was, still missing.
  induction wanted generalizing stored created with
  | nil => rw [List.prefix_nil.mp h]; rfl
  | cons binding rest ih =>
    rw [missing] at h ⊢
    split at h
    · next hcovered =>
      rw [isCovered_append, hcovered, missing, if_pos hcovered]
      exact ih h
    · next hmissing =>
      rw [missing, if_neg hmissing]
      cases created with
      | nil => rw [List.append_nil, if_neg hmissing, List.nil_append]
      | cons first more =>
        obtain ⟨rfl, h⟩ := List.cons_prefix_cons.mp h
        have hcovered : isCovered (stored ++ first :: more) first = true := by
          simp [isCovered]
        have hrest := ih h
        rw [List.append_assoc, List.singleton_append] at hrest
        rw [if_pos hcovered, List.cons_append, hrest]

/-- After all that was missing was created nothing is missing. -/
theorem missing_fill (stored wanted : List Binding) :
    missing (stored ++ missing stored wanted) wanted = [] := by
  have hresumed := missing_resume (List.prefix_refl (missing stored wanted))
  exact List.append_cancel_left (hresumed.trans (List.append_nil _).symm)

/-- Two lists give the same item if one of them has it when the other does, and only one can be
found. -/
theorem find?_eq_of_any {α : Type} {test : α → Bool} {first second : List α}
    (hany : first.any test = second.any test)
    (hone : ∀ a ∈ first, ∀ b ∈ second, test a = true → test b = true → a = b) :
    first.find? test = second.find? test := by
  have hsome : (first.find? test).isSome = (second.find? test).isSome := by
    rw [Bool.eq_iff_iff, List.find?_isSome, List.find?_isSome, ← List.any_eq_true,
      ← List.any_eq_true, hany]
  cases hfirst : first.find? test with
  | none =>
    rw [hfirst, Option.isSome_none] at hsome
    exact (Option.isSome_eq_false_iff.mp hsome.symm |> Option.isNone_iff_eq_none.mp).symm
  | some a =>
    rw [hfirst, Option.isSome_some] at hsome
    obtain ⟨b, hsecond⟩ := Option.isSome_iff_exists.mp hsome.symm
    rw [hsecond]
    exact congrArg some (hone a (List.mem_of_find?_eq_some hfirst) b
      (List.mem_of_find?_eq_some hsecond) (List.find?_some hfirst) (List.find?_some hsecond))

/-- Which wanted binding is found when what was missing is there does not depend on their order, if
only one of them can be found. -/
theorem find?_fill {test : Binding → Bool} {first second : List Binding}
    (hmem : ∀ binding, binding ∈ first ↔ binding ∈ second)
    (hplace : ∀ binding ∈ first, ∀ other, other.place? = binding.place? → test other = test binding)
    (hone : ∀ a ∈ first, ∀ b ∈ first, test a = true → test b = true → a = b) :
    (stored ++ missing stored first).find? test = (stored ++ missing stored second).find? test := by
  have hany : (stored ++ missing stored first).any test =
      (stored ++ missing stored second).any test := by
    have hwanted : first.any test = second.any test := by
      rw [Bool.eq_iff_iff, List.any_eq_true, List.any_eq_true]
      simp only [hmem]
    rw [any_fill hplace, any_fill fun binding h => hplace binding ((hmem binding).mpr h), hwanted]
  rw [List.find?_append, List.find?_append]
  cases hstored : stored.find? test with
  | some found => rfl
  | none =>
    have hnone : stored.any test = false := by
      rw [List.any_eq_false]
      exact List.find?_eq_none.mp hstored
    rw [List.any_append, List.any_append, hnone, Bool.false_or, Bool.false_or] at hany
    rw [Option.none_or, Option.none_or]
    refine find?_eq_of_any hany fun a ha b hb => hone a ?_ b ?_
    · exact (mem_of_mem_missing ha).1
    · exact (hmem b).mpr (mem_of_mem_missing hb).1

/-- What is missing of the wanted bindings of a kind is the part of that kind of what is missing, if
the kind of a binding is told by its place. -/
theorem filter_missing {kind : Binding → Bool}
    (h : ∀ a ∈ wanted, ∀ b ∈ wanted, a.place? = b.place? → kind a = kind b) :
    (missing stored wanted).filter kind = missing stored (wanted.filter kind) := by
  induction wanted generalizing stored with
  | nil => rfl
  | cons first rest ih =>
    have hrest : ∀ a ∈ rest, ∀ b ∈ rest, a.place? = b.place? → kind a = kind b :=
      fun a ha b hb => h a (List.mem_cons_of_mem _ ha) b (List.mem_cons_of_mem _ hb)
    rw [missing]
    cases hkind : kind first with
    | true =>
      rw [List.filter_cons_of_pos hkind, missing]
      split
      · exact ih hrest
      · rw [List.filter_cons_of_pos hkind, ih hrest]
    | false =>
      have hskip : ¬ kind first = true := by simp [hkind]
      rw [List.filter_cons_of_neg hskip]
      split
      · exact ih hrest
      · rw [List.filter_cons_of_neg hskip, ih hrest]
        -- Created though of another kind, it covers none of this kind.
        refine missing_apart fun other hmem hplace => ?_
        obtain ⟨hmem, hother⟩ := List.mem_filter.mp hmem
        have hsame := h first List.mem_cons_self other (List.mem_cons_of_mem _ hmem) hplace
        rw [← hsame, hkind] at hother
        cases hother

end Binding

end RoleGrants
