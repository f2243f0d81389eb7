import RoleGrants.Program.Basic

/-! Programs obey the laws of monads. -/

namespace RoleGrants.Program

@[simp] theorem pure_eq (value : α) : (pure value : Program α) = .done (.ok value) := rfl

@[simp] theorem bind_eq (program : Program α) (next : α → Program β) :
    program >>= next = program.bind next := rfl

theorem bind_pure (program : Program α) :
    (program.bind fun value => .done (.ok value)) = program := by
  induction program with
  | done result => cases result <;> rfl
  | judge verdict rest ih => simp only [bind, ih]
  | report item rest ih => simp only [bind, ih]
  | call request rest ih => simp only [bind, ih]

theorem bind_assoc (program : Program α) (next : α → Program β) (last : β → Program γ) :
    (program.bind next).bind last = program.bind fun value => (next value).bind last := by
  induction program with
  | done result => cases result <;> rfl
  | judge verdict rest ih => simp only [bind, ih]
  | report item rest ih => simp only [bind, ih]
  | call request rest ih => simp only [bind, ih]

instance : LawfulMonad Program :=
  LawfulMonad.mk' Program bind_pure (fun _ _ => rfl) bind_assoc

end RoleGrants.Program
