import RoleGrants.Proofs.Regime

/-! What a program touches. A scope is a regime together with the series that a program may record
and clear under it and the policies that it may write. In its logic a program ends well if it
touches no more than that, whatever is answered under the regime, and a result that it has is good
for the state at its end. Of a failure nothing more is said. -/

namespace RoleGrants

/-- Whether what is reported concerns only series of a kind. -/
def Report.IsWithin (touches : Series → Prop) : Report → Prop
  | .record series _ => touches series
  | .clear series => touches series
  | .log _ _ => True
  | .count _ => True

/-- Whether a call writes only policies of a kind. -/
def StoreCall.IsWithin (writes : Policy → Prop) : StoreCall → Prop
  | .updateStatus written => writes written
  | _ => True

/-- A regime, and what a program may touch under it. -/
structure Scope (σ : Type) extends Regime σ where
  touches : Series → Prop
  writes : Policy → Prop

/-- Whether an event is one of those that a scope leaves to a program. -/
def Event.IsWithin {σ : Type} (scope : Scope σ) : Event → Prop
  | .judged _ _ => True
  | .reported item _ => item.IsWithin scope.touches
  | .called request _ => request.IsWithin scope.writes

namespace Scope

variable {σ : Type} {scope : Scope σ} {state later : σ}

/-- The logic of what stays within a scope. -/
def logic (scope : Scope σ) : Logic σ where
  judge state _ post := ∀ moment, scope.shows moment → post moment state
  report state item post := item.IsWithin scope.touches ∧ post item.result state
  call state request post := request.IsWithin scope.writes ∧
    ∀ answer later, scope.answers state request answer later → post answer later
  judge_mono h hpost moment hshown := hpost _ _ (h moment hshown)
  report_mono h hpost := ⟨h.1, hpost _ _ h.2⟩
  call_mono h hpost := ⟨h.1, fun answer later hanswer => hpost _ _ (h.2 answer later hanswer)⟩

instance : scope.logic.IsCalm := ⟨iff_of_eq (true_and _), iff_of_eq (true_and _)⟩

theorem allows_judged {verdict : Verdict} {moment : Int} (h : scope.shows moment) :
    scope.logic.Allows state (.judged verdict moment) state :=
  .judged fun _ hpost => hpost moment h

theorem allows_reported {item : Report} :
    scope.logic.Allows state (.reported item item.result) state :=
  .reported fun _ hpost => hpost.2

theorem allows_called {request : StoreCall} {answer : Except Failure request.Answer}
    (h : scope.answers state request answer later) :
    scope.logic.Allows state (.called request answer) later :=
  .called fun _ hpost => hpost.2 answer later h

end Scope

namespace Program

variable {σ α : Type} {scope : Scope σ} {good : σ → α → Prop} {state : σ}

/-- Whether a program that starts in a state stays within a scope and has a good result, if any. -/
abbrev Within (scope : Scope σ) (good : σ → α → Prop) (state : σ) (program : Program α) : Prop :=
  program.Holds scope.logic good (fun _ _ => True) state

theorem within_ofExcept {result : Except Failure α}
    (h : ∀ value, result = .ok value → good state value) :
    (ofExcept result).Within scope good state :=
  holds_ofExcept.mpr ⟨h, fun _ _ => trivial⟩

/-- What a program has done is within its scope. -/
theorem Within.events {program rest : Program α} {past : List Event} {first : σ}
    (h : program.Within scope good first) (hafter : program.After past rest)
    (hleads : scope.logic.Leads first past state) : ∀ event ∈ past, event.IsWithin scope := by
  induction hafter generalizing state with
  | start => exact fun event hmem => absurd hmem List.not_mem_nil
  | @step past event middle rest hbefore hresumes ih =>
    generalize hevents : past ++ [event] = events at hleads
    cases hleads with
    | start => simp at hevents
    | step hled =>
      obtain ⟨rfl, heq⟩ := List.append_inj' hevents rfl
      cases heq
      have hmiddle := h.after hbefore hled
      have hevent : event.IsWithin scope := by
        cases hresumes with
        | judge moment => trivial
        | report result => exact hmiddle.1
        | call answer => exact hmiddle.1
      intro other hmem
      rcases List.mem_append.mp hmem with hmem | hmem
      · exact ih hled other hmem
      · exact List.mem_singleton.mp hmem ▸ hevent

end Program

end RoleGrants
