import RoleGrants.Proofs.Chart
import RoleGrants.Proofs.Growth
import RoleGrants.Proofs.Steps

/-! Regimes. A regime says which moments the clock may show and which answers a call may have, each
with the state that it leaves. In its logic a program ends well if it does so whatever is answered
under the regime. What is logged and counted does not matter to it. -/

namespace RoleGrants

/-- What comes of a report: a series can be recorded or released only if its parts can be keys. -/
def Report.result : Report → Except Failure Unit
  | .log _ _ => .ok ()
  | .count _ => .ok ()
  | .record series _ => Value.requireKeys series.parts
  | .clear series => Value.requireKeys series.parts

theorem Report.result_of_isKeyed {item : Report} (h : item.IsKeyed) : item.result = .ok () := by
  cases item with
  | log level text => rfl
  | count counter => rfl
  | record series active => rw [result, Value.requireKeys, List.all_eq_true.mpr h]; rfl
  | clear series => rw [result, Value.requireKeys, List.all_eq_true.mpr h]; rfl

theorem Report.result_failed {item : Report} {failure : Failure}
    (h : item.result = .error failure) : failure = .wrongType := by
  cases item with
  | log level text => cases h
  | count counter => cases h
  | record series active => exact Pass.requireKeys_failed h
  | clear series => exact Pass.requireKeys_failed h

theorem DryRun.World.report_result (world : World) (item : Report) :
    (world.report item).1 = item.result := by
  cases item with
  | log level text => rfl
  | count counter => rfl
  | record series active =>
    cases hkeys : Value.requireKeys series.parts with
    | error failure => simp only [report, Sink.record, hkeys, Report.result]
    | ok _ =>
      simp only [report, Sink.record, hkeys, Report.result]
      split <;> rfl
  | clear series =>
    cases hkeys : Value.requireKeys series.parts with
    | error failure => simp only [report, Sink.clear, hkeys, Report.result]
    | ok _ =>
      simp only [report, Sink.clear, hkeys, Report.result]
      cases world.sink.recorded.any series.same <;> rfl

/-- What may be answered to a program in the states of something that it works on. -/
structure Regime (σ : Type) where
  shows : Int → Prop
  answers : σ → (request : StoreCall) → Except Failure request.Answer → σ → Prop

namespace Regime

variable {σ : Type} {regime : Regime σ} {state later : σ}

/-- The logic of what holds whatever is answered under a regime. -/
def logic (regime : Regime σ) : Logic σ where
  judge state _ post := ∀ moment, regime.shows moment → post moment state
  report state item post := post item.result state
  call state request post := ∀ answer later, regime.answers state request answer later →
    post answer later
  judge_mono h hpost moment hshown := hpost _ _ (h moment hshown)
  report_mono h hpost := hpost _ _ h
  call_mono h hpost answer later hanswer := hpost _ _ (h answer later hanswer)

instance : regime.logic.IsCalm := ⟨Iff.rfl, Iff.rfl⟩

theorem allows_judged {verdict : Verdict} {moment : Int} (h : regime.shows moment) :
    regime.logic.Allows state (.judged verdict moment) state :=
  .judged fun _ hpost => hpost moment h

theorem allows_reported {item : Report} :
    regime.logic.Allows state (.reported item item.result) state :=
  .reported fun _ hpost => hpost

theorem allows_called {request : StoreCall} {answer : Except Failure request.Answer}
    (h : regime.answers state request answer later) :
    regime.logic.Allows state (.called request answer) later :=
  .called fun _ hpost => hpost answer later h

end Regime

end RoleGrants
