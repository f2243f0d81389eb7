import RoleGrants.Proofs.Accounting

/-! What passes count. A pass over a policy counts each of its attempts to create a binding once,
and a pass over a namespace each but those that fail and leave no binding. Either counts its own end
once, however it ends. -/

namespace RoleGrants

open DryRun

namespace PolicyPass

open Program Pass

/-- A pass over a policy accounts for every attempt. -/
def counted : Counter → Bool := fun _ => true

theorem accounts {space name : Value} {point : Point} {edge : Edge Point}
    (h : Flows space name point edge) : edge.Accounts counted := by
  cases h with
  | createOnCluster | createInTarget => exact fun _ _ => rfl
  | _ => trivial

/-- A pass counts its end once, whether it has a result or fails in one of its ways. -/
theorem holds_run_history (space name : Value) :
    (run space name).Holds Regime.sound.history
      (fun later _ => ∃ outcome, Balanced counted [.passes controller outcome] later)
      (fun later failure => Fails failure →
        ∃ outcome, Balanced counted [.passes controller outcome] later) [] := by
  refine holds_run (.of_accounts accounts) ?_
    (fun item hline => Balanced.rests item hline [] .start) ?_
  · rintro result item hline past ⟨outcome, hbalanced⟩
    exact (Balanced.rests item hline past hbalanced).imp fun _ hlater => ⟨outcome, hlater⟩
  · rintro (failure | result) later hlater
    · cases failure with
      | invalidPolicy message types => exact fun _ => ⟨_, hlater.close controller _ _⟩
      | store fault message => exact fun _ => ⟨_, hlater.close controller _ _⟩
      | _ => exact fun hfails => hfails.elim nofun nofun
    · exact ⟨_, hlater.close controller _ _⟩

end PolicyPass

namespace NamespacePass

open Program Pass

/-- A pass over a namespace accounts for the attempts after which the binding is there. -/
def counted : Counter → Bool := fun counter => !counter.isError

theorem accounts {name : Value} {point : Point} {edge : Edge Point} (h : Flows name point edge) :
    edge.Accounts counted := by
  cases h with
  | create => exact fun _ _ => rfl
  | _ => trivial

/-- A pass counts its end once, whether it has a result or fails in its way. -/
theorem holds_run_history (name : Value) :
    (run name).Holds Regime.sound.history
      (fun later _ => ∃ outcome, Balanced counted [.passes controller outcome] later)
      (fun later failure => Fails failure →
        ∃ outcome, Balanced counted [.passes controller outcome] later) [] := by
  refine holds_run (.of_accounts accounts) .start ?_
  rintro (failure | result) later hlater
  · cases failure with
    | store fault message => exact fun _ => ⟨_, hlater.close controller _ _⟩
    | _ => exact nofun
  · exact ⟨_, hlater.close controller _ _⟩

end NamespacePass

namespace Trigger

open Program

def controller : Trigger → String
  | .ofPolicy _ _ => PolicyPass.controller
  | .ofNamespace _ => NamespacePass.controller

/-- The attempts that a pass accounts for, by what they owe. -/
def counted : Trigger → Counter → Bool
  | .ofPolicy _ _ => PolicyPass.counted
  | .ofNamespace _ => NamespacePass.counted

theorem holds_pass_history (trigger : Trigger) :
    trigger.pass.Holds Regime.sound.history
      (fun later _ => ∃ outcome,
        Balanced trigger.counted [.passes trigger.controller outcome] later)
      (fun later failure => trigger.Fails failure → ∃ outcome,
        Balanced trigger.counted [.passes trigger.controller outcome] later) [] := by
  cases trigger with
  | ofPolicy space name =>
    exact (PolicyPass.holds_run_history (.text space) (.text name)).bind fun _ _ hlater => hlater
  | ofNamespace name =>
    exact (NamespacePass.holds_run_history (.text name)).bind fun _ _ hlater => hlater

end Trigger

/-- The creations that are counted in a pass over a sound cluster are those that its attempts owe,
as far as it accounts for them, and its end is counted once. -/
theorem Program.Ends.balanced {world : World} {trigger : Trigger} {ended : Ending Bool}
    (h : trigger.pass.Ends world ended) (hsound : world.cluster.IsSound)
    (hdated : ∀ event ∈ ended.past, event.IsDated) :
    ∃ outcome, Balanced trigger.counted [.passes trigger.controller outcome] ended.past := by
  have hended := trigger.holds_pass_history.after h.follows
    (Regime.leads_history (h.staysSound hsound hdated).leads)
  cases hresult : ended.result with
  | ok value =>
    rw [hresult] at hended
    exact hended
  | error failure =>
    rw [hresult] at hended
    exact hended (h.failsOnly hsound hdated failure hresult)

end RoleGrants
