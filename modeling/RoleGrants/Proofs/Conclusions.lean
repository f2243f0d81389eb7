import RoleGrants.Proofs.Deed

/-! How a pass over any policy ends when nothing fails. It finds no policy, it declines one that
breaks a rule, it releases the series of one that is being deleted, or it does the deed of the
policy. `PolicyPass.Concludes` says what becomes of the scene in each of these cases. -/

namespace RoleGrants

open DryRun Program Pass

namespace PolicyPass

variable {scene later : Scene} {policy : Policy} {tracker : Tracker}

/-! ### The start of a pass -/

/-- A pass that forgets breaches that are mended has looked at the messages of all conditions. -/
theorem of_forgetBreaches_ok {conditions : List Condition} {after : Tracker}
    (h : forgetBreaches (.start conditions) ConditionType.all = .ok after) :
    ∀ condition ∈ Tracker.firstOfType conditions, condition.message.IsText := by
  have htext : ∀ {found : Condition} {mended : Bool}, tellsOfBreach (some found) = .ok mended →
      found.message.IsText := by
    intro found mended htells
    cases hmessage : found.message with
    | text text => exact ⟨text, rfl⟩
    | _ =>
      simp only [tellsOfBreach, hmessage] at htells
      cases htells
  obtain ⟨first, hfirst, h⟩ := exists_of_bind_ok h
  obtain ⟨second, hsecond, -⟩ := exists_of_bind_ok h
  intro condition hmem
  have hget : (Tracker.start conditions).get? condition.type = some condition :=
    Tracker.get?_of_mem (Tracker.pairwise_firstOfType conditions) hmem
  cases htype : condition.type with
  | clusterRoleBindingCreated =>
    rw [← htype, hget] at hfirst
    exact htext hfirst
  | roleBindingCreated =>
    have hkept : (if first = true then
        (Tracker.start conditions).remove .clusterRoleBindingCreated
        else Tracker.start conditions).get? .roleBindingCreated = some condition := by
      rw [htype] at hget
      split
      · rw [Tracker.get?_remove, if_neg (by decide), hget]
      · exact hget
    rw [hkept] at hsecond
    exact htext hsecond

theorem forgetBreaches_open (h : policy.IsOpen) :
    forgetBreaches (.start policy.conditions) ConditionType.all = .ok policy.openedTracker := by
  have hworded : ∀ condition ∈ (Tracker.start policy.conditions).current,
      ∃ text, condition.message = .text text := h
  rw [forgetBreaches_eq hworded (Tracker.pairwise_firstOfType policy.conditions)]
  have hall : ∀ type, ConditionType.all.contains type = true := by
    intro type
    cases type <;> rfl
  simp only [Tracker.start, hall, Bool.true_and]
  rfl

/-- How the check of a policy that breaks a rule ends: with the breach, once it is recorded. -/
structure Declined (policy : Policy) (message : String) (types : List ConditionType)
    (scene later : Scene) (failure : Failure) : Prop where
  failure : failure =
    .invalidPolicy s!"PermissionPolicy validation failed: {message}" types
  sink : later.sink = scene.sink
  noted : ∃ given after, given.map Prod.fst = types.map (breached message) ∧
    (Tracker.start policy.conditions).replay given = .ok after ∧
    later.cluster = scene.cluster.report policy after.current

/-- How a pass over a policy ends when nothing fails and no value is of a wrong type. -/
inductive Concludes (scene : Scene) (space name : Value) : Scene → Except Failure Result → Prop
  | notFound {message : String} :
      scene.cluster.getPolicy space name = .error (.store .notFound message) →
      Concludes scene space name scene (.ok { outcome := .notFound })
  | declined {policy : Policy} {message : String} {types : List ConditionType} {later : Scene}
      {failure : Failure} : scene.cluster.getPolicy space name = .ok policy →
      policy.validate = .error (.invalidPolicy message types) →
      Declined policy message types scene later failure →
      Concludes scene space name later (.error failure)
  | released {policy : Policy} : scene.cluster.getPolicy space name = .ok policy →
      policy.validate = .ok () → policy.isDeleting = true → policy.IsOpen →
      policy.CanRecord policy.clusterPermissions → policy.CanRecord policy.permissionRoles →
      Concludes scene space name { scene with sink := scene.sink.clearAll policy.released }
        (.ok { outcome := .deleted })
  | done {policy : Policy} {later : Scene} {result : Result} :
      scene.cluster.getPolicy space name = .ok policy → policy.validate = .ok () →
      policy.isDeleting = false → policy.IsOpen → policy.IsFit scene.cluster →
      (policy.deed scene.cluster).IsDone policy policy.openedTracker scene later result →
      Concludes scene space name later (.ok result)

namespace Concludes

variable {space name : Value} {ended : Except Failure Result}

theorem of_invalid {message : String} {types : List ConditionType}
    (h : Concludes scene space name later ended)
    (hfound : scene.cluster.getPolicy space name = .ok policy)
    (hinvalid : policy.validate = .error (.invalidPolicy message types)) :
    ∃ failure, ended = .error failure ∧ Declined policy message types scene later failure := by
  cases h with
  | notFound hother => cases hfound.symm.trans hother
  | declined hother hagain hdeclined =>
    cases hfound.symm.trans hother
    cases hinvalid.symm.trans hagain
    exact ⟨_, rfl, hdeclined⟩
  | released hother hvalid =>
    cases hfound.symm.trans hother
    cases hinvalid.symm.trans hvalid
  | done hother hvalid =>
    cases hfound.symm.trans hother
    cases hinvalid.symm.trans hvalid

theorem of_deleting (h : Concludes scene space name later ended)
    (hfound : scene.cluster.getPolicy space name = .ok policy) (hvalid : policy.validate = .ok ())
    (hdeleting : policy.isDeleting = true) :
    ended = .ok { outcome := .deleted } ∧
      later = { scene with sink := scene.sink.clearAll policy.released } := by
  cases h with
  | notFound hother => cases hfound.symm.trans hother
  | declined hother hinvalid =>
    cases hfound.symm.trans hother
    cases hvalid.symm.trans hinvalid
  | released hother =>
    cases hfound.symm.trans hother
    exact ⟨rfl, rfl⟩
  | done hother _ hactive =>
    cases hfound.symm.trans hother
    cases hdeleting.symm.trans hactive

/-- A pass over an active policy that breaks no rule does its deed. -/
theorem of_active (h : Concludes scene space name later ended)
    (hfound : scene.cluster.getPolicy space name = .ok policy) (hvalid : policy.validate = .ok ())
    (hactive : policy.isDeleting = false) :
    ∃ result, ended = .ok result ∧
      (policy.deed scene.cluster).IsDone policy policy.openedTracker scene later result := by
  cases h with
  | notFound hother => cases hfound.symm.trans hother
  | declined hother hinvalid =>
    cases hfound.symm.trans hother
    cases hvalid.symm.trans hinvalid
  | released hother _ hdeleting =>
    cases hfound.symm.trans hother
    cases hactive.symm.trans hdeleting
  | done hother _ _ _ _ hdone =>
    cases hfound.symm.trans hother
    exact ⟨_, rfl, hdone⟩

end Concludes

/-- Whether no value that a pass comes upon in a cluster is of a wrong type. -/
def IsSmooth (cluster : Cluster) (space name : Value) : Prop :=
  (∃ message, cluster.getPolicy space name = .error (.store .notFound message)) ∨
    ∃ policy, cluster.getPolicy space name = .ok policy ∧ policy.IsSmooth cluster

/-- How a pass fails when nothing fails in it: as it should, or because something that it came upon
is of a wrong type. -/
def Breaks (scene : Scene) (space name : Value) (later : Scene) (failure : Failure) : Prop :=
  Concludes scene space name later (.error failure) ∨
    ¬ IsSmooth scene.cluster space name ∧ failure.IsInternal

variable {space name : Value} {failure : Failure}

/-- A pass that finds a policy meets no value of a wrong type if it meets none with this policy. -/
theorem IsSmooth.of_found {cluster : Cluster} (h : IsSmooth cluster space name)
    (hfound : cluster.getPolicy space name = .ok policy) : policy.IsSmooth cluster := by
  rcases h with ⟨message, habsent⟩ | ⟨other, hother, hsmooth⟩
  · cases hfound.symm.trans habsent
  · cases hfound.symm.trans hother
    exact hsmooth

theorem breaks_of_found (hfound : scene.cluster.getPolicy space name = .ok policy)
    (hrough : ¬ policy.IsSmooth scene.cluster) (hinternal : failure.IsInternal) :
    Breaks scene space name later failure :=
  .inr ⟨fun hsmooth => hrough (hsmooth.of_found hfound), hinternal⟩

end PolicyPass

end RoleGrants
