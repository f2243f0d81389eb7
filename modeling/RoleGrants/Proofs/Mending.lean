import RoleGrants.Proofs.Renewing

/-! What becomes of the conditions of a policy that has broken a rule, once it breaks none. A pass
over it that ends with a result leaves no condition that tells of a breach, whichever way it takes.
Apart from such conditions no run of a handler drops one: where there was a condition of a type,
there is one after it. -/

namespace RoleGrants

open DryRun Pass

namespace Policy

variable {policy : Policy} {given : List (Verdict × Int)} {after : Tracker}

/-- Conditions that tell of a breach are gone after a pass has opened them, also if it writes
nothing: there was none then. -/
theorem mended_noted (isSure : Bool) (hplain : PlainVerdicts (given.map Prod.fst))
    (hreplay : policy.openedTracker.replay given = .ok after)
    (htypes : policy.conditions.Pairwise fun a b => a.type ≠ b.type) :
    ∀ condition ∈ policy.noted isSure after, condition.tellsOfBreach = false := by
  have htidy : Tracker.IsTidy after.current :=
    Tracker.isTidy_replay hreplay (Tracker.isTidy_tidy _) hplain.mended
  unfold noted
  split
  · exact htidy.mended
  · next hunwritten =>
    rw [Bool.or_eq_true, not_or, Bool.not_eq_true, Bool.not_eq_true] at hunwritten
    intro condition hmem
    have hbodies := Tracker.sameItems_of_unchanged hreplay hunwritten.2
    rw [openedTracker, Tracker.firstOfType_eq htypes] at hbodies
    obtain ⟨now, hnow, hbody⟩ := Value.exists_of_sameItems_right _ hbodies condition hmem
    obtain ⟨-, -, -, hmessage, -⟩ := Condition.of_same_toValue hbody
    rw [Bool.eq_false_iff]
    intro htells
    -- A message that tells of a breach is a text, so the condition now says it too.
    cases htext : condition.message with
    | text text =>
      rw [htext, Value.beq_text_iff] at hmessage
      rw [Condition.tellsOfBreach_congr (htext.trans hmessage.symm),
        htidy.mended now hnow] at htells
      cases htells
    | _ => simp [Condition.tellsOfBreach, htext] at htells

end Policy

/-- After a pass over a policy that stays, no condition of it tells of a breach. -/
theorem PolicyPass.mended_play (clock : Clock) {world : World} {space name : Value}
    {policy : Policy} {result : Result} (hfresh : world.isStale = false)
    (hfound : world.cluster.getPolicy space name = .ok policy)
    (htypes : policy.conditions.Pairwise fun a b => a.type ≠ b.type)
    (hresult : (clock.calm.play world (run space name)).result = .ok result)
    (hpresent : result.outcome ≠ .notFound) (hactive : result.outcome ≠ .deleted) :
    ∃ conditions, (clock.calm.play world (run space name)).world.cluster.getPolicy space name =
        .ok { policy with conditions } ∧
      ∀ condition ∈ conditions, condition.tellsOfBreach = false := by
  obtain ⟨kept, later, hshows, hkept, -, -, -, -, -, given, after, hgiven, hreplay, hlater⟩ :=
    done_of_result clock hfresh hresult hpresent hactive
  cases hfound.symm.trans hkept
  have hextended : (world.scene.cluster.extend
      (policy.deed world.scene.cluster).result.created).getPolicy space name = .ok policy := hfound
  rw [hshows.cluster, hlater]
  exact ⟨_, Policy.getPolicy_noted _ after hextended,
    Policy.mended_noted _ (hgiven ▸ policy.plainVerdicts_deed _) hreplay htypes⟩

/-- A handler drops conditions only that tell of a breach, and only of a policy that breaks no
rule. -/
theorem Occasion.of_drops {occasion : Occasion} {policy : Policy} {condition : Condition}
    (h : occasion.Drops policy condition) :
    policy.validate = .ok () ∧ condition.tellsOfBreach = true := by
  cases occasion with
  | policyChanged settings space name => exact h
  | policyResynced space name => exact h
  | policyDeleted space name body => exact h.elim
  | namespaceChanged event name => exact h.elim

/-- Over every run, with changes of the cluster that leave it orderly and with a clock that may show
anything, there is after a handler a condition of each type of which there was one before it, unless
that one told of a breach and the policy breaks no rule. -/
theorem DryRun.World.Reaches.keeps_types {first later : World}
    (h : first.Reaches (fun _ after => after.IsOrderly) later) (hfirst : first.cluster.IsOrderly)
    {occasion : Occasion} {ended : Ending occasion.Answer}
    (hended : occasion.handler.Ends later ended) {index : Nat} {before after : Policy}
    (hbefore : later.cluster.policies[index]? = some before)
    (hafter : ended.world.cluster.policies[index]? = some after) :
    ∀ earlier ∈ before.conditions, (∃ now ∈ after.conditions, now.type = earlier.type) ∨
      before.validate = .ok () ∧ earlier.tellsOfBreach = true := by
  rw [hended.lives.policies, List.getElem?_map, hbefore] at hafter
  obtain rfl : ended.past.foldl Policy.after before = after := Option.some.inj hafter
  intro earlier hmem
  rcases Occasion.keeps hended (h.isOrderly hfirst) hbefore with hsame | ⟨-, hkeeps⟩
  · exact .inl ⟨earlier, by rwa [hsame], rfl⟩
  · by_cases hdrops : occasion.Drops before earlier
    · exact .inr (Occasion.of_drops hdrops)
    · exact .inl (hkeeps.present earlier hmem hdrops)

/-- A pass over a policy that stays leaves no condition that tells of a breach, and no run of a
handler drops a condition that tells of none. -/
theorem PolicyPass.drops_breaches_only :
    (∀ (clock : Clock) (world : World) (space name : Value) (policy : Policy) (result : Result),
      world.isStale = false → world.cluster.getPolicy space name = .ok policy →
      policy.conditions.Pairwise (fun a b => a.type ≠ b.type) →
      (clock.calm.play world (run space name)).result = .ok result →
      result.outcome ≠ .notFound → result.outcome ≠ .deleted →
      ∃ conditions, (clock.calm.play world (run space name)).world.cluster.getPolicy space name =
          .ok { policy with conditions } ∧
        ∀ condition ∈ conditions, condition.tellsOfBreach = false) ∧
    ∀ (first later : World) (occasion : Occasion) (ended : Ending occasion.Answer),
      first.cluster.IsOrderly → first.Reaches (fun _ after => after.IsOrderly) later →
      occasion.handler.Ends later ended → ∀ (index : Nat) (before after : Policy),
      later.cluster.policies[index]? = some before →
      ended.world.cluster.policies[index]? = some after →
      ∀ earlier ∈ before.conditions, (∃ now ∈ after.conditions, now.type = earlier.type) ∨
        before.validate = .ok () ∧ earlier.tellsOfBreach = true :=
  ⟨fun clock _ _ _ _ _ => mended_play clock,
    fun _ _ _ _ hfirst hreaches hended _ _ _ hbefore hafter =>
      hreaches.keeps_types hfirst hended hbefore hafter⟩

/-- The viewer before it is said whom its role is for. -/
def Policy.vacant : Policy := { viewer with subjectName := "" }

/-- A pass refuses the vacant policy and tells so twice; another refusal keeps both conditions, and
once there is a subject a pass drops them. -/
theorem PolicyPass.drops_breaches_only_vacant :
    let world : World := { cluster := { policies := [Policy.vacant], roles := [.text "view"] } }
    let changed : Occasion := .policyChanged {} "team" "viewer"
    let refused := (Course.unwritable.calm.play world changed.handler).world
    let again := Course.later.play refused changed.handler
    let mended : World := { refused with
      cluster := refused.cluster.changePolicy "team" "viewer" fun policy =>
        { policy with subjectName := "ann" } }
    let ended := Course.later.toClock.calm.play mended (run "team" "viewer")
    (mended.isStale = false ∧ ∃ policy result,
      mended.cluster.getPolicy "team" "viewer" = .ok policy ∧
      policy.conditions.Pairwise (fun a b => a.type ≠ b.type) ∧
      policy.conditions.map Condition.tellsOfBreach = [true, true] ∧
      ended.result = .ok result ∧ result.outcome = .clusterBindingsCreated ∧
      ∃ conditions,
        ended.world.cluster.getPolicy "team" "viewer" = .ok { policy with conditions } ∧
        ∀ condition ∈ conditions, condition.tellsOfBreach = false) ∧
    world.cluster.IsOrderly ∧ changed.handler.Ends refused again ∧
    ∀ before after, refused.cluster.policies[0]? = some before →
      again.world.cluster.policies[0]? = some after →
      ∀ earlier ∈ before.conditions, (∃ now ∈ after.conditions, now.type = earlier.type) ∨
        before.validate = .ok () ∧ earlier.tellsOfBreach = true := by
  intro world changed refused again mended ended
  have hfresh : mended.isStale = false := by decide +kernel
  have hstored : ((mended.cluster.getPolicy "team" "viewer").toOption.any fun policy =>
      policy.conditions.map Condition.type ==
          [.clusterRoleBindingCreated, .roleBindingCreated] &&
        policy.conditions.map Condition.tellsOfBreach == [true, true]) = true := by
    decide +kernel
  have hends : (ended.result.toOption.any fun result =>
      result.outcome == .clusterBindingsCreated) = true := by
    decide +kernel
  have horderly : world.cluster.IsOrderly := Cluster.isOrderly_single .nil
  have hreaches : world.Reaches (fun _ after => after.IsOrderly) refused :=
    .handled changed .start (Course.ends_play _ _ _)
  have hended : changed.handler.Ends refused again := Course.ends_play _ _ _
  clear_value mended again refused
  refine ⟨⟨hfresh, ?_⟩, horderly, hended, fun before after =>
    drops_breaches_only.2 world refused changed again horderly hreaches hended 0 before after⟩
  obtain ⟨policy, hfound, hconditions⟩ := exists_ok_of_any hstored
  obtain ⟨htypes, htells⟩ := Bool.and_eq_true_iff.mp hconditions
  have hpairwise : policy.conditions.Pairwise fun a b => a.type ≠ b.type := by
    rw [← List.pairwise_map, eq_of_beq htypes]
    decide
  obtain ⟨result, hresult, hends⟩ := exists_ok_of_any hends
  have houtcome : result.outcome = .clusterBindingsCreated := eq_of_beq hends
  exact ⟨policy, result, hfound, hpairwise, eq_of_beq htells, hresult, houtcome,
    drops_breaches_only.1 Course.later.toClock mended "team" "viewer" policy result hfresh
      hfound hpairwise hresult (by rw [houtcome]; nofun) (by rw [houtcome]; nofun)⟩

end RoleGrants
