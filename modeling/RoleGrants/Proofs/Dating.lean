import RoleGrants.Proofs.Tidy

/-! What stays of conditions while a policy is worked on. A work that sets conditions which are all
true keeps one of each type that there was, and the time of each that was true, as long as it drops
none; `Tracker.Follows` is what every step of such a work preserves. Dropping a condition loses its
time: when one of its type is set again, it is new. -/

namespace RoleGrants.Tracker

variable {conditions before : List Condition} {dropped : Condition → Prop} {tracker after : Tracker}
  {verdict : Verdict} {moment : Int}

/-- What a work leaves of conditions that it may have dropped some of: one of each type, for each
that it may not drop one of its type, and with the time that it had if its status is as before. -/
structure Keeps (dropped : Condition → Prop) (before after : List Condition) : Prop where
  types : after.Pairwise fun a b => a.type ≠ b.type
  present : ∀ earlier ∈ before, ¬ dropped earlier → ∃ later ∈ after, later.type = earlier.type
  times : ∀ earlier ∈ before, ¬ dropped earlier → ∀ later ∈ after, later.type = earlier.type →
    later.status = earlier.status → later.lastTransitionTime = earlier.lastTransitionTime

/-- The conditions of a work that started from others and keeps them: those that it has set are
true. -/
structure Follows (dropped : Condition → Prop) (before : List Condition) (tracker : Tracker) : Prop
    extends Keeps dropped before tracker.current where
  given : ∀ later ∈ tracker.current, later.status = true ∨ later ∈ before

theorem eq_of_types (h : conditions.Pairwise fun a b => a.type ≠ b.type) {one other : Condition}
    (hone : one ∈ conditions) (hother : other ∈ conditions) (htypes : one.type = other.type) :
    one = other := by
  have hfound : ∀ condition ∈ conditions,
      (Tracker.mk conditions []).get? condition.type = some condition :=
    fun _ hmem => get?_of_mem h hmem
  have hsame := htypes ▸ hfound one hone
  rw [hfound other hother] at hsame
  exact (Option.some.inj hsame).symm

/-- A verdict with the status of the condition so far keeps its time. -/
theorem next_keeps {earlier : Option Condition} {condition : Condition}
    (h : next moment verdict earlier = .ok condition) :
    condition.status = verdict.status ∧ ∀ found, earlier = some found →
      found.status = verdict.status → condition.lastTransitionTime = found.lastTransitionTime := by
  obtain ⟨time, rfl, hkept | ⟨hmoved, -⟩⟩ := next_eq h
  · obtain ⟨other, rfl, -, htime⟩ := hkept
    refine ⟨rfl, ?_⟩
    rintro _ ⟨⟩ _
    exact htime
  · refine ⟨rfl, ?_⟩
    rintro found rfl hstatus
    exact absurd (congrArg some hstatus) hmoved

theorem Follows.start : Follows dropped (firstOfType conditions) (start conditions) where
  types := pairwise_firstOfType conditions
  times earlier hearlier _ later hlater htype _ := by
    rw [eq_of_types (pairwise_firstOfType conditions) hlater hearlier htype]
  present earlier hmem _ := ⟨earlier, hmem, rfl⟩
  given _ hmem := .inr hmem

theorem Follows.upsert (h : Follows dropped before tracker)
    (hbefore : before.Pairwise fun a b => a.type ≠ b.type)
    (hset : tracker.upsert moment verdict = .ok after) (htrue : verdict.status = true) :
    Follows dropped before after := by
  obtain ⟨condition, hnext, hset⟩ := exists_of_bind_ok hset
  cases hset
  obtain ⟨htype, -, -⟩ := next_says hnext
  obtain ⟨hstatus, hkeeps⟩ := next_keeps hnext
  refine ⟨⟨pairwise_put h.types, fun earlier hearlier hkept => ?_,
    fun earlier hearlier hkept later hlater htypes hsame => ?_⟩, fun later hlater => ?_⟩
  · obtain ⟨found, hfound, hsametype⟩ := h.present earlier hearlier hkept
    by_cases hput : found.type = condition.type
    · exact ⟨condition, mem_put_self, hput.symm.trans hsametype⟩
    · exact ⟨found, mem_put_of_ne hfound hput, hsametype⟩
  · rcases mem_put hlater with rfl | hlater
    · obtain ⟨found, hfound, hsametype⟩ := h.present earlier hearlier hkept
      have hget : tracker.get? verdict.type = some found := by
        rw [← htype, htypes, ← hsametype]
        exact get?_of_mem h.types hfound
      -- What was found is true like the verdict, or it is still the condition at the start.
      rcases h.given found hfound with hfoundtrue | hold
      · have hfoundstatus : found.status = earlier.status := by
          rw [hfoundtrue, ← hsame, hstatus, htrue]
        rw [hkeeps found hget (hfoundtrue.trans htrue.symm)]
        exact h.times earlier hearlier hkept found hfound hsametype hfoundstatus
      · cases eq_of_types hbefore hold hearlier hsametype
        exact hkeeps earlier hget (hsame.symm.trans hstatus)
    · exact h.times earlier hearlier hkept later hlater htypes hsame
  · rcases mem_put hlater with rfl | hlater
    · exact .inl (hstatus.trans htrue)
    · exact h.given later hlater

theorem Follows.remove (h : Follows dropped before tracker) {type : ConditionType}
    (hdropped : ∀ earlier ∈ before, earlier.type = type → dropped earlier) :
    Follows dropped before (tracker.remove type) where
  types := h.types.filter _
  times earlier hearlier hkept later hlater :=
    h.times earlier hearlier hkept later (List.mem_filter.mp hlater).1
  present earlier hearlier hkept := by
    obtain ⟨found, hfound, hsametype⟩ := h.present earlier hearlier hkept
    refine ⟨found, List.mem_filter.mpr ⟨hfound, bne_iff_ne.mpr fun htype => hkept ?_⟩, hsametype⟩
    exact hdropped earlier hearlier (hsametype.symm.trans htype)
  given later hlater := h.given later (List.mem_filter.mp hlater).1

theorem tellsOfBreach_of_ok {found : Condition}
    (h : PolicyPass.tellsOfBreach (some found) = .ok true) : found.tellsOfBreach = true := by
  unfold PolicyPass.tellsOfBreach at h
  unfold Condition.tellsOfBreach
  dsimp only at h
  cases hmessage : found.message with
  | text text =>
    rw [hmessage] at h
    exact Except.ok.inj h
  | _ =>
    rw [hmessage] at h
    cases h

/-- At the start of a pass conditions are dropped that tell of a breach. -/
theorem Follows.forgetBreaches {types : List ConditionType}
    (h : Follows dropped before tracker)
    (hbefore : before.Pairwise fun a b => a.type ≠ b.type) (hsub : tracker.current ⊆ before)
    (hdropped : ∀ earlier ∈ before, earlier.tellsOfBreach = true → dropped earlier)
    (hforgot : PolicyPass.forgetBreaches tracker types = .ok after) :
    Follows dropped before after := by
  induction types generalizing tracker with
  | nil =>
    cases hforgot
    exact h
  | cons type rest ih =>
    obtain ⟨mended, htells, hforgot⟩ := exists_of_bind_ok hforgot
    cases mended with
    | false => exact ih h hsub hforgot
    | true =>
      refine ih (h.remove fun earlier hearlier htype => ?_)
        (fun later hlater => hsub (List.mem_filter.mp hlater).1) hforgot
      -- The condition that told of the breach is one from the start.
      cases hfound : tracker.get? type with
      | none =>
        rw [hfound] at htells
        cases htells
      | some found =>
        rw [hfound] at htells
        have hmem := hsub (List.mem_of_find?_eq_some hfound)
        have hsame : found = earlier :=
          eq_of_types hbefore hmem hearlier ((type_of_get? hfound).trans htype.symm)
        exact hdropped earlier hearlier (hsame ▸ tellsOfBreach_of_ok htells)

end RoleGrants.Tracker
