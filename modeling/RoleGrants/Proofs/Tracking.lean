import RoleGrants.Condition.Tracker

/-! What verdicts make of the conditions of a policy: a verdict sets the condition of its type and
leaves that of any other type as it is. -/

namespace RoleGrants

theorem exists_of_bind_ok {ε α β : Type} {first : Except ε α} {next : α → Except ε β} {result : β}
    (h : (first >>= next) = .ok result) :
    ∃ value, first = .ok value ∧ next value = .ok result := by
  cases first with
  | ok value => exact ⟨value, rfl, h⟩
  | error failure => cases h

/-- The condition that a verdict sets, with a time. -/
def Verdict.dated (verdict : Verdict) (time : Value) : Condition where
  type := verdict.type
  state := verdict.state
  status := verdict.status
  lastTransitionTime := time
  message := verdict.message
  roles := Value.distinct verdict.roles

namespace Tracker

variable {tracker after : Tracker} {verdict : Verdict} {moment : Int}

/-- What a verdict makes of the condition of its type so far: it says all but the time, which is
kept with the status and is the moment otherwise. -/
theorem next_eq {earlier : Option Condition} {condition : Condition}
    (h : next moment verdict earlier = .ok condition) : ∃ time, condition = verdict.dated time ∧
      ((∃ found, earlier = some found ∧ found.status = verdict.status ∧
          time = found.lastTransitionTime) ∨
        (earlier.map (·.status) ≠ some verdict.status ∧
          ∃ text, Timestamp.ofMoment moment = .ok text ∧ time = .text text)) := by
  obtain ⟨_, _, h⟩ := exists_of_bind_ok h
  have hmoment : ((Timestamp.ofMoment moment).map Value.text >>= fun time =>
      Except.ok (verdict.dated time)) = .ok condition →
      ∃ time, condition = verdict.dated time ∧
        ∃ text, Timestamp.ofMoment moment = .ok text ∧ time = .text text := by
    intro hset
    cases htext : Timestamp.ofMoment moment with
    | error failure =>
      rw [htext] at hset
      cases hset
    | ok text =>
      rw [htext] at hset
      cases hset
      exact ⟨_, rfl, text, rfl, rfl⟩
  cases earlier with
  | none =>
    obtain ⟨time, hcondition, htime⟩ := hmoment h
    exact ⟨time, hcondition, .inr ⟨nofun, htime⟩⟩
  | some found =>
    dsimp only at h
    split at h
    · next hsame =>
      cases h
      exact ⟨_, rfl, .inl ⟨found, rfl, eq_of_beq hsame, rfl⟩⟩
    · next hother =>
      obtain ⟨time, hcondition, htime⟩ := hmoment h
      refine ⟨time, hcondition, .inr ⟨fun heq => hother ?_, htime⟩⟩
      exact beq_iff_eq.mpr (Option.some.inj heq)

/-- A verdict whose roles can be keys sets a condition at any moment that has a text. -/
theorem next_ok (hkeys : Value.requireKeys verdict.roles = .ok ()) {text : String}
    (htext : Timestamp.ofMoment moment = .ok text) (earlier : Option Condition) :
    ∃ condition, next moment verdict earlier = .ok condition := by
  unfold next
  rw [hkeys, htext]
  cases earlier with
  | none => exact ⟨_, rfl⟩
  | some found =>
    dsimp only
    split
    · exact ⟨_, rfl⟩
    · exact ⟨_, rfl⟩

theorem next_says {earlier : Option Condition} {condition : Condition}
    (h : next moment verdict earlier = .ok condition) :
    condition.type = verdict.type ∧ condition.state = verdict.state ∧
      condition.message = verdict.message := by
  obtain ⟨time, rfl, -⟩ := next_eq h
  exact ⟨rfl, rfl, rfl⟩

theorem mem_put {conditions : List Condition} {condition other : Condition}
    (h : other ∈ put conditions condition) : other = condition ∨ other ∈ conditions := by
  induction conditions with
  | nil => exact .inl (List.mem_singleton.mp h)
  | cons first rest ih =>
    unfold put at h
    split at h
    · exact (List.mem_cons.mp h).imp id (List.mem_cons_of_mem _)
    · rcases List.mem_cons.mp h with rfl | h
      · exact .inr List.mem_cons_self
      · exact (ih h).imp id (List.mem_cons_of_mem _)

/-- A verdict puts one condition, which says what the verdict says. -/
theorem upsert_eq (h : tracker.upsert moment verdict = .ok after) :
    ∃ condition, after = { tracker with current := put tracker.current condition } ∧
      condition.type = verdict.type ∧ condition.state = verdict.state ∧
      condition.message = verdict.message := by
  obtain ⟨condition, hnext, h⟩ := exists_of_bind_ok h
  cases h
  exact ⟨condition, rfl, next_says hnext⟩

theorem mem_upsert (h : tracker.upsert moment verdict = .ok after) {condition : Condition}
    (hmem : condition ∈ after.current) :
    condition ∈ tracker.current ∨ condition.message = verdict.message := by
  obtain ⟨set, rfl, -, -, hmessage⟩ := upsert_eq h
  rcases mem_put hmem with rfl | hmem
  · exact .inr hmessage
  · exact .inl hmem

/-- The tracker after some verdicts, each at its moment. -/
def replay (tracker : Tracker) (given : List (Verdict × Int)) : Except Failure Tracker :=
  given.foldlM (fun tracker (verdict, moment) => tracker.upsert moment verdict) tracker

theorem replay_append {initial : Tracker} {given : List (Verdict × Int)}
    (h : initial.replay given = .ok tracker) (hupsert : tracker.upsert moment verdict = .ok after) :
    initial.replay (given ++ [(verdict, moment)]) = .ok after := by
  rw [replay, List.foldlM_append]
  change initial.replay given >>= _ = _
  rw [h]
  change (tracker.upsert moment verdict >>= fun after => pure after) = _
  rw [hupsert]
  rfl

theorem replay_cons {item : Verdict × Int} {given : List (Verdict × Int)}
    (h : tracker.replay (item :: given) = .ok after) :
    ∃ middle, tracker.upsert item.2 item.1 = .ok middle ∧ middle.replay given = .ok after :=
  exists_of_bind_ok h

theorem mem_replay {initial : Tracker} {given : List (Verdict × Int)}
    (h : initial.replay given = .ok tracker) {condition : Condition}
    (hmem : condition ∈ tracker.current) :
    condition ∈ initial.current ∨ ∃ verdict ∈ given, condition.message = verdict.1.message := by
  induction given generalizing initial with
  | nil =>
    cases h
    exact .inl hmem
  | cons verdict rest ih =>
    obtain ⟨middle, hupsert, hrest⟩ := replay_cons h
    rcases ih hrest with hmiddle | ⟨other, hother, hmessage⟩
    · rcases mem_upsert hupsert hmiddle with hinitial | hmessage
      · exact .inl hinitial
      · exact .inr ⟨verdict, List.mem_cons_self, hmessage⟩
    · exact .inr ⟨other, List.mem_cons_of_mem _ hother, hmessage⟩

theorem type_of_get? {type : ConditionType} {condition : Condition}
    (h : tracker.get? type = some condition) : condition.type = type := by
  have htype : (condition.type == type) = true := by simpa using List.find?_some h
  exact eq_of_beq htype

theorem get?_start (conditions : List Condition) (type : ConditionType) :
    (start conditions).get? type = conditions.find? fun condition => condition.type == type := by
  unfold get? start
  induction conditions with
  | nil => rfl
  | cons first rest ih =>
    rw [firstOfType, List.find?_cons, List.find?_cons]
    split
    · rfl
    · next hfirst =>
      rw [List.find?_filter, ← ih]
      congr 1
      funext condition
      by_cases hcondition : condition.type = type
      · have hother : type ≠ first.type := fun heq => by simp [heq] at hfirst
        simp [hcondition, hother]
      · simp [hcondition]

theorem get?_upsert_of_ne {type : ConditionType} (h : tracker.upsert moment verdict = .ok after)
    (hne : verdict.type ≠ type) : after.get? type = tracker.get? type := by
  obtain ⟨condition, rfl, htype, -⟩ := upsert_eq h
  have hother : (condition.type == type) = false := by simp [htype, hne]
  simp only [get?, find?_put, hother]
  rfl

theorem get?_upsert (h : tracker.upsert moment verdict = .ok after) : ∃ condition,
    after.get? verdict.type = some condition ∧ condition.message = verdict.message := by
  obtain ⟨condition, rfl, htype, -, hmessage⟩ := upsert_eq h
  exact ⟨condition, by simp [get?, find?_put, htype], hmessage⟩

theorem get?_replay_of_ne {initial : Tracker} {given : List (Verdict × Int)} {type : ConditionType}
    (h : initial.replay given = .ok tracker) (hne : ∀ item ∈ given, item.1.type ≠ type) :
    tracker.get? type = initial.get? type := by
  induction given generalizing initial with
  | nil =>
    cases h
    rfl
  | cons item rest ih =>
    obtain ⟨middle, hupsert, hrest⟩ := exists_of_bind_ok h
    have hmiddle := ih hrest fun other hmem => hne other (List.mem_cons_of_mem _ hmem)
    exact hmiddle.trans (get?_upsert_of_ne hupsert (hne item List.mem_cons_self))

theorem exists_get?_replay {initial : Tracker} {given : List (Verdict × Int)} {type : ConditionType}
    (h : initial.replay given = .ok tracker) (hmem : ∃ item ∈ given, item.1.type = type) :
    ∃ condition, tracker.get? type = some condition := by
  induction given generalizing initial with
  | nil =>
    obtain ⟨item, hitem, -⟩ := hmem
    cases hitem
  | cons item rest ih =>
    obtain ⟨middle, hupsert, hrest⟩ := exists_of_bind_ok h
    by_cases hlater : ∃ item ∈ rest, item.1.type = type
    · exact ih hrest hlater
    · obtain ⟨other, hother, rfl⟩ := hmem
      rcases List.mem_cons.mp hother with rfl | hother
      · obtain ⟨condition, hcondition, -⟩ := get?_upsert hupsert
        refine ⟨condition, (get?_replay_of_ne hrest fun item hitem htype => ?_).trans hcondition⟩
        exact hlater ⟨item, hitem, htype⟩
      · exact absurd ⟨other, hother, rfl⟩ hlater

end Tracker

end RoleGrants
