import RoleGrants.Proofs.Dating
import RoleGrants.Proofs.Keys

/-! Verdicts that are given again. A verdict on which a condition stands changes nothing, whenever
it is given. If some verdicts have changed nothing that counts as a change, conditions that say the
same were there before them, so they do not depend on the clock. -/

namespace RoleGrants

/-- A condition is told by what it says and its time. -/
theorem Condition.eq_of_undated {one other : Condition} (h : one.undated = other.undated)
    (htime : one.lastTransitionTime = other.lastTransitionTime) : one = other := by
  cases one
  cases other
  simp only [undated, mk.injEq] at h
  obtain ⟨rfl, rfl, rfl, -, rfl, rfl⟩ := h
  cases htime
  rfl

theorem Condition.tellsOfBreach_congr {one other : Condition} (h : one.message = other.message) :
    one.tellsOfBreach = other.tellsOfBreach := by
  unfold tellsOfBreach
  rw [h]

/-! ### Equality of bodies -/

theorem Value.exists_of_sameItems {α : Type} (f : α → Value) {first second : List α}
    (h : Value.sameItems (first.map f) (second.map f) = true) :
    ∀ a ∈ first, ∃ b ∈ second, Value.same (f a) (f b) = true := by
  induction first generalizing second with
  | nil => exact fun _ hmem => absurd hmem List.not_mem_nil
  | cons a rest ih =>
    cases second with
    | nil => cases h
    | cons b others =>
      obtain ⟨hsame, hrest⟩ := Bool.and_eq_true_iff.mp h
      intro other hmem
      rcases List.mem_cons.mp hmem with rfl | hmem
      · exact ⟨b, List.mem_cons_self, hsame⟩
      · obtain ⟨found, hfound, hother⟩ := ih hrest other hmem
        exact ⟨found, List.mem_cons_of_mem _ hfound, hother⟩

theorem Value.exists_of_sameItems_right {α : Type} (f : α → Value) {first second : List α}
    (h : Value.sameItems (first.map f) (second.map f) = true) :
    ∀ b ∈ second, ∃ a ∈ first, Value.same (f a) (f b) = true := by
  induction second generalizing first with
  | nil => exact fun _ hmem => absurd hmem List.not_mem_nil
  | cons b rest ih =>
    cases first with
    | nil => cases h
    | cons a others =>
      obtain ⟨hsame, hrest⟩ := Bool.and_eq_true_iff.mp h
      intro other hmem
      rcases List.mem_cons.mp hmem with rfl | hmem
      · exact ⟨a, List.mem_cons_self, hsame⟩
      · obtain ⟨found, hfound, hother⟩ := ih hrest other hmem
        exact ⟨found, List.mem_cons_of_mem _ hfound, hother⟩

theorem ConditionType.eq_of_name {one other : ConditionType} (h : one.name = other.name) :
    one = other := by
  have hof := congrArg ConditionType.ofName? h
  rw [ofName?_name, ofName?_name] at hof
  exact Option.some.inj hof

theorem ConditionState.eq_of_name {one other : ConditionState} (h : one.name = other.name) :
    one = other := by
  have hof := congrArg ConditionState.ofName? h
  rw [ofName?_name, ofName?_name] at hof
  exact Option.some.inj hof

theorem Value.same_text_iff {one other : String} :
    same (.text one) (.text other) = true ↔ one = other := by
  rw [same, beq_iff_eq]

theorem Value.same_bool_iff {one other : Bool} :
    same (.bool one) (.bool other) = true ↔ one = other := by
  cases one <;> cases other <;> decide

/-- The fields of the body of a condition. -/
def Condition.fields (condition : Condition) : List (String × Value) :=
  [("type", .text condition.type.name), ("state", .text condition.state.name),
    ("status", .bool condition.status), ("lastTransitionTime", condition.lastTransitionTime),
    ("message", condition.message), ("clusterRoleName", .list condition.roles)]

/-- Whether two conditions are equal field by field. -/
structure Condition.Equals (one other : Condition) : Prop where
  type : one.type = other.type
  state : one.state = other.state
  status : one.status = other.status
  time : (one.lastTransitionTime == other.lastTransitionTime) = true
  message : (one.message == other.message) = true
  roles : Value.sameItems one.roles other.roles = true

/-- Conditions have equal bodies if and only if they are equal field by field. -/
theorem Condition.same_iff {one other : Condition} :
    one.same other = true ↔ one.Equals other := by
  have htypes : one.type.name = other.type.name ↔ one.type = other.type :=
    ⟨ConditionType.eq_of_name, congrArg _⟩
  have hstates : one.state.name = other.state.name ↔ one.state = other.state :=
    ⟨ConditionState.eq_of_name, congrArg _⟩
  have hparts : one.same other = Value.sameFields one.fields other.fields := rfl
  rw [hparts]
  simp only [fields, Value.sameFields, List.lookup_cons, Bool.and_eq_true]
  simp only [beq_self_eq_true, String.reduceBEq, Value.same_text_iff, Value.same_bool_iff, htypes,
    hstates]
  constructor
  · rintro ⟨htype, hstate, hstatus, htime, hmessage, hroles, -⟩
    exact ⟨htype, hstate, hstatus, htime, hmessage, hroles⟩
  · rintro ⟨htype, hstate, hstatus, htime, hmessage, hroles⟩
    exact ⟨htype, hstate, hstatus, htime, hmessage, hroles, trivial⟩

/-- Conditions with equal bodies have one type, state and status, and messages and roles that are
equal. -/
theorem Condition.of_same_toValue {one other : Condition}
    (h : Value.same one.toValue other.toValue = true) :
    one.type = other.type ∧ one.state = other.state ∧ one.status = other.status ∧
      (one.message == other.message) = true ∧ Value.sameItems one.roles other.roles = true := by
  have hequals : one.Equals other := same_iff.mp h
  exact ⟨hequals.type, hequals.state, hequals.status, hequals.message, hequals.roles⟩

/-! ### Conditions that say what a verdict does -/

namespace Value

theorem sameItems_self {values : List Value} (h : ∀ value ∈ values, value.isKey = true) :
    sameItems values values = true :=
  sameItems_refl fun value hmem => beq_self_of_isKey (h value hmem)

/-- Texts are equal to no values but themselves. -/
theorem eq_of_sameItems {texts values : List Value} (htexts : ∀ text ∈ texts, text.IsText)
    (h : sameItems texts values = true) : values = texts := by
  induction texts generalizing values with
  | nil =>
    cases values with
    | nil => rfl
    | cons => cases h
  | cons first rest ih =>
    cases values with
    | nil => cases h
    | cons value others =>
      obtain ⟨hfirst, hrest⟩ := Bool.and_eq_true_iff.mp h
      obtain ⟨text, rfl⟩ := htexts first List.mem_cons_self
      rw [text_beq_iff.mp hfirst, ih (fun other hmem => htexts other (List.mem_cons_of_mem _ hmem))
        hrest]

end Value

/-- Whether a condition says what a verdict does. Its roles may be other values that are equal. -/
structure Condition.Echoes (condition : Condition) (verdict : Verdict) : Prop where
  type : condition.type = verdict.type
  state : condition.state = verdict.state
  status : condition.status = verdict.status
  message : condition.message = verdict.message
  roles : Value.sameItems (Value.distinct verdict.roles) condition.roles = true

namespace Condition.Echoes

variable {condition : Condition} {verdict : Verdict}

theorem of_undated (h : condition.undated = verdict.condition)
    (hkeys : ∀ role ∈ verdict.roles, role.isKey = true) : condition.Echoes verdict where
  type := congrArg Condition.type h
  state := congrArg Condition.state h
  status := congrArg Condition.status h
  message := congrArg Condition.message h
  roles := by
    have hroles : condition.roles = Value.distinct verdict.roles := congrArg Condition.roles h
    rw [hroles]
    exact Value.sameItems_self fun role hmem => hkeys role (Pass.mem_of_mem_distinct hmem)

theorem roles_eq (h : condition.Echoes verdict) (htexts : ∀ role ∈ verdict.roles, role.IsText) :
    condition.roles = Value.distinct verdict.roles :=
  Value.eq_of_sameItems (fun role hmem => htexts role (Pass.mem_of_mem_distinct hmem)) h.roles

end Condition.Echoes

namespace Tracker

variable {conditions : List Condition} {tracker after : Tracker} {verdict : Verdict} {moment : Int}
  {given : List (Verdict × Int)}

theorem upsert_initial (h : tracker.upsert moment verdict = .ok after) :
    after.initial = tracker.initial := by
  obtain ⟨condition, rfl, -⟩ := upsert_eq h
  rfl

theorem replay_initial (h : tracker.replay given = .ok after) :
    after.initial = tracker.initial := by
  induction given generalizing tracker with
  | nil =>
    cases h
    rfl
  | cons item rest ih =>
    obtain ⟨middle, hupsert, hrest⟩ := replay_cons h
    exact (ih hrest).trans (upsert_initial hupsert)

/-- The roles of verdicts that could be given can be keys. -/
theorem keys_replay (h : tracker.replay given = .ok after) :
    ∀ verdict ∈ given.map Prod.fst, ∀ role ∈ verdict.roles, role.isKey = true := by
  induction given generalizing tracker with
  | nil => exact fun _ hmem => absurd hmem List.not_mem_nil
  | cons item rest ih =>
    obtain ⟨middle, hupsert, hrest⟩ := replay_cons h
    obtain ⟨condition, hnext, -⟩ := exists_of_bind_ok hupsert
    obtain ⟨_, hkeys, -⟩ := exists_of_bind_ok hnext
    exact List.forall_mem_cons.mpr ⟨Value.requireKeys_iff.mp hkeys, ih hrest⟩

/-- If some verdicts have changed nothing, the conditions after them have bodies that equal those of
the conditions at the start. -/
theorem sameItems_of_unchanged (h : tracker.replay given = .ok after)
    (hsame : after.changed = false) :
    Value.sameItems (after.current.map Condition.toValue)
      (tracker.initial.map Condition.toValue) = true := by
  rw [← replay_initial h]
  simpa [changed] using hsame

theorem types_replay (h : tracker.replay given = .ok after)
    (htypes : tracker.current.Pairwise fun a b => a.type ≠ b.type) :
    after.current.Pairwise fun a b => a.type ≠ b.type := by
  induction given generalizing tracker with
  | nil =>
    cases h
    exact htypes
  | cons item rest ih =>
    obtain ⟨middle, hupsert, hrest⟩ := replay_cons h
    obtain ⟨condition, rfl, -⟩ := upsert_eq hupsert
    exact ih hrest (pairwise_put htypes)

theorem isTidy_replay (h : tracker.replay given = .ok after) (htidy : IsTidy tracker.current)
    (hmended : ∀ verdict ∈ given.map Prod.fst, verdict.condition.tellsOfBreach = false) :
    IsTidy after.current := by
  have hsettled : IsTidy (after.current.map Condition.undated) :=
    undated_replay h ▸ htidy.undated.settle hmended
  refine ⟨?_, fun condition hmem =>
    hsettled.mended condition.undated (List.mem_map_of_mem hmem)⟩
  have htypes := hsettled.types
  rwa [List.pairwise_map] at htypes

/-- A condition that was set last for its type is among those that some verdicts make. -/
theorem mem_settle_of_agrees {verdicts : List Verdict} {condition : Condition}
    (h : condition ∈ conditions)
    (hagrees : ∀ verdict ∈ verdicts, condition.type = verdict.type →
      condition = verdict.condition) : condition ∈ settle conditions verdicts := by
  induction verdicts generalizing conditions with
  | nil => exact h
  | cons verdict rest ih =>
    refine ih ?_ fun other hmem => hagrees other (List.mem_cons_of_mem _ hmem)
    by_cases htype : condition.type = verdict.type
    · rw [hagrees verdict List.mem_cons_self htype]
      exact mem_put_self
    · exact mem_put_of_ne h htype

/-- If verdicts of one type are the same, there is a condition for each of them in the end. -/
theorem mem_settle_of_all {verdicts : List Verdict}
    (hsame : ∀ one ∈ verdicts, ∀ other ∈ verdicts, one.type = other.type → one = other)
    (hmem : verdict ∈ verdicts) : verdict.condition ∈ settle conditions verdicts := by
  obtain ⟨first, rest, rfl⟩ := List.append_of_mem hmem
  rw [settle_append]
  change verdict.condition ∈ settle (put (settle conditions first) verdict.condition) rest
  refine mem_settle_of_agrees mem_put_self fun other hother htype => ?_
  rw [hsame verdict hmem other (List.mem_append_right _ (List.mem_cons_of_mem _ hother)) htype]

/-- After some verdicts a condition stands for each of them. -/
theorem exists_of_replay (h : tracker.replay given = .ok after)
    (hsame : ∀ one ∈ given.map Prod.fst, ∀ other ∈ given.map Prod.fst,
      one.type = other.type → one = other)
    (hmem : verdict ∈ given.map Prod.fst) :
    ∃ condition ∈ after.current, condition.undated = verdict.condition := by
  have hsettled : verdict.condition ∈
      settle (tracker.current.map Condition.undated) (given.map Prod.fst) :=
    mem_settle_of_all hsame hmem
  rw [← undated_replay h] at hsettled
  exact List.mem_map.mp hsettled

/-- Verdicts by which nothing has changed found conditions at the start that said as much. -/
theorem exists_echo (h : tracker.replay given = .ok after) (hsame : after.changed = false)
    (hone : ∀ one ∈ given.map Prod.fst, ∀ other ∈ given.map Prod.fst,
      one.type = other.type → one = other)
    (hmem : verdict ∈ given.map Prod.fst) (htext : verdict.message.IsText) :
    ∃ found ∈ tracker.initial, found.Echoes verdict := by
  obtain ⟨condition, hcondition, hstands⟩ := exists_of_replay h hone hmem
  obtain ⟨found, hfound, hbody⟩ :=
    Value.exists_of_sameItems _ (sameItems_of_unchanged h hsame) condition hcondition
  obtain ⟨htype, hstate, hstatus, hequal, hroles⟩ := Condition.of_same_toValue hbody
  have hechoes := Condition.Echoes.of_undated hstands (keys_replay h verdict hmem)
  have hlisted : condition.roles = Value.distinct verdict.roles := congrArg Condition.roles hstands
  obtain ⟨text, htext⟩ := htext
  rw [hechoes.message, htext, Value.text_beq_iff] at hequal
  exact ⟨found, hfound, htype.symm.trans hechoes.type, hstate.symm.trans hechoes.state,
    hstatus.symm.trans hechoes.status, hequal.trans htext.symm, hlisted ▸ hroles⟩

/-! ### Verdicts on which conditions stand -/

theorem upsert_standing (htypes : tracker.current.Pairwise fun a b => a.type ≠ b.type)
    {condition : Condition} (hmem : condition ∈ tracker.current)
    (hstands : condition.undated = verdict.condition)
    (h : tracker.upsert moment verdict = .ok after) : after = tracker := by
  obtain ⟨set, hnext, h⟩ := exists_of_bind_ok h
  cases h
  have htype : condition.type = verdict.type := congrArg Condition.type hstands
  have hstatus : condition.status = verdict.status := congrArg Condition.status hstands
  have hfound : tracker.get? verdict.type = some condition := htype ▸ get?_of_mem htypes hmem
  have hset : set = condition := by
    refine Condition.eq_of_undated ((undated_next hnext).trans hstands.symm) ?_
    exact (next_keeps hnext).2 condition hfound hstatus
  rw [hset, put_eq_self htypes hmem]

/-- Verdicts on which conditions stand change nothing, whenever they are given. -/
theorem replay_standing (htypes : tracker.current.Pairwise fun a b => a.type ≠ b.type)
    (hstands : ∀ verdict ∈ given.map Prod.fst,
      ∃ condition ∈ tracker.current, condition.undated = verdict.condition)
    (h : tracker.replay given = .ok after) : after = tracker := by
  induction given with
  | nil =>
    cases h
    rfl
  | cons item rest ih =>
    obtain ⟨middle, hupsert, hrest⟩ := replay_cons h
    obtain ⟨condition, hmem, hcondition⟩ := hstands item.1 List.mem_cons_self
    cases upsert_standing htypes hmem hcondition hupsert
    exact ih (fun verdict hverdict => hstands verdict (List.mem_cons_of_mem _ hverdict)) hrest

/-- Some verdicts that are given again, after they were given once, change nothing. -/
theorem replay_again {more : List (Verdict × Int)} {initial : List Condition} {last : Tracker}
    (h : tracker.replay given = .ok after)
    (htypes : after.current.Pairwise fun a b => a.type ≠ b.type)
    (hsame : ∀ one ∈ given.map Prod.fst, ∀ other ∈ given.map Prod.fst,
      one.type = other.type → one = other)
    (hmore : more.map Prod.fst = given.map Prod.fst)
    (hagain : (Tracker.mk after.current initial).replay more = .ok last) :
    last = ⟨after.current, initial⟩ := by
  have hstands : ∀ verdict ∈ more.map Prod.fst,
      ∃ condition ∈ after.current, condition.undated = verdict.condition :=
    fun verdict hmem => exists_of_replay h hsame (hmore ▸ hmem)
  exact replay_standing htypes hstands hagain

/-! ### Verdicts that do not depend on the clock -/

/-- A verdict with the status of the condition of its type does not depend on the clock. -/
theorem upsert_timeless {found : Condition} (hfound : tracker.get? verdict.type = some found)
    (hstatus : found.status = verdict.status) (first second : Int) :
    tracker.upsert first verdict = tracker.upsert second verdict := by
  simp only [upsert, next, hfound, hstatus, beq_self_eq_true, if_true]

theorem replay_timeless {other : List (Verdict × Int)}
    (htypes : (given.map Prod.fst).Pairwise fun a b => a.type ≠ b.type)
    (hfound : ∀ verdict ∈ given.map Prod.fst,
      ∃ found, tracker.get? verdict.type = some found ∧ found.status = verdict.status)
    (hverdicts : given.map Prod.fst = other.map Prod.fst) :
    tracker.replay given = tracker.replay other := by
  induction given generalizing tracker other with
  | nil =>
    rw [List.map_eq_nil_iff.mp hverdicts.symm]
  | cons item rest ih =>
    cases other with
    | nil => cases hverdicts
    | cons second others =>
      obtain ⟨hitem, hothers⟩ := List.cons.inj hverdicts
      obtain ⟨hfirst, hrest⟩ := List.pairwise_cons.mp htypes
      obtain ⟨found, hget, hstatus⟩ := hfound item.1 List.mem_cons_self
      change (tracker.upsert item.2 item.1 >>= (·.replay rest)) =
        (tracker.upsert second.2 second.1 >>= (·.replay others))
      rw [← hitem, upsert_timeless hget hstatus item.2 second.2]
      cases hupsert : tracker.upsert second.2 item.1 with
      | error failure => rfl
      | ok middle =>
        refine ih hrest (fun verdict hmem => ?_) hothers
        rw [get?_upsert_of_ne hupsert (hfirst verdict hmem)]
        exact hfound verdict (List.mem_cons_of_mem _ hmem)

end Tracker

end RoleGrants
