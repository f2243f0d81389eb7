import RoleGrants.Pass.Policy
import RoleGrants.Proofs.Tracking

/-! What passes make of the conditions of a policy, but for times. A pass starts from tidy
conditions, one of each type and none that tells of a breach, and its verdicts keep them tidy. To
give some verdicts again that were given before changes nothing but times. -/

namespace RoleGrants

/-- Of items of which no two pass a test, one that does is all that passes it. -/
theorem filter_eq_of_pairwise {α : Type} {test : α → Bool} {items : List α} {item : α}
    (h : items.Pairwise fun a b => ¬ (test a = true ∧ test b = true)) (hmem : item ∈ items)
    (htest : test item = true) : items.filter test = [item] := by
  induction items with
  | nil => exact absurd hmem List.not_mem_nil
  | cons first rest ih =>
    obtain ⟨hfirst, hrest⟩ := List.pairwise_cons.mp h
    rcases List.mem_cons.mp hmem with rfl | hmem
    · rw [List.filter_cons_of_pos htest,
        List.filter_eq_nil_iff.mpr fun other hother hpass => hfirst other hother ⟨htest, hpass⟩]
    · rw [List.filter_cons_of_neg fun hpass => hfirst item hmem ⟨hpass, htest⟩, ih hrest hmem]

theorem find?_eq_of_pairwise {α : Type} {test : α → Bool} {items : List α} {item : α}
    (h : items.Pairwise fun a b => ¬ (test a = true ∧ test b = true)) (hmem : item ∈ items)
    (htest : test item = true) : items.find? test = some item := by
  rw [← List.head?_filter, filter_eq_of_pairwise h hmem htest]
  rfl

/-- A condition without the time of its last change. -/
def Condition.undated (condition : Condition) : Condition :=
  { condition with lastTransitionTime := .null }

/-- Whether the message of a condition tells of a breach of the rules for policies. -/
def Condition.tellsOfBreach (condition : Condition) : Bool :=
  match condition.message with
  | .text message => PolicyPass.breach.toList.isPrefixOf message.toList
  | _ => false

/-- What a verdict sets, but for the time. -/
def Verdict.condition (verdict : Verdict) : Condition where
  type := verdict.type
  state := verdict.state
  status := verdict.status
  lastTransitionTime := .null
  message := verdict.message
  roles := Value.distinct verdict.roles

namespace Tracker

variable {conditions : List Condition} {condition other : Condition} {verdict : Verdict}
  {tracker after : Tracker} {moment : Int} {type : ConditionType}

theorem undated_next {earlier : Option Condition}
    (h : next moment verdict earlier = .ok condition) : condition.undated = verdict.condition := by
  obtain ⟨time, rfl, -⟩ := next_eq h
  rfl

/-! ### One condition put among others -/

theorem undated_put (conditions : List Condition) (condition : Condition) :
    (put conditions condition).map Condition.undated =
      put (conditions.map Condition.undated) condition.undated := by
  induction conditions with
  | nil => rfl
  | cons first rest ih =>
    have htypes : (first.undated.type == condition.undated.type) =
        (first.type == condition.type) := rfl
    rw [List.map_cons, put, put, htypes]
    split
    · rfl
    · rw [List.map_cons, ih]

/-- A verdict sets the condition that it says, at some time. -/
theorem undated_upsert (h : tracker.upsert moment verdict = .ok after) :
    after.current.map Condition.undated =
      put (tracker.current.map Condition.undated) verdict.condition := by
  obtain ⟨set, hnext, h⟩ := exists_of_bind_ok h
  cases h
  rw [← undated_next hnext]
  exact undated_put _ _

theorem mem_put_self : condition ∈ put conditions condition := by
  induction conditions with
  | nil => exact List.mem_singleton_self _
  | cons first rest ih =>
    rw [put]
    split
    · exact List.mem_cons_self
    · exact List.mem_cons_of_mem _ ih

theorem mem_put_of_ne (h : other ∈ conditions) (hne : other.type ≠ condition.type) :
    other ∈ put conditions condition := by
  induction conditions with
  | nil => exact absurd h List.not_mem_nil
  | cons first rest ih =>
    rw [put]
    split
    · next hfirst =>
      rcases List.mem_cons.mp h with rfl | h
      · exact absurd (eq_of_beq hfirst) hne
      · exact List.mem_cons_of_mem _ h
    · rcases List.mem_cons.mp h with rfl | h
      · exact List.mem_cons_self
      · exact List.mem_cons_of_mem _ (ih h)

theorem pairwise_put (h : conditions.Pairwise fun a b => a.type ≠ b.type) :
    (put conditions condition).Pairwise fun a b => a.type ≠ b.type := by
  induction conditions with
  | nil => exact List.pairwise_singleton _ _
  | cons first rest ih =>
    obtain ⟨hfirst, hrest⟩ := List.pairwise_cons.mp h
    rw [put]
    split
    · next hsame =>
      have heq : first.type = condition.type := eq_of_beq hsame
      exact .cons (fun other hmem => heq ▸ hfirst other hmem) hrest
    · next hother =>
      have hne : first.type ≠ condition.type := fun heq => hother (beq_iff_eq.mpr heq)
      refine .cons (fun other hmem => ?_) (ih hrest)
      rcases mem_put hmem with rfl | hmem
      · exact hne
      · exact hfirst other hmem

theorem get?_of_mem (h : tracker.current.Pairwise fun a b => a.type ≠ b.type)
    (hmem : condition ∈ tracker.current) : tracker.get? condition.type = some condition := by
  refine find?_eq_of_pairwise (h.imp fun hne hboth => hne ?_) hmem (beq_self_eq_true _)
  exact (eq_of_beq hboth.1).trans (eq_of_beq hboth.2).symm

/-- To put a condition that is there changes nothing. -/
theorem put_eq_self (h : conditions.Pairwise fun a b => a.type ≠ b.type)
    (hmem : condition ∈ conditions) : put conditions condition = conditions := by
  induction conditions with
  | nil => exact absurd hmem List.not_mem_nil
  | cons first rest ih =>
    obtain ⟨hfirst, hrest⟩ := List.pairwise_cons.mp h
    rw [put]
    rcases List.mem_cons.mp hmem with rfl | hmem
    · rw [if_pos (beq_self_eq_true _)]
    · rw [if_neg fun hsame => hfirst condition hmem (eq_of_beq hsame), ih hrest hmem]

theorem types_put (conditions : List Condition) (condition : Condition) :
    (put conditions condition).map Condition.type =
      if condition.type ∈ conditions.map Condition.type then conditions.map Condition.type
      else conditions.map Condition.type ++ [condition.type] := by
  induction conditions with
  | nil => rfl
  | cons first rest ih =>
    rw [put]
    by_cases hfirst : first.type = condition.type
    · simp [hfirst]
    · simp only [beq_iff_eq, hfirst, if_false, List.map_cons, ih, List.mem_cons, Ne.symm hfirst,
        false_or, List.cons_append]
      split <;> rfl

theorem mem_types_iff : type ∈ conditions.map Condition.type ↔
    ∃ found, conditions.find? (fun condition => condition.type == type) = some found := by
  rw [← Option.isSome_iff_exists, List.find?_isSome, List.mem_map]
  simp only [beq_iff_eq]

/-- All types that conditions have are among the first conditions of each type. -/
theorem mem_types_firstOfType {seeds : List Condition} :
    type ∈ (firstOfType seeds).map Condition.type ↔ type ∈ seeds.map Condition.type := by
  rw [mem_types_iff, mem_types_iff, ← get?_start seeds]
  rfl

theorem put_eq_append (h : condition.type ∉ conditions.map Condition.type) :
    put conditions condition = conditions ++ [condition] := by
  induction conditions with
  | nil => rfl
  | cons first rest ih =>
    rw [List.map_cons, List.mem_cons, not_or] at h
    rw [put, if_neg (beq_eq_false_iff_ne.mpr (Ne.symm h.1) ▸ Bool.false_ne_true), ih h.2]
    rfl

/-- One more condition at the start counts if it is the first of its type. -/
theorem firstOfType_concat (seeds : List Condition) (condition : Condition) :
    firstOfType (seeds ++ [condition]) =
      if condition.type ∈ seeds.map Condition.type then firstOfType seeds
      else firstOfType seeds ++ [condition] := by
  induction seeds with
  | nil => rfl
  | cons first rest ih =>
    rw [List.cons_append, firstOfType, firstOfType, ih]
    by_cases hfirst : condition.type = first.type
    · rw [List.map_cons, if_pos (List.mem_cons.mpr (.inl hfirst))]
      split
      · rfl
      · simp [List.filter_append, hfirst]
    · have hmem : condition.type ∈ (first :: rest).map Condition.type ↔
          condition.type ∈ rest.map Condition.type := by simp [hfirst]
      simp only [hmem]
      split
      · rfl
      · simp [List.filter_append, hfirst]

/-! ### Tidy conditions -/

/-- One of each type, and none that tells of a breach. -/
structure IsTidy (conditions : List Condition) : Prop where
  types : conditions.Pairwise fun a b => a.type ≠ b.type
  mended : ∀ condition ∈ conditions, condition.tellsOfBreach = false

def tidy (conditions : List Condition) : List Condition :=
  (firstOfType conditions).filter fun condition => !condition.tellsOfBreach

theorem isTidy_tidy (conditions : List Condition) : IsTidy (tidy conditions) where
  types := (pairwise_firstOfType conditions).filter _
  mended condition hmem := by simpa using (List.mem_filter.mp hmem).2

theorem firstOfType_eq (h : conditions.Pairwise fun a b => a.type ≠ b.type) :
    firstOfType conditions = conditions := by
  induction conditions with
  | nil => rfl
  | cons first rest ih =>
    obtain ⟨hfirst, hrest⟩ := List.pairwise_cons.mp h
    rw [firstOfType, ih hrest, List.filter_eq_self.mpr fun other hmem => ?_]
    exact bne_iff_ne.mpr (hfirst other hmem).symm

theorem IsTidy.tidy_eq (h : IsTidy conditions) : tidy conditions = conditions := by
  rw [tidy, firstOfType_eq h.types]
  exact List.filter_eq_self.mpr fun condition hmem => by rw [h.mended condition hmem]; rfl

theorem IsTidy.put (h : IsTidy conditions) (hmended : condition.tellsOfBreach = false) :
    IsTidy (put conditions condition) where
  types := pairwise_put h.types
  mended other hmem := by
    rcases mem_put hmem with rfl | hmem
    · exact hmended
    · exact h.mended other hmem

theorem undated_firstOfType (conditions : List Condition) :
    (firstOfType conditions).map Condition.undated =
      firstOfType (conditions.map Condition.undated) := by
  induction conditions with
  | nil => rfl
  | cons first rest ih =>
    rw [firstOfType, List.map_cons, List.map_cons, firstOfType, ← ih, List.filter_map]
    rfl

theorem undated_tidy (conditions : List Condition) :
    (tidy conditions).map Condition.undated = tidy (conditions.map Condition.undated) := by
  rw [tidy, tidy, ← undated_firstOfType, List.filter_map]
  rfl

theorem IsTidy.undated (h : IsTidy conditions) : IsTidy (conditions.map Condition.undated) where
  types := List.pairwise_map.mpr h.types
  mended condition hmem := by
    obtain ⟨dated, hdated, rfl⟩ := List.mem_map.mp hmem
    exact h.mended dated hdated

/-! ### Verdicts given again -/

/-- What some verdicts make of conditions, but for times. -/
def settle (conditions : List Condition) (verdicts : List Verdict) : List Condition :=
  verdicts.foldl (fun conditions verdict => put conditions verdict.condition) conditions

theorem settle_append (conditions : List Condition) (first second : List Verdict) :
    settle conditions (first ++ second) = settle (settle conditions first) second :=
  List.foldl_append

/-- What some verdicts make of conditions, but for times, does not depend on their moments. -/
theorem undated_replay {given : List (Verdict × Int)}
    (h : tracker.replay given = .ok after) :
    after.current.map Condition.undated =
      settle (tracker.current.map Condition.undated) (given.map Prod.fst) := by
  induction given generalizing tracker with
  | nil =>
    cases h
    rfl
  | cons item rest ih =>
    obtain ⟨middle, hupsert, hrest⟩ := replay_cons h
    rw [ih hrest, undated_upsert hupsert]
    rfl

theorem IsTidy.settle {verdicts : List Verdict} (h : IsTidy conditions)
    (hmended : ∀ verdict ∈ verdicts, verdict.condition.tellsOfBreach = false) :
    IsTidy (settle conditions verdicts) := by
  induction verdicts generalizing conditions with
  | nil => exact h
  | cons verdict rest ih =>
    exact ih (h.put (hmended verdict List.mem_cons_self)) fun other hmem =>
      hmended other (List.mem_cons_of_mem _ hmem)

theorem mem_settle_of_ne {verdicts : List Verdict} (h : condition ∈ conditions)
    (hne : ∀ verdict ∈ verdicts, condition.type ≠ verdict.type) :
    condition ∈ settle conditions verdicts := by
  induction verdicts generalizing conditions with
  | nil => exact h
  | cons verdict rest ih =>
    exact ih (mem_put_of_ne h (hne verdict List.mem_cons_self)) fun other hmem =>
      hne other (List.mem_cons_of_mem _ hmem)

theorem mem_settle {verdicts : List Verdict} (htypes : verdicts.Pairwise fun a b => a.type ≠ b.type)
    (hmem : verdict ∈ verdicts) : verdict.condition ∈ settle conditions verdicts := by
  induction verdicts generalizing conditions with
  | nil => exact absurd hmem List.not_mem_nil
  | cons first rest ih =>
    obtain ⟨hfirst, hrest⟩ := List.pairwise_cons.mp htypes
    rcases List.mem_cons.mp hmem with rfl | hmem
    · change verdict.condition ∈ settle (put conditions verdict.condition) rest
      exact mem_settle_of_ne mem_put_self hfirst
    · exact ih hrest hmem

theorem mem_of_mem_settle {verdicts : List Verdict} (h : condition ∈ settle conditions verdicts) :
    condition ∈ conditions ∨ ∃ verdict ∈ verdicts, condition = verdict.condition := by
  induction verdicts generalizing conditions with
  | nil => exact .inl h
  | cons verdict rest ih =>
    rcases ih h with h | ⟨other, hmem, heq⟩
    · rcases mem_put h with heq | h
      · exact .inr ⟨verdict, List.mem_cons_self, heq⟩
      · exact .inl h
    · exact .inr ⟨other, List.mem_cons_of_mem _ hmem, heq⟩

theorem settle_eq_self {verdicts : List Verdict} (h : IsTidy conditions)
    (hmem : ∀ verdict ∈ verdicts, verdict.condition ∈ conditions) :
    settle conditions verdicts = conditions := by
  induction verdicts with
  | nil => rfl
  | cons verdict rest ih =>
    have hput := put_eq_self h.types (hmem verdict List.mem_cons_self)
    have hrest := ih fun other hother => hmem other (List.mem_cons_of_mem _ hother)
    rw [settle, List.foldl_cons, hput]
    exact hrest

/-- After the first of some verdicts were given, all of them make what they make at once. -/
theorem settle_resume {earlier verdicts : List Verdict} (hpart : earlier <+: verdicts)
    (h : IsTidy conditions)
    (htypes : verdicts.Pairwise fun a b => a.type ≠ b.type)
    (hmended : ∀ verdict ∈ verdicts, verdict.condition.tellsOfBreach = false) :
    settle (settle conditions earlier) verdicts = settle conditions verdicts := by
  obtain ⟨rest, rfl⟩ := hpart
  have hearlier := (List.pairwise_append.mp htypes).1
  have htidy : IsTidy (settle conditions earlier) := h.settle fun verdict hmem =>
    hmended verdict (List.mem_append_left _ hmem)
  rw [settle_append, settle_append,
    settle_eq_self htidy fun verdict hmem => mem_settle hearlier hmem]

end Tracker

/-! ### The conditions at the start of a pass -/

namespace PolicyPass

/-- Of conditions of distinct types, those of some types that tell of a breach are dropped. -/
theorem forgetBreaches_eq {types : List ConditionType} {tracker : Tracker}
    (hworded : ∀ condition ∈ tracker.current, ∃ text, condition.message = .text text)
    (htypes : tracker.current.Pairwise fun a b => a.type ≠ b.type) :
    forgetBreaches tracker types = .ok { tracker with
      current := tracker.current.filter fun condition =>
        !(types.contains condition.type && condition.tellsOfBreach) } := by
  have hall (conditions : List Condition) : conditions.filter (fun _ => true) = conditions :=
    List.filter_eq_self.mpr fun _ _ => rfl
  induction types generalizing tracker with
  | nil => simp [forgetBreaches, hall]
  | cons type rest ih =>
    -- No other condition has the type, so it is dropped or kept with the one that is looked up.
    obtain ⟨mended, htells, hsame⟩ : ∃ mended, tellsOfBreach (tracker.get? type) = .ok mended ∧
        ∀ condition ∈ tracker.current, (condition.type == type && mended) =
          (condition.type == type && condition.tellsOfBreach) := by
      refine ⟨(tracker.get? type).any Condition.tellsOfBreach, ?_, fun condition hmem => ?_⟩
      · cases hfound : tracker.get? type with
        | none => rfl
        | some found =>
          obtain ⟨text, htext⟩ := hworded found (List.mem_of_find?_eq_some hfound)
          simp [tellsOfBreach, Condition.tellsOfBreach, htext]
      · by_cases htype : condition.type = type
        · rw [← htype, Tracker.get?_of_mem htypes hmem]
          rfl
        · rw [beq_eq_false_iff_ne.mpr htype]
          rfl
    have hafter : (if mended then tracker.remove type else tracker) = { tracker with
        current := tracker.current.filter fun condition =>
          !(condition.type == type && condition.tellsOfBreach) } := by
      rw [List.filter_congr fun condition hmem => congrArg _ (hsame condition hmem).symm]
      cases mended <;> simp [Tracker.remove, bne, hall]
    rw [forgetBreaches, htells]
    change forgetBreaches (if mended then tracker.remove type else tracker) rest = _
    rw [hafter, ih (fun condition hmem => hworded condition (List.mem_filter.mp hmem).1)
      (htypes.filter _)]
    simp only [List.filter_filter]
    congr 2
    refine List.filter_congr fun condition _ => ?_
    rw [List.contains_cons]
    cases condition.type == type <;> cases rest.contains condition.type <;>
      cases condition.tellsOfBreach <;> rfl

end PolicyPass

end RoleGrants
