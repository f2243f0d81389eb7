import RoleGrants.Proofs.Sharing
import RoleGrants.Proofs.Standing

/-! The history of a tracker: the conditions it was started from, and since then verdicts, each at
its moment, and removals. What a tracker holds is told by its history alone, type by type: a
condition is there if its type was set after it was last removed, it says what the last entry that
set it says, it has the time of the last entry that changed the status of its type, and it stands
where its type was last inserted. -/

namespace RoleGrants

/-! ### The last of a list -/

/-- Whether the item at place `n` of a list is the last that passes a test, which may look at the
items before the one that is tested. -/
structure IsLastAt {α : Type} (test : List α → α → Prop) (items : List α) (n : Nat) (item : α) :
    Prop where
  found : items[n]? = some item
  passes : test (items.take n) item
  last : ∀ m other, n < m → items[m]? = some other → ¬ test (items.take m) other

namespace IsLastAt

variable {α : Type} {test : List α → α → Prop} {items : List α} {n : Nat} {item other : α}

theorem lt_length (h : IsLastAt test items n item) : n < items.length :=
  (List.getElem?_eq_some_iff.mp h.found).1

theorem concat_self (h : test items item) : IsLastAt test (items ++ [item]) items.length item where
  found := List.getElem?_concat_length
  passes := by rwa [List.take_left]
  last m other hm hother := by
    rw [List.getElem?_eq_none (by rw [List.length_append]; exact hm)] at hother
    cases hother

theorem concat (h : IsLastAt test items n item) (hother : ¬ test items other) :
    IsLastAt test (items ++ [other]) n item where
  found := by rw [List.getElem?_append_left h.lt_length, h.found]
  passes := by
    rw [List.take_append_of_le_length (Nat.le_of_lt h.lt_length)]
    exact h.passes
  last m later hm hlater := by
    rcases Nat.lt_trichotomy m items.length with hbefore | rfl | hafter
    · rw [List.getElem?_append_left hbefore] at hlater
      rw [List.take_append_of_le_length (Nat.le_of_lt hbefore)]
      exact h.last m later hm hlater
    · rw [List.getElem?_concat_length] at hlater
      rw [List.take_left]
      exact Option.some.inj hlater ▸ hother
    · rw [List.getElem?_eq_none (by rw [List.length_append]; exact hafter)] at hlater
      cases hlater

end IsLastAt

/-! ### Roles that are named more than once -/

/-- Whether texts are those of a list, each once, in the order in which they first occur there. -/
structure IsFirstsOf (texts firsts : List String) : Prop where
  mem : ∀ text, text ∈ firsts ↔ text ∈ texts
  order : firsts.Pairwise fun a b => texts.idxOf a < texts.idxOf b

theorem isFirstsOf_eraseDups (texts : List String) : IsFirstsOf texts texts.eraseDups where
  mem _ := List.mem_eraseDups
  order := by
    induction texts using List.reverseRecOn with
    | nil => exact .nil
    | append_singleton texts text ih =>
      have horder : texts.eraseDups.Pairwise fun a b =>
          (texts ++ [text]).idxOf a < (texts ++ [text]).idxOf b := by
        refine ih.imp_of_mem fun hone hother hlt => ?_
        rwa [List.idxOf_append, if_pos (List.mem_eraseDups.mp hone), List.idxOf_append,
          if_pos (List.mem_eraseDups.mp hother)]
      rw [List.eraseDups_append]
      by_cases hmem : text ∈ texts
      · have hnone : [text].removeAll texts = [] := by simp [List.removeAll, hmem]
        rwa [hnone, List.eraseDups_nil, List.append_nil]
      · have hnew : [text].removeAll texts = [text] := by simp [List.removeAll, hmem]
        rw [hnew]
        refine List.pairwise_append.mpr ⟨horder, List.pairwise_singleton _ _, ?_⟩
        intro one hone last hlast
        cases List.mem_singleton.mp hlast
        have hone := List.mem_eraseDups.mp hone
        rw [List.idxOf_append, if_pos hone, List.idxOf_append, if_neg hmem]
        exact Nat.lt_of_lt_of_le (List.idxOf_lt_length_of_mem hone) (Nat.le_add_left _ _)

/-- Texts are named once each, where they first occur. -/
theorem Value.distinct_map_text (texts : List String) :
    distinct (texts.map .text) = texts.eraseDups.map .text := by
  match texts with
  | [] => rfl
  | first :: rest =>
    have hsame : (fun value => !value == Value.text first) ∘ Value.text =
        fun text => !text == first := by
      funext text
      rw [Function.comp_apply, Bool.not_inj_iff, Bool.eq_iff_iff, Value.text_beq_iff, beq_iff_eq,
        Value.text.injEq]
      exact eq_comm
    rw [List.map_cons, distinct, List.eraseDups_cons, List.eraseDups_cons, List.filter_map,
      hsame, List.map_cons]
    exact congrArg _ (distinct_map_text _)
termination_by texts.length
decreasing_by
  have hshort := List.length_filter_le (fun text => !text == first) rest
  simp only [List.length_cons]
  omega

namespace Tracker

/-- What is done with a tracker. -/
inductive Step
  | upsert (moment : Int) (verdict : Verdict)
  | remove (type : ConditionType)

/-- What a tracker comes from: a condition that it was started from, or a step. -/
inductive Entry
  | seed (condition : Condition)
  | step (step : Step)

def Step.apply (tracker : Tracker) : Step → Except Failure Tracker
  | .upsert moment verdict => tracker.upsert moment verdict
  | .remove type => .ok (tracker.remove type)

/-- The tracker after some steps, and those of them that were taken. A step that fails leaves the
tracker as it is. -/
def course (tracker : Tracker) : List Step → Tracker × List Step
  | [] => (tracker, [])
  | step :: rest =>
    match step.apply tracker with
    | .ok after => ((after.course rest).1, step :: (after.course rest).2)
    | .error _ => tracker.course rest

/-! ### What a history says -/

/-- The status of a type after an entry, if it has a condition then. A condition that a tracker is
started from counts if it is the first of its type. -/
def Entry.statusOf (type : ConditionType) (now : Option Bool) : Entry → Option Bool
  | .seed condition => if condition.type = type then some (now.getD condition.status) else now
  | .step (.upsert _ verdict) => if verdict.type = type then some verdict.status else now
  | .step (.remove removed) => if removed = type then none else now

def statusAfter (history : List Entry) (type : ConditionType) : Option Bool :=
  history.foldl (Entry.statusOf type) none

@[simp] theorem statusAfter_concat {history : List Entry} {entry : Entry} {type : ConditionType} :
    statusAfter (history ++ [entry]) type = entry.statusOf type (statusAfter history type) := by
  simp [statusAfter]

namespace Entry

/-- Whether an entry sets the condition of a type. -/
def Sets (type : ConditionType) (before : List Entry) : Entry → Prop
  | .seed condition => condition.type = type ∧ statusAfter before type = none
  | .step (.upsert _ verdict) => verdict.type = type
  | .step (.remove _) => False

/-- Whether an entry inserts the condition of a type, or changes its status. -/
def Moves (type : ConditionType) (before : List Entry) (entry : Entry) : Prop :=
  entry.statusOf type (statusAfter before type) ≠ statusAfter before type

/-- Whether an entry inserts the condition of a type. -/
def Inserts (type : ConditionType) (before : List Entry) (entry : Entry) : Prop :=
  statusAfter before type = none ∧ entry.statusOf type none ≠ none

/-- Whether a condition says what an entry says, but for the time. -/
def Tells (condition : Condition) : Entry → Prop
  | .seed given => condition.undated = given.undated
  | .step (.upsert _ verdict) => condition.undated = verdict.condition
  | .step (.remove _) => False

/-- Whether a condition has the time of an entry. -/
def Dates (condition : Condition) : Entry → Prop
  | .seed given => condition.lastTransitionTime = given.lastTransitionTime
  | .step (.upsert moment _) => ∃ text, Timestamp.ofMoment moment = .ok text ∧
      condition.lastTransitionTime = .text text
  | .step (.remove _) => False

end Entry

/-- Whether a type was last inserted before another. -/
def Precedes (history : List Entry) (first second : ConditionType) : Prop :=
  ∃ m n one other, IsLastAt (Entry.Inserts first) history m one ∧
    IsLastAt (Entry.Inserts second) history n other ∧ m < n

/-- Whether a history tells of a condition: its type was inserted, the condition says what the last
entry says that set it, and it has the time of the last entry that inserted its type or changed its
status. -/
structure TellsOf (history : List Entry) (condition : Condition) : Prop where
  inserted : ∃ n entry, IsLastAt (Entry.Inserts condition.type) history n entry
  told : ∃ n entry, IsLastAt (Entry.Sets condition.type) history n entry ∧ entry.Tells condition
  dated : ∃ n entry, IsLastAt (Entry.Moves condition.type) history n entry ∧ entry.Dates condition

/-- Whether conditions are those that a history leaves: one of each type that has a status after it,
in the order in which the types were last inserted. -/
structure Accords (history : List Entry) (conditions : List Condition) : Prop where
  types : conditions.Pairwise fun a b => a.type ≠ b.type
  status : ∀ type, (conditions.find? fun condition => condition.type == type).map (·.status) =
    statusAfter history type
  order : (conditions.map Condition.type).Pairwise (Precedes history)
  told : ∀ condition ∈ conditions, TellsOf history condition

/-! ### What one entry preserves -/

variable {history : List Entry} {conditions : List Condition} {condition found : Condition}
  {entry : Entry} {tracker after : Tracker} {moment : Int} {verdict : Verdict}
  {type other : ConditionType}

/-- Whether an entry leaves a type as it is. -/
structure Entry.Spares (entry : Entry) (history : List Entry) (type : ConditionType) : Prop where
  status : entry.statusOf type (statusAfter history type) = statusAfter history type
  sets : ¬ entry.Sets type history

theorem Entry.not_inserts
    (h : entry.statusOf type (statusAfter history type) = statusAfter history type) :
    ¬ entry.Inserts type history := by
  rintro ⟨hnone, hsome⟩
  rw [hnone] at h
  exact hsome h

theorem Precedes.concat {first second : ConditionType} (h : Precedes history first second)
    (hfirst : ¬ entry.Inserts first history) (hsecond : ¬ entry.Inserts second history) :
    Precedes (history ++ [entry]) first second := by
  obtain ⟨m, n, one, other, hone, hother, hlt⟩ := h
  exact ⟨m, n, one, other, hone.concat hfirst, hother.concat hsecond, hlt⟩

theorem TellsOf.concat (h : TellsOf history condition)
    (hspares : entry.Spares history condition.type) : TellsOf (history ++ [entry]) condition where
  inserted := by
    obtain ⟨n, earlier, hlast⟩ := h.inserted
    exact ⟨n, earlier, hlast.concat (Entry.not_inserts hspares.status)⟩
  told := by
    obtain ⟨n, earlier, hlast, htells⟩ := h.told
    exact ⟨n, earlier, hlast.concat hspares.sets, htells⟩
  dated := by
    obtain ⟨n, earlier, hlast, hdates⟩ := h.dated
    exact ⟨n, earlier, hlast.concat (not_not_intro hspares.status), hdates⟩

/-- A condition that an entry sets anew: its type had none. -/
theorem TellsOf.insert (hnone : statusAfter history condition.type = none)
    (hsome : entry.statusOf condition.type none = some condition.status)
    (hsets : entry.Sets condition.type history) (htells : entry.Tells condition)
    (hdates : entry.Dates condition) : TellsOf (history ++ [entry]) condition where
  inserted := ⟨_, entry, .concat_self ⟨hnone, by simp [hsome]⟩⟩
  told := ⟨_, entry, .concat_self hsets, htells⟩
  dated := ⟨_, entry, .concat_self (by simp [Entry.Moves, hnone, hsome]), hdates⟩

theorem Entry.Dates.congr (h : entry.Dates found)
    (htime : condition.lastTransitionTime = found.lastTransitionTime) : entry.Dates condition := by
  unfold Entry.Dates at h ⊢
  rw [htime]
  exact h

/-- A verdict that inserts a condition, or changes the status of one, gives it its moment. -/
theorem next_dated {earlier : Option Condition} (h : next moment verdict earlier = .ok condition)
    (hmoved : earlier.map (·.status) ≠ some verdict.status) :
    (Entry.step (.upsert moment verdict)).Dates condition := by
  obtain ⟨time, rfl, ⟨found, rfl, hstatus, -⟩ | ⟨-, htime⟩⟩ := next_eq h
  · exact absurd (congrArg some hstatus) hmoved
  · exact htime

/-- A condition that an entry sets in place of another, whose time it has if it has its status. -/
theorem TellsOf.replace (h : TellsOf history found) (htype : condition.type = found.type)
    (hfound : statusAfter history condition.type = some found.status)
    (hsome : entry.statusOf condition.type (some found.status) = some condition.status)
    (hsets : entry.Sets condition.type history) (htells : entry.Tells condition)
    (hkept : found.status = condition.status →
      condition.lastTransitionTime = found.lastTransitionTime)
    (hdates : found.status ≠ condition.status → entry.Dates condition) :
    TellsOf (history ++ [entry]) condition where
  inserted := by
    obtain ⟨n, earlier, hlast⟩ := htype ▸ h.inserted
    refine ⟨n, earlier, hlast.concat fun hinserts => ?_⟩
    rw [hinserts.1] at hfound
    cases hfound
  told := ⟨_, entry, .concat_self hsets, htells⟩
  dated := by
    by_cases hsame : found.status = condition.status
    · obtain ⟨n, earlier, hlast, hdates⟩ := htype ▸ h.dated
      refine ⟨n, earlier, hlast.concat ?_, hdates.congr (hkept hsame)⟩
      exact not_not_intro (by rw [hfound, hsome, hsame])
    · refine ⟨_, entry, .concat_self ?_, hdates hsame⟩
      rw [Entry.Moves, hfound, hsome]
      exact fun heq => hsame (Option.some.inj heq).symm

namespace Accords

theorem status_of_mem (h : Accords history conditions) (hmem : condition ∈ conditions) :
    statusAfter history condition.type = some condition.status := by
  have hfound : (Tracker.mk conditions []).get? condition.type = some condition :=
    get?_of_mem h.types hmem
  rw [← h.status]
  exact congrArg (Option.map Condition.status) hfound

theorem status_of_not_mem (h : Accords history conditions)
    (hmem : type ∉ conditions.map Condition.type) : statusAfter history type = none := by
  rw [← h.status, List.find?_eq_none.mpr fun found hfound htype => hmem ?_]
  · rfl
  · exact eq_of_beq htype ▸ List.mem_map_of_mem hfound

/-- An entry that leaves every type as it is. -/
theorem skip (h : Accords history conditions) (hspares : ∀ type, entry.Spares history type) :
    Accords (history ++ [entry]) conditions where
  types := h.types
  status type := by rw [statusAfter_concat, (hspares type).status, h.status]
  order := h.order.imp fun hprecedes => hprecedes.concat
    (Entry.not_inserts (hspares _).status) (Entry.not_inserts (hspares _).status)
  told condition hmem := (h.told condition hmem).concat (hspares _)

/-- Types in their order, after one of them is set: it is the last if it was not among them. -/
theorem order_put (h : Accords history conditions)
    (hsome : entry.statusOf condition.type (statusAfter history condition.type) =
      some condition.status) :
    ((put conditions condition).map Condition.type).Pairwise (Precedes (history ++ [entry])) := by
  -- A type that has a condition is not inserted again.
  have hinserts : ∀ found ∈ conditions, ¬ entry.Inserts found.type history :=
    fun found hfound hinserts => by
      rw [Entry.Inserts, h.status_of_mem hfound] at hinserts
      cases hinserts.1
  have horder : (conditions.map Condition.type).Pairwise (Precedes (history ++ [entry])) := by
    refine h.order.imp_of_mem fun hfirst hsecond hprecedes => ?_
    obtain ⟨one, hone, rfl⟩ := List.mem_map.mp hfirst
    obtain ⟨other, hother, rfl⟩ := List.mem_map.mp hsecond
    exact hprecedes.concat (hinserts one hone) (hinserts other hother)
  rw [types_put]
  split
  · exact horder
  · next hnew =>
    have hnone := h.status_of_not_mem hnew
    rw [hnone] at hsome
    refine List.pairwise_append.mpr
      ⟨horder, List.pairwise_singleton _ _, fun type hmem last hlast => ?_⟩
    cases List.mem_singleton.mp hlast
    obtain ⟨found, hfound, rfl⟩ := List.mem_map.mp hmem
    obtain ⟨n, earlier, hat⟩ := (h.told found hfound).inserted
    exact ⟨n, history.length, earlier, entry, hat.concat (hinserts found hfound),
      .concat_self ⟨hnone, by simp [hsome]⟩, hat.lt_length⟩

/-- An entry that sets one condition. -/
theorem put (h : Accords history conditions)
    (hspares : ∀ type, type ≠ condition.type → entry.Spares history type)
    (hsome : entry.statusOf condition.type (statusAfter history condition.type) =
      some condition.status)
    (htold : TellsOf (history ++ [entry]) condition) :
    Accords (history ++ [entry]) (put conditions condition) where
  types := pairwise_put h.types
  status type := by
    rw [statusAfter_concat, find?_put]
    by_cases htype : condition.type = type
    · subst htype
      simp [hsome]
    · simp [htype, h.status, (hspares type (Ne.symm htype)).status]
  order := h.order_put hsome
  told other hmem := by
    by_cases htype : other.type = condition.type
    · rwa [eq_of_types (pairwise_put h.types) hmem mem_put_self htype]
    · refine (h.told other ?_).concat (hspares _ htype)
      exact (mem_put hmem).resolve_left fun heq => htype (congrArg _ heq)

theorem remove (h : Accords history tracker.current) (type : ConditionType) :
    Accords (history ++ [.step (.remove type)]) (tracker.remove type).current where
  types := h.types.filter _
  status other := by
    change ((tracker.remove type).get? other).map _ = _
    rw [get?_remove, statusAfter_concat, Entry.statusOf, ← h.status]
    split <;> rfl
  order := by
    have hinserts : ∀ other, ¬ (Entry.step (.remove type)).Inserts other history := by
      rintro other ⟨-, hsome⟩
      simp [Entry.statusOf] at hsome
    refine List.Pairwise.sublist (List.filter_sublist.map _) ?_
    exact h.order.imp fun hprecedes => hprecedes.concat (hinserts _) (hinserts _)
  told condition hmem := by
    obtain ⟨hmem, hne⟩ := List.mem_filter.mp hmem
    refine (h.told condition hmem).concat ⟨?_, nofun⟩
    exact if_neg (bne_iff_ne.mp hne).symm

theorem upsert (h : Accords history tracker.current)
    (hset : tracker.upsert moment verdict = .ok after) :
    Accords (history ++ [.step (.upsert moment verdict)]) after.current := by
  obtain ⟨condition, hnext, hset⟩ := exists_of_bind_ok hset
  cases hset
  have htells := undated_next hnext
  have htype : condition.type = verdict.type := congrArg Condition.type htells
  have hstatus : condition.status = verdict.status := congrArg Condition.status htells
  have hsome : ∀ now, (Entry.step (.upsert moment verdict)).statusOf condition.type now =
      some condition.status := fun now => by rw [Entry.statusOf, htype, if_pos rfl, hstatus]
  refine h.put (fun type hne => ?_) (hsome _) ?_
  · have hother : verdict.type ≠ type := fun heq => hne (heq.symm.trans htype.symm)
    exact ⟨if_neg hother, hother⟩
  · have hfound := h.status condition.type
    cases hget : tracker.get? verdict.type with
    | none =>
      rw [htype, ← get?, hget] at hfound
      refine .insert (htype ▸ hfound.symm) (hsome _) htype.symm htells ?_
      exact next_dated hnext (by simp [hget])
    | some found =>
      rw [htype, ← get?, hget] at hfound
      refine .replace (h.told found (List.mem_of_find?_eq_some hget))
        (htype.trans (type_of_get? hget).symm) (htype ▸ hfound.symm) (hsome _) htype.symm htells
        (fun hsame => (next_keeps hnext).2 found hget (hsame.trans hstatus)) fun hne => ?_
      exact next_dated hnext (by simpa [hget, hstatus] using hne)

end Accords

/-! ### What a whole history leaves -/

/-- The conditions that a tracker is started from are a history. -/
theorem accords_start (seeds : List Condition) :
    Accords (seeds.map .seed) (start seeds).current := by
  induction seeds using List.reverseRecOn with
  | nil => exact ⟨.nil, fun _ => rfl, .nil, fun _ hmem => absurd hmem List.not_mem_nil⟩
  | append_singleton seeds condition ih =>
    rw [List.map_append, List.map_singleton]
    change Accords _ (firstOfType (seeds ++ [condition]))
    rw [firstOfType_concat]
    have hstatus := ih.status condition.type
    rw [← get?, get?_start] at hstatus
    split
    · next hmem =>
      obtain ⟨found, hfound⟩ := mem_types_iff.mp hmem
      rw [hfound] at hstatus
      refine ih.skip fun type => ⟨?_, ?_⟩
      · by_cases hself : condition.type = type
        · subst hself
          simp [Entry.statusOf, ← hstatus]
        · exact if_neg hself
      · rintro ⟨rfl, hnone⟩
        rw [hnone] at hstatus
        cases hstatus
    · next hmem =>
      have hnew : condition.type ∉ (firstOfType seeds).map Condition.type :=
        mt mem_types_firstOfType.mp hmem
      have hnone := ih.status_of_not_mem hnew
      have hsome : (Entry.seed condition).statusOf condition.type none = some condition.status :=
        if_pos rfl
      rw [← put_eq_append hnew]
      refine ih.put (fun type hne => ⟨if_neg hne.symm, fun hsets => hne hsets.1.symm⟩)
        (hnone ▸ hsome) ?_
      exact .insert hnone hsome ⟨rfl, hnone⟩ rfl rfl

theorem Accords.course (h : Accords history tracker.current) (steps : List Step) :
    Accords (history ++ (tracker.course steps).2.map .step) (tracker.course steps).1.current := by
  induction steps generalizing tracker history with
  | nil => simpa [Tracker.course] using h
  | cons step rest ih =>
    rw [Tracker.course]
    cases happly : step.apply tracker with
    | error failure => exact ih h
    | ok after =>
      have hafter : Accords (history ++ [.step step]) after.current := by
        cases step with
        | upsert moment verdict => exact h.upsert happly
        | remove type =>
          cases happly
          exact h.remove type
      simpa using ih hafter

theorem course_initial (tracker : Tracker) (steps : List Step) :
    (tracker.course steps).1.initial = tracker.initial := by
  induction steps generalizing tracker with
  | nil => rfl
  | cons step rest ih =>
    rw [course]
    cases happly : step.apply tracker with
    | error failure => exact ih tracker
    | ok after =>
      refine (ih after).trans ?_
      cases step with
      | upsert moment verdict => exact upsert_initial happly
      | remove type =>
        cases happly
        rfl

/-- Whether a step cannot fail: the roles of a verdict can be keys and its moment has a text. -/
def Step.IsFit : Step → Prop
  | .upsert moment verdict => (∀ role ∈ verdict.roles, role.isKey = true) ∧
      ∃ text, Timestamp.ofMoment moment = .ok text
  | .remove _ => True

theorem Step.IsFit.apply_ok {step : Step} (h : step.IsFit) (tracker : Tracker) :
    ∃ after, step.apply tracker = .ok after := by
  cases step with
  | remove type => exact ⟨_, rfl⟩
  | upsert moment verdict =>
    obtain ⟨hkeys, text, htext⟩ := h
    obtain ⟨condition, hnext⟩ :=
      next_ok (Value.requireKeys_iff.mpr hkeys) htext (tracker.get? verdict.type)
    exact ⟨_, by rw [apply, Tracker.upsert, hnext]; rfl⟩

/-- Steps that cannot fail are all taken. -/
theorem course_taken (tracker : Tracker) {steps : List Step} (h : ∀ step ∈ steps, step.IsFit) :
    (tracker.course steps).2 = steps := by
  induction steps generalizing tracker with
  | nil => rfl
  | cons step rest ih =>
    obtain ⟨hstep, hrest⟩ := List.forall_mem_cons.mp h
    obtain ⟨after, hafter⟩ := hstep.apply_ok tracker
    rw [course, hafter]
    exact congrArg _ (ih after hrest)

/-- Conditions have equal bodies one by one if and only if they are equal field by field. -/
theorem sameItems_iff {first second : List Condition} :
    Value.sameItems (first.map Condition.toValue) (second.map Condition.toValue) = true ↔
      List.Forall₂ Condition.Equals first second := by
  induction first generalizing second with
  | nil =>
    cases second with
    | nil => exact ⟨fun _ => .nil, fun _ => rfl⟩
    | cons other others => exact ⟨nofun, nofun⟩
  | cons one rest ih =>
    cases second with
    | nil => exact ⟨nofun, nofun⟩
    | cons other others =>
      rw [List.map_cons, List.map_cons, Value.sameItems, Bool.and_eq_true, ih,
        List.forall₂_cons, ← Condition.same_iff]
      rfl

theorem changed_iff : tracker.changed = true ↔
    ¬ List.Forall₂ Condition.Equals tracker.current tracker.initial := by
  rw [← sameItems_iff, changed, Bool.not_eq_true', Bool.not_eq_true]

/-- What a tracker holds after some steps is what its history leaves, and roles that a verdict names
more than once stand where they are named first. The tracker has changed if what it holds is not
equal to the first conditions of each type that it was started from. A verdict on conditions does
what it does to a tracker that was started from them, and in memory it leaves them as they are. -/
theorem recounts {seeds : List Condition} {steps taken : List Step}
    (h : (start seeds).course steps = (tracker, taken)) :
    Accords (seeds.map .seed ++ taken.map .step) tracker.current ∧
      (tracker.changed = true ↔
        ¬ List.Forall₂ Condition.Equals tracker.current (firstOfType seeds)) ∧
      ((∀ step ∈ steps, step.IsFit) → taken = steps) ∧
      (∀ texts : List String, ∃ firsts : List String,
        Value.distinct (texts.map .text) = firsts.map .text ∧ IsFirstsOf texts firsts) ∧
      ∀ moment verdict,
        upsertInto seeds moment verdict = ((start seeds).upsert moment verdict).map current ∧
        ∀ cells given, given.map (cells[·]?) = seeds.map some →
          Held.Gives cells (Held.upsertInto cells given moment verdict)
            (upsertInto seeds moment verdict) := by
  have haccords := (accords_start seeds).course steps
  have hinitial := course_initial (start seeds) steps
  have htaken : (∀ step ∈ steps, step.IsFit) → ((start seeds).course steps).2 = steps :=
    course_taken (start seeds)
  rw [h] at haccords hinitial htaken
  refine ⟨haccords, ?_, htaken, fun texts => ?_, fun moment verdict => ⟨rfl, ?_⟩⟩
  · rw [changed_iff, hinitial]
    rfl
  · exact ⟨_, Value.distinct_map_text texts, isFirstsOf_eraseDups texts⟩
  · exact fun cells given hgiven => Held.upsertInto_gives hgiven moment verdict

/-- Conditions of which the last is not the first of its type. -/
def settled : List Condition := [
  ⟨.clusterRoleBindingCreated, .created, true, "2024-01-15T08:30:00Z", "Done.", ["view"]⟩,
  ⟨.roleBindingCreated, .created, true, "2024-01-15T08:30:00Z", "Done.", ["edit"]⟩,
  ⟨.clusterRoleBindingCreated, .failed, false, "", "Lost.", []⟩]

/-- One type changes its status and keeps it; the other is removed and comes back. -/
def unsettling : List Step := [
  .upsert 60 ⟨.roleBindingCreated, .failed, false, "Roles lack.", ["view", "edit", "view"]⟩,
  .remove .clusterRoleBindingCreated,
  .upsert 120 ⟨.clusterRoleBindingCreated, .created, true, "Done.", ["view"]⟩,
  .upsert 180 ⟨.roleBindingCreated, .failed, false, "A role lacks.", ["edit"]⟩]

def unsettled : List Condition := [
  ⟨.roleBindingCreated, .failed, false, "1970-01-01T00:01:00Z", "A role lacks.", ["edit"]⟩,
  ⟨.clusterRoleBindingCreated, .created, true, "1970-01-01T00:02:00Z", "Done.", ["view"]⟩]

theorem recounts_unsettled :
    (start settled).course unsettling = (⟨unsettled, firstOfType settled⟩, unsettling) ∧
      Accords (settled.map .seed ++ unsettling.map .step) unsettled ∧
      ¬ List.Forall₂ Condition.Equals unsettled (firstOfType settled) := by
  have hcourse : (start settled).course unsettling =
      (⟨unsettled, firstOfType settled⟩, unsettling) := by rfl
  obtain ⟨haccords, hchanged, -⟩ := recounts hcourse
  exact ⟨hcourse, haccords, hchanged.mp (by rfl)⟩

end Tracker
end RoleGrants
