import Mathlib.Data.List.Forall2
import Mathlib.Data.List.Induction
import RoleGrants.Proofs.Tidy

/-! Trackers in memory. A condition in memory is changed in place, and all who refer to it see the
change. A tracker therefore keeps copies of the conditions it is started from, and gives out copies
of those that it keeps: what was in memory before stays as it was, and the conditions are those of
a tracker that is a mere value. Lists of places and of roles are only read, never changed, so they
need no places of their own. -/

namespace RoleGrants

/-- A tracker in memory: all conditions there, each at its place, and the places of those that the
tracker keeps, by type. -/
structure Held where
  cells : List Condition
  places : List (ConditionType × Nat)

namespace Held

/-- Copies the condition at a place. The copy is kept if it is the first of its type. -/
def seed (held : Held) (place : Nat) : Held :=
  match held.cells[place]? with
  | none => held
  | some condition =>
    { cells := held.cells ++ [condition]
      places :=
        if (held.places.lookup condition.type).isSome then held.places
        else held.places ++ [(condition.type, held.cells.length)] }

def start (cells : List Condition) (given : List Nat) : Held :=
  given.foldl seed ⟨cells, []⟩

/-- Sets the condition of a verdict: in its place if there is one of its type. -/
def upsert (held : Held) (moment : Int) (verdict : Verdict) : Except Failure Held := do
  let kept := held.places.lookup verdict.type
  let condition ← Tracker.next moment verdict (kept.bind (held.cells[·]?))
  match kept with
  | some place => return { held with cells := held.cells.set place condition }
  | none => return ⟨held.cells ++ [condition], held.places ++ [(verdict.type, held.cells.length)]⟩

/-- The places of new copies of the conditions, and the memory with the copies. -/
def toList (held : Held) : List Nat × List Condition :=
  let copies := held.places.filterMap fun entry => held.cells[entry.2]?
  (List.range' held.cells.length copies.length, held.cells ++ copies)

/-- The places of the conditions after one verdict on conditions at given places, and the memory
then. -/
def upsertInto (cells : List Condition) (given : List Nat) (moment : Int) (verdict : Verdict) :
    Except Failure (List Nat) × List Condition :=
  match (start cells given).upsert moment verdict with
  | .ok held => (.ok held.toList.1, held.toList.2)
  | .error failure => (.error failure, (start cells given).cells)

/-! ### What is in memory -/

/-- Whether a condition is in memory where it is kept for its type. -/
structure IsAt (cells : List Condition) (entry : ConditionType × Nat) (condition : Condition) :
    Prop where
  type : entry.1 = condition.type
  cell : cells[entry.2]? = some condition

/-- Whether a tracker in memory has some conditions, each in a place of its own that was not there
before, and has left what was there before. -/
structure Shows (before : List Condition) (held : Held) (conditions : List Condition) : Prop where
  kept : before <+: held.cells
  new : ∀ entry ∈ held.places, before.length ≤ entry.2
  apart : (held.places.map Prod.snd).Nodup
  shown : List.Forall₂ (IsAt held.cells) held.places conditions

variable {before cells conditions : List Condition} {places : List (ConditionType × Nat)}
  {held : Held} {entry : ConditionType × Nat} {type : ConditionType}
  {condition : Condition} {place : Nat}

theorem IsAt.append (h : IsAt cells entry condition) (more : List Condition) :
    IsAt (cells ++ more) entry condition where
  type := h.type
  cell := by
    obtain ⟨hlt, -⟩ := List.getElem?_eq_some_iff.mp h.cell
    rw [List.getElem?_append_left hlt, h.cell]

/-- What is found in memory under a type is the condition of the type. -/
theorem lookup_eq (h : List.Forall₂ (IsAt cells) places conditions) (type : ConditionType) :
    (places.lookup type).bind (cells[·]?) =
      conditions.find? fun condition => condition.type == type := by
  induction h with
  | nil => rfl
  | @cons entry condition rest others hat _ ih =>
    rw [List.lookup_cons, List.find?_cons, hat.type, Bool.beq_comm]
    split
    · exact hat.cell
    · exact ih

theorem lookup_isSome (h : List.Forall₂ (IsAt cells) places conditions) :
    (places.lookup type).isSome = true ↔ type ∈ conditions.map Condition.type := by
  induction h with
  | nil => simp
  | @cons entry condition rest others hat _ ih =>
    rw [List.lookup_cons, List.map_cons, List.mem_cons, ← ih, hat.type]
    by_cases htype : type = condition.type
    · rw [beq_iff_eq.mpr htype]
      exact ⟨fun _ => .inl htype, fun _ => rfl⟩
    · rw [beq_eq_false_iff_ne.mpr htype]
      exact ⟨.inr, fun hmem => hmem.resolve_left htype⟩

theorem lt_length (h : List.Forall₂ (IsAt cells) places conditions)
    (hmem : place ∈ places.map Prod.snd) : place < cells.length := by
  induction h with
  | nil => cases hmem
  | cons hat _ ih =>
    rcases List.mem_cons.mp hmem with rfl | hmem
    · exact (List.getElem?_eq_some_iff.mp hat.cell).1
    · exact ih hmem

theorem isAt_set (h : List.Forall₂ (IsAt cells) places conditions)
    (hplace : place ∉ places.map Prod.snd) (condition : Condition) :
    List.Forall₂ (IsAt (cells.set place condition)) places conditions := by
  induction h with
  | nil => exact .nil
  | @cons entry other rest others hat _ ih =>
    rw [List.map_cons, List.mem_cons, not_or] at hplace
    exact .cons ⟨hat.type, (List.getElem?_set_ne hplace.1).trans hat.cell⟩ (ih hplace.2)

/-- To set a condition in its place is to put it among the conditions. -/
theorem isAt_put (h : List.Forall₂ (IsAt cells) places conditions)
    (hapart : (places.map Prod.snd).Nodup) (hfound : places.lookup condition.type = some place) :
    List.Forall₂ (IsAt (cells.set place condition)) places (Tracker.put conditions condition) := by
  induction h with
  | nil => cases hfound
  | @cons entry other rest others hat hothers ih =>
    obtain ⟨hnew, hapart⟩ := List.nodup_cons.mp hapart
    rw [List.lookup_cons] at hfound
    rw [Tracker.put]
    by_cases htype : other.type = condition.type
    · have hself : (condition.type == entry.1) = true := by simp [hat.type, htype]
      rw [hself] at hfound
      cases hfound
      obtain ⟨hlt, -⟩ := List.getElem?_eq_some_iff.mp hat.cell
      rw [if_pos (beq_iff_eq.mpr htype)]
      exact .cons ⟨hat.type.trans htype, List.getElem?_set_self hlt⟩ (isAt_set hothers hnew _)
    · have hother : (condition.type == entry.1) = false := by simp [hat.type, Ne.symm htype]
      rw [hother] at hfound
      have hmem : place ∈ rest.map Prod.snd := by
        obtain ⟨first, last, rfl, -⟩ := List.lookup_eq_some_iff.mp hfound
        exact List.mem_map_of_mem (List.mem_append_right first List.mem_cons_self)
      have hne : place ≠ entry.2 := fun heq => hnew (heq ▸ hmem)
      rw [if_neg (mt eq_of_beq htype)]
      exact .cons ⟨hat.type, (List.getElem?_set_ne hne).trans hat.cell⟩ (ih hapart hfound)

/-! ### Trackers in memory and trackers that are values -/

namespace Shows

/-- More conditions in memory change nothing. -/
theorem append (h : Shows before held conditions) (more : List Condition) :
    Shows before { held with cells := held.cells ++ more } conditions where
  kept := h.kept.trans (List.prefix_append _ _)
  new := h.new
  apart := h.apart
  shown := h.shown.imp fun _ _ hat => hat.append more

/-- One more condition, in a new place. -/
theorem insert (h : Shows before held conditions) (condition : Condition) :
    Shows before ⟨held.cells ++ [condition],
      held.places ++ [(condition.type, held.cells.length)]⟩ (conditions ++ [condition]) where
  kept := h.kept.trans (List.prefix_append _ _)
  new entry hentry := by
    rcases List.mem_append.mp hentry with hentry | hentry
    · exact h.new entry hentry
    · cases List.mem_singleton.mp hentry
      exact h.kept.length_le
  apart := by
    rw [List.map_append, List.nodup_append]
    refine ⟨h.apart, List.pairwise_singleton _ _, fun place hplace last hlast => ?_⟩
    cases List.mem_singleton.mp hlast
    exact Nat.ne_of_lt (lt_length h.shown hplace)
  shown := List.rel_append (h.append [condition]).shown
    (.cons ⟨rfl, List.getElem?_concat_length⟩ .nil)

theorem put (h : Shows before held conditions)
    (hfound : held.places.lookup condition.type = some place) :
    Shows before { held with cells := held.cells.set place condition }
      (Tracker.put conditions condition) where
  kept := by
    obtain ⟨first, last, hplaces, -⟩ := List.lookup_eq_some_iff.mp hfound
    have hnew : before.length ≤ place := h.new (condition.type, place) (by simp [hplaces])
    rw [List.prefix_iff_eq_take, List.take_set_of_le hnew]
    exact List.prefix_iff_eq_take.mp h.kept
  new := h.new
  apart := h.apart
  shown := isAt_put h.shown h.apart hfound

/-- A tracker in memory and one that is a value do the same with a verdict. -/
theorem upsert (tracker : Tracker) (h : Shows before held tracker.current) (moment : Int)
    (verdict : Verdict) :
    (∃ failure, held.upsert moment verdict = .error failure ∧
      tracker.upsert moment verdict = .error failure) ∨
    ∃ later after, held.upsert moment verdict = .ok later ∧
      tracker.upsert moment verdict = .ok after ∧ Shows before later after.current := by
  unfold Held.upsert Tracker.upsert
  dsimp only
  rw [lookup_eq h.shown, ← Tracker.get?]
  cases hnext : Tracker.next moment verdict (tracker.get? verdict.type) with
  | error failure => exact .inl ⟨failure, rfl, rfl⟩
  | ok condition =>
    have htype := (Tracker.next_says hnext).1
    right
    cases hfound : held.places.lookup verdict.type with
    | some place => exact ⟨_, _, rfl, rfl, h.put (htype ▸ hfound)⟩
    | none =>
      refine ⟨_, _, rfl, rfl, ?_⟩
      have hnew : condition.type ∉ tracker.current.map Condition.type := by
        rw [htype, ← lookup_isSome h.shown, hfound]
        exact Bool.false_ne_true
      rw [Tracker.put_eq_append hnew, ← htype]
      exact h.insert condition

end Shows

/-- A tracker in memory is started from the first condition of each type. -/
theorem shows_start {seeds : List Condition} {given : List Nat}
    (h : given.map (cells[·]?) = seeds.map some) :
    Shows cells (start cells given) (Tracker.firstOfType seeds) := by
  induction seeds using List.reverseRecOn generalizing given with
  | nil =>
    cases List.map_eq_nil_iff.mp h
    exact ⟨List.prefix_refl _, nofun, .nil, .nil⟩
  | append_singleton seeds condition ih =>
    rw [List.map_append, List.map_eq_append_iff] at h
    obtain ⟨first, last, rfl, hfirst, hlast⟩ := h
    obtain ⟨place, rfl, hcell⟩ := List.map_eq_singleton_iff.mp hlast
    have hbefore := ih hfirst
    have hfound : (start cells first).cells[place]? = some condition := by
      obtain ⟨hlt, -⟩ := List.getElem?_eq_some_iff.mp hcell
      obtain ⟨copies, hcopies⟩ := hbefore.kept
      rw [← hcopies, List.getElem?_append_left hlt, hcell]
    have hstart : start cells (first ++ [place]) = (start cells first).seed place :=
      List.foldl_append
    rw [hstart, seed, hfound, Tracker.firstOfType_concat]
    dsimp only
    by_cases hkept : condition.type ∈ seeds.map Condition.type
    · rw [if_pos hkept, if_pos ((lookup_isSome hbefore.shown).mpr
        (Tracker.mem_types_firstOfType.mpr hkept))]
      exact hbefore.append [condition]
    · rw [if_neg hkept, if_neg (mt (lookup_isSome hbefore.shown).mp
        (mt Tracker.mem_types_firstOfType.mp hkept))]
      exact hbefore.insert condition

theorem filterMap_eq (h : List.Forall₂ (IsAt cells) places conditions) :
    places.filterMap (fun entry => cells[entry.2]?) = conditions := by
  induction h with
  | nil => rfl
  | cons hat _ ih => rw [List.filterMap_cons, hat.cell, ih]

theorem map_range'_append (first last : List Condition) :
    (List.range' first.length last.length).map ((first ++ last)[·]?) = last.map some := by
  refine List.ext_getElem? fun n => ?_
  rw [List.getElem?_map, List.getElem?_map]
  by_cases hlt : n < last.length
  · rw [List.getElem?_range' hlt, Nat.one_mul]
    simp [hlt]
  · have hnone : (List.range' first.length last.length)[n]? = none := by simpa using hlt
    have hend : last[n]? = none := by simpa using hlt
    rw [hnone, hend]
    rfl

/-- What a verdict on conditions in memory gives, if it gives `conditions` on conditions that are
values: conditions in places that were not there before, and all that was there is as it was. -/
structure Gives (before : List Condition) (result : Except Failure (List Nat) × List Condition)
    (conditions : Except Failure (List Condition)) : Prop where
  kept : before <+: result.2
  given : result.1.map (List.map (result.2[·]?)) = conditions.map (List.map some)
  new : ∀ given, result.1 = .ok given → ∀ place ∈ given, before.length ≤ place

theorem upsertInto_gives {seeds : List Condition} {given : List Nat}
    (h : given.map (cells[·]?) = seeds.map some) (moment : Int) (verdict : Verdict) :
    Gives cells (upsertInto cells given moment verdict)
      (Tracker.upsertInto seeds moment verdict) := by
  have hstart := shows_start h
  have hsets := Shows.upsert (Tracker.start seeds) hstart moment verdict
  unfold upsertInto Tracker.upsertInto
  rcases hsets with ⟨failure, hheld, htracker⟩ | ⟨later, after, hheld, htracker, hlater⟩
  · rw [hheld, htracker]
    exact ⟨hstart.kept, rfl, nofun⟩
  · rw [hheld, htracker]
    have hcopies := filterMap_eq hlater.shown
    refine ⟨?_, ?_, ?_⟩
    · exact hlater.kept.trans (List.prefix_append _ _)
    · simp only [toList, hcopies]
      exact congrArg Except.ok (map_range'_append _ _)
    · rintro _ ⟨⟩ place hplace
      exact Nat.le_trans hlater.kept.length_le (List.mem_range'_1.mp hplace).1

end Held

end RoleGrants
