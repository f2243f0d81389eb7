import RoleGrants.Condition.Basic
import RoleGrants.Time.Timestamp

/-! The conditions of a policy while it is worked on: at most one for each condition type, in the
order in which the types first appeared, beside what they were at the start. The time of a condition
moves only when its status changes, and when it is new. -/

namespace RoleGrants

structure Verdict where
  type : ConditionType
  state : ConditionState
  status : Bool
  message : Value
  roles : List Value
  deriving Inhabited

/-- The conditions now and at the start. -/
structure Tracker where
  current : List Condition
  initial : List Condition
  deriving Inhabited

namespace Tracker

/-- The conditions without the later ones of a type. -/
def firstOfType : List Condition → List Condition
  | [] => []
  | condition :: rest =>
    condition :: (firstOfType rest).filter fun other => other.type != condition.type

theorem mem_of_mem_firstOfType {condition : Condition} {conditions : List Condition}
    (h : condition ∈ firstOfType conditions) : condition ∈ conditions := by
  induction conditions with
  | nil => exact h
  | cons first rest ih =>
    rcases List.mem_cons.mp h with rfl | h
    · exact List.mem_cons_self
    · exact List.mem_cons_of_mem _ (ih (List.mem_filter.mp h).1)

/-- No two conditions have the same type. -/
theorem pairwise_firstOfType (conditions : List Condition) :
    (firstOfType conditions).Pairwise fun a b => a.type ≠ b.type := by
  induction conditions with
  | nil => exact .nil
  | cons first rest ih =>
    exact .cons (fun other h => (bne_iff_ne.mp (List.mem_filter.mp h).2).symm) (ih.filter _)

def start (conditions : List Condition) : Tracker :=
  ⟨firstOfType conditions, firstOfType conditions⟩

def get? (tracker : Tracker) (type : ConditionType) : Option Condition :=
  tracker.current.find? fun condition => condition.type == type

def remove (tracker : Tracker) (type : ConditionType) : Tracker :=
  { tracker with current := tracker.current.filter fun condition => condition.type != type }

@[simp] theorem get?_remove (tracker : Tracker) (type other : ConditionType) :
    (tracker.remove type).get? other = if type = other then none else tracker.get? other := by
  simp only [get?, remove, List.find?_filter]
  split
  · next h => subst h; simp
  · next h =>
    congr 1; funext condition
    by_cases hc : condition.type = other <;> simp [hc, Ne.symm h]

/-- The condition of `verdict`, given the one of its type so far and the moment. Roles are named
once. -/
def next (moment : Int) (verdict : Verdict) (earlier : Option Condition) :
    Except Failure Condition := do
  Value.requireKeys verdict.roles
  let time ←
    match earlier with
    | some condition =>
      if condition.status == verdict.status then pure condition.lastTransitionTime
      else (Timestamp.ofMoment moment).map .text
    | none => (Timestamp.ofMoment moment).map .text
  return {
    type := verdict.type
    state := verdict.state
    status := verdict.status
    lastTransitionTime := time
    message := verdict.message
    roles := Value.distinct verdict.roles }

/-- The conditions with one of them set: in place if there is one of its type, and at the end if
not. -/
def put (conditions : List Condition) (condition : Condition) : List Condition :=
  match conditions with
  | [] => [condition]
  | other :: rest =>
    if other.type == condition.type then condition :: rest else other :: put rest condition

theorem find?_put (conditions : List Condition) (condition : Condition) (type : ConditionType) :
    (put conditions condition).find? (fun other => other.type == type) =
      if condition.type == type then some condition
      else conditions.find? fun other => other.type == type := by
  induction conditions with
  | nil => by_cases h : condition.type == type <;> simp [put, h]
  | cons other rest ih =>
    by_cases ho : other.type = condition.type
    · by_cases h : condition.type = type <;> simp [put, ho, h]
    · by_cases h : other.type = type
      · subst h; simp [put, ho, Ne.symm ho]
      · simp [put, ho, h, ih]

/-- Sets the condition of a verdict at a moment. -/
def upsert (tracker : Tracker) (moment : Int) (verdict : Verdict) : Except Failure Tracker := do
  let condition ← next moment verdict (tracker.get? verdict.type)
  return { tracker with current := put tracker.current condition }

def changed (tracker : Tracker) : Bool :=
  !Value.sameItems (tracker.current.map Condition.toValue) (tracker.initial.map Condition.toValue)

/-- The conditions after one verdict on a list of conditions. -/
def upsertInto (conditions : List Condition) (moment : Int) (verdict : Verdict) :
    Except Failure (List Condition) := do
  return (← (start conditions).upsert moment verdict).current

end Tracker

end RoleGrants
