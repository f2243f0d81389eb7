import RoleGrants.Number.Binary64

/-! Values of object bodies. A body is raw data until it is read as a policy, a condition, a
namespace or a binding, and its fields may have any type; what is kept as it came is kept as a
`Value`. The fields of an object keep their order, with one field for each key. -/

namespace RoleGrants

inductive Value where
  | null
  | bool (b : Bool)
  | int (n : Int)
  | float (x : Binary64)
  | text (s : String)
  | list (items : List Value)
  | object (fields : List (String × Value))
  deriving Inhabited

namespace Value

instance : Coe String Value := ⟨.text⟩

/-- Whether a value counts as present: null, false, zero and everything empty do not. -/
def isTrue : Value → Bool
  | .null => false
  | .bool b => b
  | .int n => n != 0
  | .float x => !x.isZero
  | .text s => !s.isEmpty
  | .list items => !items.isEmpty
  | .object fields => !fields.isEmpty

def orElse (value default : Value) : Value :=
  if value.isTrue then value else default

/-- The number that a value is compared as, if it is an integer. Truth values are one and zero. -/
def asInt? : Value → Option Int
  | .bool b => some (if b then 1 else 0)
  | .int n => some n
  | .float x => x.toInt?
  | _ => none

mutual

/-- Equality of values: numbers by what they amount to, texts and lists by their parts, and objects
by their fields in any order. -/
def same : Value → Value → Bool
  | .null, .null => true
  | .text s, .text t => s == t
  | .list xs, .list ys => sameItems xs ys
  | .object xs, .object ys => xs.length == ys.length && sameFields xs ys
  | .float x, .float y => x.same y
  | .bool b, other => other.asInt? == some (if b then 1 else 0)
  | .int n, other => other.asInt? == some n
  | .float x, other => other.asInt?.isSome && other.asInt? == x.toInt?
  | _, _ => false

def sameItems : List Value → List Value → Bool
  | [], [] => true
  | x :: xs, y :: ys => same x y && sameItems xs ys
  | _, _ => false

/-- Whether every field of the first list is in the second with an equal value. -/
def sameFields : List (String × Value) → List (String × Value) → Bool
  | [], _ => true
  | (key, x) :: rest, others =>
    (match others.lookup key with
      | some y => same x y
      | none => false) && sameFields rest others

end

instance : BEq Value := ⟨same⟩

@[simp] theorem text_beq_iff {s : String} {value : Value} :
    (Value.text s == value) = true ↔ value = .text s := by
  cases value with
  | text t => simp only [BEq.beq, same, decide_eq_true_eq, text.injEq]; exact eq_comm
  | _ => simp [BEq.beq, same]

@[simp] theorem beq_text_iff {s : String} {value : Value} :
    (value == Value.text s) = true ↔ value = .text s := by
  cases value with
  | text t => simp [BEq.beq, same]
  | bool b => exact ⟨nofun, nofun⟩
  | int n => exact ⟨nofun, nofun⟩
  | _ => simp [BEq.beq, same, asInt?]

theorem text_beq_congr {s : String} {a b : Value} (h : a == b) :
    (Value.text s == b) = (Value.text s == a) := by
  rw [Bool.eq_iff_iff, text_beq_iff, text_beq_iff]
  constructor <;> rintro rfl <;> simpa using h

/-- Whether a value can be a key: lists and objects cannot. -/
def isKey : Value → Bool
  | .list _ => false
  | .object _ => false
  | _ => true

/-- The fields with `key` set to `value`: in place if the key is there, and at the end if not. -/
def putField (fields : List (String × Value)) (key : String) (value : Value) :
    List (String × Value) :=
  match fields with
  | [] => [(key, value)]
  | (k, v) :: rest =>
    if k == key then (k, value) :: rest else (k, v) :: putField rest key value

theorem lookup_putField (fields : List (String × Value)) (key name : String) (value : Value) :
    (putField fields key value).lookup name =
      if name == key then some value else fields.lookup name := by
  induction fields with
  | nil => by_cases h : name == key <;> simp [putField, List.lookup_cons, h]
  | cons field rest ih =>
    obtain ⟨k, v⟩ := field
    by_cases hk : k = key
    · subst hk
      by_cases h : name == k <;> simp [putField, List.lookup_cons, h]
    · by_cases h : name = k
      · subst h; simp [putField, hk]
      · have hn : (name == k) = false := by simp [h]
        simp [putField, List.lookup_cons, hk, hn, ih]

/-- The fields of the first list overwritten and extended by those of the second. -/
def mergeFields (fields more : List (String × Value)) : List (String × Value) :=
  more.foldl (fun acc (key, value) => putField acc key value) fields

end Value

end RoleGrants
