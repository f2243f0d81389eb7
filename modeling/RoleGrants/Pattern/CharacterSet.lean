import RoleGrants.Pattern.Escape

/-! Sets of characters between brackets. A closing bracket at the start is a member, and so is a
hyphen that has no member on both of its sides. -/

namespace RoleGrants.Pattern

/-- The list without the later ones of equal members. -/
def distinct [BEq α] (items : List α) : List α :=
  items.foldl (fun acc item => if acc.contains item then acc else acc ++ [item]) []

def memberOf : Token → Reading Member
  | .plain c => return .single c.toNat
  | .escape c => memberEscape c

/-- The end of a range that starts with the member `low`, written as the token `first`. -/
def rangeTo (first : Token) (low : Member) (last : Token) : Reading Member := do
  let high ← memberOf last
  let refuse : Reading Member :=
    faultBefore (.badRange first.text last.text) (first.length + 1 + last.length)
  match low, high with
  | .single a, .single b => if b < a then refuse else return .range a b
  | _, _ => refuse

/-- The members up to the closing bracket, newest first. The set starts at the position `start`, and
the first argument bounds the count of tokens. -/
def takeMembers (start : Nat) : Nat → List Member → Reading (List Member)
  | 0, acc => return acc
  | fuel + 1, acc => do
    match ← take with
    | none => faultAt .unterminatedSet start
    | some first =>
      if first == .plain ']' && !acc.isEmpty then return acc
      else
        let low ← memberOf first
        if ← accept '-' then
          match ← take with
          | none => faultAt .unterminatedSet start
          | some last =>
            if last == .plain ']' then return .single '-'.toNat :: low :: acc
            else takeMembers start fuel ((← rangeTo first low last) :: acc)
        else takeMembers start fuel (low :: acc)

/-- A set after its opening bracket. A set of one character is that character. -/
def takeSet : Reading Node := do
  let start := (← position) - 1
  let negated ← accept '^'
  let members := distinct (← takeMembers start ((← get).source.size + 1) []).reverse
  match members with
  | [.single code] => return if negated then .notSingle code else .single code
  | _ => return .set negated members

end RoleGrants.Pattern
