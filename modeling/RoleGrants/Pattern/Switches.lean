import RoleGrants.Text.Letter
import RoleGrants.Pattern.Scanner

/-! The flags written at the start of a group: letters that turn flags on, and behind a hyphen
letters that turn flags off. Closed by a parenthesis they hold for the whole pattern, and closed by
a colon for the group. -/

namespace RoleGrants.Pattern

/-- Stops at a token that is no flag: a letter is an unknown flag, and anything else means that
`expected` is missing. -/
def refuseFlag (expected : Fault) (token : Token) : Reading α :=
  match token with
  | .plain c => faultBefore (if Text.isLetter c.toNat then .unknownFlag else expected) 1
  | .escape _ => faultBefore expected 2

/-- The flags turned on, starting with that of the letter `c`, and the character that ends them. The
first argument bounds the count of letters. -/
def takeOn : Nat → Flags → Char → Reading (Flags × Char)
  | 0, on, c => return (on, c)
  | fuel + 1, on, c => do
    if c == 'L' then faultHere .localeFlag
    else
      let flag := (Flags.ofLetter? c).getD {}
      let on := on.union flag
      if flag.choosesAlphabet && on.ascii && on.unicode then faultHere .clashingAlphabets
      else
        match ← take with
        | none => faultHere .flagsNotClosed
        | some (.plain c) =>
          if c == ')' || c == '-' || c == ':' then return (on, c)
          else if (Flags.ofLetter? c).isSome then takeOn fuel on c
          else refuseFlag .flagsNotClosed (.plain c)
        | some token => refuseFlag .flagsNotClosed token

/-- The flags turned off, starting with that of the letter `c`, up to the colon. The first argument
bounds the count of letters. -/
def takeOff : Nat → Flags → Char → Reading Flags
  | 0, off, _ => return off
  | fuel + 1, off, c => do
    let flag := (Flags.ofLetter? c).getD {}
    if c == 'L' || flag.choosesAlphabet then faultHere .alphabetOff
    else
      let off := off.union flag
      match ← take with
      | none => faultHere .missingColon
      | some (.plain c) =>
        if c == ':' then return off
        else if (Flags.ofLetter? c).isSome then takeOff fuel off c
        else refuseFlag .missingColon (.plain c)
      | some token => refuseFlag .missingColon token

def takeOffAfterHyphen (fuel : Nat) : Reading Flags := do
  match ← take with
  | none => faultHere .missingFlag
  | some (.plain c) =>
    if (Flags.ofLetter? c).isSome then takeOff fuel {} c else refuseFlag .missingFlag (.plain c)
  | some token => refuseFlag .missingFlag token

/-- The flags that start with the character `c`. There are none to return when they hold for the
whole pattern, and the scanner has them then. -/
def takeSwitches (c : Char) : Reading (Option (Flags × Flags)) := do
  let fuel := (← get).source.size + 1
  let (on, stop) ← if c == '-' then pure ({}, '-') else takeOn fuel {} c
  if stop == ')' then
    modify fun scanner => { scanner with flags := scanner.flags.union on }
    return none
  else if on.template then faultBefore .globalFlagOn 1
  else
    let off ← if stop == '-' then takeOffAfterHyphen fuel else pure {}
    if off.template then faultBefore .globalFlagOff 1
    else if on.overlaps off then faultBefore .flagOnAndOff 1
    else return some (on, off)

end RoleGrants.Pattern
