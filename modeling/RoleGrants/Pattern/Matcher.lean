import RoleGrants.Pattern.Test
import RoleGrants.Pattern.Width

/-! Matching. A pattern becomes steps, in which the flags in force are worked into the tests and
each look-behind knows its width. A match goes through the steps with the rest of the work as a
function of the state reached: it answers the first state from which the rest succeeds, trying the
choices of a pattern in their order. -/

namespace RoleGrants.Pattern

/-- A place in the text under known flags. -/
inductive Place where
  | textStart
  | lineStart
  | textEnd
  /-- The end of the text, or the line end that is its last character. -/
  | lastEnd
  | lineEnd
  | wordBoundary (ascii : Bool)
  | insideWord (ascii : Bool)
  deriving DecidableEq, Inhabited

/-- A part of a pattern with the flags worked in. -/
inductive Step where
  | char (test : Test)
  | place (place : Place)
  | branch (alternatives : List (List Step))
  | group (index : Option Nat) (body : List Step)
  | repetition (greed : Greed) (least : Nat) (greatest : Option Nat) (body : List Step)
  | atomic (body : List Step)
  /-- A look ahead, or behind from a count of characters back. -/
  | look (behind : Option Nat) (negated : Bool) (body : List Step)
  | backreference (folding : Folding) (index : Nat)
  | conditional (index : Nat) (yes no : List Step)
  deriving Inhabited

def Anchor.place (flags : Flags) : Anchor → Place
  | .lineStart => if flags.multiline then .lineStart else .textStart
  | .lineEnd => if flags.multiline then .lineEnd else .lastEnd
  | .textStart => .textStart
  | .textEnd => .textEnd
  | .wordBoundary => .wordBoundary (!flags.unicode)
  | .insideWord => .insideWord (!flags.unicode)

def widestLookBehind : Nat := Nat.pow 2 32 - 1

/-- The width of a look-behind, which must be the same for all it can match. -/
def lookBehindWidth (width : Width) : Except Fault Nat :=
  if width.least > widestLookBehind then .error .lookBehindTooFar
  else if width.least ≠ width.greatest then .error .lookBehindWidth
  else .ok width.least

/-- What the steps need to know of the groups of a pattern. -/
structure Groups where
  width : Nat → Width
  isReferenced : Nat → Bool

mutual

/-- The step for a part of a pattern under flags, given the groups. A group that nothing refers to
leaves no marks. -/
def Node.step (groups : Groups) (flags : Flags) : Node → Except Fault Step
  | .single code => return .char (.ofSingle (.ofFlags flags) false code)
  | .notSingle code => return .char (.ofSingle (.ofFlags flags) true code)
  | .any => return .char (if flags.dotAll then .any else .notNewline)
  | .set negated members => return .char (.ofSet flags negated members)
  | .anchor place => return .place (place.place flags)
  | .branch alternatives => return .branch (← branchSteps groups flags alternatives)
  | .group index on off body => do
    let body ← sequenceSteps groups (flags.within on off) body
    return .group (index.filter groups.isReferenced) body
  | .repetition greed least greatest body => do
    if flags.template then throw (.templateRepetition greed)
    else return .repetition greed least greatest (← sequenceSteps groups flags body)
  | .atomic body => return .atomic (← sequenceSteps groups flags body)
  | .look behind negated body => do
    if behind then
      let width ← lookBehindWidth (sequenceWidth groups.width body).cut
      return .look (some width) negated (← sequenceSteps groups flags body)
    else return .look none negated (← sequenceSteps groups flags body)
  | .backreference index => return .backreference (.ofFlags flags) index
  | .conditional index yes no => do
    let yes ← sequenceSteps groups flags yes
    match no with
    | none => return .conditional index yes []
    | some no => return .conditional index yes (← sequenceSteps groups flags no)

def sequenceSteps (groups : Groups) (flags : Flags) : List Node → Except Fault (List Step)
  | [] => return []
  | node :: rest => return (← node.step groups flags) :: (← sequenceSteps groups flags rest)

def branchSteps (groups : Groups) (flags : Flags) :
    List (List Node) → Except Fault (List (List Step))
  | [] => return []
  | nodes :: rest =>
    return (← sequenceSteps groups flags nodes) :: (← branchSteps groups flags rest)

end

/-- Where a match stands in the text, and the marks of the groups: group `n` has its start at index
`2 * n` and its end at index `2 * n + 1`. -/
structure State where
  index : Nat
  marks : Array (Option Nat)
  deriving Inhabited

namespace State

/-- The start and the end of a group that has both, in this order. -/
def span? (state : State) (group : Nat) : Option (Nat × Nat) := do
  let first ← (← state.marks[2 * group]?)
  let last ← (← state.marks[2 * group + 1]?)
  if first ≤ last then some (first, last) else none

def mark (state : State) (slot : Nat) : State :=
  { state with marks := state.marks.setIfInBounds slot (some state.index) }

end State

/-- Whether the character at an index is a word character. Outside the text there is none. -/
def isWordAt (text : Array Char) (ascii : Bool) (index : Nat) : Bool :=
  match text[index]? with
  | some c => Category.word.holds ascii c.toNat
  | none => false

/-- Whether an index of the text lies between a word character and another, or an end. -/
def isWordBoundary (text : Array Char) (ascii : Bool) (index : Nat) : Bool :=
  (index > 0 && isWordAt text ascii (index - 1)) != isWordAt text ascii index

def isNewlineAt (text : Array Char) (index : Nat) : Bool :=
  text[index]? == some '\n'

/-- Whether an index is a place of the text. Neither word place is in an empty text. -/
def Place.holds (text : Array Char) (index : Nat) : Place → Bool
  | .textStart => index == 0
  | .lineStart => index == 0 || isNewlineAt text (index - 1)
  | .textEnd => index == text.size
  | .lastEnd => index == text.size || (index + 1 == text.size && isNewlineAt text index)
  | .lineEnd => index == text.size || isNewlineAt text index
  | .wordBoundary ascii => !text.isEmpty && isWordBoundary text ascii index
  | .insideWord ascii => !text.isEmpty && !isWordBoundary text ascii index

/-- Whether the text has the same characters at two places, under a folding. -/
def sameAt (text : Array Char) (folding : Folding) (first second : Nat) : Nat → Bool
  | 0 => true
  | count + 1 =>
    match text[first]?, text[second]? with
    | some a, some b =>
      folding.fold a.toNat == folding.fold b.toNat &&
        sameAt text folding (first + 1) (second + 1) count
    | _, _ => false

/-- What is left to match, as a function of the state reached. -/
abbrev Rest := State → Option State

/-- A part to match, given what is left after it. -/
abbrev Part := State → Rest → Option State

structure Counts where
  least : Nat
  greatest : Option Nat

namespace Counts

def allowMore (counts : Counts) (count : Nat) : Bool :=
  match counts.greatest with
  | none => true
  | some greatest => count < greatest

end Counts

/-- Rounds of `body` after `count` of them, as many as possible first. A round beyond the least
count is not tried where the one before it began. The first argument bounds the count of rounds to
come: each but the last beyond the least count takes a character. -/
def greedyRounds (body : Part) (counts : Counts) (rest : Rest) :
    Nat → Nat → Option Nat → State → Option State
  | 0, _, _, state => rest state
  | fuel + 1, count, previous, state =>
    if count < counts.least then
      body state fun next => greedyRounds body counts rest fuel (count + 1) previous next
    else if counts.allowMore count && previous != some state.index then
      match body state fun next =>
          greedyRounds body counts rest fuel (count + 1) (some state.index) next with
      | some found => some found
      | none => rest state
    else rest state

/-- Rounds of `body` after `count` of them, as few as possible first, with the same bounds. -/
def lazyRounds (body : Part) (counts : Counts) (rest : Rest) :
    Nat → Nat → Option Nat → State → Option State
  | 0, _, _, state => rest state
  | fuel + 1, count, previous, state =>
    if count < counts.least then
      body state fun next => lazyRounds body counts rest fuel (count + 1) previous next
    else
      match rest state with
      | some found => some found
      | none =>
        if counts.allowMore count && previous != some state.index then
          body state fun next =>
            lazyRounds body counts rest fuel (count + 1) (some state.index) next
        else none

/-- As many rounds of `body` as possible, each matched in its first way only. The first argument
bounds the count of rounds to come. -/
def possessiveRounds (body : Part) (counts : Counts) : Nat → Nat → State → Option State
  | 0, _, state => some state
  | fuel + 1, count, state =>
    if count < counts.least then
      match body state some with
      | some next => possessiveRounds body counts fuel (count + 1) next
      | none => none
    else if counts.allowMore count then
      match body state some with
      | some next =>
        if next.index == state.index then some next
        else possessiveRounds body counts fuel (count + 1) next
      | none => some state
    else some state

/-- The count of characters from an index on that pass a test, at most as many as the first argument
says. -/
def runLength (text : Array Char) (test : Test) : Nat → Nat → Nat
  | 0, _ => 0
  | limit + 1, index =>
    match text[index]? with
    | some c => if test.passes c.toNat then runLength text test limit (index + 1) + 1 else 0
    | none => 0

/-- What is left after `least` characters and up to `extra` more, the most first. -/
def fromMost (rest : Rest) (state : State) (least : Nat) : Nat → Option State
  | 0 => rest { state with index := state.index + least }
  | extra + 1 =>
    match rest { state with index := state.index + least + (extra + 1) } with
    | some found => some found
    | none => fromMost rest state least extra

/-- What is left after some characters and up to `extra` more, the least first. -/
def fromLeast (rest : Rest) (state : State) : Nat → Option State
  | 0 => rest state
  | extra + 1 =>
    match rest state with
    | some found => some found
    | none => fromLeast rest { state with index := state.index + 1 } extra

/-- A repetition of a test on one character. Every round takes a character, so the counts that can
match are those up to the length of the run that passes. -/
def testRounds (text : Array Char) (test : Test) (greed : Greed) (counts : Counts) (rest : Rest)
    (state : State) : Option State :=
  let left := text.size - state.index
  let run := runLength text test ((counts.greatest.map (min left)).getD left) state.index
  if run < counts.least then none
  else
    match greed with
    | .greedy => fromMost rest state counts.least (run - counts.least)
    | .lazy =>
      fromLeast rest { state with index := state.index + counts.least } (run - counts.least)
    | .possessive => rest { state with index := state.index + run }

/-- A bound on the rounds of a repetition from an index of the text: the least count, one round for
each character left, and two that may take none. -/
def roundBound (text : Array Char) (least index : Nat) : Nat :=
  least + (text.size - index) + 2

mutual

/-- Matches a step and what is left after it. -/
def Step.run (text : Array Char) : Step → State → Rest → Option State
  | .char test, state, rest =>
    match text[state.index]? with
    | some c => if test.passes c.toNat then rest { state with index := state.index + 1 } else none
    | none => none
  | .place place, state, rest => if place.holds text state.index then rest state else none
  | .branch alternatives, state, rest => runBranch text alternatives state rest
  | .group none body, state, rest => runSteps text body state rest
  | .group (some index) body, state, rest =>
    runSteps text body (state.mark (2 * index)) fun next => rest (next.mark (2 * index + 1))
  | .repetition greed least greatest [.char test], state, rest =>
    testRounds text test greed ⟨least, greatest⟩ rest state
  | .repetition greed least greatest body, state, rest =>
    let part : Part := runSteps text body
    let counts : Counts := ⟨least, greatest⟩
    let bound := roundBound text least state.index
    match greed with
    | .greedy => greedyRounds part counts rest bound 0 none state
    | .lazy => lazyRounds part counts rest bound 0 none state
    | .possessive => (possessiveRounds part counts bound 0 state).bind rest
  | .atomic body, state, rest => (runSteps text body state some).bind rest
  | .look behind negated body, state, rest =>
    let back := behind.getD 0
    let found :=
      if back > state.index then none
      else runSteps text body { state with index := state.index - back } some
    match found with
    | some next => if negated then none else rest { next with index := state.index }
    | none => if negated then rest state else none
  | .backreference folding index, state, rest =>
    match state.span? index with
    | some (first, last) =>
      if sameAt text folding first state.index (last - first) then
        rest { state with index := state.index + (last - first) }
      else none
    | none => none
  | .conditional index yes no, state, rest =>
    if (state.span? index).isSome then runSteps text yes state rest
    else runSteps text no state rest

def runSteps (text : Array Char) : List Step → State → Rest → Option State
  | [], state, rest => rest state
  | step :: others, state, rest => step.run text state fun next => runSteps text others next rest

/-- Matches the first of some alternatives after which the rest matches. -/
def runBranch (text : Array Char) : List (List Step) → State → Rest → Option State
  | [], _, _ => none
  | steps :: others, state, rest =>
    match runSteps text steps state rest with
    | some found => some found
    | none => runBranch text others state rest

end

end RoleGrants.Pattern
