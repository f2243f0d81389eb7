import RoleGrants.Pattern.CharacterSet
import RoleGrants.Pattern.Switches
import RoleGrants.Text.Blank
import RoleGrants.Text.Identifier

/-! Reading a pattern into its syntax tree. A pattern is alternatives, an alternative is a row of
parts, and a part in parentheses holds a pattern again. The functions call each other with a bound
on the depth of the calls; each of them but one in three moves past a token, so a bound of three
times the length of the pattern is never reached. -/

namespace RoleGrants.Pattern

/-- Whether white space that a verbose pattern skips. -/
def isSkipped (c : Char) : Bool :=
  c == ' ' || (9 ≤ c.toNat && c.toNat ≤ 13)

/-- Moves past a comment to the end of its line. The first argument bounds the count of tokens. -/
def skipLine : Nat → Reading Unit
  | 0 => return ()
  | fuel + 1 => do
    match ← take with
    | none => return ()
    | some token => if token == .plain '\n' then return () else skipLine fuel

/-- Moves past a comment in parentheses that starts at `start`. The first argument bounds the count
of tokens. -/
def skipComment (start : Nat) : Nat → Reading Unit
  | 0 => return ()
  | fuel + 1 => do
    match ← peek with
    | none => faultAt .unterminatedComment start
    | some token =>
      advance
      if token == .plain ')' then return () else skipComment start fuel

/-- The leading part that all alternatives share, if they share one. -/
def sharedHead? : List (List Node) → Option Node
  | [] => none
  | [] :: _ => none
  | (head :: _) :: rest =>
    if rest.all fun nodes => (nodes.head?.map head.sameLeaf).getD false then some head else none

/-- The parts that all alternatives start with, and the alternatives without them. The first
argument bounds the count of parts. -/
def factorHeads : Nat → List (List Node) → List Node × List (List Node)
  | 0, alternatives => ([], alternatives)
  | fuel + 1, alternatives =>
    match sharedHead? alternatives with
    | none => ([], alternatives)
    | some head =>
      let (heads, rest) := factorHeads fuel (alternatives.map (List.drop 1))
      (head :: heads, rest)

/-- The members of an alternative that is a character or a set of characters. -/
def membersOf? : List Node → Option (List Member)
  | [.single code] => some [.single code]
  | [.set false members] => some members
  | _ => none

/-- Alternatives as one row of parts: what they all start with comes first, and alternatives that
are all characters become one set. -/
def joinAlternatives (alternatives : List (List Node)) : List Node :=
  match alternatives with
  | [nodes] => nodes
  | _ =>
    let length := ((alternatives.head?).map List.length).getD 0
    let (heads, rest) := factorHeads length alternatives
    match rest.mapM membersOf? with
    | some members => heads ++ [.set false (distinct members.flatten)]
    | none => heads ++ [.branch rest]

/-- A row of parts, given newest first, with plain groups replaced by their parts. -/
def spliceGroups (nodes : List Node) : List Node :=
  nodes.reverse.flatMap fun node => (node.plainGroup?).getD [node]

/-- The sign behind a quantifier that says how it chooses its count. -/
def takeGreed : Reading Greed := do
  if ← accept '?' then return .lazy
  if ← accept '+' then return .possessive
  return .greedy

/-- The row of parts with its newest part repeated. The quantifier starts at `start`. -/
def repeatNewest (start least : Nat) (greatest : Option Nat) (nodes : List Node) :
    Reading (List Node) := do
  match nodes with
  | [] => faultAt .nothingToRepeat start
  | .anchor _ :: _ => faultAt .nothingToRepeat start
  | .repetition .. :: _ => faultAt .multipleRepeat start
  | node :: rest =>
    let body := (node.plainGroup?).getD [node]
    return .repetition (← takeGreed) least greatest body :: rest

/-- A count in braces, refused when it is as great as the one that stands for no bound. -/
def boundedCount (digits : List Char) : Reading Nat :=
  let count := numberOf 10 digits
  if count ≥ Width.unbounded then throw .countTooLarge else return count

/-- The counts of a quantifier in braces after the opening one, or nothing when the brace stands for
itself. -/
def takeBraces : Reading (Option (Nat × Option Nat)) := do
  let start ← position
  if (← peek) == some (.plain '\x7d') then return none
  else
    let fuel := (← get).source.size + 1
    let low ← takeWhile isDecimalDigit fuel
    let high ← if ← accept ',' then takeWhile isDecimalDigit fuel else pure low
    if !(← accept '\x7d') then
      goTo start
      return none
    else
      let least ← if low.isEmpty then pure 0 else boundedCount low
      if high.isEmpty then return some (least, none)
      else
        let greatest ← boundedCount high
        if greatest < least then faultAt .leastAboveGreatest start
        else return some (least, some greatest)

/-- The most digits that the number of a group is read from, zeros in front included. -/
def greatestDigits : Nat := 4300

/-- The number written by decimal digits of any script, with blanks around it, a sign before it and
single underscores between digits. -/
def integer? (text : List Char) : Option Int :=
  let text := Text.trim Text.isBlank text
  let (negative, digits) :=
    match text with
    | '-' :: rest => (true, rest)
    | '+' :: rest => (false, rest)
    | _ => (false, text)
  let rec read (acc : Nat) (afterDigit : Bool) : List Char → Option Nat
    | [] => if afterDigit then some acc else none
    | '_' :: rest => if afterDigit then read acc false rest else none
    | c :: rest =>
      match Text.digitValue? c.toNat with
      | some digit => read (acc * 10 + digit) true rest
      | none => none
  if digits.countP (· != '_') > greatestDigits then none
  else (read 0 false digits).map fun n => if negative then -(n : Int) else n

def checkGroupName (name : List Char) : Reading Unit := do
  if !Text.isIdentifier name then
    faultBefore (.badGroupName (String.ofList name)) (name.length + 1)

def groupNamed (name : List Char) : Reading Nat := do
  match (← get).names.lookup (String.ofList name) with
  | some index => return index
  | none => faultBefore (.unknownGroupName (String.ofList name)) (name.length + 1)

def takeNamedReference : Reading Node := do
  let name ← takeName ')' "group name"
  checkGroupName name
  let index ← groupNamed name
  if !(← get).isClosed index then faultBefore .openGroup (name.length + 1)
  else
    checkLookBehind index
    return .backreference index

def greatestGroup : Nat := Nat.pow 2 30 - 1

/-- The number of the group that a condition asks for. A number may be that of a group still to
come. -/
def takeCondition : Reading Nat := do
  let name ← takeName ')' "group name"
  let before := name.length + 1
  let index ←
    if Text.isIdentifier name then groupNamed name
    else
      match integer? name with
      | some (.ofNat index) =>
        if index = 0 then faultBefore .groupZero before
        else if index ≥ greatestGroup then faultBefore (.unknownGroupNumber index) before
        else
          let place := (← position) - before
          modify fun scanner =>
            if (scanner.references.lookup index).isSome then scanner
            else { scanner with references := scanner.references ++ [(index, place)] }
          pure index
      | _ => faultBefore (.badGroupName (String.ofList name)) before
  checkLookBehind index
  return index

def takeClosing (start : Nat) : Reading Unit := do
  if !(← accept ')') then faultAt .unterminatedGroup start

/-- How the inside of a parenthesis is to be read. -/
inductive Opening where
  | capture (name : Option (List Char))
  /-- A group that does not capture, with flags turned on and off. -/
  | scoped (on off : Flags)
  | atomic
  | look (behind negated : Bool)
  | conditional
  /-- A part that ends here, or nothing. -/
  | finished (node : Option Node)
  /-- Flags of the whole pattern, which the scanner has taken. -/
  | globalFlags

/-- What follows `(?P`. -/
def takeNamedOpening : Reading Opening := do
  if ← accept '<' then
    let name ← takeName '>' "group name"
    checkGroupName name
    return .capture (some name)
  else if ← accept '=' then return .finished (some (← takeNamedReference))
  else
    match ← take with
    | none => faultHere .unexpectedEnd
    | some token => faultBefore (.unknownExtension ("P" ++ token.text)) (token.length + 2)

/-- What follows `(?<`. -/
def takeLookBehind : Reading Opening := do
  match ← take with
  | none => faultHere .unexpectedEnd
  | some (.plain '=') => return .look true false
  | some (.plain '!') => return .look true true
  | some token => faultBefore (.unknownExtension ("<" ++ token.text)) (token.length + 2)

/-- What follows an opening parenthesis at `start`. -/
def takeOpening (start : Nat) : Reading Opening := do
  if !(← accept '?') then return .capture none
  else
    match ← take with
    | none => faultHere .unexpectedEnd
    | some token =>
      match token with
      | .plain 'P' => takeNamedOpening
      | .plain ':' => return .scoped {} {}
      | .plain '#' =>
        skipComment start ((← get).source.size + 1)
        return .finished none
      | .plain '=' => return .look false false
      | .plain '!' => return .look false true
      | .plain '<' => takeLookBehind
      | .plain '(' => return .conditional
      | .plain '>' => return .atomic
      | .plain c =>
        if (Flags.ofLetter? c).isSome || c == '-' then
          match ← takeSwitches c with
          | some (on, off) => return .scoped on off
          | none => return .globalFlags
        else faultBefore (.unknownExtension token.text) (token.length + 1)
      | .escape _ => faultBefore (.unknownExtension token.text) (token.length + 1)

/-- Runs a step inside a look-behind, where only groups closed before it may be named. -/
def insideLookBehind (behind : Bool) (step : Reading α) : Reading α := do
  if behind && (← get).lookBehindGroups.isNone then
    modify fun scanner => { scanner with lookBehindGroups := some scanner.groups.size }
    let result ← step
    modify fun scanner => { scanner with lookBehindGroups := none }
    return result
  else step

mutual

/-- Alternatives up to a closing parenthesis or the end, as one row of parts. At the top of a
pattern the verbose flag of each alternative after the first is the global one. -/
def takeAlternatives (fuel : Nat) (verbose top : Bool) (acc : List (List Node)) :
    Reading (List Node) :=
  match fuel with
  | 0 => faultHere .tooDeep
  | fuel + 1 => do
    let nodes ← takeSequence fuel verbose (top && acc.isEmpty) []
    let acc := nodes :: acc
    if ← accept '|' then
      let flags := (← get).flags
      let verbose := if top then flags.verbose else verbose
      takeAlternatives fuel verbose top acc
    else return joinAlternatives acc.reverse

/-- A row of parts, the newest first in `acc`. Flags for the whole pattern may only stand `first`,
at the start of it. -/
def takeSequence (fuel : Nat) (verbose first : Bool) (acc : List Node) : Reading (List Node) :=
  match fuel with
  | 0 => faultHere .tooDeep
  | fuel + 1 => do
    match ← peek with
    | none => return spliceGroups acc
    | some (.escape c) =>
      advance
      let node ← nodeEscape c
      takeSequence fuel verbose first (node :: acc)
    | some (.plain c) =>
      if c == '|' || c == ')' then return spliceGroups acc
      else
        advance
        if verbose && isSkipped c then takeSequence fuel verbose first acc
        else if verbose && c == '#' then
          skipLine ((← get).source.size + 1)
          takeSequence fuel verbose first acc
        else
          match c with
          | '[' =>
            let node ← takeSet
            takeSequence fuel verbose first (node :: acc)
          | '?' =>
            takeSequence fuel verbose first (← repeatNewest ((← position) - 1) 0 (some 1) acc)
          | '*' => takeSequence fuel verbose first (← repeatNewest ((← position) - 1) 0 none acc)
          | '+' => takeSequence fuel verbose first (← repeatNewest ((← position) - 1) 1 none acc)
          | '\x7b' =>
            let start := (← position) - 1
            match ← takeBraces with
            | none => takeSequence fuel verbose first (.single c.toNat :: acc)
            | some (least, greatest) =>
              takeSequence fuel verbose first (← repeatNewest start least greatest acc)
          | '.' => takeSequence fuel verbose first (.any :: acc)
          | '^' => takeSequence fuel verbose first (.anchor .lineStart :: acc)
          | '$' => takeSequence fuel verbose first (.anchor .lineEnd :: acc)
          | '(' =>
            let start := (← position) - 1
            match ← takeOpening start with
            | .globalFlags =>
              if !first || !acc.isEmpty then faultAt .flagsNotAtStart start
              else
                let verbose := (← get).flags.verbose
                takeSequence fuel verbose first acc
            | .finished node => takeSequence fuel verbose first (node.toList ++ acc)
            | opening =>
              let node ← takeGroup fuel verbose start opening
              takeSequence fuel verbose first (node :: acc)
          | _ => takeSequence fuel verbose first (.single c.toNat :: acc)

/-- The inside of a parenthesis at `start`, up to the one that closes it. -/
def takeGroup (fuel : Nat) (verbose : Bool) (start : Nat) (opening : Opening) : Reading Node :=
  match fuel with
  | 0 => faultHere .tooDeep
  | fuel + 1 => do
    match opening with
    | .look behind negated =>
      let body ← insideLookBehind behind (takeAlternatives fuel verbose false [])
      takeClosing start
      return .look behind negated body
    | .conditional =>
      let index ← takeCondition
      let yes ← takeSequence fuel verbose false []
      let no ←
        if ← accept '|' then
          let no ← takeSequence fuel verbose false []
          if (← peek) == some (.plain '|') then faultHere .tooManyBranches
          else pure (some no)
        else pure none
      takeClosing start
      return .conditional index yes no
    | .atomic =>
      let body ← takeAlternatives fuel verbose false []
      takeClosing start
      return .atomic body
    | .scoped on off =>
      let body ← takeAlternatives fuel ((verbose || on.verbose) && !off.verbose) false []
      takeClosing start
      return .group none on off body
    | .capture name =>
      let index ← openGroup name
      let body ← takeAlternatives fuel verbose false []
      takeClosing start
      closeGroup index body
      return .group (some index) {} {} body
    | .finished node => return node.getD (.branch [])
    | .globalFlags => return .branch []

end

/-- A whole pattern: its parts, and the scanner at its end. -/
def readPattern (source : String) : Except Error (List Node × Scanner) := do
  let chars := source.toList.toArray
  let reading : Reading (List Node) := do
    advance
    let nodes ← takeAlternatives (3 * chars.size + 3) false true []
    let flags := (← get).flags
    if flags.ascii && flags.unicode then throw .twoAlphabets
    else if (← peek).isSome then faultHere .unbalanced
    else
      let scanner ← get
      match scanner.references.find? fun (index, _) => index ≥ scanner.groups.size with
      | some (index, place) => faultAt (.unknownGroupNumber index) place
      | none => return nodes
  reading.run { source := chars }

end RoleGrants.Pattern
