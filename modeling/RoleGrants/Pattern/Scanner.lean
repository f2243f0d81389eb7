import RoleGrants.Pattern.Error
import RoleGrants.Pattern.Width

/-! The tokens of a pattern and the state in which it is read. A token is a character, or a
backslash with the character behind it. A fault is reported at the start of the next token, or a
count of characters before it. -/

namespace RoleGrants.Pattern

/-- A character, or a character behind a backslash. -/
inductive Token where
  | plain (c : Char)
  | escape (c : Char)
  deriving DecidableEq, Inhabited

namespace Token

def chars : Token → List Char
  | .plain c => [c]
  | .escape c => ['\\', c]

def text (token : Token) : String :=
  String.ofList token.chars

def length (token : Token) : Nat :=
  token.chars.length

/-- The character of a token that is nothing else. -/
def plain? : Token → Option Char
  | .plain c => some c
  | .escape _ => none

end Token

/-- What is known while a pattern is read: the place in the text with the next token, the global
flags, and the groups opened so far. A group has a width once it is closed; group zero is the whole
pattern. Inside a look-behind, `lookBehindGroups` counts the groups opened before it. A group that a
condition names by number may come later, so such numbers wait in `references` with their
positions. -/
structure Scanner where
  source : Array Char
  index : Nat := 0
  next : Option Token := none
  flags : Flags := {}
  groups : Array (Option Width) := #[none]
  names : List (String × Nat) := []
  lookBehindGroups : Option Nat := none
  references : List (Nat × Nat) := []

abbrev Reading := StateT Scanner (Except Error)

namespace Scanner

def position (scanner : Scanner) : Nat :=
  scanner.index - (scanner.next.map Token.length).getD 0

/-- Whether a group has been opened and closed. -/
def isClosed (scanner : Scanner) (group : Nat) : Bool :=
  ((scanner.groups[group]?).bind id).isSome

def widths (scanner : Scanner) (group : Nat) : Width :=
  ((scanner.groups[group]?).bind id).getD .zero

end Scanner

/-- Moves to the next token. A backslash at the end of the pattern is a fault as soon as it comes
next. -/
def advance : Reading Unit := fun scanner =>
  match scanner.source[scanner.index]? with
  | none => .ok ((), { scanner with next := none })
  | some '\\' =>
    match scanner.source[scanner.index + 1]? with
    | none => .error (.malformed .escapeAtEnd (some (scanner.source.size - 1)))
    | some c => .ok ((), { scanner with index := scanner.index + 2, next := some (.escape c) })
  | some c => .ok ((), { scanner with index := scanner.index + 1, next := some (.plain c) })

def peek : Reading (Option Token) :=
  return (← get).next

/-- The next token, moving past it. -/
def take : Reading (Option Token) := do
  let token ← peek
  advance
  return token

/-- Moves past the next token if it is the character `c`. -/
def accept (c : Char) : Reading Bool := do
  if (← peek) == some (.plain c) then
    advance
    return true
  else return false

def position : Reading Nat :=
  return (← get).position

def goTo (index : Nat) : Reading Unit := do
  modify fun scanner => { scanner with index := index }
  advance

/-- Stops with a fault `before` characters before the next token. -/
def faultBefore (fault : Fault) (before : Nat) : Reading α := do
  throw (.malformed fault (some ((← position) - before)))

def faultHere (fault : Fault) : Reading α :=
  faultBefore fault 0

def faultAt (fault : Fault) (place : Nat) : Reading α :=
  throw (.malformed fault (some place))

/-- The characters of at most `count` next tokens that are characters of the kind `accepted`. -/
def takeWhile (accepted : Char → Bool) : Nat → Reading (List Char)
  | 0 => return []
  | count + 1 => do
    match (← peek).bind Token.plain? with
    | some c =>
      if accepted c then
        advance
        return c :: (← takeWhile accepted count)
      else return []
    | none => return []

/-- The characters up to a terminator, which is left behind. The last argument bounds the count of
tokens. -/
def takeUntil (terminator : Char) (what : String) : Nat → List Char → Reading (List Char)
  | 0, acc => return acc
  | fuel + 1, acc => do
    match ← take with
    | none =>
      if acc.isEmpty then faultHere (.missingName what)
      else faultBefore (.unterminatedName terminator) acc.length
    | some token =>
      if token == .plain terminator then
        if acc.isEmpty then faultBefore (.missingName what) 1 else return acc
      else takeUntil terminator what fuel (acc ++ token.chars)

def takeName (terminator : Char) (what : String) : Reading (List Char) := do
  takeUntil terminator what ((← get).source.size + 1) []

/-- Opens a group and gives its number. -/
def openGroup (name : Option (List Char)) : Reading Nat := do
  let scanner ← get
  let index := scanner.groups.size
  match name with
  | none => set { scanner with groups := scanner.groups.push none }
  | some chars =>
    let name := String.ofList chars
    match scanner.names.lookup name with
    | some earlier => faultBefore (.redefinedGroup name index earlier) (chars.length + 1)
    | none =>
      set { scanner with
        groups := scanner.groups.push none, names := (name, index) :: scanner.names }
  return index

def closeGroup (index : Nat) (body : List Node) : Reading Unit :=
  modify fun scanner =>
    let width := (sequenceWidth scanner.widths body).cut
    { scanner with groups := scanner.groups.setIfInBounds index (some width) }

/-- A reference inside a look-behind may only name a group closed before it. -/
def checkLookBehind (index : Nat) : Reading Unit := do
  let scanner ← get
  match scanner.lookBehindGroups with
  | none => return ()
  | some before =>
    if !scanner.isClosed index then faultHere .openGroup
    else if index ≥ before then faultHere .groupOfSameLookBehind

end RoleGrants.Pattern
