import RoleGrants.Pattern.Scanner
import RoleGrants.Text.CharacterName

/-! Escapes of a pattern. Inside a set an escape is a member; outside it may also be an anchor or a
reference to a group. -/

namespace RoleGrants.Pattern

def isDecimalDigit (c : Char) : Bool :=
  '0' ≤ c && c ≤ '9'

def isOctalDigit (c : Char) : Bool :=
  '0' ≤ c && c ≤ '7'

def isHexDigit (c : Char) : Bool :=
  isDecimalDigit c || ('a' ≤ c && c ≤ 'f') || ('A' ≤ c && c ≤ 'F')

def isAsciiLetter (c : Char) : Bool :=
  ('a' ≤ c && c ≤ 'z') || ('A' ≤ c && c ≤ 'Z')

/-- The value of a digit in any base up to sixteen. -/
def digitOf (c : Char) : Nat :=
  if isDecimalDigit c then c.toNat - 48 else if 'a' ≤ c then c.toNat - 87 else c.toNat - 55

def numberOf (base : Nat) (digits : List Char) : Nat :=
  digits.foldl (fun n c => n * base + digitOf c) 0

/-- The control characters with an escape of their own, and the backslash. -/
def controlCode? : Char → Option Nat
  | 'a' => some 7
  | 'b' => some 8
  | 'f' => some 12
  | 'n' => some 10
  | 'r' => some 13
  | 't' => some 9
  | 'v' => some 11
  | '\\' => some 92
  | _ => none

def category? : Char → Option Member
  | 'd' => some (.category .digit false)
  | 'D' => some (.category .digit true)
  | 's' => some (.category .blank false)
  | 'S' => some (.category .blank true)
  | 'w' => some (.category .word false)
  | 'W' => some (.category .word true)
  | _ => none

def anchor? : Char → Option Anchor
  | 'A' => some .textStart
  | 'Z' => some .textEnd
  | 'b' => some .wordBoundary
  | 'B' => some .insideWord
  | _ => none

/-- Stops at an escape of the characters read so far. -/
def badEscape (chars : List Char) : Reading α :=
  faultBefore (.badEscape (String.ofList chars)) chars.length

/-- A character given by exactly `count` hexadecimal digits behind `\x`, `\u` or `\U`. -/
def hexEscape (kind : Char) (count : Nat) : Reading Nat := do
  let digits ← takeWhile isHexDigit count
  let chars := '\\' :: kind :: digits
  if digits.length < count then
    faultBefore (.incompleteEscape (String.ofList chars)) chars.length
  else
    let code := numberOf 16 digits
    if code ≥ Nat.pow 2 31 then throw .codeTooLarge
    else if code > 0x10ffff then badEscape chars
    else return code

/-- A character given by its name in braces behind `\N`. -/
def namedEscape : Reading Nat := do
  if !(← accept '\x7b') then faultHere .missingBrace
  else
    let name ← takeName '\x7d' "character name"
    match Text.characterNamed? name with
    | some code => return code
    | none => faultBefore (.unknownCharacterName (String.ofList name)) (name.length + 4)

/-- An octal escape of the characters read so far, of which the first is the backslash. -/
def octalEscape (chars : List Char) : Reading Nat :=
  let code := numberOf 8 (chars.drop 1)
  if code > 0o377 then faultBefore (.octalTooLarge (String.ofList chars)) chars.length
  else return code

/-- A character that every escape can give, whether inside a set or not: by a code, by a name, or as
itself when it is neither a letter nor a digit. -/
def charEscape (c : Char) : Reading Nat :=
  if c == 'x' then hexEscape c 2
  else if c == 'u' then hexEscape c 4
  else if c == 'U' then hexEscape c 8
  else if c == 'N' then namedEscape
  else if isAsciiLetter c || isDecimalDigit c then badEscape ['\\', c]
  else return c.toNat

def memberEscape (c : Char) : Reading Member := do
  match controlCode? c, category? c with
  | some code, _ => return .single code
  | none, some member => return member
  | none, none =>
    if isOctalDigit c then
      let digits ← takeWhile isOctalDigit 2
      return .single (← octalEscape ('\\' :: c :: digits))
    else return .single (← charEscape c)

/-- A reference to the group with the number in the characters read so far, of which the first is
the backslash. -/
def groupEscape (chars : List Char) : Reading Node := do
  let index := numberOf 10 (chars.drop 1)
  let scanner ← get
  if index < scanner.groups.size then
    if !scanner.isClosed index then faultBefore .openGroup chars.length
    else
      checkLookBehind index
      return .backreference index
  else faultBefore (.unknownGroupNumber index) (chars.length - 1)

/-- The next token if it is a character of the kind `accepted`. -/
def peekChar (accepted : Char → Bool) : Reading (Option Char) :=
  return ((← peek).bind Token.plain?).filter accepted

/-- An escape that starts with a digit other than zero: three octal digits are a character, and one
digit or two are the number of a group. -/
def digitEscape (c : Char) : Reading Node := do
  match ← peekChar isDecimalDigit with
  | none => groupEscape ['\\', c]
  | some second =>
    advance
    match ← peekChar isOctalDigit with
    | none => groupEscape ['\\', c, second]
    | some third =>
      if isOctalDigit c && isOctalDigit second then
        advance
        return .single (← octalEscape ['\\', c, second, third])
      else groupEscape ['\\', c, second]

/-- The part of a pattern that an escape outside a set stands for. -/
def nodeEscape (c : Char) : Reading Node := do
  match anchor? c, category? c, controlCode? c with
  | some place, _, _ => return .anchor place
  | none, some member, _ => return .set false [member]
  | none, none, some code => return .single code
  | none, none, none =>
    if c == '0' then
      let digits ← takeWhile isOctalDigit 2
      return .single (numberOf 8 digits)
    else if isDecimalDigit c then digitEscape c
    else return .single (← charEscape c)

end RoleGrants.Pattern
