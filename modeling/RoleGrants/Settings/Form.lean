import RoleGrants.Settings.Basic
import RoleGrants.Settings.Fault
import RoleGrants.Text.Blank
import RoleGrants.Value.Basic

/-! The forms in which the value of a setting can be written. A number or a truth value may be given
as one or as a text. -/

namespace RoleGrants.Settings

/-- Decimal digits, with single underscores between them. -/
def digits? (chars : List Char) : Option Nat :=
  let groups := chars.splitOn '_'
  if groups.all fun group => !group.isEmpty && group.all Char.isDigit then
    some (groups.flatten.foldl (fun n c => 10 * n + (c.toNat - '0'.toNat)) 0)
  else none

/-- A number without a sign. It may begin with zeros, but no underscore follows these. -/
def unsigned? (chars : List Char) : Option Nat :=
  match chars.dropWhile (· == '0') with
  | [] => if chars.isEmpty then none else some 0
  | rest => digits? rest

/-- The characters before the point of a number whose fraction is zero. -/
def withoutFraction? (chars : List Char) : Option (List Char) :=
  match chars.span (· != '.') with
  | (whole, []) => some whole
  | (whole, _ :: fraction) => if fraction.all (· == '0') then some whole else none

/-- The integer that a text shows. White space may surround it, and a fraction of zeros may follow
it. A negative number has no leading zeros. -/
def integer? (text : String) : Option Int := do
  let whole ← withoutFraction? (Text.trim Text.isSpace text.toList)
  match whole with
  | '+' :: rest => return (← unsigned? rest)
  | ['-', '0'] => return 0
  | '-' :: '0' :: _ => none
  | '-' :: rest => return -(← digits? rest)
  | _ => return (← unsigned? whole)

def truth? (text : String) : Option Bool :=
  let word := String.ofList (text.toList.map Char.toLower)
  if ["1", "on", "t", "true", "y", "yes"].contains word then some true
  else if ["0", "off", "f", "false", "n", "no"].contains word then some false
  else none

def readText : Value → Except Fault String
  | .text s => .ok s
  | _ => .error .notText

/-- Reads a text that need not be given; a blank one counts as not given. -/
def readOptional : Value → Except Fault (Option String)
  | .null => .ok none
  | .text s => .ok (if Text.isBlankText s then none else some s)
  | _ => .error .notText

/-- The bound beyond which a floating-point number is not taken for an integer. -/
def exactBound : Int := Nat.pow 2 63

def readInteger : Value → Except Fault Int
  | .int n => .ok n
  | .bool b => .ok (if b then 1 else 0)
  | .text s =>
    match integer? s with
    | some n => .ok n
    | none => .error .unreadableInteger
  | .float (.infinite _) => .error .infinite
  | .float x =>
    match x.toInt? with
    | some n => if -exactBound < n && n < exactBound then .ok n else .error .fractional
    | none => .error .fractional
  | _ => .error .notInteger

def readAtLeast (least : Int) (value : Value) : Except Fault Int := do
  let n ← readInteger value
  if n < least then throw (.below least)
  return n

def truthOfInt (n : Int) : Except Fault Bool :=
  if n == 1 then .ok true else if n == 0 then .ok false else .error .unreadableTruth

def readTruth : Value → Except Fault Bool
  | .bool b => .ok b
  | .int n => truthOfInt n
  | .text s =>
    match truth? s with
    | some b => .ok b
    | none => .error .unreadableTruth
  | .float x =>
    match x.toInt? with
    | some n => if -exactBound < n && n < exactBound then truthOfInt n else .error .notTruth
    | none => .error .notTruth
  | _ => .error .notTruth

def readDeployment (value : Value) : Except Fault Deployment :=
  let found :=
    match value with
    | .text s => Deployment.ofName? s
    | _ => none
  match found with
  | some deployment => .ok deployment
  | none => .error (.notOneOf (Deployment.all.map Deployment.name))

/-- The capital of a letter that has an ASCII one, and any other character itself. -/
def asciiCapital (c : Char) : Char :=
  if c == 'ı' then 'I' else if c == 'ſ' then 'S' else c.toUpper

/-- Reads a log level, in letters of either case. -/
def readLevel (value : Value) : Except Fault LogLevel :=
  let found :=
    match value with
    | .text s => LogLevel.ofName? (String.ofList (s.toList.map asciiCapital))
    | _ => none
  match found with
  | some level => .ok level
  | none => .error (.notOneOf (LogLevel.all.map LogLevel.name))

end RoleGrants.Settings
