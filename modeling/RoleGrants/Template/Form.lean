import RoleGrants.Template.Fault
import RoleGrants.Number.Places
import RoleGrants.Value.Text

/-! The forms in which a placeholder shows a value, and how the result is padded to a width. -/

namespace RoleGrants.Template

structure Flags where
  left : Bool := false
  signed : Bool := false
  blank : Bool := false
  alternate : Bool := false
  zeros : Bool := false
  deriving DecidableEq, Inhabited

structure Form where
  flags : Flags := {}
  width : Nat := 0
  precision : Option Nat := none
  kind : Char
  deriving DecidableEq, Inhabited

/-- What is shown: a sign and a marker of the base, which stand before zeros that fill the width,
and the rest. Only numbers are filled with zeros. -/
structure Shown where
  sign : String := ""
  marker : String := ""
  body : String
  isNumber : Bool := false
  deriving Inhabited

def repeated (c : Char) (count : Nat) : String :=
  String.ofList (List.replicate count c)

def Shown.padded (shown : Shown) (form : Form) : String :=
  let front := shown.sign ++ shown.marker
  let gap := form.width - (front.length + shown.body.length)
  if form.flags.left then front ++ shown.body ++ repeated ' ' gap
  else if form.flags.zeros && shown.isNumber then front ++ repeated '0' gap ++ shown.body
  else repeated ' ' gap ++ front ++ shown.body

/-- The sign of a number: a minus, or what the flags ask for. -/
def signOf (flags : Flags) (negative : Bool) : String :=
  if negative then "-" else if flags.signed then "+" else if flags.blank then " " else ""

/-- A text in ASCII: other characters are escaped by their code points. -/
def inAscii (text : String) : String :=
  String.ofList (text.toList.flatMap fun c =>
    let code := c.toNat
    if code < 0x80 then [c]
    else if code < 0x100 then '\\' :: 'x' :: Text.hexDigits 2 code
    else if code < 0x10000 then '\\' :: 'u' :: Text.hexDigits 4 code
    else '\\' :: 'U' :: Text.hexDigits 8 code)

/-- A text, cut to the precision of the form. -/
def showText (form : Form) (text : String) : Shown where
  body :=
    match form.precision with
    | some count => String.ofList (text.toList.take count)
    | none => text

/-- An integer in a base. The precision is the least count of digits. -/
def showInteger (form : Form) (base : Nat) (marker : String) (n : Int) : Shown :=
  let digits := String.ofList (Nat.toDigits base n.natAbs)
  let zeros := repeated '0' (form.precision.getD 0 - digits.length)
  { sign := signOf form.flags (n < 0)
    marker := if form.flags.alternate then marker else ""
    body := zeros ++ digits
    isNumber := true }

/-- The integer to be shown in decimal: a number without its fraction. -/
def decimalOf : Value → Except Fault Int
  | .bool b => .ok (if b then 1 else 0)
  | .int n => .ok n
  | .float x =>
    match x.truncate? with
    | some n => .ok n
    | none => .error .infiniteInteger
  | _ => .error .mismatch

/-- The integer to be shown in another base, which must be one. -/
def wholeOf : Value → Except Fault Int
  | .bool b => .ok (if b then 1 else 0)
  | .int n => .ok n
  | _ => .error .mismatch

def floatOf : Value → Except Fault Binary64
  | .bool b => .ok (Binary64.ofFraction false (if b then 1 else 0) 1)
  | .int n =>
    match Binary64.ofFraction (n < 0) n.natAbs 1 with
    | .infinite _ => .error .integerTooLarge
    | x => .ok x
  | .float x => .ok x
  | _ => .error .mismatch

/-- A floating-point number. The precision is a count of digits, six if none is given. -/
def showFloat (form : Form) (style : PlaceStyle) (x : Binary64) : Shown where
  sign := signOf form.flags x.isNegative
  body := Binary64.placesText style form.flags.alternate (form.precision.getD 6) x
  isNumber := true

/-- The character to be shown: a text of one, or the code point of one. -/
def characterOf : Value → Except Fault Char
  | .text s =>
    match s.toList with
    | [c] => .ok c
    | _ => .error .mismatch
  | value => do
    let code ← wholeOf value
    if 0 ≤ code && code < 0x110000 then return Char.ofNat code.toNat
    throw .noCharacter

def Shown.inCapitals (shown : Shown) : Shown :=
  let capitals (text : String) := String.ofList (text.toList.map Char.toUpper)
  { shown with marker := capitals shown.marker, body := capitals shown.body }

/-- A value in a form. The kind of the form is at `index` in the template. -/
def present (form : Form) (index : Nat) (value : Value) : Except Fault Shown :=
  match form.kind with
  | 's' => .ok (showText form value.plain)
  | 'r' => .ok (showText form value.quoted)
  | 'a' => .ok (showText form (inAscii value.quoted))
  | 'd' | 'i' | 'u' => (decimalOf value).map (showInteger form 10 "")
  | 'o' => (wholeOf value).map (showInteger form 8 "0o")
  | 'x' => (wholeOf value).map (showInteger form 16 "0x")
  | 'X' => (wholeOf value).map fun n => (showInteger form 16 "0x" n).inCapitals
  | 'f' => (floatOf value).map (showFloat form .fixed)
  | 'F' => (floatOf value).map fun x => (showFloat form .fixed x).inCapitals
  | 'e' => (floatOf value).map (showFloat form .scientific)
  | 'E' => (floatOf value).map fun x => (showFloat form .scientific x).inCapitals
  | 'g' => (floatOf value).map (showFloat form .general)
  | 'G' => (floatOf value).map fun x => (showFloat form .general x).inCapitals
  | 'c' => (characterOf value).map fun c => { body := String.singleton c }
  | kind => .error (.unknownForm kind index)

end RoleGrants.Template
