import RoleGrants.Value.Basic
import RoleGrants.Text.Quoted

/-! JSON text. `Value.toJson` writes a value on one line in ASCII with a blank after each comma and
colon, and `Value.ofJson?` reads one. Fields keep their order, and of two fields with one key the
later value stands in the place of the earlier. -/

namespace RoleGrants.Value

def unitEscape (unit : Nat) : List Char :=
  '\\' :: 'u' :: Text.hexDigits 4 unit

/-- A character between double quotes. Beyond ASCII it is written as one UTF-16 unit or two. -/
def jsonChar (c : Char) : List Char :=
  let code := c.toNat
  if c == '"' || c == '\\' then ['\\', c]
  else if c == '\n' then ['\\', 'n']
  else if c == '\r' then ['\\', 'r']
  else if c == '\t' then ['\\', 't']
  else if code == 8 then ['\\', 'b']
  else if code == 12 then ['\\', 'f']
  else if 32 ≤ code && code < 127 then [c]
  else if code < 0x10000 then unitEscape code
  else
    let rest := code - 0x10000
    unitEscape (0xd800 + rest / 0x400) ++ unitEscape (0xdc00 + rest % 0x400)

def jsonText (text : String) : String :=
  String.ofList ('"' :: text.toList.flatMap jsonChar ++ ['"'])

/-- The text of a number; the infinite numbers are named. -/
def jsonNumber : Binary64 → String
  | .infinite negative => if negative then "-Infinity" else "Infinity"
  | x => x.text

mutual

def toJson : Value → String
  | .null => "null"
  | .bool b => if b then "true" else "false"
  | .int n => toString n
  | .float x => jsonNumber x
  | .text s => jsonText s
  | .list items => "[" ++ ", ".intercalate (jsonItems items) ++ "]"
  | .object fields => "\x7b" ++ ", ".intercalate (jsonFields fields) ++ "\x7d"

def jsonItems : List Value → List String
  | [] => []
  | item :: rest => toJson item :: jsonItems rest

def jsonFields : List (String × Value) → List String
  | [] => []
  | (key, value) :: rest => (jsonText key ++ ": " ++ toJson value) :: jsonFields rest

end

def skipJsonBlanks (text : List Char) : List Char :=
  text.dropWhile fun c => c == ' ' || c == '\n' || c == '\r' || c == '\t'

def hexValue? (c : Char) : Option Nat :=
  let code := c.toNat
  if 48 ≤ code && code ≤ 57 then some (code - 48)
  else if 97 ≤ code && code ≤ 102 then some (code - 87)
  else if 65 ≤ code && code ≤ 70 then some (code - 55)
  else none

/-- The UTF-16 unit given by four hexadecimal digits, with the text after them. -/
def unit? : List Char → Option (Nat × List Char)
  | a :: b :: c :: d :: rest => do
    let unit := (((← hexValue? a) * 16 + (← hexValue? b)) * 16 + (← hexValue? c)) * 16 +
      (← hexValue? d)
    return (unit, rest)
  | _ => none

/-- The character of an escape after its backslash, with the text after it. A high surrogate needs a
low one behind it. -/
def escaped? : List Char → Option (Char × List Char)
  | 'u' :: rest => do
    let (unit, rest) ← unit? rest
    if 0xd800 ≤ unit && unit < 0xdc00 then
      match rest with
      | '\\' :: 'u' :: rest => do
        let (low, rest) ← unit? rest
        if 0xdc00 ≤ low && low < 0xe000 then
          return (Char.ofNat (0x10000 + (unit - 0xd800) * 0x400 + (low - 0xdc00)), rest)
        else none
      | _ => none
    else return (Char.ofNat unit, rest)
  | c :: rest =>
    let plain? : Option Char :=
      match c with
      | '"' => some '"'
      | '\\' => some '\\'
      | '/' => some '/'
      | 'b' => some (Char.ofNat 8)
      | 'f' => some (Char.ofNat 12)
      | 'n' => some '\n'
      | 'r' => some '\r'
      | 't' => some '\t'
      | _ => none
    plain?.map fun c => (c, rest)
  | [] => none

/-- The characters up to the closing quote, with the text after it. The first argument bounds the
count of characters read. -/
def readText (fuel : Nat) (acc : List Char) (text : List Char) : Option (String × List Char) :=
  match fuel, text with
  | _, '"' :: rest => some (String.ofList acc.reverse, rest)
  | fuel + 1, '\\' :: rest => do
    let (c, rest) ← escaped? rest
    readText fuel (c :: acc) rest
  | fuel + 1, c :: rest => readText fuel (c :: acc) rest
  | _, _ => none

def ofDigits (digits : List Char) : Nat :=
  digits.foldl (fun n c => n * 10 + (c.toNat - 48)) 0

/-- A number: an integer unless it has a point or an exponent. -/
def readNumber (text : List Char) : Option (Value × List Char) :=
  let digit : Char → Bool := fun c => 48 ≤ c.toNat && c.toNat ≤ 57
  let (negative, text) := if text.head? == some '-' then (true, text.drop 1) else (false, text)
  let whole := text.takeWhile digit
  let rest := text.dropWhile digit
  let (places, afterPoint) :=
    match rest with
    | '.' :: more =>
      if (more.takeWhile digit).isEmpty then ([], rest)
      else (more.takeWhile digit, more.dropWhile digit)
    | _ => ([], rest)
  let exponent? : Option (Int × List Char) :=
    match afterPoint with
    | e :: more =>
      if e == 'e' || e == 'E' then
        let (minus, more) :=
          match more with
          | '+' :: more => (false, more)
          | '-' :: more => (true, more)
          | _ => (false, more)
        let digits := more.takeWhile digit
        if digits.isEmpty then none
        else
          let size := ofDigits digits
          some (if minus then -(size : Int) else size, more.dropWhile digit)
      else none
    | [] => none
  if whole.isEmpty then none
  else if places.isEmpty && exponent?.isNone then
    let n := ofDigits whole
    some (.int (if negative then -(n : Int) else n), afterPoint)
  else
    let (exponent, rest) := exponent?.getD (0, afterPoint)
    let value : Decimal := ⟨ofDigits (whole ++ places), exponent - places.length⟩
    some (.float (.ofDecimal negative value), rest)

mutual

/-- A value at the start of the text, with the text after it. The first argument bounds the depth of
the calls. -/
def readValue (fuel : Nat) (text : List Char) : Option (Value × List Char) :=
  match fuel with
  | 0 => none
  | fuel + 1 =>
    match skipJsonBlanks text with
    | 'n' :: 'u' :: 'l' :: 'l' :: rest => some (.null, rest)
    | 't' :: 'r' :: 'u' :: 'e' :: rest => some (.bool true, rest)
    | 'f' :: 'a' :: 'l' :: 's' :: 'e' :: rest => some (.bool false, rest)
    | '"' :: rest => (readText rest.length [] rest).map fun (s, rest) => (.text s, rest)
    | '[' :: rest =>
      match skipJsonBlanks rest with
      | ']' :: rest => some (.list [], rest)
      | rest => readItems fuel [] rest
    | '\x7b' :: rest =>
      match skipJsonBlanks rest with
      | '\x7d' :: rest => some (.object [], rest)
      | rest => readFields fuel [] rest
    | rest => readNumber rest

def readItems (fuel : Nat) (acc : List Value) (text : List Char) : Option (Value × List Char) :=
  match fuel with
  | 0 => none
  | fuel + 1 => do
    let (item, rest) ← readValue fuel text
    match skipJsonBlanks rest with
    | ',' :: rest => readItems fuel (item :: acc) rest
    | ']' :: rest => return (.list (item :: acc).reverse, rest)
    | _ => none

def readFields (fuel : Nat) (acc : List (String × Value)) (text : List Char) :
    Option (Value × List Char) :=
  match fuel with
  | 0 => none
  | fuel + 1 =>
    match skipJsonBlanks text with
    | '"' :: rest => do
      let (key, rest) ← readText rest.length [] rest
      match skipJsonBlanks rest with
      | ':' :: rest => do
        let (value, rest) ← readValue fuel rest
        let acc := putField acc key value
        match skipJsonBlanks rest with
        | ',' :: rest => readFields fuel acc rest
        | '\x7d' :: rest => return (.object acc, rest)
        | _ => none
      | _ => none
    | _ => none

end

/-- The value written as JSON in `text`, if it is nothing but that. -/
def ofJson? (text : String) : Option Value := do
  let chars := text.toList
  let (value, rest) ← readValue (chars.length + 1) chars
  if (skipJsonBlanks rest).isEmpty then some value else none

example : (ofJson? "[1, \"\\u00e9\\ud83d\\ude00\", 1.5, [null]]").map toJson =
    some "[1, \"\\u00e9\\ud83d\\ude00\", 1.5, [null]]" := by
  decide +kernel

end RoleGrants.Value
