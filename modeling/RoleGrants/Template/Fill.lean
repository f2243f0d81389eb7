import RoleGrants.Template.Form

/-! Templates: texts with placeholders. A placeholder is a percent sign, an optional name in
parentheses, flags, a width, a precision and the kind of its form; two percent signs stand for one.
A template is filled either with values one after another or with values by their names. -/

namespace RoleGrants.Template

/-- The values that are left to fill a template with. Values by name are also one value together,
which a placeholder without a name shows. -/
structure Supply where
  named : Option (List (String × Value)) := none
  pending : List Value
  deriving Inhabited

def Supply.ofList (values : List Value) : Supply where
  pending := values

def Supply.ofFields (fields : List (String × Value)) : Supply where
  named := some fields
  pending := [.object fields]

def Supply.next (supply : Supply) : Except Fault (Value × Supply) :=
  match supply.pending with
  | [] => .error .mismatch
  | value :: pending => .ok (value, { supply with pending })

/-- The supply from which the value of a name is next. -/
def Supply.select (supply : Supply) (fields : List (String × Value)) (name : String) :
    Except Fault Supply :=
  match fields.lookup name with
  | some value => .ok { supply with pending := [value] }
  | none => .error (.missing name)

/-- The characters up to the parenthesis that closes the first of `depth` open ones, and those
behind it. -/
def closing? (depth : Nat) : List Char → Option (List Char × List Char)
  | [] => none
  | c :: rest =>
    let further (depth : Nat) := (closing? depth rest).map fun (name, rest) => (c :: name, rest)
    if c == ')' then
      match depth with
      | 0 => some ([], rest)
      | depth + 1 => further depth
    else further (if c == '(' then depth + 1 else depth)

def takeName (chars : List Char) (supply : Supply) : Except Fault (List Char × Supply) :=
  match chars with
  | '(' :: rest =>
    match supply.named with
    | none => .error .mismatch
    | some fields =>
      match closing? 0 rest with
      | none => .error .openName
      | some (name, rest) => do return (rest, ← supply.select fields (String.ofList name))
  | _ => .ok (chars, supply)

def takeFlags (flags : Flags) : List Char → Flags × List Char
  | '-' :: rest => takeFlags { flags with left := true } rest
  | '+' :: rest => takeFlags { flags with signed := true } rest
  | ' ' :: rest => takeFlags { flags with blank := true } rest
  | '#' :: rest => takeFlags { flags with alternate := true } rest
  | '0' :: rest => takeFlags { flags with zeros := true } rest
  | chars => (flags, chars)

def numberOf (digits : List Char) : Nat :=
  digits.foldl (fun n c => 10 * n + (c.toNat - '0'.toNat)) 0

/-- Takes an integer that a star stands for from the supply. -/
def takeStar (supply : Supply) : Except Fault (Int × Supply) := do
  let (value, supply) ← supply.next
  return (← wholeOf value, supply)

def greatestWidth : Nat := Nat.pow 2 63 - 1

def greatestPrecision : Nat := Nat.pow 2 31 - 1

/-- Takes a width. A negative one among the values asks for padding on the right. -/
def takeWidth (flags : Flags) (chars : List Char) (supply : Supply) :
    Except Fault (Flags × Nat × List Char × Supply) :=
  match chars with
  | '*' :: rest => do
    let (n, supply) ← takeStar supply
    if n.natAbs > greatestWidth then throw .widthOutOfRange
    return ({ flags with left := flags.left || n < 0 }, n.natAbs, rest, supply)
  | _ =>
    let (digits, rest) := chars.span Char.isDigit
    if numberOf digits > greatestWidth then .error .widthTooLarge
    else .ok (flags, numberOf digits, rest, supply)

/-- Takes a precision. A negative one among the values counts as zero. -/
def takePrecision (chars : List Char) (supply : Supply) :
    Except Fault (Option Nat × List Char × Supply) :=
  match chars with
  | '.' :: '*' :: rest => do
    let (n, supply) ← takeStar supply
    if n > greatestPrecision || n < -greatestPrecision - 1 then throw .precisionOutOfRange
    return (some n.toNat, rest, supply)
  | '.' :: rest =>
    let (digits, rest) := rest.span Char.isDigit
    if numberOf digits > greatestPrecision then .error .precisionTooLarge
    else .ok (some (numberOf digits), rest, supply)
  | _ => .ok (none, chars, supply)

/-- Passes over a letter that tells the size of a number, which means nothing here. -/
def dropSize : List Char → List Char
  | 'h' :: rest | 'l' :: rest | 'L' :: rest => rest
  | chars => chars

/-- What a placeholder shows, with the characters behind it and the supply after it. The template
has `total` characters. -/
def placeholder (total : Nat) (chars : List Char) (supply : Supply) :
    Except Fault (String × List Char × Supply) := do
  let (chars, supply) ← takeName chars supply
  let (flags, chars) := takeFlags {} chars
  let (flags, width, chars, supply) ← takeWidth flags chars supply
  let (precision, chars, supply) ← takePrecision chars supply
  match dropSize chars with
  | [] => throw .incomplete
  | kind :: rest =>
    let (text, supply) ←
      if kind == '%' then pure ("%", supply)
      else do
        let (value, supply) ← supply.next
        let form : Form := { flags, width, precision, kind }
        let shown ← present form (total - rest.length - 1) value
        pure (shown.padded form, supply)
    if supply.named.isSome && !supply.pending.isEmpty then throw .mismatch
    return (text, rest, supply)

/-- Fills a template from some place on. Each step takes at least one character, so `fuel` steps are
enough if there are no more characters than that. -/
def fillFrom (total : Nat) : (fuel : Nat) → List Char → Supply → Except Fault String
  | 0, _, _ => .error .incomplete
  | _ + 1, [], supply =>
    if supply.named.isNone && !supply.pending.isEmpty then .error .mismatch else .ok ""
  | fuel + 1, '%' :: '%' :: rest, supply => return "%" ++ (← fillFrom total fuel rest supply)
  | fuel + 1, '%' :: rest, supply => do
    let (text, rest, supply) ← placeholder total rest supply
    return text ++ (← fillFrom total fuel rest supply)
  | fuel + 1, c :: rest, supply =>
    return String.singleton c ++ (← fillFrom total fuel rest supply)

def fill (template : String) (supply : Supply) : Except Fault String :=
  let chars := template.toList
  fillFrom chars.length (chars.length + 1) chars supply

end RoleGrants.Template
