import RoleGrants.Text.Printable

/-! Quoted text, the form in which a message shows a text as data: single quotes unless the text
holds a single quote and no double quote, a backslash before the quote and before a backslash, and
an escape for each character that does not print. -/

namespace RoleGrants.Text

/-- The hexadecimal digits of `code` in small letters, with zeros in front up to `width` digits. -/
def hexDigits (width code : Nat) : List Char :=
  let digits := Nat.toDigits 16 code
  List.replicate (width - digits.length) '0' ++ digits

/-- One character between quotes of the kind `mark`. -/
def quotedChar (mark c : Char) : List Char :=
  let code := c.toNat
  if c == mark || c == '\\' then ['\\', c]
  else if c == '\n' then ['\\', 'n']
  else if c == '\r' then ['\\', 'r']
  else if c == '\t' then ['\\', 't']
  else if isPrintable code then [c]
  else if code < 0x100 then '\\' :: 'x' :: hexDigits 2 code
  else if code < 0x10000 then '\\' :: 'u' :: hexDigits 4 code
  else '\\' :: 'U' :: hexDigits 8 code

def quoted (text : String) : String :=
  let chars := text.toList
  let mark := if chars.contains '\'' && !chars.contains '"' then '"' else '\''
  String.ofList (mark :: chars.flatMap (quotedChar mark) ++ [mark])

example : quoted "a" = "'a'" ∧ quoted "it's" = "\"it's\"" ∧ quoted "'\"" = "'\\'\"'" ∧
    quoted "\n\x7f" = "'\\n\\x7f'" := by
  decide +kernel

end RoleGrants.Text
