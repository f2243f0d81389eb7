/-! Lines of a text. -/

namespace RoleGrants.Text

def isLineEnd (c : Char) : Bool :=
  ['\n', '\r', '\x0b', '\x0c', '\x1c', '\x1d', '\x1e', '\u0085', '\u2028', '\u2029'].contains c

def consLine (c : Char) : List (List Char) → List (List Char)
  | [] => [[c]]
  | line :: rest => (c :: line) :: rest

/-- The lines of some characters. A return and a feed after it are one end. -/
def charLines : List Char → List (List Char)
  | [] => []
  | '\r' :: '\n' :: rest => [] :: charLines rest
  | c :: rest => if isLineEnd c then [] :: charLines rest else consLine c (charLines rest)

/-- The lines of a text without their ends. An end behind the last line starts no other. -/
def lines (text : String) : List String :=
  (charLines text.toList).map String.ofList

example : lines "two\nlines\n" = ["two", "lines"] ∧ lines "a\n\nb" = ["a", "", "b"] ∧
    lines "" = [] := by
  decide +kernel

end RoleGrants.Text
