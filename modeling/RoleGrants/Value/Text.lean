import RoleGrants.Value.Basic
import RoleGrants.Text.Quoted

/-! The text of a value. `Value.quoted` shows any value as data, with texts in quotes, and
`Value.plain` is the same except that a text is itself; messages and names are put together from
plain texts. -/

namespace RoleGrants.Value

mutual

/-- A value shown as data. -/
def quoted : Value → String
  | .null => "None"
  | .bool b => if b then "True" else "False"
  | .int n => toString n
  | .float x => x.text
  | .text s => Text.quoted s
  | .list items => "[" ++ ", ".intercalate (quotedItems items) ++ "]"
  | .object fields => "\x7b" ++ ", ".intercalate (quotedFields fields) ++ "\x7d"

def quotedItems : List Value → List String
  | [] => []
  | item :: rest => quoted item :: quotedItems rest

def quotedFields : List (String × Value) → List String
  | [] => []
  | (key, value) :: rest => (Text.quoted key ++ ": " ++ quoted value) :: quotedFields rest

end

/-- A value as part of a text. -/
def plain : Value → String
  | .text s => s
  | value => value.quoted

@[simp] theorem plain_text (s : String) : plain (.text s) = s := rfl

example : quoted (.list [.text "User", .int 3, .null]) = "['User', 3, None]" := by decide +kernel

end RoleGrants.Value
