import RoleGrants.Value.Text

/-! The context of a log message: which policy, namespace, subject and binding it is about. The
context stands behind the message in brackets, always in that order. -/

namespace RoleGrants.Log

/-- The names of the fields that are shown behind a message. -/
def contextNames : List String :=
  ["policy", "namespace", "subject", "binding"]

/-- The fields of a context that are shown, in their fixed order. -/
def shownFields (fields : List (String × Value)) : List (String × Value) :=
  contextNames.filterMap fun name => (fields.lookup name).map fun value => (name, value)

/-- The context behind a message, nothing if no field of it is shown. -/
def contextText (fields : List (String × Value)) : String :=
  match shownFields fields with
  | [] => ""
  | shown =>
    " [" ++ " ".intercalate (shown.map fun (name, value) => name ++ "=" ++ value.plain) ++ "]"

end RoleGrants.Log
