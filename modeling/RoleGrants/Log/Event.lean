import RoleGrants.Value.Json

/-! Events in the log. An event is a word with fields; its text shows the fields as JSON. -/

namespace RoleGrants.Log

def eventText (event : String) (fields : List (String × Value)) : String :=
  if fields.isEmpty then event else event ++ ": " ++ (Value.object fields).toJson

end RoleGrants.Log
