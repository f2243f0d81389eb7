import RoleGrants.Text.Quoted

/-! Why nothing can be logged. -/

namespace RoleGrants.Log

/-- Why a message cannot be logged, or lines cannot be written in a format. -/
inductive Fault where
  /-- A field would replace one that every record has. -/
  | clash (field : String)
  | unknownLevel (word : String)
  /-- A word means something else, or a field is named like a part of the request. -/
  | misused
  | badFormat (format : String)
  deriving DecidableEq, Inhabited

def Fault.message? : Fault → Option String
  | .clash field =>
    some (Text.quoted s!"Attempt to overwrite {Text.quoted field} in LogRecord")
  | .unknownLevel word => some s!"Unknown log level: {word}"
  | .misused => none
  | .badFormat format => some s!"Invalid format '{format}' for '%' style"

end RoleGrants.Log
