import RoleGrants.Log.Record
import RoleGrants.Pattern.Basic
import RoleGrants.Settings.Basic
import RoleGrants.Text.Lines

/-! How records are written: as lines of text in a format, or as objects with the fields that a
format names and those that are attached. -/

namespace RoleGrants.Log

def placeholderPattern : String :=
  "(?i)%\\(\\w+\\)[#0+ -]*(\\*|\\d+)?(\\.(\\*|\\d+))?[diouxefgcrsa%]"

def hasPlaceholder (format : String) : Bool :=
  match Pattern.compile placeholderPattern with
  | .ok pattern => pattern.search format
  | .error _ => false

/-- The format that is used for a given one: an empty format shows the message alone. -/
def checkFormat (format : String) : Except Fault String :=
  if format.isEmpty then .ok "%(message)s"
  else if hasPlaceholder format then .ok format
  else .error (.badFormat format)

/-- The characters up to the first closing parenthesis on the line. -/
def untilClosed? : List Char → Option (List Char)
  | [] => none
  | c :: rest =>
    if c == ')' then some []
    else if c == '\n' then none
    else (untilClosed? rest).map (c :: ·)

/-- The names in some characters of a format, each between a percent sign with a parenthesis and the
next closing one. The first `skip` characters belong to a name before them. -/
def namesIn (skip : Nat) : List Char → List String
  | [] => []
  | c :: rest =>
    match skip with
    | skip + 1 => namesIn skip rest
    | 0 =>
      match c, rest with
      | '%', '(' :: first :: more =>
        match if first == '\n' then none else untilClosed? more with
        | some name => String.ofList (first :: name) :: namesIn (name.length + 3) rest
        | none => namesIn 0 rest
      | _, _ => namesIn 0 rest

def namesOf (format : String) : List String :=
  namesIn 0 format.toList

namespace Record

/-- The fields of a record with its text, those of its own that do not depend on where and when it
was made. -/
def fields (record : Record) (text : String) : List (String × Value) :=
  let own := [
    ("name", Value.text record.logger), ("msg", record.message),
    ("args", .list record.arguments), ("levelname", .text record.level.name),
    ("levelno", .int record.level.severity), ("exc_info", .null), ("exc_text", .null),
    ("stack_info", .null), ("lineno", .int 1), ("threadName", .text "MainThread"),
    ("processName", .text "MainProcess")]
  Value.mergeFields (Value.mergeFields own record.extra) [("message", .text text)]

def inFormat (record : Record) (format : String) : Except Template.Fault String := do
  Template.fill format (.ofFields (record.fields (← record.text)))

/-- The lines that are written for a record. A record that does not go with the format is lost. -/
def textLines (record : Record) (format : String) : List String :=
  match record.inFormat format with
  | .ok text => Text.lines (text ++ "\n")
  | .error _ => []

def messageFields (record : Record) : List (String × Value) :=
  match record.message with
  | .object fields => fields
  | _ => []

/-- The text of a record that is written as an object. A message that is an object has none. -/
def objectText (record : Record) : Except Template.Fault String :=
  match record.message with
  | .object _ => .ok ""
  | _ => record.text

/-- The fields that are written for a record with its text as an object. Attached fields are
written unless their names begin with an underscore. What the operator says of itself and of the
record comes last and wins, the context even over that. -/
def objectFields (record : Record) (text : String) (format : String) (settings : Settings)
    (moment : Value) : List (String × Value) :=
  let names := namesOf format
  let fields := record.fields text
  let found (name : String) : Value := (fields.lookup name).getD .null
  let asked := names.map fun name => (name, found name)
  let attached := record.extra.filter fun (name, _) =>
    !ownNames.contains name && !names.contains name && !name.startsWith "_"
  let always := [
    ("timestamp", moment), ("app_name", .text settings.appName),
    ("app_version", .text settings.appVersion), ("environment", .text settings.deployment.name),
    ("level", found "levelname"), ("logger", found "name")]
  Value.mergeFields []
    (asked ++ record.messageFields ++ attached ++ always ++ shownFields record.extra)

end Record

def objectFormat : String :=
  "%(timestamp)s %(level)s %(name)s %(message)s"

/-- What is written for records: nothing below a level, and the others in a format or as objects. -/
structure Layout where
  least : LogLevel
  format : Option String
  deriving DecidableEq, Inhabited

namespace Layout

def ofSettings (settings : Settings) : Except Fault Layout := do
  if settings.logJson then return { least := settings.logLevel, format := none }
  return { least := settings.logLevel, format := some (← checkFormat settings.logFormat) }

/-- The loggers of others, and the least severe of their records that are kept. -/
def otherLoggers : List (String × LogLevel) :=
  [("kubernetes", .warning), ("urllib3", .warning), ("kopf", .info), ("kopf.objects", .warning)]

/-- The record that says that logging is set up. -/
def firstRecord (settings : Settings) : Record where
  logger := "rbac_operator.core.logging"
  level := .info
  message := "Logging configured"
  extra := [("log_level", .text settings.logLevel.name), ("log_json", .bool settings.logJson)]

def admits (layout : Layout) (record : Record) : Bool :=
  layout.least.severity ≤ record.level.severity

/-- What is written for a record: lines of text, or one object. -/
def write (layout : Layout) (settings : Settings) (moment : Value) (record : Record) :
    List Value :=
  if !layout.admits record then []
  else
    match layout.format with
    | some format => (record.textLines format).map .text
    | none =>
      match record.objectText with
      | .ok text => [.object (record.objectFields text objectFormat settings moment)]
      | .error _ => []

end Layout

end RoleGrants.Log
