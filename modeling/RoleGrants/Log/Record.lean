import RoleGrants.Log.Context
import RoleGrants.Log.Event
import RoleGrants.Log.Fault
import RoleGrants.Log.Level
import RoleGrants.Template.Fill

/-! Log records: a message with the values to fill it with, and fields attached to it. A message in
a context carries the context as fields, and shows it behind its text. -/

namespace RoleGrants.Log

structure Record where
  logger : String
  level : LogLevel
  message : Value
  arguments : List Value := []
  extra : List (String × Value) := []
  deriving Inhabited

/-- The names of the fields that every record has. -/
def ownNames : List String := [
  "message", "asctime", "name", "msg", "args", "levelname", "levelno", "pathname", "filename",
  "module", "exc_info", "exc_text", "stack_info", "lineno", "funcName", "created", "msecs",
  "relativeCreated", "thread", "threadName", "processName", "process"]

namespace Record

/-- The record with fields attached, none of which may be one of its own. -/
def attach (record : Record) (fields : List (String × Value)) : Except Fault Record :=
  match fields.find? fun (name, _) => ownNames.contains name with
  | some (name, _) => .error (.clash name)
  | none => .ok { record with extra := fields }

/-- The values to fill the message with, if there are some. One object gives them by name. -/
def supply? (record : Record) : Option Template.Supply :=
  match record.arguments with
  | [] => none
  | [.object (field :: fields)] => some (.ofFields (field :: fields))
  | values => some (.ofList values)

/-- The text of a record. A message without values is no template. -/
def text (record : Record) : Except Template.Fault String :=
  match record.supply? with
  | none => .ok record.message.plain
  | some supply => Template.fill record.message.plain supply

/-- The record of a message in a context. Fields given with the message win over those of the
context. -/
def inContext (context extra : List (String × Value)) (record : Record) : Except Fault Record :=
  let fields := Value.mergeFields context extra
  let shown := contextText fields
  let message := if shown.isEmpty then record.message else .text (record.message.plain ++ shown)
  { record with message }.attach fields

end Record

/-- Checks the fields of a context: one that is called "name" cannot be told from the name of the
logger. -/
def checkContext (context : List (String × Value)) : Except Fault Unit :=
  if context.any fun (name, _) => name == "name" then .error .misused else .ok ()

def logIn (context extra : List (String × Value)) (record : Record) : Except Fault Record := do
  checkContext context
  record.inContext context extra

def levelOf? : String → Option LogLevel
  | "debug" => some .debug
  | "info" => some .info
  | "warning" | "warn" => some .warning
  | "error" | "exception" => some .error
  | "critical" => some .critical
  | _ => none

/-- The words that mean something else to a logger in a context. -/
def otherWords : List String := [
  "extra", "getEffectiveLevel", "hasHandlers", "isEnabledFor", "log", "logger", "manager", "name",
  "process", "setLevel"]

/-- The words that mean something else to a logger. -/
def plainOtherWords : List String := [
  "addFilter", "addHandler", "callHandlers", "disabled", "filter", "filters", "findCaller",
  "getChild", "getEffectiveLevel", "handle", "handlers", "hasHandlers", "isEnabledFor", "level",
  "log", "makeRecord", "manager", "name", "parent", "propagate", "removeFilter", "removeHandler",
  "root", "setLevel"]

/-- The level that a word asks for. Without a context there is one more word for the highest. -/
def levelOf (inContext : Bool) (word : String) : Except Fault LogLevel :=
  match levelOf? word with
  | some level => .ok level
  | none =>
    if !inContext && word == "fatal" then .ok .critical
    else if (if inContext then otherWords else plainOtherWords).contains word then .error .misused
    else .error (.unknownLevel word)

/-- Logs an event with its fields, in a context if there is one. -/
def logEvent (logger : String) (context : Option (List (String × Value))) (word event : String)
    (fields : List (String × Value)) : Except Fault Record := do
  checkContext (context.getD [])
  if fields.any fun (name, _) => ["logger", "level", "event"].contains name then throw .misused
  let level ← levelOf context.isSome word
  let record : Record := { logger, level, message := .text (eventText event fields) }
  let extra := ("event", Value.text event) :: fields
  match context with
  | some context => record.inContext context extra
  | none => record.attach extra

end RoleGrants.Log
