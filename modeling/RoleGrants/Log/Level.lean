/-! The levels of log records. -/

namespace RoleGrants

inductive LogLevel where
  | debug
  | info
  | warning
  | error
  | critical
  deriving DecidableEq, Inhabited

namespace LogLevel

/-- The levels, the least severe first. -/
def all : List LogLevel :=
  [.debug, .info, .warning, .error, .critical]

def name : LogLevel → String
  | .debug => "DEBUG"
  | .info => "INFO"
  | .warning => "WARNING"
  | .error => "ERROR"
  | .critical => "CRITICAL"

def severity : LogLevel → Nat
  | .debug => 10
  | .info => 20
  | .warning => 30
  | .error => 40
  | .critical => 50

def ofName? (name : String) : Option LogLevel :=
  all.find? fun level => level.name == name

@[simp] theorem ofName?_name (level : LogLevel) : ofName? level.name = some level := by
  cases level <;> decide

end LogLevel

end RoleGrants
