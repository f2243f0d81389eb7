import RoleGrants.StoreCall
import RoleGrants.Metrics
import RoleGrants.Condition.Tracker
import RoleGrants.Log.Level
import RoleGrants.Log.Context

/-! Programs of the operator. A program is what is left to do: it has a result, or it reads the
clock to date a verdict, reports something or calls the store of cluster objects, and goes on with
the answer. Nothing here says what the answers are, so one program can be run over any store, with
any failures, and interleaved with others between its calls. -/

namespace RoleGrants

/-- What a program reports besides its result. -/
inductive Report where
  | log (level : LogLevel) (text : String)
  | count (counter : Counter)
  | record (series : Series) (active : Bool)
  | clear (series : Series)

/-- What is left to do. -/
inductive Program (α : Type) where
  | done (result : Except Failure α)
  | judge (verdict : Verdict) (next : Int → Program α)
  | report (item : Report) (next : Except Failure Unit → Program α)
  | call (request : StoreCall) (next : Except Failure request.Answer → Program α)

namespace Program

def bind (program : Program α) (next : α → Program β) : Program β :=
  match program with
  | .done (.ok value) => next value
  | .done (.error failure) => .done (.error failure)
  | .judge verdict rest => .judge verdict fun moment => (rest moment).bind next
  | .report item rest => .report item fun answer => (rest answer).bind next
  | .call request rest => .call request fun answer => (rest answer).bind next

/-- A program that never fails and has the failure of another as its result. -/
def attempt (program : Program α) : Program (Except Failure α) :=
  match program with
  | .done result => .done (.ok result)
  | .judge verdict rest => .judge verdict fun moment => (rest moment).attempt
  | .report item rest => .report item fun answer => (rest answer).attempt
  | .call request rest => .call request fun answer => (rest answer).attempt

instance : Monad Program where
  pure value := .done (.ok value)
  bind := bind

def ofExcept (result : Except Failure α) : Program α :=
  .done result

def fail (failure : Failure) : Program α :=
  .done (.error failure)

def ask (call : StoreCall) : Program call.Answer :=
  .call call .done

def log (context : List (String × Value)) (level : LogLevel) (message : String) : Program Unit :=
  .report (.log level (message ++ Log.contextText context)) .done

def count (counter : Counter) : Program Unit :=
  .report (.count counter) .done

def record (series : Series) : Program Unit :=
  .report (.record series true) .done

def clear (series : Series) : Program Unit :=
  .report (.clear series) .done

def forEach (items : List α) (body : α → Program Unit) : Program Unit :=
  match items with
  | [] => return ()
  | item :: rest => do
    body item
    forEach rest body

/-- Runs a program for each item of a list, each with the result of the one before. -/
def fold (items : List α) (start : β) (body : β → α → Program β) : Program β :=
  match items with
  | [] => return start
  | item :: rest => do fold rest (← body start item) body

/-- Runs a step of a longer work. When the store fails in it, the error is counted and its text says
what the step was to do; that the failure was of a special kind is lost. -/
def inStep (description : String) (program : Program α) : Program α := do
  match ← program.attempt with
  | .ok value => return value
  | .error failure =>
    if failure.isStore then
      count (.errors "repository")
      fail (.store .general s!"failed to {description}: {failure.message}")
    else fail failure

/-- Sets a condition at the moment that the clock shows. -/
def upsert (tracker : Tracker) (verdict : Verdict) : Program Tracker :=
  .judge verdict fun moment => .done (tracker.upsert moment verdict)

/-- The namespaces that can receive bindings. Each of the others is logged. -/
def validNamespaces (spaces : List Namespace) : Program (List Namespace) := do
  forEach (spaces.filter fun space => !space.isValid) fun space =>
    log [] .debug space.passedOver
  return spaces.filter Namespace.isValid

end Program

end RoleGrants
