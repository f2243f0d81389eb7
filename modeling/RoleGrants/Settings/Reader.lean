import RoleGrants.Settings.Form
import RoleGrants.Text.Case

/-! Reading the settings from what is given directly and from the environment. What is given
directly wins. Names are matched in letters of either case. Names in the environment that are no
setting's are passed over, but nothing else may be given directly. All breaches are found, those of
settings in the order of the settings. -/

namespace RoleGrants.Settings

def names : List String := [
  "app_name", "app_version", "environment", "watch_namespace", "crd_group", "crd_version",
  "crd_plural", "retry_delay", "requeue_delay", "resync_interval", "worker_limit",
  "metrics_enabled", "metrics_port", "liveness_endpoint", "log_level", "log_format", "log_json"]

def isNamed (setting given : String) : Bool :=
  Text.lowerAll given == setting.toList.map Char.toNat

/-- The value given for a setting. The last of several wins. -/
def given? (setting : String) (given : List (String × Value)) : Option Value :=
  (given.reverse.find? fun (name, _) => isNamed setting name).map (·.2)

/-- What is read, or every breach found in reading it. -/
def Reading (α : Type) : Type :=
  Except (List Breach) α

/-- A function and its argument, with the breaches of both. -/
def Reading.apply (function : Reading (α → β)) (argument : Reading α) : Reading β :=
  match function, argument with
  | .ok function, .ok argument => .ok (function argument)
  | .error breaches, .ok _ => .error breaches
  | .ok _, .error breaches => .error breaches
  | .error breaches, .error more => .error (breaches ++ more)

instance : Applicative Reading where
  pure value := .ok value
  seq function argument := function.apply (argument ())

/-- Reads one setting, which has its default if no value is given. -/
def readSetting (direct environment : List (String × Value)) (name : String)
    (form : Value → Except Fault α) (default : α) : Reading α :=
  match given? name direct <|> given? name environment with
  | none => .ok default
  | some value =>
    match form value with
    | .ok value => .ok value
    | .error fault => .error [⟨name, fault⟩]

/-- Refuses what is given directly and is no setting. -/
def refuseUnknown (direct : List (String × Value)) : Reading Unit :=
  match direct.filter fun (name, _) => !names.any fun setting => isNamed setting name with
  | [] => .ok ()
  | unknown => .error (unknown.map fun (name, _) => ⟨name, .unknownSetting⟩)

def read (direct environment : List (String × Value)) : Reading Settings :=
  let base : Settings := {}
  let field {α : Type} (name : String) (form : Value → Except Fault α) (default : α) :=
    readSetting direct environment name form default
  Settings.mk
    <$> field "app_name" readText base.appName
    <*> field "app_version" readText base.appVersion
    <*> field "environment" readDeployment base.deployment
    <*> field "watch_namespace" readOptional base.watched
    <*> field "crd_group" readText base.group
    <*> field "crd_version" readText base.version
    <*> field "crd_plural" readText base.plural
    <*> field "retry_delay" (readAtLeast 1) base.retryDelay
    <*> field "requeue_delay" (readAtLeast 1) base.requeueDelay
    <*> field "resync_interval" (readAtLeast 10) base.resyncInterval
    <*> field "worker_limit" (readAtLeast 1) base.workerLimit
    <*> field "metrics_enabled" readTruth base.metricsEnabled
    <*> field "metrics_port" readInteger base.metricsPort
    <*> field "liveness_endpoint" readOptional base.livenessEndpoint
    <*> field "log_level" readLevel base.logLevel
    <*> field "log_format" readText base.logFormat
    <*> field "log_json" readTruth base.logJson
    <* refuseUnknown direct

end RoleGrants.Settings
