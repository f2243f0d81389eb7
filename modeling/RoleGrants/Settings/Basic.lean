import RoleGrants.Log.Level

/-! The settings of the operator and what they are when nothing is set. -/

namespace RoleGrants

/-- Where the operator runs. -/
inductive Deployment where
  | development
  | staging
  | production
  deriving DecidableEq, Inhabited

namespace Deployment

def all : List Deployment :=
  [.development, .staging, .production]

def name : Deployment → String
  | .development => "development"
  | .staging => "staging"
  | .production => "production"

def ofName? (name : String) : Option Deployment :=
  all.find? fun deployment => deployment.name == name

@[simp] theorem ofName?_name (deployment : Deployment) :
    ofName? deployment.name = some deployment := by
  cases deployment <;> decide

end Deployment

/-- The settings of the operator. Without a namespace to watch, the whole cluster is watched. Delays
are in seconds. -/
structure Settings where
  appName : String := "rbac-permissions-operator"
  appVersion : String := "0.1.0"
  deployment : Deployment := .development
  watched : Option String := none
  group : String := "managed.openshift.io"
  version : String := "v1alpha1"
  plural : String := "subjectpermissions"
  retryDelay : Int := 30
  requeueDelay : Int := 5
  resyncInterval : Int := 600
  workerLimit : Int := 3
  metricsEnabled : Bool := true
  metricsPort : Int := 8181
  livenessEndpoint : Option String := some "http://0.0.0.0:8081/healthz"
  logLevel : LogLevel := .info
  logFormat : String := "%(asctime)s - %(name)s - %(levelname)s - %(message)s"
  logJson : Bool := false
  deriving Inhabited

namespace Settings

/-- The mark that the operator leaves on policies, so that they are not gone before it has seen
their deletion. -/
def finalizer (settings : Settings) : String :=
  settings.group ++ "/finalizer"

def isClusterwide (settings : Settings) : Bool :=
  settings.watched.isNone

end Settings

end RoleGrants
