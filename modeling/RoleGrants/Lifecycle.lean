import RoleGrants.Settings.Basic

/-! The life of the operator: how the watching of the cluster is configured, what is done when the
operator starts and when it stops, and how it is run. -/

namespace RoleGrants.Lifecycle

/-- Something that is done besides passes. -/
inductive Act where
  | log (text : String)
  | setUpLogging
  | serveMetrics (port : Int)
  | makeSink
  | makePolicyPasses
  | makeNamespacePasses
  | watch (space : Option String) (livenessEndpoint : Option String)
  deriving DecidableEq, Inhabited

/-- How the cluster is watched. Times are in seconds. -/
structure Watching where
  workerLimit : Int
  posting : Bool := false
  serverTimeout : Int := 300
  clientTimeout : Int := 310
  connectTimeout : Int := 10
  finalizer : String
  progressMark : String
  deriving DecidableEq, Inhabited

def watching (settings : Settings) : Watching where
  workerLimit := settings.workerLimit
  finalizer := settings.finalizer
  progressMark := settings.group

/-- What is done when the watching has been configured. -/
def configured : List Act :=
  [.log "Kopf configured"]

def startup (settings : Settings) : List Act :=
  let metrics :=
    if settings.metricsEnabled then
      [.serveMetrics settings.metricsPort,
        .log s!"Serving metrics on port {settings.metricsPort}"]
    else []
  [.log s!"{settings.appName} {settings.appVersion} starting up"] ++ metrics ++
    [.makeSink, .makePolicyPasses, .makeNamespacePasses, .log "Operator ready"]

def cleanup (settings : Settings) : List Act :=
  [.log s!"{settings.appName} shutting down"]

def run (settings : Settings) : List Act :=
  [.setUpLogging, .watch settings.watched settings.livenessEndpoint]

end RoleGrants.Lifecycle
