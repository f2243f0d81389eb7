import RoleGrants.Value.Access

/-! What the operator counts and measures: counters of its passes and calls, and one series for each
granted permission, which is a gauge until the permission is released. -/

namespace RoleGrants

inductive Counter where
  /-- Passes of a controller that ended in a way. -/
  | passes (controller outcome : String)
  | timings (controller : String)
  /-- Attempts to create a binding of a kind that ended in a way. -/
  | creations (kind result : String)
  | errors (type : String)
  deriving DecidableEq, Inhabited

/-- The name of a counter with the values of its labels. -/
def Counter.labels : Counter → List String
  | .passes controller outcome => ["reconcile_total", controller, outcome]
  | .timings controller => ["reconcile_duration", controller]
  | .creations kind result => ["binding_operations", kind, result]
  | .errors type => ["operator_errors", type]

/-- A granted permission: a role granted to a subject by a policy in a scope. -/
structure Series where
  subject : Value
  policy : Value
  role : Value
  scope : Value
  deriving Inhabited

def clusterScope : String := "cluster"

def namespaceScope : String := "namespace"

namespace Series

def parts (series : Series) : List Value :=
  [series.subject, series.policy, series.role, series.scope]

def same (a b : Series) : Bool :=
  Value.sameItems a.parts b.parts

def labels (series : Series) : List String :=
  series.parts.map Value.plain

def neverRecorded (series : Series) : String :=
  s!"No permission metric to remove: subject_name='{series.subject.plain}', " ++
    s!"permission_policy='{series.policy.plain}', role_name='{series.role.plain}', " ++
    s!"scope='{series.scope.plain}'"

end Series

/-- The gauges by their labels, and the series that are recorded. -/
structure Sink where
  gauges : List (List String × Bool) := []
  recorded : List Series := []
  deriving Inhabited

namespace Sink

/-- The gauges with one of them set: in place if it is there, and at the end if not. -/
def setGauge (gauges : List (List String × Bool)) (labels : List String) (active : Bool) :
    List (List String × Bool) :=
  match gauges with
  | [] => [(labels, active)]
  | (other, value) :: rest =>
    if other == labels then (labels, active) :: rest
    else (other, value) :: setGauge rest labels active

/-- Records a series. Its gauge is set even if the series cannot be kept. -/
def record (sink : Sink) (series : Series) (active : Bool) : Except Failure Unit × Sink :=
  let gauged := { sink with gauges := setGauge sink.gauges series.labels active }
  match Value.requireKeys series.parts with
  | .error failure => (.error failure, gauged)
  | .ok () =>
    if sink.recorded.any series.same then (.ok (), gauged)
    else (.ok (), { gauged with recorded := sink.recorded ++ [series] })

/-- Releases a series and says whether it was recorded. -/
def clear (sink : Sink) (series : Series) : Except Failure Bool × Sink :=
  match Value.requireKeys series.parts with
  | .error failure => (.error failure, sink)
  | .ok () =>
    if sink.recorded.any series.same then
      (.ok true, {
        gauges := sink.gauges.filter fun (labels, _) => labels != series.labels
        recorded := sink.recorded.filter fun other => !other.same series })
    else (.ok false, sink)

end Sink

end RoleGrants
