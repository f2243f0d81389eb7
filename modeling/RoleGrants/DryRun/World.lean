import RoleGrants.Cluster

/-! Dry runs: programs of the operator run over a cluster in memory, with a clock that stands still,
failures that are asked for, and a journal of what happens. -/

namespace RoleGrants.DryRun

/-- A failure that is asked for: from some call of an operation on, each call of it fails. -/
structure Fault where
  operation : String
  failure : Failure
  after : Nat := 0
  deriving Inhabited

/-- What has happened, in order: the operations called, those of them that succeeded in writing, the
lines logged and the counters moved. -/
structure Journal where
  calls : List String := []
  written : List Policy := []
  created : List Binding := []
  logs : List (LogLevel × String) := []
  counts : List Counter := []
  deriving Inhabited

/-- A cluster and what surrounds it. While it is stale, no bindings are listed. -/
structure World where
  cluster : Cluster := {}
  faults : List Fault := []
  isStale : Bool := false
  clock : Int := 1705307400
  sink : Sink := {}
  journal : Journal := {}
  deriving Inhabited

namespace Journal

def log (journal : Journal) (level : LogLevel) (text : String) : Journal :=
  { journal with logs := journal.logs ++ [(level, text)] }

/-- The journal with what a successful call has written. -/
def note (journal : Journal) : StoreCall → Journal
  | .createBinding binding => { journal with created := journal.created ++ [binding] }
  | .updateStatus policy => { journal with written := journal.written ++ [policy] }
  | _ => journal

def mutations (journal : Journal) : List String :=
  journal.calls.filter fun operation => StoreCall.mutations.contains operation

def since (journal earlier : Journal) : Journal where
  calls := journal.calls.drop earlier.calls.length
  written := journal.written.drop earlier.written.length
  created := journal.created.drop earlier.created.length
  logs := journal.logs.drop earlier.logs.length
  counts := journal.counts.drop earlier.counts.length

end Journal

/-- The failure of the next call of an operation, if one is asked for, and the faults after the
call. -/
def nextFailure? (operation : String) : List Fault → Option Failure × List Fault
  | [] => (none, [])
  | fault :: rest =>
    if fault.operation == operation then
      match fault.after with
      | 0 => (some fault.failure, fault :: rest)
      | after + 1 => (none, { fault with after } :: rest)
    else
      let (failure, rest) := nextFailure? operation rest
      (failure, fault :: rest)

namespace World

/-- The answer of the cluster to a call, unless bindings are listed while the world is stale. -/
def answer (world : World) : (call : StoreCall) → Except Failure call.Answer × Cluster
  | .listClusterRoleBindings =>
    if world.isStale then (.ok [], world.cluster)
    else world.cluster.answer .listClusterRoleBindings
  | .listRoleBindings space =>
    if world.isStale then (.ok [], world.cluster)
    else world.cluster.answer (.listRoleBindings space)
  | call => world.cluster.answer call

/-- The answer to a call in a world, and the world after it. A call is in the journal even if it
fails. -/
def call (world : World) (call : StoreCall) : Except Failure call.Answer × World :=
  let journal := { world.journal with calls := world.journal.calls ++ [call.operation] }
  let (failure, faults) := nextFailure? call.operation world.faults
  let world := { world with faults, journal }
  match failure with
  | some failure => (.error failure, world)
  | none =>
    match world.answer call with
    | (.error failure, cluster) => (.error failure, { world with cluster })
    | (.ok value, cluster) => (.ok value, { world with cluster, journal := journal.note call })

def report (world : World) : Report → Except Failure Unit × World
  | .log level text => (.ok (), { world with journal := world.journal.log level text })
  | .count counter =>
    let journal := { world.journal with counts := world.journal.counts ++ [counter] }
    (.ok (), { world with journal })
  | .record series active =>
    let (result, sink) := world.sink.record series active
    (result, { world with sink })
  | .clear series =>
    match world.sink.clear series with
    | (.ok true, sink) => (.ok (), { world with sink })
    | (.ok false, sink) =>
      (.ok (), { world with sink, journal := world.journal.log .info series.neverRecorded })
    | (.error failure, sink) => (.error failure, { world with sink })

def run (world : World) : Program α → Except Failure α × World
  | .done result => (result, world)
  | .judge _ next => world.run (next world.clock)
  | .report item next =>
    let (result, after) := world.report item
    after.run (next result)
  | .call request next =>
    let (result, after) := world.call request
    after.run (next result)

/-- Running two programs one after another is running the second in the world after the first,
unless the first fails. -/
theorem run_bind (world : World) (program : Program α) (next : α → Program β) :
    world.run (program.bind next) =
      match world.run program with
      | (.ok value, after) => after.run (next value)
      | (.error failure, after) => (.error failure, after) := by
  induction program generalizing world with
  | done result => cases result <;> rfl
  | judge verdict rest ih => exact ih _ world
  | report item rest ih => exact ih _ _
  | call request rest ih => exact ih _ _

end World

end RoleGrants.DryRun
