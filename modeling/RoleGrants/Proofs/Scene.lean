import RoleGrants.Proofs.Calm
import RoleGrants.Proofs.Chart
import RoleGrants.Proofs.Running

/-! What a run in which nothing fails makes of a cluster and of the metrics, and which calls that
may change objects it makes. In the logic of scenes a program ends well when its calls are answered
as a cluster answers them and its reports are taken, whatever the clock shows. What is logged and
counted leaves a scene as it is. -/

namespace RoleGrants

open DryRun

/-- Whether a call may change the objects of the store. -/
def StoreCall.mutates : StoreCall → Bool
  | .createBinding _ => true
  | .updateStatus _ => true
  | _ => false

theorem StoreCall.mutates_eq (request : StoreCall) :
    request.mutates = mutations.contains request.operation := by
  cases request <;> rfl

/-- The call of an event, if it may have changed objects. -/
def Event.mutation? : Event → Option StoreCall
  | .called request _ => if request.mutates then some request else none
  | _ => none

def mutationsIn (past : List Event) : List StoreCall := past.filterMap Event.mutation?

theorem mutationsIn_concat (past : List Event) (event : Event) :
    mutationsIn (past ++ [event]) = mutationsIn past ++ event.mutation?.toList := by
  rw [mutationsIn, List.filterMap_append]
  cases h : event.mutation? <;> simp [mutationsIn, h]

/-- That no call may have changed objects, in the names of the operations. -/
theorem not_mutates_of_mutationsIn {past : List Event} (h : mutationsIn past = []) :
    ∀ request answer, .called request answer ∈ past →
      request.operation ∉ StoreCall.mutations := by
  intro request answer hmem hmutates
  have hcall : request.mutates = true := by
    rw [StoreCall.mutates_eq]
    exact List.contains_iff_mem.mpr hmutates
  have hcalled : request ∈ mutationsIn past :=
    List.mem_filterMap.mpr ⟨_, hmem, by rw [Event.mutation?, hcall, if_pos rfl]⟩
  rw [h] at hcalled
  cases hcalled

/-- A cluster, the metrics, and the calls so far that may have changed objects. -/
structure Scene where
  cluster : Cluster
  sink : Sink
  mutations : List StoreCall := []

def DryRun.World.scene (world : World) : Scene := ⟨world.cluster, world.sink, []⟩

namespace Scene

variable {scene : Scene}

/-- The scene after a report. -/
def reported (scene : Scene) (item : Report) : Scene :=
  { scene with sink := scene.sink.after (.reported item item.result) }

/-- The scene after a call that is answered as the cluster answers it. -/
def called (scene : Scene) (request : StoreCall) : Scene where
  cluster := (scene.cluster.answer request).2
  sink := scene.sink
  mutations := if request.mutates then scene.mutations ++ [request] else scene.mutations

theorem called_eq_self {request : StoreCall} (h : request.mutates = false) :
    scene.called request = scene := by
  cases request with
  | createBinding binding => cases h
  | updateStatus policy => cases h
  | _ => rfl

/-- The scene after some bindings were created. -/
def making (scene : Scene) (new : List Binding) : Scene where
  cluster := scene.cluster.extend new
  sink := scene.sink
  mutations := scene.mutations ++ new.map .createBinding

/-- Whether a scene is what some events have made of a world at their end. -/
structure Shows (scene : Scene) (past : List Event) (world : World) : Prop where
  fresh : world.isStale = false
  cluster : world.cluster = scene.cluster
  sink : world.sink = scene.sink
  mutations : mutationsIn past = scene.mutations

/-- The logic of what a run in which nothing fails makes of a scene. -/
def logic : Logic Scene where
  judge scene _ post := ∀ moment, (∃ text, Timestamp.ofMoment moment = .ok text) → post moment scene
  report scene item post := post item.result (scene.reported item)
  call scene request post := post (scene.cluster.answer request).1 (scene.called request)
  judge_mono h hpost moment hdated := hpost _ _ (h moment hdated)
  report_mono h hpost := hpost _ _ h
  call_mono h hpost := hpost _ _ h

instance : logic.IsCalm := ⟨Iff.rfl, Iff.rfl⟩

end Scene

namespace Program

variable {α : Type} {scene : Scene} {good : Scene → α → Prop} {bad : Scene → Failure → Prop}

/-- Whether a program that starts in a scene ends well when nothing fails. -/
abbrev Leaves (good : Scene → α → Prop) (bad : Scene → Failure → Prop) (scene : Scene)
    (program : Program α) : Prop :=
  program.Holds Scene.logic good bad scene

/-- A call that only reads leaves the scene as it is. -/
theorem leaves_read (request : StoreCall) {good : Scene → request.Answer → Prop}
    (h : request.mutates = false) : (ask request).Leaves good bad scene ↔
      (done (scene.cluster.answer request).1).Leaves good bad scene := by
  change (done (scene.cluster.answer request).1).Leaves good bad (scene.called request) ↔ _
  rw [Scene.called_eq_self h]

theorem leaves_report {item : Report} {good : Scene → Unit → Prop}
    (hgood : item.result = .ok () → good (scene.reported item) ())
    (hbad : ∀ failure, item.result = .error failure → bad (scene.reported item) failure) :
    (report item .done).Leaves good bad scene :=
  holds_ofExcept.mpr ⟨fun _ => hgood, hbad⟩

end Program

/-! ### Runs on a calm course -/

namespace Scene.Shows

variable {scene : Scene} {past : List Event} {world : World}

theorem judged (h : scene.Shows past world) (verdict : Verdict) (moment : Int) :
    scene.Shows (past ++ [.judged verdict moment]) world :=
  ⟨h.fresh, h.cluster, h.sink, by simpa [mutationsIn_concat, Event.mutation?] using h.mutations⟩

theorem reported (h : scene.Shows past world) (item : Report) :
    (scene.reported item).Shows (past ++ [.reported item (world.report item).1])
      (world.report item).2 where
  fresh := (world.report_isStale item).trans h.fresh
  cluster := (world.report_cluster item).1.trans h.cluster
  sink := by
    rw [(World.Undergoes.reported item).sink, world.report_result item, h.sink]
    rfl
  mutations := by
    simpa [mutationsIn_concat, Event.mutation?, Scene.reported] using h.mutations

theorem called (h : scene.Shows past world) (request : StoreCall) :
    ((world.facing none request).call request).1 = (scene.cluster.answer request).1 ∧
      (scene.called request).Shows
        (past ++ [.called request ((world.facing none request).call request).1])
        ((world.facing none request).call request).2 := by
  obtain ⟨hanswer, hlater⟩ := world.call_facing_none request
  rw [world.answer_eq h.fresh, h.cluster] at hanswer hlater
  refine ⟨hanswer, ((world.facing none request).call_isStale request).trans h.fresh, hlater,
    (World.call_sink _ _).trans h.sink, ?_⟩
  rw [mutationsIn_concat, h.mutations, Scene.called, Event.mutation?]
  cases request.mutates <;> simp

end Scene.Shows

namespace Clock

variable {α : Type} {good : Scene → α → Prop} {bad : Scene → Failure → Prop} {program : Program α}

theorem leaves_run (clock : Clock) {past : List Event} {world : World} {scene : Scene}
    (h : program.Leaves good bad scene) (hshows : scene.Shows past world) :
    ∃ later : Scene, later.Shows (clock.calm.run past world program).past
        (clock.calm.run past world program).world ∧
      (Program.done (clock.calm.run past world program).result).Leaves good bad later := by
  induction program generalizing past world scene with
  | done result => exact ⟨scene, hshows, h⟩
  | judge verdict next ih => exact ih _ (h _ (clock.dated past)) (hshows.judged verdict _)
  | report item next ih =>
    have hnext : (next (world.report item).1).Leaves good bad (scene.reported item) := by
      rw [world.report_result item]
      exact h
    exact ih _ hnext (hshows.reported item)
  | call request next ih =>
    obtain ⟨hanswer, hlater⟩ := hshows.called request
    have hnext : (next ((world.facing none request).call request).1).Leaves good bad
        (scene.called request) := by
      rw [hanswer]
      exact h
    exact ih _ hnext hlater

/-- On a calm course a program leaves of a world what it leaves of its scene. -/
theorem leaves_play (clock : Clock) {world : World} (h : program.Leaves good bad world.scene)
    (hfresh : world.isStale = false) :
    ∃ later : Scene, later.Shows (clock.calm.play world program).past
        (clock.calm.play world program).world ∧
      (Program.done (clock.calm.play world program).result).Leaves good bad later :=
  clock.leaves_run h ⟨hfresh, rfl, rfl, rfl⟩

end Clock

end RoleGrants
