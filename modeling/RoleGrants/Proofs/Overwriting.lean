import RoleGrants.Proofs.Regularity

/-! What becomes of the conditions that a pass writes. A pass writes back all conditions of a policy
as it read them, with its own verdicts among them, and nothing tells it that another pass has
written them meanwhile. So a condition that one pass alone sets stays as it was written, unless
another pass that read the policy before that writes it afterwards; then the condition can be lost.
-/

namespace RoleGrants

open DryRun

namespace Policy

def condition? (policy : Policy) (type : ConditionType) : Option Condition :=
  policy.conditions.find? fun condition => condition.type == type

structure HasKey (policy : Policy) (space name : String) : Prop where
  space : policy.space = .text space
  name : policy.name = .text name

/-- Whether two policies are kept under different keys. -/
def IsApart (policy other : Policy) : Prop :=
  policy.space = other.space → policy.name ≠ other.name

theorem HasKey.isPolicy {policy other : Policy} {space name : String}
    (h : policy.HasKey space name) :
    Cluster.isPolicy other.space other.name policy = true ↔ other.HasKey space name := by
  rw [Cluster.isPolicy, h.space, h.name, Bool.and_eq_true, Value.text_beq_iff, Value.text_beq_iff]
  exact ⟨fun hkey => ⟨hkey.1, hkey.2⟩, fun hkey => ⟨hkey.space, hkey.name⟩⟩

end Policy

/-- Whether an event writes the status of the policy under a key. -/
def Event.Writes (space name : String) : Event → Prop
  | .called (.updateStatus written) _ => written.HasKey space name
  | _ => False

/-- Whether a cluster shows a condition in the policies under a key. -/
def Cluster.Shows (cluster : Cluster) (space name : String) (condition : Condition) : Prop :=
  ∀ policy ∈ cluster.policies, policy.HasKey space name →
    policy.condition? condition.type = some condition

/-- Whether an event that reads policies shows a condition in those under a key. -/
def Event.Shows (space name : String) (condition : Condition) : Event → Prop
  | .called (.getPolicy _ _) (.ok policy) => policy.HasKey space name →
    policy.condition? condition.type = some condition
  | .called .listPolicies (.ok policies) => ∀ policy ∈ policies, policy.HasKey space name →
    policy.condition? condition.type = some condition
  | _ => True

section

variable {space name : String} {condition : Condition} {past : List Event} {written : Policy}

theorem Event.IsSteady.shows {event : Event} (h : event.IsSteady) :
    event.Shows space name condition := by
  unfold Shows
  split
  · exact h.elim
  · exact h.elim
  · trivial

theorem DryRun.World.Happens.shows {world after : World} {event : Event}
    (h : world.Happens event after) (hworld : world.IsFaultless)
    (hstored : world.cluster.Shows space name condition) : event.Shows space name condition := by
  cases h with
  | judge htime => trivial
  | report => trivial
  | @call request =>
    rw [(World.call_eq hworld request).1]
    cases request with
    | getPolicy home label =>
      dsimp only [Cluster.answer]
      cases hanswer : world.cluster.getPolicy home label with
      | error failure => trivial
      | ok policy =>
        obtain ⟨-, -, hfound⟩ := exists_of_bind_ok hanswer
        split at hfound
        · next found hfind =>
          cases hfound
          exact hstored _ (List.mem_of_find?_eq_some hfind)
        · cases hfound
    | listPolicies => exact hstored
    | _ => trivial

theorem DryRun.World.Happens.policies {world after : World} {event : Event}
    (h : world.Happens event after) (hworld : world.IsFaultless) :
    after.cluster.policies = world.cluster.policies ∨
      ∃ written answer, event = .called (.updateStatus written) answer ∧
        after.cluster = world.cluster.changePolicy written.space written.name fun kept =>
          { kept with conditions := written.conditions } := by
  cases h with
  | judge htime => exact .inl rfl
  | @report item => exact .inl (by rw [(world.report_cluster item).1])
  | @call request =>
    rw [(World.call_eq hworld request).2.1]
    cases request with
    | createBinding binding =>
      dsimp only [Cluster.answer]
      split
      · next after hafter =>
        obtain ⟨rfl, -⟩ := Cluster.createBinding_ok hafter
        exact .inl rfl
      · exact .inl rfl
    | updateStatus written =>
      dsimp only [Cluster.answer]
      split
      · next after hafter => exact .inr ⟨written, _, rfl, Cluster.updateStatus_ok hafter⟩
      · exact .inl rfl
    | _ => exact .inl rfl

/-- After a write of conditions the cluster shows those of the policy that was written, and of any
other policy those that it showed before. -/
theorem Cluster.Shows.changePolicy {cluster : Cluster}
    (hwritten : written.HasKey space name → written.condition? condition.type = some condition)
    (hstored : ¬ written.HasKey space name → cluster.Shows space name condition) :
    (cluster.changePolicy written.space written.name fun kept =>
      { kept with conditions := written.conditions }).Shows space name condition := by
  intro policy hmem hkey
  obtain ⟨kept, hkept, rfl⟩ := List.mem_map.mp hmem
  dsimp only at hkey ⊢
  split
  · next hsame =>
    rw [if_pos hsame] at hkey
    have hkeptKey : kept.HasKey space name := ⟨hkey.space, hkey.name⟩
    exact hwritten (hkeptKey.isPolicy.mp hsame)
  · next hother =>
    rw [if_neg hother] at hkey
    exact hstored (fun h => hother (hkey.isPolicy.mpr h)) kept hkept hkey

end

/-! ### The conditions that a pass writes -/

section

variable {space name : String} {condition : Condition} {past : List Event} {written : Policy}

theorem PolicyPass.get?_forgetBreaches {types : List ConditionType} {tracker after : Tracker}
    (h : forgetBreaches tracker types = .ok after)
    (hget : tracker.get? condition.type = some condition)
    (hbreach : tellsOfBreach (some condition) = .ok false) :
    after.get? condition.type = some condition := by
  induction types generalizing tracker with
  | nil =>
    cases h
    exact hget
  | cons type rest ih =>
    obtain ⟨mended, hmended, h⟩ := exists_of_bind_ok h
    refine ih h ?_
    cases mended with
    | false => exact hget
    | true =>
      have hother : type ≠ condition.type := by
        rintro rfl
        rw [hget, hbreach] at hmended
        cases hmended
      rw [if_pos rfl, Tracker.get?_remove, if_neg hother, hget]

theorem PolicyPass.get?_opening {policy : Policy} {initial : Tracker}
    (h : opening policy = .ok initial) (hget : policy.condition? condition.type = some condition)
    (hbreach : tellsOfBreach (some condition) = .ok false) :
    initial.get? condition.type = some condition := by
  have hstart := (Tracker.get?_start policy.conditions condition.type).trans hget
  unfold opening at h
  split at h
  · exact get?_forgetBreaches h hstart hbreach
  · cases h
    exact hstart

/-- A pass that read policies with a condition, and gave no verdict of its type, writes it back. -/
theorem Trigger.condition?_of_shows {trigger : Trigger}
    (hdemand : trigger.contract.demands past (.updateStatus written))
    (hkey : written.HasKey space name) (hshown : ∀ event ∈ past, event.Shows space name condition)
    (hverdicts : ∀ verdict moment, .judged verdict moment ∈ past → verdict.type ≠ condition.type)
    (hbreach : ∀ home label, trigger = .ofPolicy home label →
      PolicyPass.tellsOfBreach (some condition) = .ok false) :
    written.condition? condition.type = some condition := by
  cases trigger with
  | ofPolicy home label =>
    obtain ⟨policy, tracker, hworking, rfl⟩ := hdemand
    obtain ⟨_, _, hfetched⟩ := hworking.fetched
    obtain ⟨initial, hopening, hreplay⟩ := hworking.tracks
    have hpolicy := hshown _ hfetched ⟨hkey.space, hkey.name⟩
    have hinitial := PolicyPass.get?_opening hopening hpolicy (hbreach home label rfl)
    refine (Tracker.get?_replay_of_ne hreplay fun item hmem => ?_).trans hinitial
    exact hverdicts _ _ (mem_verdicts hmem)
  | ofNamespace home =>
    obtain ⟨policy, hconcluded⟩ := hdemand
    obtain ⟨policies, done, hreading, hpart, -⟩ := hconcluded.read
    obtain ⟨moment, tracker, hjudged, hupsert, rfl⟩ := hconcluded.judged
    have hmem : policy ∈ policies := hpart.subset List.mem_concat_self
    have hpolicy := hshown _ hreading.listed policy hmem ⟨hkey.space, hkey.name⟩
    have hstart := (Tracker.get?_start policy.conditions condition.type).trans hpolicy
    exact (Tracker.get?_upsert_of_ne hupsert (hverdicts _ _ hjudged)).trans hstart

/-- A pass writes a condition of each type that it gave a verdict of. That of a pass over a
namespace does not tell of a breach. -/
theorem Trigger.exists_condition {trigger : Trigger} {verdict : Verdict} {moment : Int}
    (hdemand : trigger.contract.demands past (.updateStatus written))
    (hjudges : trigger.contract.judges verdict) (hjudged : .judged verdict moment ∈ past) :
    ∃ condition, written.condition? condition.type = some condition ∧
      condition.type = verdict.type ∧ ∀ home, trigger = .ofNamespace home →
      PolicyPass.tellsOfBreach (some condition) = .ok false := by
  cases trigger with
  | ofPolicy home label =>
    obtain ⟨policy, tracker, hworking, rfl⟩ := hdemand
    obtain ⟨initial, hopening, hreplay⟩ := hworking.tracks
    have hverdict : (verdict, moment) ∈ verdicts past := List.mem_filterMap.mpr ⟨_, hjudged, rfl⟩
    obtain ⟨condition, hcondition⟩ :=
      Tracker.exists_get?_replay hreplay ⟨_, hverdict, rfl⟩
    have htype : condition.type = verdict.type := Tracker.type_of_get? hcondition
    exact ⟨condition, by rw [htype]; exact hcondition, htype, nofun⟩
  | ofNamespace home =>
    obtain ⟨policy, hconcluded⟩ := hdemand
    obtain ⟨time, tracker, -, hupsert, rfl⟩ := hconcluded.judged
    obtain ⟨condition, hcondition, hmessage⟩ := Tracker.get?_upsert hupsert
    have htype : condition.type = .roleBindingCreated := Tracker.type_of_get? hcondition
    refine ⟨condition, by rw [htype]; exact hcondition, htype.trans hjudges.1.symm, fun _ _ => ?_⟩
    rw [PolicyPass.tellsOfBreach, hmessage]
    rfl

/-- A pass writes the status of a policy once, if policies are kept under different keys. -/
theorem Trigger.not_writes {trigger : Trigger} {rest : Program Bool} {later : List Event}
    {answer : Except Failure Unit} {base cluster : Cluster}
    (hafter : trigger.pass.After (past ++ .called (.updateStatus written) answer :: later) rest)
    (hseen : ∀ event ∈ past ++ .called (.updateStatus written) answer :: later,
      event.IsSeen base cluster) (htextual : ∀ policy ∈ cluster.owned, policy.IsTextual)
    (hapart : cluster.owned.Pairwise Policy.IsApart) (hkey : written.HasKey space name) :
    ∀ event ∈ past, ¬ event.Writes space name := by
  intro event hmem hwrites
  unfold Event.Writes at hwrites
  split at hwrites
  · next first other =>
    have hdemand := trigger.meets_pass.demanded_at hafter (typed_of_seen hseen htextual)
    cases trigger with
    | ofPolicy home label =>
      obtain ⟨policy, tracker, hworking, -⟩ := hdemand
      exact hworking.unwritten _ _ hmem
    | ofNamespace home =>
      obtain ⟨policy, hconcluded⟩ := hdemand
      obtain ⟨policies, done, hreading, hpart, hwrote⟩ := hconcluded.read
      obtain ⟨moment, tracker, -, -, rfl⟩ := hconcluded.judged
      obtain ⟨kept, hkept, hspace, hname⟩ := hwrote _ _ hmem
      obtain ⟨others, heq, howned⟩ := hseen _ (List.mem_append_left _ hreading.listed)
      cases heq
      -- Its earlier writes are of policies that come before this one in the list.
      rw [← howned, List.pairwise_map] at hapart
      have hpair := (List.pairwise_append.mp (hapart.sublist hpart.sublist)).2.2 kept hkept policy
        (List.mem_singleton_self policy)
      exact hpair (hspace.symm.trans (hwrites.space.trans hkey.space.symm))
        (hname.symm.trans (hwrites.name.trans hkey.name.symm))
  · exact hwrites

end

/-! ### Passes that go on after a write -/

/-- Whether a worker that goes on from `worker` to `ended` leaves a condition as it is: it does not
write the status of the policy, or it had not read it and neither sets nor forgets the condition. -/
def Worker.Spares (worker ended : Worker) (space name : String) (condition : Condition) : Prop :=
  (∀ event ∈ ended.past.drop worker.past.length, ¬ event.Writes space name) ∨
    (∀ event ∈ worker.past, event.IsSteady) ∧
    (∀ verdict moment, .judged verdict moment ∈ ended.past → verdict.type ≠ condition.type) ∧
    ∀ home label, worker.trigger = .ofPolicy home label →
      PolicyPass.tellsOfBreach (some condition) = .ok false

/-- Whether a worker neither set nor forgot a condition. -/
structure Worker.LeavesAlone (worker : Worker) (condition : Condition) : Prop where
  unset : ∀ verdict moment, .judged verdict moment ∈ worker.past → verdict.type ≠ condition.type
  unforgotten : ∀ home label, worker.trigger = .ofPolicy home label →
    PolicyPass.tellsOfBreach (some condition) = .ok false

def Pool.Spares (first last : Pool) (space name : String) (condition : Condition) : Prop :=
  ∀ (index : Nat) (worker ended : Worker), first.workers[index]? = some worker →
    last.workers[index]? = some ended → worker.Spares ended space name condition

/-- Whether a condition is stored in a pool, and whatever was read of it since `first` showed it. -/
structure Pool.Keeps (first : Pool) (space name : String) (condition : Condition) (pool : Pool) :
    Prop where
  stored : pool.world.cluster.Shows space name condition
  shown : ∀ (index : Nat) (worker now : Worker), first.workers[index]? = some worker →
    pool.workers[index]? = some now →
    ∀ event ∈ now.past.drop worker.past.length, event.Shows space name condition

namespace Pool

variable {origin : Cluster} {triggers : List Trigger} {first pool later last : Pool}
  {space name : String} {condition : Condition} {index : Nat}

/-- After a step, what was read since `first` shows the condition that was stored. -/
theorem Keeps.shown_step {event : Event} (h : first.Keeps space name condition pool)
    (hworld : pool.world.IsFaultless) (hsteps : first.Steps pool)
    (hstep : pool.Step index event later) {place : Nat} {worker now : Worker}
    (hworker : first.workers[place]? = some worker) (hnow : later.workers[place]? = some now) :
    ∀ known ∈ now.past.drop worker.past.length, known.Shows space name condition := by
  obtain ⟨before, rest, hresumes, hbefore, hafter, hothers⟩ := hstep.exists_worker
  intro known hknown
  by_cases hplace : index = place
  · subst hplace
    cases hafter.symm.trans hnow
    obtain ⟨other, hother, ⟨more, hmore⟩, -⟩ := hsteps.exists_first hbefore
    cases hworker.symm.trans hother
    have hdrop : (before.past ++ [event]).drop worker.past.length =
        before.past.drop worker.past.length ++ [event] := by
      rw [← hmore, List.append_assoc, List.drop_left, List.drop_left]
    change known ∈ (before.past ++ [event]).drop worker.past.length at hknown
    rw [hdrop] at hknown
    rcases List.mem_append.mp hknown with hknown | hknown
    · exact h.shown index worker before hworker hbefore known hknown
    · exact List.mem_singleton.mp hknown ▸ hstep.happens.shows hworld h.stored
  · exact h.shown place worker now hworker ((hothers place hplace).symm.trans hnow) known hknown

theorem Keeps.stored_step {event : Event} (h : first.Keeps space name condition pool)
    (hpool : pool.IsSound origin triggers) (htextual : ∀ policy ∈ origin.owned, policy.IsTextual)
    (hsteps : first.Steps pool) (hstep : pool.Step index event later) (hlast : later.Steps last)
    (hspares : first.Spares last space name condition) :
    later.world.cluster.Shows space name condition := by
  rcases hstep.happens.policies hpool.faultless with heq | ⟨written, answer, rfl, heq⟩
  · exact fun policy hmem => h.stored policy (heq ▸ hmem)
  rw [heq]
  refine Cluster.Shows.changePolicy (fun hkey => ?_) fun _ => h.stored
  obtain ⟨now, rest, hresumes, hbefore, hafter, -⟩ := hstep.exists_worker
  obtain ⟨worker, hworker, ⟨more, hmore⟩, htrigger⟩ := hsteps.exists_first hbefore
  obtain ⟨ended, hended, ⟨rest, hrest⟩, -⟩ := hlast.exists_worker hafter
  have hpast : ended.past = now.past ++ .called (.updateStatus written) answer :: rest := by
    rw [← hrest]
    exact List.append_assoc ..
  rcases hspares index worker ended hworker hended with hnone | ⟨hsteady, hverdicts, hbreach⟩
  · refine absurd hkey (hnone (.called (.updateStatus written) answer) ?_)
    rw [hpast, ← hmore, List.append_assoc, List.drop_left]
    exact List.mem_append_right _ List.mem_cons_self
  · -- What it writes back it read after `first`, when the condition was stored.
    obtain ⟨base, hsees⟩ := hpool.workers now (List.mem_of_getElem? hbefore)
    have hdemand := hsees.demands (hpool.isTextual htextual) hresumes
    have hshown : ∀ event ∈ now.past, event.Shows space name condition := by
      intro event hmem
      have hread := h.shown index worker now hworker hbefore event
      rw [← hmore] at hmem hread
      rw [List.drop_left] at hread
      exact (List.mem_append.mp hmem).elim (fun hmem => (hsteady event hmem).shows) hread
    refine Trigger.condition?_of_shows hdemand hkey hshown (fun verdict moment hmem => ?_)
      fun home label heq => hbreach home label (htrigger ▸ heq)
    exact hverdicts verdict moment (hpast ▸ List.mem_append_left _ hmem)

theorem Keeps.step {event : Event} (h : first.Keeps space name condition pool)
    (hpool : pool.IsSound origin triggers) (htextual : ∀ policy ∈ origin.owned, policy.IsTextual)
    (hsteps : first.Steps pool) (hstep : pool.Step index event later) (hlast : later.Steps last)
    (hspares : first.Spares last space name condition) :
    first.Keeps space name condition later where
  stored := h.stored_step hpool htextual hsteps hstep hlast hspares
  shown _ _ _ hworker hnow := h.shown_step hpool.faultless hsteps hstep hworker hnow

theorem Steps.keeps (hsteps : first.Steps pool) (hlast : pool.Steps last)
    (hfirst : first.IsSound origin triggers) (htextual : ∀ policy ∈ origin.owned, policy.IsTextual)
    (hstored : first.world.cluster.Shows space name condition)
    (hspares : first.Spares last space name condition) :
    first.Keeps space name condition pool := by
  induction hsteps with
  | refl =>
    refine ⟨hstored, fun index worker now hworker hnow event hmem => ?_⟩
    cases hworker.symm.trans hnow
    rw [List.drop_length] at hmem
    cases hmem
  | step hbefore hstep ih =>
    have hpool := ih (Steps.trans (.step .refl hstep) hlast)
    exact hpool.step (hfirst.steps htextual hbefore) htextual hbefore hstep hlast hspares

theorem Step.shows_written {written : Policy} {answer : Except Failure Unit}
    (hstep : pool.Step index (.called (.updateStatus written) answer) later)
    (hpool : pool.IsSound origin triggers) (htextual : ∀ policy ∈ origin.owned, policy.IsTextual)
    (hkey : written.HasKey space name)
    (hwritten : written.condition? condition.type = some condition) :
    later.world.cluster.Shows space name condition := by
  obtain ⟨hworker, hresumes, hhappens⟩ := hstep
  next worker rest after =>
  obtain ⟨base, hsees⟩ := hpool.workers worker (List.mem_of_getElem? hworker)
  have howned := hpool.isTextual htextual
  have hdemand := hsees.demands howned hresumes
  have hproper := Trigger.isProper hdemand hsees.seen howned
  have hcluster : after.cluster = pool.world.cluster.changePolicy written.space written.name
      fun kept => { kept with conditions := written.conditions } := by
    cases hhappens with
    | call => rw [(World.call_eq hpool.faultless _).2.1, StoreCall.updateStatus_answer hproper]
  rw [Pool.update, hcluster]
  exact Cluster.Shows.changePolicy (fun _ => hwritten) fun hother => absurd hkey hother

/-- Whether a worker that has read policies in the pool `before` writes the status of the policy
under a key on its way to `last`. -/
def Overtakes (before last : Pool) (index : Nat) (space name : String) : Prop :=
  ∃ worker ended, before.workers[index]? = some worker ∧ last.workers[index]? = some ended ∧
    (∃ event ∈ worker.past, ¬ event.IsSteady) ∧
    ∃ event ∈ ended.past.drop worker.past.length, event.Writes space name

theorem IsSound.not_writes_again (h : pool.IsSound origin triggers)
    (htextual : ∀ policy ∈ origin.owned, policy.IsTextual)
    (hapart : origin.owned.Pairwise Policy.IsApart) {worker : Worker} (hmem : worker ∈ pool.workers)
    {past rest : List Event} {written : Policy} {answer : Except Failure Unit}
    (hpast : worker.past = past ++ .called (.updateStatus written) answer :: rest)
    (hkey : written.HasKey space name) : ∀ event ∈ rest, ¬ event.Writes space name := by
  intro event hevent hwrites
  obtain ⟨middle, rest, rfl⟩ := List.append_of_mem hevent
  obtain ⟨base, hsees⟩ := h.workers worker hmem
  have hreached := worker.reached
  unfold Event.Writes at hwrites
  split at hwrites
  · next second other =>
    have hsecond : worker.past = (past ++ .called (.updateStatus written) answer :: middle) ++
        .called (.updateStatus second) other :: rest := by
      rw [hpast, List.append_assoc, List.cons_append]
    rw [hsecond] at hreached
    have hseen := hsecond ▸ hsees.seen
    refine Trigger.not_writes hreached hseen (h.isTextual htextual) (h.leads.owned ▸ hapart)
      hwrites (.called (.updateStatus written) answer) ?_ hkey
    exact List.mem_append_right _ List.mem_cons_self
  · exact hwrites

/-- A condition that one worker writes and no other sets or forgets is left as it is, unless another
worker overtakes the write. -/
theorem Step.spares {written : Policy} {answer : Except Failure Unit} {before after : Pool}
    (hstep : before.Step index (.called (.updateStatus written) answer) after)
    (hlast : after.Steps last) (hsound : last.IsSound origin triggers)
    (htextual : ∀ policy ∈ origin.owned, policy.IsTextual)
    (hapart : origin.owned.Pairwise Policy.IsApart) (hkey : written.HasKey space name)
    (halone : ∀ other ended, other ≠ index → last.workers[other]? = some ended →
      ended.LeavesAlone condition)
    (hovertakes : ∀ other, other ≠ index → ¬ before.Overtakes last other space name) :
    after.Spares last space name condition := by
  obtain ⟨writer, rest, hresumes, hwriter, hafter, hothers⟩ := hstep.exists_worker
  intro place worker ended hworker hended
  obtain ⟨now, hnow, ⟨more, hmore⟩, htrigger⟩ := hlast.exists_worker hworker
  cases hnow.symm.trans hended
  -- The writer does not write again, and another one that writes has read nothing before.
  by_cases hplace : place = index
  · subst hplace
    cases hafter.symm.trans hworker
    have hpast : ended.past = writer.past ++ .called (.updateStatus written) answer :: more := by
      rw [← hmore]
      exact List.append_assoc ..
    refine .inl fun event hmem => ?_
    rw [← hmore, List.drop_left] at hmem
    have hworkers := List.mem_of_getElem? hended
    exact hsound.not_writes_again htextual hapart hworkers hpast hkey event hmem
  · by_cases hwrites : ∃ event ∈ ended.past.drop worker.past.length, event.Writes space name
    · have hbefore : before.workers[place]? = some worker :=
        (hothers place (Ne.symm hplace)).symm.trans hworker
      have hsteady : ∀ event ∈ worker.past, event.IsSteady := fun event hmem =>
        Classical.byContradiction fun hreads =>
          hovertakes place hplace ⟨worker, ended, hbefore, hended, ⟨event, hmem, hreads⟩, hwrites⟩
      have hleaves := halone place ended hplace hended
      exact .inr ⟨hsteady, hleaves.unset, htrigger ▸ hleaves.unforgotten⟩
    · exact .inl fun event hmem hevent => hwrites ⟨event, hmem, hevent⟩

/-- Whether only one of a pass over a policy and one over a namespace sets conditions of a type: the
former those on the whole cluster, the latter those in namespaces if the other gave no verdict on
them. -/
inductive SetsAlone (last : Pool) : Nat → ConditionType → Prop
  | ofPolicy : SetsAlone last 0 .clusterRoleBindingCreated
  | ofNamespace : (∀ pass, last.workers[0]? = some pass → ∀ verdict moment,
      .judged verdict moment ∈ pass.past → verdict.type ≠ .roleBindingCreated) →
      SetsAlone last 1 .roleBindingCreated

theorem SetsAlone.leavesAlone {place : String} {other : Nat} {ended : Worker}
    (h : last.SetsAlone index condition.type)
    (hlast : last.IsSound origin [.ofPolicy space name, .ofNamespace place])
    (htextual : ∀ policy ∈ origin.owned, policy.IsTextual)
    (hbreach : ∀ home, [.ofPolicy space name, .ofNamespace place][index]? =
      some (Trigger.ofNamespace home) → PolicyPass.tellsOfBreach (some condition) = .ok false)
    (hne : other ≠ index) (hended : last.workers[other]? = some ended) :
    ended.LeavesAlone condition := by
  have htrigger := hlast.getElem?_triggers hended
  generalize htype : condition.type = type at h
  cases h with
  | ofPolicy =>
    match other, htrigger with
    | 0, _ => exact absurd rfl hne
    | 1, htrigger =>
      have hnamespace : ended.trigger = .ofNamespace place := (Option.some.inj htrigger).symm
      obtain ⟨base, hsees⟩ := hlast.workers ended (List.mem_of_getElem? hended)
      refine ⟨fun verdict moment hjudged heq => ?_, fun home label heq => ?_⟩
      · have hgiven := hsees.type_of_judged (hlast.isTextual htextual) hnamespace hjudged
        cases (heq.trans htype).symm.trans hgiven
      · cases hnamespace ▸ heq
  | ofNamespace hpass =>
    match other, htrigger with
    | 0, _ =>
      refine ⟨fun verdict moment hjudged => ?_, fun _ _ _ => hbreach place rfl⟩
      exact htype ▸ hpass ended hended verdict moment hjudged
    | 1, _ => exact absurd rfl hne

/-- When a pass over a policy and one over a namespace interleave, a condition that only one of them
sets stays as that one writes it, unless the other read policies before the write and writes the
policy after it. -/
theorem Step.not_lost {world : World} {space name place : String} {before after last : Pool}
    {index : Nat} {written : Policy} {answer : Except Failure Unit} {writer : Worker}
    {verdict : Verdict} {moment : Int}
    (hstep : before.Step index (.called (.updateStatus written) answer) after)
    (hbefore : (start world [.ofPolicy space name, .ofNamespace place]).Steps before)
    (hlast : after.Steps last) (hworld : world.IsFaultless)
    (htextual : ∀ policy ∈ world.cluster.policies, policy.IsTextual)
    (hapart : world.cluster.policies.Pairwise Policy.IsApart) (hkey : written.HasKey space name)
    (hwriter : before.workers[index]? = some writer)
    (hjudged : .judged verdict moment ∈ writer.past)
    (halone : last.SetsAlone index verdict.type)
    (hovertakes : ∀ other, other ≠ index → ¬ before.Overtakes last other space name) :
    ∃ condition, condition.type = verdict.type ∧
      written.condition? verdict.type = some condition ∧
      (∃ kept ∈ last.world.cluster.policies, kept.HasKey space name) ∧
      last.world.cluster.Shows space name condition := by
  have howned := Cluster.isTextual_owned htextual
  have hownedApart : world.cluster.owned.Pairwise Policy.IsApart := List.pairwise_map.mpr hapart
  have hpool := Pool.IsSound.run hworld howned hbefore.run
  have hpoolAfter := hpool.step howned hstep
  have hpoolLast := hpoolAfter.steps howned hlast
  obtain ⟨base, hsees⟩ := hpool.workers writer (List.mem_of_getElem? hwriter)
  have hpoolOwned := hpool.isTextual howned
  have hdemand : writer.trigger.contract.demands writer.past (.updateStatus written) := by
    obtain ⟨worker, rest, hresumes, hworker, -⟩ := hstep.exists_worker
    cases hworker.symm.trans hwriter
    exact hsees.demands hpoolOwned hresumes
  have hjudges := hsees.judges hpoolOwned hjudged
  obtain ⟨condition, hcondition, htype, hbreach⟩ :=
    Trigger.exists_condition hdemand hjudges hjudged
  have hothers : ∀ other ended, other ≠ index → last.workers[other]? = some ended →
      ended.LeavesAlone condition := by
    intro other ended hne hended
    refine SetsAlone.leavesAlone (htype ▸ halone) hpoolLast howned ?_ hne hended
    intro home heq
    exact hbreach home (Option.some.inj ((hpool.getElem?_triggers hwriter).symm.trans heq))
  have hspares := hstep.spares hlast hpoolLast howned hownedApart hkey hothers hovertakes
  have hstored := hstep.shows_written hpool howned hkey hcondition
  have hkeeps := Steps.keeps hlast .refl hpoolAfter howned hstored hspares
  obtain ⟨-, -, hmem⟩ := Trigger.isProper hdemand hsees.seen hpoolOwned
  rw [hpool.leads.owned, ← hpoolLast.leads.owned] at hmem
  obtain ⟨kept, hkept, hunreported⟩ := List.mem_map.mp hmem
  have hkeptKey : kept.unreported.HasKey space name := hunreported ▸ ⟨hkey.space, hkey.name⟩
  exact ⟨condition, htype, htype ▸ hcondition, ⟨kept, hkept, hkeptKey.space, hkeptKey.name⟩,
    hkeeps.stored⟩

/-! ### Two passes over one policy -/

/-- Whether a worker can write a condition of a type that the other does not set, and the condition
is not there when both have ended. -/
def Loses (first : Pool) (space name : String) (index : Nat) (type : ConditionType) : Prop :=
  ∃ before after last written answer writer verdict moment, first.Steps before ∧
    before.Step index (.called (.updateStatus written) answer) after ∧ after.Steps last ∧
    written.HasKey space name ∧ before.workers[index]? = some writer ∧
    .judged verdict moment ∈ writer.past ∧ verdict.type = type ∧ last.SetsAlone index type ∧
    (∀ worker ∈ last.workers, worker.isOver = true) ∧
    ∃ kept ∈ last.world.cluster.policies, kept.HasKey space name ∧ kept.condition? type = none

/-- The pool in which a pass over a policy and one over its namespace are about to start. -/
def web : Pool := start .web [.ofPolicy "team" "editor", .ofNamespace "web"]

def webAfter (early : List Nat) (index : Nat) (late : List Nat) : Pool :=
  ((web.play early).advance index).play late

theorem web_isTextual : ∀ policy ∈ World.web.cluster.policies, policy.IsTextual :=
  fun policy hmem => (World.web_isSound.policies policy hmem).toIsTextual

variable {early late : List Nat}

theorem exists_write_web (type : ConditionType)
    (hearly : (web.play early).workers.all (·.earlier == 0) = true)
    (hconcludes : ((web.play early).workers[index]?).any (·.concludes
      (fun written => written.space == .text "team" && written.name == .text "editor")
      fun verdict => verdict.type == type) = true)
    (hover : (webAfter early index late).workers.all Worker.isOver = true) :
    ∃ written answer writer verdict moment, web.Steps (web.play early) ∧
      (web.play early).Step index (.called (.updateStatus written) answer)
        ((web.play early).advance index) ∧
      ((web.play early).advance index).Steps (webAfter early index late) ∧
      written.HasKey "team" "editor" ∧ (web.play early).workers[index]? = some writer ∧
      .judged verdict moment ∈ writer.past ∧ verdict.type = type := by
  obtain ⟨writer, written, answer, verdict, moment, hwriter, hstep, hjudged, htest, hverdict⟩ :=
    exists_step_of_concludes hconcludes
  obtain ⟨hspace, hname⟩ := Bool.and_eq_true_iff.mp htest
  have hclock : Timestamp.ofMoment web.world.clock = .ok "2024-01-15T08:30:00Z" := rfl
  have hafter : Timestamp.ofMoment ((web.play early).advance index).world.clock =
      .ok "2024-01-15T08:30:00Z" := by
    rw [advance_clock, play_clock]
    exact hclock
  refine ⟨written, answer, writer, verdict, moment, (run_play early web hclock).steps ?_, hstep,
    (run_play late _ hafter).steps ?_, ⟨Value.beq_text_iff.mp hspace, Value.beq_text_iff.mp hname⟩,
    hwriter, hjudged, eq_of_beq hverdict⟩
  · exact fun worker hmem => eq_of_beq (List.all_eq_true.mp hearly worker hmem)
  · exact fun worker hmem => worker.earlier_of_isOver (List.all_eq_true.mp hover worker hmem)

/-- Its condition stays if the pass over the policy writes it before the other one starts. -/
theorem Step.not_lost_web : ∃ last condition, web.Run last ∧
    (∀ worker ∈ last.workers, worker.isOver = true) ∧
    condition.type = .clusterRoleBindingCreated ∧
    last.world.cluster.Shows "team" "editor" condition := by
  let early := List.replicate 9 0
  let late := List.replicate 3 0 ++ List.replicate 15 1
  have hover : (webAfter early 0 late).workers.all Worker.isOver = true := by decide +kernel
  obtain ⟨written, answer, writer, verdict, moment, hbefore, hstep, hlast, hkey, hwriter, hjudged,
    htype⟩ :=
    exists_write_web .clusterRoleBindingCreated (by decide +kernel) (by decide +kernel) hover
  have hunstarted : ((web.play early).workers.drop 1).all (·.past.isEmpty) = true := by
    decide +kernel
  have hovertakes : ∀ other, other ≠ 0 →
      ¬ (web.play early).Overtakes (webAfter early 0 late) other "team" "editor" := by
    rintro (_ | other) hne ⟨worker, ended, hworker, -, ⟨event, hmem, -⟩, -⟩
    · exact hne rfl
    · have hdrop : worker ∈ (web.play early).workers.drop 1 :=
        List.mem_of_getElem? (by rw [List.getElem?_drop, Nat.add_comm]; exact hworker)
      rw [List.isEmpty_iff.mp (List.all_eq_true.mp hunstarted worker hdrop)] at hmem
      cases hmem
  obtain ⟨condition, hcondition, -, -, hshows⟩ := hstep.not_lost hbefore hlast ⟨rfl, rfl⟩
    web_isTextual (List.pairwise_singleton ..) hkey hwriter hjudged (htype ▸ .ofPolicy) hovertakes
  exact ⟨_, condition, (hbefore.run.turn (.step hstep)).trans hlast.run,
    List.all_eq_true.mp hover, hcondition.trans htype, hshows⟩

def lacksCondition (pool : Pool) (type : ConditionType) : Bool :=
  pool.world.cluster.policies.any fun kept => kept.space == .text "team" &&
    kept.name == .text "editor" && (kept.condition? type).isNone

theorem loses_web {type : ConditionType}
    (hearly : (web.play early).workers.all (·.earlier == 0) = true)
    (hconcludes : ((web.play early).workers[index]?).any (·.concludes
      (fun written => written.space == .text "team" && written.name == .text "editor")
      fun verdict => verdict.type == type) = true)
    (hover : (webAfter early index late).workers.all Worker.isOver = true)
    (halone : (webAfter early index late).SetsAlone index type)
    (hlacks : (webAfter early index late).lacksCondition type = true) :
    web.Loses "team" "editor" index type := by
  obtain ⟨written, answer, writer, verdict, moment, hbefore, hstep, hlast, hkey, hwriter, hjudged,
    htype⟩ := exists_write_web type hearly hconcludes hover
  obtain ⟨kept, hmem, hkept⟩ := List.any_eq_true.mp hlacks
  obtain ⟨hkeptKey, hnone⟩ := Bool.and_eq_true_iff.mp hkept
  obtain ⟨hspace, hname⟩ := Bool.and_eq_true_iff.mp hkeptKey
  exact ⟨_, _, _, written, answer, writer, verdict, moment, hbefore, hstep, hlast, hkey, hwriter,
    hjudged, htype, halone, List.all_eq_true.mp hover, kept, hmem,
    ⟨Value.beq_text_iff.mp hspace, Value.beq_text_iff.mp hname⟩, Option.isNone_iff_eq_none.mp hnone⟩

theorem SetsAlone.of_verdicts {last : Pool} (h : (last.workers[0]?).all (fun pass =>
    (verdicts pass.past).all fun (verdict, _) => verdict.type != .roleBindingCreated) = true) :
    last.SetsAlone 1 .roleBindingCreated := by
  refine .ofNamespace fun pass hpass verdict moment hmem => ?_
  rw [hpass] at h
  have hverdict : (verdict, moment) ∈ verdicts pass.past := List.mem_filterMap.mpr ⟨_, hmem, rfl⟩
  exact bne_iff_ne.mp (List.all_eq_true.mp h _ hverdict)

/-- Either pass can lose what the other writes: the one that read the policy before and writes it
afterwards. -/
theorem Step.lost_web : World.web.IsFaultless ∧
    (∀ policy ∈ World.web.cluster.policies, policy.IsTextual) ∧
    web.Loses "team" "editor" 0 .clusterRoleBindingCreated ∧
    web.Loses "team" "editor" 1 .roleBindingCreated := by
  refine ⟨⟨rfl, rfl⟩, web_isTextual, ?_, ?_⟩
  · let early := List.replicate 2 1 ++ List.replicate 9 0
    let late := List.replicate 3 0 ++ List.replicate 15 1
    have hover : (webAfter early 0 late).workers.all Worker.isOver = true := by decide +kernel
    exact loses_web (by decide +kernel) (by decide +kernel) hover .ofPolicy (by decide +kernel)
  · let early := List.replicate 9 0 ++ List.replicate 11 1
    let late := List.replicate 4 0 ++ List.replicate 3 1
    have hover : (webAfter early 1 late).workers.all Worker.isOver = true := by decide +kernel
    exact loses_web (by decide +kernel) (by decide +kernel) hover
      (.of_verdicts (by decide +kernel)) (by decide +kernel)

end Pool

end RoleGrants
