import RoleGrants.Proofs.Regularity

/-! Passes that interleave in any order over a sound cluster without failures end, and when all have
ended the cluster holds the same places whatever the order was: those that it held at the start, and
those of the bindings that the passes ask for. -/

namespace RoleGrants

open DryRun

/-! ### What an ended pass leaves -/

section

variable {base cluster : Cluster} {past : List Event} {trigger : Trigger} {rest : Program Bool}

theorem Trigger.Asks.exists_grantable {space name : String} {binding : Binding}
    (h : (Trigger.ofPolicy space name).Asks cluster binding) : ∃ policy,
      cluster.owned.find? (Cluster.isPolicy (.text space) (.text name)) = some policy ∧
        policy.IsGrantable cluster := by
  cases h with
  | onCluster hfind hpolicy _ => exact ⟨_, hfind, hpolicy⟩
  | inNamespaces hfind hpolicy => exact ⟨_, hfind, hpolicy⟩

/-- A pass that has ended well and asks for no other has granted its policy, if that can be. -/
theorem PolicyPass.Ended.isGranted {space name : String} {policy : Policy}
    (h : PolicyPass.Ended past false) (hafter : (Trigger.ofPolicy space name).pass.After past rest)
    (hseen : ∀ event ∈ past, event.IsSeen base cluster)
    (htextual : ∀ policy ∈ cluster.owned, policy.IsTextual)
    (hfind : cluster.owned.find? (Cluster.isPolicy (.text space) (.text name)) = some policy)
    (hpolicy : policy.IsGrantable cluster) : ∀ type, policy.IsGranted past type := by
  cases h with
  | absent hcall =>
    obtain ⟨earlier, -, rfl, rfl, -⟩ :=
      (Trigger.meets_pass (.ofPolicy space name)).demanded hafter (typed_of_seen hseen htextual)
        hcall
    cases hfind.symm.trans (hseen _ hcall).1
  | @deleting fetched hfetched hdeleting =>
    cases hfind.symm.trans (hfetched.find? hafter hseen htextual)
    have hactive : fetched.isDeleting = false := hpolicy.active
    cases hdeleting.symm.trans hactive
  | missing hfetched hroles hrole hmissing =>
    cases hfind.symm.trans (hfetched.find? hafter hseen htextual)
    cases (hseen _ hroles : (.ok _ : Except Failure (List Value)) = .ok cluster.roles)
    exact absurd (hpolicy.roles _ hrole) hmissing
  | @granted fetched hfetched hgranted =>
    cases hfind.symm.trans (hfetched.find? hafter hseen htextual)
    exact fun type => (hgranted type).withConditions []

theorem Policy.holds_of_isGranted {space name : String} {policy : Policy} {binding : Binding}
    {place : Place} (h : ∀ type, policy.IsGranted past type)
    (hseen : ∀ event ∈ past, event.IsSeen base cluster)
    (hfind : cluster.owned.find? (Cluster.isPolicy (.text space) (.text name)) = some policy)
    (hasks : (Trigger.ofPolicy space name).Asks cluster binding) (hat : binding.IsAt place) :
    cluster.Holds place := by
  cases hasks with
  | @onCluster _ _ asked role hasked _ hrole =>
    cases hfind.symm.trans hasked
    cases hat.unique (policy.onCluster_isAt role)
    exact (h .clusterRoleBindingCreated role hrole).holds hseen
  | @inNamespaces _ _ asked permission target text hasked _ hmem htarget hvalid hname hselects =>
    cases hfind.symm.trans hasked
    have hne := (Namespace.ne_empty_of_isValid hvalid hname).1
    cases hat.unique (policy.inNamespace_isAt permission.role hne)
    obtain ⟨spaces, hlisted, hconfirmed⟩ := h .roleBindingCreated permission hmem
    cases (hseen _ hlisted : (.ok spaces : Except Failure (List Namespace)) =
      .ok cluster.namespaces)
    exact (hconfirmed target htarget hvalid text hname hselects).holds hseen

theorem NamespacePass.Ended.holds {name : String} {binding : Binding} {place : Place}
    (h : NamespacePass.Ended past name) (hseen : ∀ event ∈ past, event.IsSeen base cluster)
    (hasks : (Trigger.ofNamespace name).Asks cluster binding) (hat : binding.IsAt place) :
    cluster.Holds place := by
  cases hasks with
  | @atNamespace _ target policy permission hfound hvalid howned hcheck hactive hmem hrole
      hselects =>
    have hgot : ∀ answer, .called (.getNamespace (.text name)) answer ∈ past →
        answer = .ok target := fun answer hcall => (hseen _ hcall).2.trans hfound
    cases h with
    | absent hcall => cases hgot _ hcall
    | invalid hcall hinvalid =>
      cases hgot _ hcall
      cases hinvalid.symm.trans hvalid
    | @served policies hlisted hserved =>
      obtain ⟨others, heq, hothers⟩ := hseen _ hlisted
      cases heq
      rw [← hothers] at howned
      obtain ⟨kept, hkept, rfl⟩ := List.mem_map.mp howned
      obtain ⟨roles, hroles, hconfirmed⟩ := hserved kept hkept hactive hcheck
      cases (hseen _ hroles : (.ok roles : Except Failure (List Value)) = .ok cluster.roles)
      have hne := (Namespace.ne_empty_of_isValid hvalid (Cluster.name_of_getNamespace hfound)).1
      cases hat.unique (kept.inNamespace_isAt permission.role hne)
      exact (hconfirmed permission hmem hrole hselects).holds hseen

/-- After a pass that has ended well and asks for no other, all that the pass asks for is held. -/
theorem Trigger.Ended.holds (h : trigger.Ended past false) (hafter : trigger.pass.After past rest)
    (hseen : ∀ event ∈ past, event.IsSeen base cluster)
    (htextual : ∀ policy ∈ cluster.owned, policy.IsTextual) {binding : Binding} {place : Place}
    (hasks : trigger.Asks cluster binding) (hat : binding.IsAt place) : cluster.Holds place := by
  cases trigger with
  | ofPolicy space name =>
    obtain ⟨policy, hfind, hpolicy⟩ := hasks.exists_grantable
    have hgranted := PolicyPass.Ended.isGranted h hafter hseen htextual hfind hpolicy
    exact Policy.holds_of_isGranted hgranted hseen hfind hasks hat
  | ofNamespace name => exact h.2.holds hseen hasks hat

theorem Trigger.isStore_of_excused {failure : Failure}
    (h : trigger.contract.excuses past failure) : failure.isStore = false := by
  cases trigger with
  | ofNamespace name => exact h.elim
  | ofPolicy space name =>
    obtain ⟨⟨message, types, rfl⟩, -⟩ := h
    rfl

/-- A pass that is excused for its failure asks for nothing. -/
theorem Trigger.not_asks_of_excused {failure : Failure}
    (h : trigger.contract.excuses past failure) (hafter : trigger.pass.After past rest)
    (hseen : ∀ event ∈ past, event.IsSeen base cluster)
    (htextual : ∀ policy ∈ cluster.owned, policy.IsTextual) {binding : Binding} :
    ¬ trigger.Asks cluster binding := by
  cases trigger with
  | ofNamespace name => exact h.elim
  | ofPolicy space name =>
    obtain ⟨-, policy, hfetched, hinvalid⟩ := h
    intro hasks
    obtain ⟨asked, hasked, hpolicy⟩ := hasks.exists_grantable
    cases hasked.symm.trans (hfetched.find? hafter hseen htextual)
    exact hinvalid hpolicy.valid

/-- A pass asks for no other if the bindings of its policy on the whole cluster were held when it
started. -/
theorem Trigger.not_again (hafter : trigger.pass.After past (.done (.ok true)))
    (hseen : ∀ event ∈ past, event.IsSeen base cluster) (hbase : base.Leads cluster)
    (htextual : ∀ policy ∈ cluster.owned, policy.IsTextual) : ¬ trigger.IsHeldOnCluster base := by
  intro hheld
  have hended := Trigger.ended_of_done hafter hseen htextual
  cases trigger with
  | ofNamespace name => cases hended.1
  | ofPolicy space name =>
    cases hended with
    | @again policy bindings role hfetched hgranted hlisted hrole hnew =>
      have hfind := hfetched.find? hafter hseen htextual
      rw [hbase.owned] at hfind
      -- What was held when the pass started was listed in it, so it was not missing.
      obtain ⟨binding, hmem, hname, hspace⟩ := hheld policy.unreported hfind role hrole
      obtain ⟨others, heq, hall, -⟩ := hseen _ hlisted
      cases heq
      have hcluster : binding.space.isTrue = false := hspace
      exact hnew binding (hall (List.mem_filter.mpr ⟨hmem, by rw [hcluster]; rfl⟩)) hname

end

/-! ### Every order ends -/

/-- Whether a list comes of another by one change of an item that a relation allows. -/
def Changes {α : Type} (allowed : α → α → Prop) (later before : List α) : Prop :=
  ∃ index old new, before[index]? = some old ∧ allowed new old ∧ later = before.set index new

/-- Changes of the items of a list come to an end if the changes of each item do. -/
theorem acc_changes {α : Type} {allowed : α → α → Prop} {items : List α}
    (h : ∀ item ∈ items, Acc allowed item) : Acc (Changes allowed) items := by
  induction items with
  | nil =>
    constructor
    rintro later ⟨index, old, new, hold, -⟩
    simp at hold
  | cons item rest ih =>
    have hrest := ih fun other hmem => h other (List.mem_cons_of_mem item hmem)
    clear ih
    have hitem := h item List.mem_cons_self
    clear h
    -- Either the first item changes or the rest does, so one of the two comes closer to its end.
    induction hitem generalizing rest with
    | intro item _ ihitem =>
      induction hrest with
      | intro rest hrest ihrest =>
        constructor
        rintro later ⟨index, old, new, hold, hallowed, rfl⟩
        cases index with
        | zero =>
          cases hold
          exact ihitem new hallowed rest ⟨rest, hrest⟩
        | succ index => exact ihrest _ ⟨index, old, new, hold, hallowed, rfl⟩

/-- How a worker comes to be another one by a turn, if its first pass alone may be repeated. -/
inductive Worker.Advances (worker : Worker) : Worker → Prop
  | resume {event : Event} {rest : Program Bool} (h : worker.rest.Resumes event rest) :
      Advances worker (worker.resume h)
  | again : worker.earlier = 0 → Advances worker worker.again

namespace Worker

variable {worker : Worker}

/-- A worker that cannot start over comes to an end, as each event leaves a part of its program. -/
theorem acc_of_parts {program : Program Bool} (hrest : worker.rest = program)
    (hlater : worker.earlier = 0 → Acc (fun later worker => Advances worker later) worker.again) :
    Acc (fun later worker => Advances worker later) worker := by
  induction program generalizing worker with
  | done result =>
    constructor
    rintro later (⟨hresumes⟩ | hfirst)
    · rw [hrest] at hresumes
      cases hresumes
    · exact hlater hfirst
  | judge verdict next ih =>
    constructor
    rintro later (⟨hresumes⟩ | hfirst)
    · cases hrest ▸ hresumes with
      | judge moment => exact ih moment rfl hlater
    · exact hlater hfirst
  | report item next ih =>
    constructor
    rintro later (⟨hresumes⟩ | hfirst)
    · cases hrest ▸ hresumes with
      | report result => exact ih result rfl hlater
    · exact hlater hfirst
  | call request next ih =>
    constructor
    rintro later (⟨hresumes⟩ | hfirst)
    · cases hrest ▸ hresumes with
      | call answer => exact ih answer rfl hlater
    · exact hlater hfirst

/-- Every worker comes to an end, as only its first pass may be repeated. -/
theorem acc (worker : Worker) : Acc (fun later worker => Advances worker later) worker := by
  refine acc_of_parts rfl fun _ => acc_of_parts rfl fun hearlier => ?_
  exact absurd hearlier (Nat.succ_ne_zero _)

end Worker

namespace Pool

variable {origin : Cluster} {triggers : List Trigger} {pool later : Pool}

/-- A turn of a sound pool changes one worker for one that it advances to. -/
theorem IsSound.changes (h : pool.IsSound origin triggers)
    (htextual : ∀ policy ∈ origin.owned, policy.IsTextual) (hturn : pool.Turn later) :
    Changes (fun later worker => Worker.Advances worker later) later.workers pool.workers := by
  cases hturn with
  | step hstep =>
    obtain ⟨hworker, hresumes, hhappens⟩ := hstep
    exact ⟨_, _, _, hworker, .resume hresumes, rfl⟩
  | @again index worker hworker hdone =>
    obtain ⟨base, hsees⟩ := h.workers worker (List.mem_of_getElem? hworker)
    refine ⟨_, _, _, hworker, .again (Nat.eq_zero_of_not_pos fun hearlier => ?_), rfl⟩
    exact Trigger.not_again (hdone ▸ worker.reached) hsees.seen hsees.leads (h.isTextual htextual)
      (hsees.held hearlier)

theorem IsSound.acc (h : pool.IsSound origin triggers)
    (htextual : ∀ policy ∈ origin.owned, policy.IsTextual) :
    Acc (fun later pool => Turn pool later) pool := by
  generalize hworkers : pool.workers = workers
  have hacc := acc_changes fun (worker : Worker) (_ : worker ∈ workers) => worker.acc
  induction hacc generalizing pool with
  | intro workers _ ih =>
    constructor
    intro later hturn
    have hchanges := h.changes htextual hturn
    exact ih later.workers (hworkers ▸ hchanges) (h.turn htextual hturn) rfl

theorem ofMoment_zero : ∃ text, Timestamp.ofMoment 0 = .ok text := ⟨_, rfl⟩

theorem isFinished_or_turn (pool : Pool) : pool.IsFinished ∨ ∃ later, pool.Turn later := by
  by_cases hfinished : pool.IsFinished
  · exact .inl hfinished
  · right
    obtain ⟨worker, hworking⟩ := Classical.not_forall.mp hfinished
    obtain ⟨hmem, hworking⟩ := Classical.not_imp.mp hworking
    obtain ⟨index, hworker⟩ := List.getElem?_of_mem hmem
    cases hrest : worker.rest with
    | done result =>
      by_cases hagain : result = .ok true
      · exact ⟨_, .again hworker (hagain ▸ hrest)⟩
      · exact absurd ⟨result, hrest, hagain⟩ hworking
    | judge verdict next =>
      obtain ⟨text, htext⟩ := ofMoment_zero
      exact ⟨_, .step ⟨hworker, Program.resumes_judge hrest 0, .judge htext⟩⟩
    | report item next =>
      exact ⟨_, .step ⟨hworker, Program.resumes_report hrest _, .report⟩⟩
    | call request next =>
      exact ⟨_, .step ⟨hworker, Program.resumes_call hrest _, .call⟩⟩

end Pool

/-! ### What interleaved passes come to -/

/-- What holds of a pool that comes of passes over the cluster `origin`: no worker fails for the
store, bindings are only added that are asked for and none is changed, the turns come to an end, and
then the cluster holds what it held and what was asked for. -/
structure Pool.Converges (origin : Cluster) (triggers : List Trigger) (pool : Pool) : Prop where
  failures : ∀ worker ∈ pool.workers, ∀ failure, worker.rest = .done (.error failure) →
    failure.isStore = false
  added : ∃ new, pool.world.cluster.bindings = origin.bindings ++ new ∧
    new.Pairwise Binding.IsApart ∧
    (∀ stored ∈ origin.bindings, ∀ binding ∈ new, stored.IsApart binding) ∧
    ∀ binding ∈ new, ∃ trigger ∈ triggers, trigger.Asks origin binding
  grows : ∀ later, pool.Turn later →
    pool.world.cluster.bindings <+: later.world.cluster.bindings
  ends : Acc (fun later pool => Pool.Turn pool later) pool
  goesOn : pool.IsFinished ∨ ∃ later, pool.Turn later
  places : pool.IsFinished → ∀ place, pool.world.cluster.Holds place ↔
    origin.Holds place ∨ ∃ trigger ∈ triggers, ∃ binding, trigger.Asks origin binding ∧
      binding.IsAt place

/-- An ended pass either ended well and asks for no other, or is excused. -/
theorem Pool.IsWorded.ended {origin : Cluster} {triggers : List Trigger} {pool : Pool}
    (h : pool.IsWorded) (hpool : pool.IsSound origin triggers) {worker : Worker}
    (hmem : worker ∈ pool.workers) {result : Except Failure Bool}
    (hrest : worker.rest = .done result) :
    match result with
    | .ok requeue => worker.trigger.Ended worker.past requeue
    | .error failure => worker.trigger.contract.excuses worker.past failure := by
  obtain ⟨base, hsees⟩ := hpool.workers worker hmem
  have hmeets := hsees.meets h.cluster.isTextual
  rw [hrest] at hmeets
  cases result with
  | ok requeue => exact hmeets
  | error failure => exact hmeets.resolve_left (h.not_troubled hpool hmem)

theorem Pool.IsWorded.holds {origin : Cluster} {triggers : List Trigger} {pool : Pool}
    (h : pool.IsWorded) (hpool : pool.IsSound origin triggers) {worker : Worker}
    (hmem : worker ∈ pool.workers) {result : Except Failure Bool}
    (hrest : worker.rest = .done result) (hagain : result ≠ .ok true) {binding : Binding}
    {place : Place} (hasks : worker.trigger.Asks pool.world.cluster binding)
    (hat : binding.IsAt place) : pool.world.cluster.Holds place := by
  obtain ⟨base, hsees⟩ := hpool.workers worker hmem
  have hended := h.ended hpool hmem hrest
  rcases result with failure | (_ | _)
  · exact absurd hasks (Trigger.not_asks_of_excused hended worker.reached hsees.seen
      h.cluster.isTextual)
  · exact hended.holds worker.reached hsees.seen h.cluster.isTextual hasks hat
  · exact absurd rfl hagain

theorem Pool.Turn.bindings_grow {pool later : Pool} (h : pool.Turn later)
    (hworld : pool.world.IsFaultless) :
    pool.world.cluster.bindings <+: later.world.cluster.bindings := by
  cases h with
  | step hstep =>
    obtain ⟨new, hnew, -⟩ := (hstep.happens.leads hworld).2.bindings
    exact ⟨new, hnew.symm⟩
  | again hworker hdone => exact List.prefix_refl _

/-- Passes that interleave in any order over a sound cluster without failures converge. -/
theorem Pool.Run.converges {world : World} {triggers : List Trigger} {pool : Pool}
    (hrun : (Pool.start world triggers).Run pool) (hworld : world.IsFaultless)
    (hsound : world.cluster.IsSound) : pool.Converges world.cluster triggers := by
  have hpool := Pool.IsSound.run hworld hsound.isTextual hrun
  have hworded := Pool.IsWorded.run hworld hsound hrun
  obtain ⟨new, hnew, hasked⟩ := hpool.asked
  refine ⟨?_, ⟨new, hnew, ?_⟩, fun _ hturn => hturn.bindings_grow hpool.faultless,
    hpool.acc hsound.isTextual, pool.isFinished_or_turn, ?_⟩
  · intro worker hmem failure hrest
    obtain ⟨base, hsees⟩ := hpool.workers worker hmem
    exact Trigger.isStore_of_excused (hworded.ended hpool hmem hrest)
  · obtain ⟨added, hadded, hpairwise, hapart⟩ := hpool.leads.bindings
    obtain rfl : new = added := List.append_cancel_left (hnew.symm.trans hadded)
    exact ⟨hpairwise, hapart, hasked⟩
  · intro hfinished place
    constructor
    · rintro ⟨binding, hmem, hat⟩
      rw [hnew] at hmem
      rcases List.mem_append.mp hmem with horigin | hmem
      · exact .inl ⟨binding, horigin, hat⟩
      · obtain ⟨trigger, htrigger, hasks⟩ := hasked binding hmem
        exact .inr ⟨trigger, htrigger, binding, hasks, hat⟩
    · rintro (horigin | ⟨trigger, htrigger, binding, hasks, hat⟩)
      · exact horigin.mono hpool.leads
      · rw [← hpool.triggered] at htrigger
        obtain ⟨worker, hmem, rfl⟩ := List.mem_map.mp htrigger
        obtain ⟨result, hrest, hagain⟩ := hfinished worker hmem
        have hlater := (Trigger.asks_iff hpool.leads).mpr hasks
        exact hworded.holds hpool hmem hrest hagain hlater hat

/-- The pass over a policy, with the one that it asks for, and the pass over its namespace in turn.
-/
theorem Pool.Run.converges_web : ∃ pool,
    (Pool.start .web [.ofPolicy "team" "editor", .ofNamespace "web"]).Run pool ∧
      pool.IsFinished ∧ (pool.workers.map Worker.earlier) = [1, 0] ∧
      pool.Converges World.web.cluster [.ofPolicy "team" "editor", .ofNamespace "web"] := by
  have hclock : Timestamp.ofMoment World.web.clock = .ok "2024-01-15T08:30:00Z" := rfl
  have hrun := Pool.run_play ((List.range 60).map (· % 2))
    (Pool.start .web [.ofPolicy "team" "editor", .ofNamespace "web"]) hclock
  exact ⟨_, hrun, by decide +kernel, by decide +kernel,
    hrun.converges ⟨rfl, rfl⟩ World.web_isSound⟩

end RoleGrants
