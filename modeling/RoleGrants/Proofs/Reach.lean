import RoleGrants.Proofs.Pool

/-! What holds of every pool that comes of some passes on a cluster without failures, in whatever
order they interleave: what the workers have seen is still true of the cluster, their calls are
proper, and each binding was there at the start or is asked for by one of the passes. -/

namespace RoleGrants

open DryRun

structure Policy.IsGrantable (policy : Policy) (cluster : Cluster) : Prop where
  valid : policy.validate = .ok ()
  active : policy.isDeleting = false
  roles : ∀ role ∈ policy.clusterPermissions ++ policy.permissionRoles, role ∈ cluster.roles

namespace Trigger

/-- The bindings that a pass asks for, by what the owners of policies wrote and by the namespaces
and roles of the cluster. -/
inductive Asks (cluster : Cluster) : Trigger → Binding → Prop
  | onCluster {space name : String} {policy : Policy} {role : Value} :
      cluster.owned.find? (Cluster.isPolicy (.text space) (.text name)) = some policy →
      policy.IsGrantable cluster → role ∈ policy.clusterPermissions →
      Asks cluster (.ofPolicy space name) (.onCluster role policy)
  | inNamespaces {space name : String} {policy : Policy} {permission : Permission}
      {target : Namespace} {place : String} :
      cluster.owned.find? (Cluster.isPolicy (.text space) (.text name)) = some policy →
      policy.IsGrantable cluster → permission ∈ policy.permissions →
      target ∈ cluster.namespaces → target.isValid = true → target.name = .text place →
      permission.Selects place →
      Asks cluster (.ofPolicy space name) (.inNamespace permission.role policy (.text place))
  | atNamespace {name : String} {target : Namespace} {policy : Policy} {permission : Permission} :
      cluster.getNamespace (.text name) = .ok target → target.isValid = true →
      policy ∈ cluster.owned → policy.validate = .ok () → policy.isDeleting = false →
      permission ∈ policy.permissions → permission.role ∈ cluster.roles →
      permission.Selects name →
      Asks cluster (.ofNamespace name) (.inNamespace permission.role policy (.text name))

/-- What a pass asks for is the same in clusters that differ in bindings and conditions only. -/
theorem Asks.congr {cluster other : Cluster} {trigger : Trigger} {binding : Binding}
    (h : trigger.Asks cluster binding) (howned : other.owned = cluster.owned)
    (hnamespaces : other.namespaces = cluster.namespaces) (hroles : other.roles = cluster.roles) :
    trigger.Asks other binding := by
  have hgrantable {policy : Policy} (h : policy.IsGrantable cluster) : policy.IsGrantable other :=
    ⟨h.valid, h.active, hroles ▸ h.roles⟩
  cases h with
  | onCluster hfind hpolicy hrole =>
    exact .onCluster (howned ▸ hfind) (hgrantable hpolicy) hrole
  | inNamespaces hfind hpolicy hmem htarget hvalid hname hselects =>
    exact .inNamespaces (howned ▸ hfind) (hgrantable hpolicy) hmem (hnamespaces ▸ htarget) hvalid
      hname hselects
  | atNamespace hfound hvalid hmem hcheck hactive hpermission hrole hselects =>
    rw [Cluster.getNamespace, ← hnamespaces] at hfound
    exact .atNamespace hfound hvalid (howned ▸ hmem) hcheck hactive hpermission (hroles ▸ hrole)
      hselects

theorem asks_iff {before after : Cluster} (h : before.Leads after) {trigger : Trigger}
    {binding : Binding} : trigger.Asks after binding ↔ trigger.Asks before binding :=
  ⟨fun hasks => hasks.congr h.owned.symm h.namespaces.symm h.roles.symm,
    fun hasks => hasks.congr h.owned h.namespaces h.roles⟩

/-- Whether a cluster holds the bindings on the whole cluster of the policy of a pass. -/
def IsHeldOnCluster (cluster : Cluster) : Trigger → Prop
  | .ofPolicy space name => ∀ policy,
    cluster.owned.find? (Cluster.isPolicy (.text space) (.text name)) = some policy →
    ∀ role ∈ policy.clusterPermissions, cluster.Holds (policy.clusterPlace role)
  | .ofNamespace _ => True

end Trigger

/-- What a worker has seen of a cluster since it started its pass on the cluster `base`. -/
structure Worker.Sees (base cluster : Cluster) (worker : Worker) : Prop where
  leads : base.Leads cluster
  seen : ∀ event ∈ worker.past, event.IsSeen base cluster
  held : 0 < worker.earlier → worker.trigger.IsHeldOnCluster base

namespace Worker.Sees

variable {base cluster later : Cluster} {worker : Worker}

theorem mono (h : worker.Sees base cluster) (hleads : cluster.Leads later) :
    worker.Sees base later where
  leads := h.leads.trans hleads
  seen event hmem := (h.seen event hmem).mono hleads
  held := h.held

theorem isTyped (h : worker.Sees base cluster)
    (htextual : ∀ policy ∈ cluster.owned, policy.IsTextual) :
    ∀ event ∈ worker.past, event.IsTyped := typed_of_seen h.seen htextual

theorem meets (h : worker.Sees base cluster)
    (htextual : ∀ policy ∈ cluster.owned, policy.IsTextual) :
    worker.rest.Meets worker.trigger.contract
      (fun past requeue => worker.trigger.Ended past requeue) worker.past :=
  Trigger.meets_after worker.reached (h.isTyped htextual)

theorem demands (h : worker.Sees base cluster)
    (htextual : ∀ policy ∈ cluster.owned, policy.IsTextual) {request : StoreCall}
    {answer : Except Failure request.Answer} {rest : Program Bool}
    (hresumes : worker.rest.Resumes (.called request answer) rest) :
    worker.trigger.contract.demands worker.past request :=
  (h.meets htextual).demands_of_resumes hresumes

theorem judges (h : worker.Sees base cluster)
    (htextual : ∀ policy ∈ cluster.owned, policy.IsTextual) {verdict : Verdict} {moment : Int}
    (hjudged : .judged verdict moment ∈ worker.past) : worker.trigger.contract.judges verdict :=
  worker.trigger.meets_pass.judged worker.reached (h.isTyped htextual) hjudged

theorem type_of_judged (h : worker.Sees base cluster)
    (htextual : ∀ policy ∈ cluster.owned, policy.IsTextual) {name : String}
    (htrigger : worker.trigger = .ofNamespace name) {verdict : Verdict} {moment : Int}
    (hjudged : .judged verdict moment ∈ worker.past) : verdict.type = .roleBindingCreated := by
  have hjudges := h.judges htextual hjudged
  rw [htrigger] at hjudges
  exact hjudges.1

end Worker.Sees

section

variable {base cluster : Cluster} {past : List Event}

theorem PolicyPass.Fetched.mem_owned {policy : Policy} (h : PolicyPass.Fetched past policy)
    (hseen : ∀ event ∈ past, event.IsSeen base cluster) : policy.unreported ∈ cluster.owned := by
  obtain ⟨space, name, hmem⟩ := h
  exact Event.IsSeen.mem_owned (hseen _ hmem)

/-- The keys of the calls that passes make are texts, if the keys of the policies that they read
are. -/
theorem Trigger.isKeyed {trigger : Trigger} {request : StoreCall}
    (hdemand : trigger.contract.demands past request) (htyped : ∀ event ∈ past, event.IsTyped) :
    request.IsKeyed := by
  cases trigger with
  | ofPolicy space name =>
    cases request with
    | getPolicy home label =>
      obtain ⟨rfl, rfl, -⟩ := hdemand
      exact ⟨⟨_, rfl⟩, ⟨_, rfl⟩⟩
    | getNamespace name => exact hdemand.elim
    | createBinding binding =>
      cases hdemand with
      | onCluster hentitled hrole => exact ⟨.inl rfl, _, rfl⟩
      | inNamespace => exact ⟨.inr ⟨_, rfl⟩, _, rfl⟩
    | updateStatus written =>
      obtain ⟨policy, tracker, hworking, rfl⟩ := hdemand
      obtain ⟨home, label, hfetched⟩ := hworking.fetched
      have htextual : policy.IsTextual := htyped _ hfetched policy rfl
      exact ⟨htextual.space, htextual.name⟩
    | _ => trivial
  | ofNamespace name =>
    cases request with
    | getPolicy home label => exact hdemand.elim
    | getNamespace space =>
      obtain rfl := hdemand
      exact ⟨_, rfl⟩
    | createBinding binding =>
      cases hdemand with
      | inNamespace => exact ⟨.inr ⟨_, rfl⟩, _, rfl⟩
    | updateStatus written =>
      obtain ⟨policy, hconcluded⟩ := hdemand
      obtain ⟨policies, done, hreading, hpart, -⟩ := hconcluded.read
      have htextual := hreading.textual policy (hpart.subset List.mem_concat_self)
      obtain ⟨moment, tracker, -, -, rfl⟩ := hconcluded.judged
      exact ⟨htextual.space, htextual.name⟩
    | _ => trivial

/-- The statuses that passes write are those of policies that they have read. -/
theorem Trigger.mem_owned_of_written {trigger : Trigger} {written : Policy}
    (hdemand : trigger.contract.demands past (.updateStatus written))
    (hseen : ∀ event ∈ past, event.IsSeen base cluster) : written.unreported ∈ cluster.owned := by
  cases trigger with
  | ofPolicy space name =>
    obtain ⟨policy, tracker, hworking, rfl⟩ := hdemand
    exact hworking.fetched.mem_owned hseen
  | ofNamespace name =>
    obtain ⟨policy, hconcluded⟩ := hdemand
    obtain ⟨policies, done, hreading, hpart, -⟩ := hconcluded.read
    have hmem : policy ∈ policies := hpart.subset List.mem_concat_self
    obtain ⟨moment, tracker, -, -, rfl⟩ := hconcluded.judged
    exact show policy.unreported ∈ cluster.owned from
      Event.IsSeen.mem_owned_list (hseen _ hreading.listed) hmem

/-- The calls that passes make of what they have seen are proper. -/
theorem Trigger.isProper {trigger : Trigger} {request : StoreCall}
    (hdemand : trigger.contract.demands past request)
    (hseen : ∀ event ∈ past, event.IsSeen base cluster)
    (htextual : ∀ policy ∈ cluster.owned, policy.IsTextual) : request.IsProper cluster := by
  have hkeyed := Trigger.isKeyed hdemand (typed_of_seen hseen htextual)
  cases request with
  | updateStatus written =>
    exact ⟨hkeyed.1, hkeyed.2, Trigger.mem_owned_of_written hdemand hseen⟩
  | _ => exact hkeyed

theorem PolicyPass.Fetched.find? {space name : String} {rest : Program Bool} {policy : Policy}
    (h : PolicyPass.Fetched past policy)
    (hafter : (Trigger.ofPolicy space name).pass.After past rest)
    (hseen : ∀ event ∈ past, event.IsSeen base cluster)
    (htextual : ∀ policy ∈ cluster.owned, policy.IsTextual) :
    cluster.owned.find? (Cluster.isPolicy (.text space) (.text name)) = some policy.unreported := by
  obtain ⟨home, label, hmem⟩ := h
  have htyped := typed_of_seen hseen htextual
  obtain ⟨earlier, -, rfl, rfl, -⟩ :=
    (Trigger.meets_pass (.ofPolicy space name)).demanded hafter htyped hmem
  exact hseen _ hmem

theorem PolicyPass.Entitled.isGrantable {policy : Policy} (h : PolicyPass.Entitled past policy)
    (hseen : ∀ event ∈ past, event.IsSeen base cluster) :
    policy.unreported.IsGrantable cluster := by
  obtain ⟨roles, hlisted, hroles⟩ := h.roles
  have heq : (.ok roles : Except Failure (List Value)) = .ok cluster.roles := hseen _ hlisted
  cases heq
  exact ⟨h.valid, h.active, hroles⟩

theorem Trigger.asks {trigger : Trigger} {binding : Binding} {rest : Program Bool}
    (hafter : trigger.pass.After past rest)
    (hdemand : trigger.contract.demands past (.createBinding binding))
    (hseen : ∀ event ∈ past, event.IsSeen base cluster)
    (htextual : ∀ policy ∈ cluster.owned, policy.IsTextual) : trigger.Asks cluster binding := by
  have htyped := typed_of_seen hseen htextual
  cases trigger with
  | ofPolicy space name =>
    cases hdemand with
    | @onCluster policy role hentitled hrole =>
      have hfind := hentitled.fetched.find? hafter hseen htextual
      have hasks : Asks cluster (.ofPolicy space name) (.onCluster role policy.unreported) :=
        .onCluster hfind (hentitled.isGrantable hseen) hrole
      exact hasks
    | @inNamespace policy permission spaces target text hentitled hmem hspaces htarget hvalid hname
        hselects =>
      have heq : (.ok spaces : Except Failure (List Namespace)) = .ok cluster.namespaces :=
        hseen _ hspaces
      cases heq
      have hfind := hentitled.fetched.find? hafter hseen htextual
      have hasks : Asks cluster (.ofPolicy space name)
          (.inNamespace permission.role policy.unreported (.text text)) :=
        .inNamespaces hfind (hentitled.isGrantable hseen) hmem htarget hvalid hname hselects
      exact hasks
  | ofNamespace name =>
    cases hdemand with
    | @inNamespace policies policy permission roles text hpolicies hlisted hvalid hactive hmem
        hroles hrole hvisited hselects =>
      obtain ⟨target, htarget, htargetValid, hname⟩ := hvisited
      obtain ⟨earlier, -, hhome⟩ :=
        (Trigger.meets_pass (.ofNamespace name)).demanded hafter htyped htarget
      cases hhome
      have heq : (.ok roles : Except Failure (List Value)) = .ok cluster.roles := hseen _ hroles
      cases heq
      have hfound := (hseen _ htarget).2.symm
      have howned := Event.IsSeen.mem_owned_list (hseen _ hpolicies) hlisted
      have hasks : Asks cluster (.ofNamespace name)
          (.inNamespace permission.role policy.unreported (.text name)) :=
        .atNamespace hfound htargetValid howned hvalid hactive hmem hrole hselects
      exact hasks

theorem Trigger.ended_of_done {trigger : Trigger} {requeue : Bool}
    (hafter : trigger.pass.After past (.done (.ok requeue)))
    (hseen : ∀ event ∈ past, event.IsSeen base cluster)
    (htextual : ∀ policy ∈ cluster.owned, policy.IsTextual) : trigger.Ended past requeue :=
  Trigger.meets_after hafter (typed_of_seen hseen htextual)

/-- After a pass over a policy that asks for another, the cluster holds the bindings of the policy
on the whole cluster. -/
theorem Trigger.isHeldOnCluster {trigger : Trigger}
    (hafter : trigger.pass.After past (.done (.ok true)))
    (hseen : ∀ event ∈ past, event.IsSeen base cluster)
    (htextual : ∀ policy ∈ cluster.owned, policy.IsTextual) : trigger.IsHeldOnCluster cluster := by
  have hended := Trigger.ended_of_done hafter hseen htextual
  cases trigger with
  | ofNamespace name => trivial
  | ofPolicy space name =>
    cases hended with
    | again hfetched hgranted hlisted hrole hnew =>
      intro policy hpolicy role hmem
      rw [hfetched.find? hafter hseen htextual] at hpolicy
      cases hpolicy
      exact (hgranted role hmem).holds hseen

end

/-- What holds of a pool that comes of passes over the cluster `origin`. -/
structure Pool.IsSound (origin : Cluster) (triggers : List Trigger) (pool : Pool) : Prop where
  faultless : pool.world.IsFaultless
  leads : origin.Leads pool.world.cluster
  triggered : pool.workers.map Worker.trigger = triggers
  workers : ∀ worker ∈ pool.workers, ∃ base, worker.Sees base pool.world.cluster
  asked : ∃ new, pool.world.cluster.bindings = origin.bindings ++ new ∧
    ∀ binding ∈ new, ∃ trigger ∈ triggers, trigger.Asks origin binding

theorem DryRun.World.Happens.bindings {world after : World} {event : Event}
    (h : world.Happens event after) (hworld : world.IsFaultless) :
    after.cluster.bindings = world.cluster.bindings ∨
      ∃ binding answer, event = .called (.createBinding binding) answer ∧
        after.cluster.bindings = world.cluster.bindings ++ [binding] := by
  cases h with
  | judge htime => exact .inl rfl
  | @report item => exact .inl (by rw [(world.report_cluster item).1])
  | @call request =>
    rw [(World.call_eq hworld request).2.1]
    cases request with
    | createBinding binding =>
      dsimp only [Cluster.answer]
      split
      · next after hafter =>
        obtain ⟨rfl, -⟩ := Cluster.createBinding_ok hafter
        exact .inr ⟨binding, _, rfl, rfl⟩
      · exact .inl rfl
    | updateStatus written =>
      dsimp only [Cluster.answer]
      split
      · next after hafter =>
        rw [Cluster.updateStatus_ok hafter]
        exact .inl rfl
      · exact .inl rfl
    | _ => exact .inl rfl

namespace Pool.IsSound

variable {origin : Cluster} {triggers : List Trigger} {pool later : Pool}

theorem start {world : World} (triggers : List Trigger) (hworld : world.IsFaultless) :
    (Pool.start world triggers).IsSound world.cluster triggers where
  faultless := hworld
  leads := Cluster.Leads.refl _
  triggered := by
    rw [Pool.start, List.map_map]
    exact List.map_id _
  workers := by
    intro worker hmem
    obtain ⟨trigger, -, rfl⟩ := List.mem_map.mp hmem
    exact ⟨world.cluster, Cluster.Leads.refl _, fun _ hmem => absurd hmem List.not_mem_nil,
      fun h => absurd h (Nat.lt_irrefl 0)⟩
  asked := ⟨[], by simp [Pool.start], fun _ hmem => absurd hmem List.not_mem_nil⟩

theorem isTextual (h : pool.IsSound origin triggers)
    (htextual : ∀ policy ∈ origin.owned, policy.IsTextual) :
    ∀ policy ∈ pool.world.cluster.owned, policy.IsTextual := h.leads.owned ▸ htextual

theorem getElem?_triggers (h : pool.IsSound origin triggers) {index : Nat} {worker : Worker}
    (hworker : pool.workers[index]? = some worker) : triggers[index]? = some worker.trigger := by
  rw [← h.triggered, List.getElem?_map, hworker]
  rfl

theorem triggers_update (h : pool.IsSound origin triggers) {index : Nat} {worker other : Worker}
    (hworker : pool.workers[index]? = some worker) (htrigger : other.trigger = worker.trigger) :
    (pool.workers.set index other).map Worker.trigger = triggers := by
  obtain ⟨hlt, rfl⟩ := List.getElem?_eq_some_iff.mp hworker
  have hlength : index < (pool.workers.map Worker.trigger).length := by simpa using hlt
  have hmap : pool.workers[index].trigger = (pool.workers.map Worker.trigger)[index] :=
    (List.getElem_map ..).symm
  rw [List.map_set, htrigger, hmap, List.set_getElem_self, h.triggered]

theorem step (h : pool.IsSound origin triggers)
    (htextual : ∀ policy ∈ origin.owned, policy.IsTextual) {index : Nat} {event : Event}
    (hstep : pool.Step index event later) : later.IsSound origin triggers := by
  obtain ⟨hworker, hresumes, hhappens⟩ := hstep
  next worker rest after =>
  obtain ⟨base, hsees⟩ := h.workers worker (List.mem_of_getElem? hworker)
  have howned := h.isTextual htextual
  obtain ⟨hfaultless, hleads⟩ := hhappens.leads h.faultless
  have hdemand : ∀ request answer, event = .called request answer →
      worker.trigger.contract.demands worker.past request := by
    rintro request answer rfl
    exact hsees.demands howned hresumes
  have hseen : event.IsSeen base after.cluster :=
    hhappens.isSeen h.faultless hsees.leads fun request answer heq =>
      Trigger.isProper (hdemand request answer heq) hsees.seen howned
  refine ⟨hfaultless, h.leads.trans hleads, h.triggers_update hworker rfl, ?_, ?_⟩
  · intro other hmem
    rcases List.mem_or_eq_of_mem_set hmem with hmem | rfl
    · obtain ⟨base, hother⟩ := h.workers other hmem
      exact ⟨base, hother.mono hleads⟩
    · refine ⟨base, hsees.leads.trans hleads, fun other hmem => ?_, hsees.held⟩
      rcases List.mem_append.mp hmem with hmem | hmem
      · exact (hsees.seen other hmem).mono hleads
      · exact List.mem_singleton.mp hmem ▸ hseen
  · obtain ⟨new, hnew, hasked⟩ := h.asked
    rcases hhappens.bindings h.faultless with heq | ⟨created, answer, hevent, heq⟩
    · exact ⟨new, heq.trans hnew, hasked⟩
    · -- The binding was demanded of the worker, so its pass asks for it.
      refine ⟨new ++ [created], by simp [Pool.update, heq, hnew], fun binding hmem => ?_⟩
      rcases List.mem_append.mp hmem with hmem | hmem
      · exact hasked binding hmem
      · have hasks := Trigger.asks worker.reached (hdemand _ _ hevent) hsees.seen howned
        exact ⟨_, List.mem_of_getElem? (h.getElem?_triggers hworker),
          List.mem_singleton.mp hmem ▸ (Trigger.asks_iff h.leads).mp hasks⟩

theorem steps {first : Pool} (h : first.IsSound origin triggers)
    (htextual : ∀ policy ∈ origin.owned, policy.IsTextual) (hsteps : first.Steps later) :
    later.IsSound origin triggers := by
  induction hsteps with
  | refl => exact h
  | step _ hstep ih => exact ih.step htextual hstep

theorem turn (h : pool.IsSound origin triggers)
    (htextual : ∀ policy ∈ origin.owned, policy.IsTextual) (hturn : pool.Turn later) :
    later.IsSound origin triggers := by
  cases hturn with
  | step hstep => exact h.step htextual hstep
  | @again index worker hworker hdone =>
    refine ⟨h.faultless, h.leads, h.triggers_update hworker rfl, ?_, h.asked⟩
    intro other hmem
    rcases List.mem_or_eq_of_mem_set hmem with hmem | rfl
    · exact h.workers other hmem
    · -- The new pass starts on the cluster as it is now.
      obtain ⟨base, hsees⟩ := h.workers worker (List.mem_of_getElem? hworker)
      refine ⟨pool.world.cluster, Cluster.Leads.refl _, fun _ hmem => absurd hmem List.not_mem_nil,
        fun _ => ?_⟩
      exact Trigger.isHeldOnCluster (hdone ▸ worker.reached) hsees.seen (h.isTextual htextual)

/-- Every pool that comes of passes over a cluster without failures is sound. -/
theorem run {world : World} (hworld : world.IsFaultless)
    (htextual : ∀ policy ∈ world.cluster.owned, policy.IsTextual)
    (hrun : (Pool.start world triggers).Run pool) : pool.IsSound world.cluster triggers := by
  induction hrun with
  | refl => exact start triggers hworld
  | turn _ hturn ih => exact ih.turn htextual hturn

end Pool.IsSound

end RoleGrants
