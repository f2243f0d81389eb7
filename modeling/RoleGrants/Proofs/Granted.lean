import RoleGrants.Proofs.Reach

/-! What a condition that tells of created bindings is worth. When a pass writes it, the cluster
holds a binding under each name that the policy asks for in that scope, and each was made for a
policy that asks for it. As different roles and subjects can have one name, a binding is of the role
and for the subject of the policy itself only if no other pair has its name. -/

namespace RoleGrants

open DryRun

namespace Policy

/-- Whether a policy asks for a role on the whole cluster, or in a namespace. -/
def Wants (policy : Policy) : Option String → Value → Prop
  | none, role => role ∈ policy.clusterPermissions
  | some name, role => ∃ permission ∈ policy.permissions, permission.role = role ∧
      permission.Selects name

/-- The binding of a role to the subject of a policy on the whole cluster, or in a namespace. -/
def binding (policy : Policy) : Option String → Value → Binding
  | none, role => .onCluster role policy
  | some name, role => .inNamespace role policy (.text name)

/-- Whether a role is to be granted for a policy of a cluster: the policy is valid and not being
deleted, and asks for the role. -/
structure IsOwed (policy : Policy) (cluster : Cluster) (space : Option String) (role : Value) :
    Prop where
  kept : policy ∈ cluster.policies
  valid : policy.validate = .ok ()
  active : policy.isDeleting = false
  wants : policy.Wants space role

/-- Whether something holds of each role that a policy asks for in one scope, and of where. -/
def Throughout (policy : Policy) (cluster : Cluster) (holds : Option String → Value → Prop) :
    ConditionType → Prop
  | .clusterRoleBindingCreated => ∀ role ∈ policy.clusterPermissions, holds none role
  | .roleBindingCreated => ∀ permission ∈ policy.permissions, ∀ space ∈ cluster.namespaces,
    space.isValid = true → ∀ name, space.name = .text name → permission.Selects name →
    holds (some name) permission.role

/-- Whether a cluster holds a binding that grants a role to the subject of a policy, under any name.
-/
def IsBoundAt (policy : Policy) (cluster : Cluster) (space : Option String) (role : Value) : Prop :=
  ∃ binding ∈ cluster.bindings, binding.space = (policy.binding space role).space ∧
    binding.role = (policy.binding space role).role ∧ Subject.ofPolicy policy ∈ binding.subjects

/-- Whether no role that is owed there shares its name with the one of a policy, but for the same
role and subject. -/
def OwnsName (policy : Policy) (cluster : Cluster) (space : Option String) (role : Value) : Prop :=
  ∀ (maker : Policy) (other : Value), maker.IsOwed cluster space other →
    Binding.nameOf other maker.subjectName = Binding.nameOf role policy.subjectName →
    other = role ∧ Subject.ofPolicy maker = Subject.ofPolicy policy

/-- Whether a cluster holds a binding under the name of a role for the subject of a policy, made for
a policy that it is owed to, and, if the policy owns the name, one of that role for that subject. -/
def IsServedAt (policy : Policy) (cluster : Cluster) (space : Option String) (role : Value) :
    Prop :=
  (∃ (maker : Policy) (other : Value), maker.IsOwed cluster space other ∧
    maker.binding space other ∈ cluster.bindings ∧
    Binding.nameOf other maker.subjectName = Binding.nameOf role policy.subjectName) ∧
  (policy.OwnsName cluster space role → policy.IsBoundAt cluster space role)

end Policy

/-- A binding that is asked for is made for a policy that it is owed to, where it stands. -/
theorem Trigger.Asks.exists_maker {cluster : Cluster} {trigger : Trigger} {binding : Binding}
    {space : Option String} {name : String} (h : trigger.Asks cluster binding)
    (hat : binding.IsAt ⟨space, name⟩) :
    ∃ (maker : Policy) (other : Value), maker.IsOwed cluster space other ∧
      binding = maker.binding space other ∧ Binding.nameOf other maker.subjectName = name := by
  cases h with
  | @onCluster _ _ policy role hfind hpolicy hrole =>
    obtain ⟨kept, hkept, rfl⟩ := Cluster.exists_of_mem_owned (List.mem_of_find?_eq_some hfind)
    cases hat.unique (kept.onCluster_isAt role)
    exact ⟨kept, role, ⟨hkept, hpolicy.valid, hpolicy.active, hrole⟩, rfl, rfl⟩
  | @inNamespaces _ _ policy permission _ target hfind hpolicy hmem _ hvalid hname hselects =>
    obtain ⟨kept, hkept, rfl⟩ := Cluster.exists_of_mem_owned (List.mem_of_find?_eq_some hfind)
    have hne := (Namespace.ne_empty_of_isValid hvalid hname).1
    cases hat.unique (kept.inNamespace_isAt permission.role hne)
    exact ⟨kept, permission.role, ⟨hkept, hpolicy.valid, hpolicy.active, permission, hmem, rfl,
      hselects⟩, rfl, rfl⟩
  | @atNamespace target _ policy permission hfound hvalid howned hcheck hactive hmem _ hselects =>
    obtain ⟨kept, hkept, rfl⟩ := Cluster.exists_of_mem_owned howned
    have hne := (Namespace.ne_empty_of_isValid hvalid (Cluster.name_of_getNamespace hfound)).1
    cases hat.unique (kept.inNamespace_isAt permission.role hne)
    exact ⟨kept, permission.role, ⟨hkept, hcheck, hactive, permission, hmem, rfl, hselects⟩, rfl,
      rfl⟩

theorem Policy.binding_congr (policy maker : Policy) (space : Option String) (role : Value) :
    (maker.binding space role).space = (policy.binding space role).space ∧
      (maker.binding space role).role = (policy.binding space role).role ∧
      (maker.binding space role).subjects = [Subject.ofPolicy maker] := by
  cases space <;> exact ⟨rfl, rfl, rfl⟩

section

variable {origin : Cluster} {triggers : List Trigger} {pool : Pool} {policy : Policy}

theorem Pool.IsSound.asks_of_mem (h : pool.IsSound origin triggers) (hempty : origin.bindings = [])
    {binding : Binding} (hmem : binding ∈ pool.world.cluster.bindings) :
    ∃ trigger : Trigger, trigger.Asks pool.world.cluster binding := by
  obtain ⟨new, hnew, hasked⟩ := h.asked
  rw [hnew, hempty, List.nil_append] at hmem
  obtain ⟨trigger, -, hasks⟩ := hasked binding hmem
  exact ⟨trigger, (Trigger.asks_iff h.leads).mpr hasks⟩

/-- A place that is held serves the policies whose bindings have that place. -/
theorem Pool.IsSound.isServedAt (h : pool.IsSound origin triggers) (hempty : origin.bindings = [])
    {space : Option String} {role : Value}
    (hheld : pool.world.cluster.Holds ⟨space, Binding.nameOf role policy.subjectName⟩) :
    policy.IsServedAt pool.world.cluster space role := by
  obtain ⟨binding, hmem, hat⟩ := hheld
  obtain ⟨trigger, hasks⟩ := h.asks_of_mem hempty hmem
  obtain ⟨maker, other, howed, rfl, hname⟩ := hasks.exists_maker hat
  refine ⟨⟨maker, other, howed, hmem, hname⟩, fun howns => ?_⟩
  obtain ⟨rfl, hsubject⟩ := howns maker other howed hname
  obtain ⟨hspace, hrole, hsubjects⟩ := policy.binding_congr maker space other
  refine ⟨_, hmem, hspace, hrole, ?_⟩
  rw [hsubjects, hsubject]
  exact List.mem_singleton_self _

theorem Pool.IsSound.isServed_of_isGranted (h : pool.IsSound origin triggers)
    (hempty : origin.bindings = []) {base : Cluster} {past : List Event} {type : ConditionType}
    (hgranted : policy.IsGranted past type)
    (hseen : ∀ event ∈ past, event.IsSeen base pool.world.cluster) :
    policy.Throughout pool.world.cluster (policy.IsServedAt pool.world.cluster) type := by
  cases type with
  | clusterRoleBindingCreated =>
    exact fun role hrole => h.isServedAt hempty ((hgranted role hrole).holds hseen)
  | roleBindingCreated =>
    intro permission hmem space hspace hvalid name hname hselects
    obtain ⟨spaces, hlisted, hconfirmed⟩ := hgranted permission hmem
    cases (hseen _ hlisted : (.ok spaces : Except Failure (List Namespace)) =
      .ok pool.world.cluster.namespaces)
    exact h.isServedAt hempty ((hconfirmed space hspace hvalid name hname hselects).holds hseen)

end

/-- The bindings of a policy whose status is written are confirmed in the scope of each verdict that
tells of created bindings. -/
theorem Trigger.isGranted {trigger : Trigger} {past : List Event} {written : Policy}
    {verdict : Verdict} {moment : Int}
    (hdemand : trigger.contract.demands past (.updateStatus written))
    (hjudges : trigger.contract.judges verdict) (hjudged : .judged verdict moment ∈ past)
    (hcreated : verdict.state = .created) : written.IsGranted past verdict.type := by
  cases trigger with
  | ofPolicy space name =>
    obtain ⟨policy, tracker, hworking, rfl⟩ := hdemand
    exact (hworking.honest verdict moment hjudged hcreated).withConditions _
  | ofNamespace name =>
    obtain ⟨policy, hconcluded⟩ := hdemand
    obtain ⟨time, tracker, -, -, rfl⟩ := hconcluded.judged
    rw [hjudges.1]
    exact hconcluded.granted.withConditions _

/-- Whenever a pass writes the status of a policy, after it gave a verdict that tells of created
bindings, the policy is served in the scope of the verdict. -/
theorem Pool.Step.isServed {world : World} {triggers : List Trigger} {pool later : Pool}
    {index : Nat} {written : Policy} {answer : Except Failure Unit} {worker : Worker}
    {verdict : Verdict} {moment : Int}
    (hstep : pool.Step index (.called (.updateStatus written) answer) later)
    (hrun : (Pool.start world triggers).Run pool) (hworld : world.IsFaultless)
    (hempty : world.cluster.bindings = [])
    (htextual : ∀ policy ∈ world.cluster.policies, policy.IsTextual)
    (hworker : pool.workers[index]? = some worker)
    (hjudged : .judged verdict moment ∈ worker.past) (hcreated : verdict.state = .created) :
    written.Throughout later.world.cluster (written.IsServedAt later.world.cluster)
      verdict.type := by
  have howned := Cluster.isTextual_owned htextual
  have hpool := Pool.IsSound.run hworld howned hrun
  have hlater := hpool.step howned hstep
  obtain ⟨hfound, hresumes, hhappens⟩ := hstep
  next other rest after =>
  cases hworker.symm.trans hfound
  obtain ⟨base, hsees⟩ := hpool.workers worker (List.mem_of_getElem? hworker)
  have hseen : ∀ event ∈ worker.past, event.IsSeen base after.cluster := fun event hmem =>
    (hsees.seen event hmem).mono (hhappens.leads hpool.faultless).2
  have hdemand := hsees.demands (hpool.isTextual howned) hresumes
  have hjudges := hsees.judges (hpool.isTextual howned) hjudged
  have hgranted := Trigger.isGranted hdemand hjudges hjudged hcreated
  exact hlater.isServed_of_isGranted hempty hgranted hseen

/-! ### Two subjects of one name -/

/-- A policy that grants the same role as `viewer` to a group that has the name of the user. -/
def Policy.viewers : Policy := { viewer with name := "viewers", subjectKind := "Group" }

def DryRun.World.namesakes : World where
  cluster := { policies := [Policy.viewer, Policy.viewers], roles := [.text "view"] }

/-- The pool in which the pass for the user has ended and the one for the group comes to write. -/
def Pool.namesakes : Pool :=
  (start .namesakes [.ofPolicy "team" "viewer", .ofPolicy "team" "viewers"]).play
    (List.replicate 13 0 ++ List.replicate 6 1)

theorem DryRun.World.namesakes_isTextual :
    ∀ policy ∈ World.namesakes.cluster.policies, policy.IsTextual := by
  intro policy hmem
  rcases List.mem_cons.mp hmem with rfl | hmem
  · exact Policy.viewer_isTextual
  · cases List.mem_singleton.mp hmem
    have h := Policy.viewer_isTextual
    exact ⟨⟨_, rfl⟩, h.space, ⟨_, rfl⟩, h.subjectName, h.subjectNamespace, h.clusterPermissions,
      h.permissions⟩

theorem Pool.run_namesakes :
    (start .namesakes [.ofPolicy "team" "viewer", .ofPolicy "team" "viewers"]).Run namesakes := by
  have hclock : Timestamp.ofMoment World.namesakes.clock = .ok "2024-01-15T08:30:00Z" := rfl
  exact run_play _ _ hclock

theorem Pool.exists_write_namesakes : ∃ worker written answer verdict moment,
    namesakes.workers[1]? = some worker ∧
      namesakes.Step 1 (.called (.updateStatus written) answer) (namesakes.advance 1) ∧
      .judged verdict moment ∈ worker.past ∧ verdict.type = .clusterRoleBindingCreated ∧
      verdict.state = .created ∧ .text "view" ∈ written.clusterPermissions ∧
      written.subjectKind = .text "Group" := by
  have hcheck : (namesakes.workers[1]?).any (·.concludes
      (fun written => written.clusterPermissions.contains (.text "view") &&
        written.subjectKind == .text "Group")
      fun verdict => verdict.type == .clusterRoleBindingCreated && verdict.state == .created) =
      true := by
    decide +kernel
  obtain ⟨worker, written, answer, verdict, moment, hworker, hstep, hjudged, htest, hverdict⟩ :=
    exists_step_of_concludes hcheck
  obtain ⟨hroles, hkind⟩ := Bool.and_eq_true_iff.mp htest
  obtain ⟨htype, hstate⟩ := Bool.and_eq_true_iff.mp hverdict
  exact ⟨worker, written, answer, verdict, moment, hworker, hstep, hjudged, eq_of_beq htype,
    eq_of_beq hstate, Value.contains_text.mp hroles, Value.beq_text_iff.mp hkind⟩

/-- The binding of the user serves the group too, as it has the name. -/
theorem Pool.Step.isServed_namesakes : ∃ written answer later,
    Pool.namesakes.Step 1 (.called (.updateStatus written) answer) later ∧
      written.subjectKind = .text "Group" ∧
      written.Throughout later.world.cluster (written.IsServedAt later.world.cluster)
        .clusterRoleBindingCreated := by
  obtain ⟨worker, written, answer, verdict, moment, hworker, hstep, hjudged, htype, hcreated,
    -, hkind⟩ := Pool.exists_write_namesakes
  have hserved := hstep.isServed Pool.run_namesakes ⟨rfl, rfl⟩ rfl World.namesakes_isTextual hworker
    hjudged hcreated
  exact ⟨written, answer, _, hstep, hkind, htype ▸ hserved⟩

/-- Yet no binding is for the group when the pass writes that its binding is created. -/
theorem Pool.Step.not_isBound_namesakes : ∃ written answer later verdict moment worker,
    (Pool.start .namesakes [.ofPolicy "team" "viewer", .ofPolicy "team" "viewers"]).Run
      Pool.namesakes ∧ World.namesakes.IsFaultless ∧ World.namesakes.cluster.bindings = [] ∧
    (∀ policy ∈ World.namesakes.cluster.policies, policy.IsTextual) ∧
    Pool.namesakes.Step 1 (.called (.updateStatus written) answer) later ∧
    Pool.namesakes.workers[1]? = some worker ∧ .judged verdict moment ∈ worker.past ∧
    verdict.state = .created ∧
    ¬ written.Throughout later.world.cluster (written.IsBoundAt later.world.cluster)
      verdict.type := by
  obtain ⟨worker, written, answer, verdict, moment, hworker, hstep, hjudged, htype, hcreated, hrole,
    hkind⟩ := Pool.exists_write_namesakes
  refine ⟨written, answer, _, verdict, moment, worker, Pool.run_namesakes, ⟨rfl, rfl⟩, rfl,
    World.namesakes_isTextual, hstep, hworker, hjudged, hcreated, fun hbound => ?_⟩
  rw [htype] at hbound
  obtain ⟨binding, hmem, -, -, hsubject⟩ := hbound _ hrole
  rcases hstep.happens.bindings ⟨rfl, rfl⟩ with heq | ⟨created, other, heq, -⟩
  · have hbindings : Pool.namesakes.world.cluster.bindings.all (fun binding =>
        binding.subjects.all (·.kind == .text "User")) = true := by decide +kernel
    rw [heq] at hmem
    have huser := List.all_eq_true.mp (List.all_eq_true.mp hbindings binding hmem) _ hsubject
    rw [Subject.ofPolicy, hkind] at huser
    cases huser
  · cases heq

end RoleGrants
