import RoleGrants.Proofs.Confinement

/-! What the handlers leave as it was. Over every run of the handlers, one after another and with
any calls refused, bindings are only added, and nothing else of the cluster changes but the
conditions of policies; a pass over a policy, or its deletion, changes the conditions and the gauges
of no other policy. -/

namespace RoleGrants

open DryRun

namespace Occasion

/-- The policies that a handler is to work on, of those that are kept at its start. A deletion
brings the body of the policy that is gone. -/
def Concerns (kept : List Policy) : Occasion → Policy → Prop
  | .policyChanged _ space name, policy =>
    kept.find? (Cluster.isPolicy space name) = some policy
  | .policyResynced space name, policy => kept.find? (Cluster.isPolicy space name) = some policy
  | .policyDeleted _ _ body, policy => Policy.ofValue body = .ok policy
  | .namespaceChanged _ _, policy => policy ∈ kept

/-- Whether a handler may drop a condition of a policy: a pass over a policy that breaks no rule
drops those that tell of a breach. -/
def Drops : Occasion → Policy → Condition → Prop
  | .policyChanged _ _ _, policy, condition =>
    policy.validate = .ok () ∧ condition.tellsOfBreach = true
  | .policyResynced _ _, policy, condition =>
    policy.validate = .ok () ∧ condition.tellsOfBreach = true
  | .policyDeleted _ _ _, _, _ => False
  | .namespaceChanged _ _, _, _ => False

def scope (occasion : Occasion) (kept : List Policy) : Scope (List Event) :=
  .around kept (occasion.Concerns kept) occasion.Drops

end Occasion

namespace Handlers

open Program

variable {σ α : Type} {scope : Scope σ} {good : σ → α → Prop} {state : σ}

theorem within_contained {description : String} {program : Program α}
    (h : program.Within scope good state) :
    (contained description program).Within scope (fun _ _ => True) state := by
  unfold contained
  refine holds_bind.mpr (holds_attempt.mpr
    (h.mono (fun _ _ _ => trivial) fun later failure _ => ?_))
  dsimp only
  split
  · exact holds_log.mpr trivial
  · trivial

theorem within_passOver {settings : Settings} {space name : Value}
    {good : σ → PolicyPass.Result → Prop}
    (h : (PolicyPass.run space name).Within scope good state) :
    (passOver settings space name).Within scope (fun _ _ => True) state := by
  unfold passOver
  refine holds_bind.mpr (holds_attempt.mpr (h.mono (fun later result _ => ?_)
    fun later failure _ => ?_))
  · dsimp only
    split <;> trivial
  · split
    · next heq => cases heq
    · trivial
    · split
      · exact holds_bind.mpr (holds_log.mpr trivial)
      · trivial

theorem onlyReports_release (policy : Policy) : (Pass.release policy).OnlyReports := by
  have hgrants : ∀ roles scope, (Pass.releaseGrants policy roles scope).OnlyReports := by
    intro roles scope
    refine OnlyReports.bind trivial fun _ => onlyReports_forEach fun _ => ?_
    exact fun _ => trivial
  refine OnlyReports.bind (fun _ => trivial) fun _ => ?_
  exact (hgrants _ _).bind fun _ => hgrants _ _

theorem onlyReports_policyDeleted (space name body : Value) :
    (policyDeleted space name body).OnlyReports := by
  refine OnlyReports.bind (fun _ => trivial) fun _ => OnlyReports.bind ?_ onlyReports_release
  cases Policy.ofValue body <;> trivial

end Handlers

/-- Every handler keeps to the policies that it is to work on. -/
theorem Occasion.within_handler (occasion : Occasion) (kept : List Policy) :
    occasion.handler.Within (occasion.scope kept) (fun _ _ => True) [] := by
  cases occasion with
  | policyChanged settings space name =>
    refine Program.holds_bind.mpr (Program.holds_log.mpr ?_)
    exact Handlers.within_passOver (PolicyPass.within_run space name (fun _ => id)
      fun _ hvalid _ htells => ⟨hvalid, htells⟩)
  | policyResynced space name =>
    exact Handlers.within_contained (PolicyPass.within_run space name (fun _ => id)
      fun _ hvalid _ htells => ⟨hvalid, htells⟩)
  | policyDeleted space name body =>
    refine Program.holds_bind.mpr (Program.holds_log.mpr ?_)
    refine Program.holds_bind.mpr (Program.within_ofExcept fun policy hpolicy => ?_)
    exact Pass.within_release hpolicy
  | namespaceChanged event name =>
    refine Program.holds_bind.mpr (Program.within_ofExcept fun type _ => ?_)
    split
    · trivial
    · exact Handlers.within_contained (NamespacePass.within_run name fun _ => id)

/-! ### Runs in a world -/

namespace DryRun.World

variable {first world later : World} {past : List Event}

/-- What is answered tells of the policies in the world. -/
theorem tells_call (world : World) (refusal : Option Refusal) (request : StoreCall) :
    request.Tells world.cluster.policies ((world.refusing refusal request).call request).1 := by
  cases refusal with
  | some refusal =>
    rw [(world.call_refused refusal request).1]
    cases request with
    | getPolicy space name => exact nofun
    | listPolicies => exact nofun
    | _ => trivial
  | none =>
    rw [(world.call_answered request).1]
    cases request with
    | getPolicy space name =>
      intro policy hanswer
      obtain ⟨_, _, hanswer⟩ := exists_of_bind_ok hanswer
      cases hfound : world.cluster.policies.find? (Cluster.isPolicy space name) with
      | none =>
        rw [hfound] at hanswer
        cases hanswer
      | some found =>
        rw [hfound] at hanswer
        cases hanswer
        rfl
    | listPolicies =>
      rintro _ ⟨⟩
      rfl
    | _ => trivial

/-- What happens from a world on is what may happen around its policies. -/
theorem Lives.leads_around {concerns : Policy → Prop} {drops : Policy → Condition → Prop}
    (h : first.Lives past later) :
    (Scope.around first.cluster.policies concerns drops).logic.Leads [] past (callsOf past) := by
  induction h with
  | start => exact .start
  | @step past event world later hlives hevent ih =>
    rw [callsOf_append]
    cases hevent with
    | judged verdict moment =>
      rw [show callsOf [.judged verdict moment] = [] from rfl, List.append_nil]
      exact ih.step (Scope.allows_judged trivial)
    | reported item =>
      rw [world.report_result item, show callsOf [.reported item item.result] = [] from rfl,
        List.append_nil]
      exact ih.step Scope.allows_reported
    | called refusal request =>
      refine ih.step (Scope.allows_called ⟨rfl, fun hquiet => ?_⟩)
      rw [← hlives.policies_of_quiet (isWrite_of_callsOf hquiet)]
      exact world.tells_call refusal request

end DryRun.World

/-- In every run a program that stays within a scope around the policies at the start does what the
scope leaves to it. -/
theorem Program.Within.ends {α : Type} {concerns : Policy → Prop}
    {drops : Policy → Condition → Prop} {good : List Event → α → Prop} {program : Program α}
    {world : World} {ended : Ending α}
    (h : program.Within (.around world.cluster.policies concerns drops) good [])
    (hended : program.Ends world ended) :
    (∀ event ∈ ended.past, event.IsWithin (.around world.cluster.policies concerns drops)) ∧
      ∀ value, ended.result = .ok value → good ended.calls value := by
  have hleads : (Scope.around world.cluster.policies concerns drops).logic.Leads [] ended.past
      ended.calls := hended.lives.leads_around
  refine ⟨h.events hended.follows hleads, fun value hvalue => ?_⟩
  have hresult := h.after hended.follows hleads
  rwa [hvalue] at hresult

/-! ### What stays -/

/-- The gauges that are labelled with the key of a policy. -/
def Sink.gaugesOf (sink : Sink) (key : String) : List (List String × Bool) :=
  sink.gauges.filter fun gauge => gauge.1[1]? == some key

namespace Sink

variable {key : String} {labels : List String} {active : Bool} {gauges : List (List String × Bool)}
  {sink : Sink} {series : Series}

/-- Of the gauges that pass a test a setting changes nothing if its own does not pass it. -/
theorem filter_setGauge (test : List String → Bool) :
    (setGauge gauges labels active).filter (fun gauge => test gauge.1) =
      if test labels then setGauge (gauges.filter fun gauge => test gauge.1) labels active
      else gauges.filter fun gauge => test gauge.1 := by
  induction gauges with
  | nil => cases h : test labels <;> simp [setGauge, h]
  | cons gauge rest ih =>
    obtain ⟨other, value⟩ := gauge
    rw [setGauge]
    split
    · next hsame =>
      cases eq_of_beq hsame
      cases h : test labels <;> simp [setGauge, h]
    · next hother =>
      rw [List.filter_cons, List.filter_cons, ih]
      cases test labels <;> cases test other <;> simp [setGauge, hother]

theorem record_gauges (sink : Sink) (series : Series) (active : Bool) :
    (sink.record series active).2.gauges = setGauge sink.gauges series.labels active := by
  unfold record
  dsimp only
  split
  · rfl
  · split <;> rfl

theorem gaugesOf_record (h : series.labels[1]? ≠ some key) :
    (sink.record series active).2.gaugesOf key = sink.gaugesOf key := by
  rw [gaugesOf, record_gauges]
  exact (filter_setGauge fun labels => labels[1]? == some key).trans (if_neg (by simpa using h))

theorem gaugesOf_clear (h : series.labels[1]? ≠ some key) :
    (sink.clear series).2.gaugesOf key = sink.gaugesOf key := by
  unfold clear
  split
  · rfl
  · split
    · simp only [gaugesOf, List.filter_filter]
      refine List.filter_congr fun gauge _ => ?_
      by_cases hkey : gauge.1[1]? = some key
      · have hne : gauge.1 ≠ series.labels := fun heq => h (heq ▸ hkey)
        simp [hkey, hne]
      · simp [hkey]
    · rfl

theorem gaugesOf_after {event : Event} {touches : Series → Prop}
    (hkey : ∀ series, touches series → series.labels[1]? ≠ some key)
    (hevent : ∀ item result, event = .reported item result → item.IsWithin touches) :
    (sink.after event).gaugesOf key = sink.gaugesOf key := by
  cases event with
  | judged verdict moment => rfl
  | called request answer => rfl
  | reported item result =>
    have hitem := hevent item result rfl
    cases item with
    | log level text => rfl
    | count counter => rfl
    | record series active => exact gaugesOf_record (hkey series hitem)
    | clear series => exact gaugesOf_clear (hkey series hitem)

end Sink

theorem Policy.label_of_mem_series {policy : Policy} {series : Series}
    (h : series ∈ policy.series) : series.labels[1]? = some policy.key := by
  rcases List.mem_append.mp h with h | h
  · obtain ⟨role, _, rfl⟩ := List.mem_map.mp h
    rfl
  · obtain ⟨role, _, rfl⟩ := List.mem_map.mp h
    rfl

/-- What a handler leaves as it was: the policies that it is not to work on, and the gauges that are
labelled with no key of those that it is. -/
structure Occasion.Spares (occasion : Occasion) (before after : World) : Prop where
  policies : ∀ (index : Nat) kept, before.cluster.policies[index]? = some kept →
    (∀ policy, occasion.Concerns before.cluster.policies policy →
      Cluster.isPolicy policy.space policy.name kept = false) →
    after.cluster.policies[index]? = some kept
  gauges : ∀ key, (∀ policy, occasion.Concerns before.cluster.policies policy →
    policy.key ≠ key) → after.sink.gaugesOf key = before.sink.gaugesOf key

theorem Occasion.spares_of_ends {occasion : Occasion} {world : World}
    {ended : Ending occasion.Answer} (h : occasion.handler.Ends world ended) :
    occasion.Spares world ended.world := by
  obtain ⟨hevents, -⟩ := (occasion.within_handler world.cluster.policies).ends h
  constructor
  · intro index kept hkept hother
    rw [h.lives.policies, List.getElem?_map, hkept, Option.map_some]
    rcases Policy.foldl_after_cases ended.past kept with hsame | ⟨written, hmem, hsame, -⟩
    · rw [hsame]
    · obtain ⟨policy, conditions, hpolicy, -, rfl⟩ := hevents _ hmem
      rw [hother policy hpolicy] at hsame
      cases hsame
  · intro key hother
    have hkey : ∀ series, (occasion.scope world.cluster.policies).touches series →
        series.labels[1]? ≠ some key := by
      rintro series ⟨policy, hpolicy, hmem⟩ hlabel
      rw [Policy.label_of_mem_series hmem] at hlabel
      exact hother policy hpolicy (Option.some.inj hlabel)
    have hfold : ∀ (past : List Event) (sink : Sink),
        (∀ event ∈ past, event.IsWithin (occasion.scope world.cluster.policies)) →
        (past.foldl Sink.after sink).gaugesOf key = sink.gaugesOf key := by
      intro past
      induction past with
      | nil => exact fun _ _ => rfl
      | cons event rest ih =>
        intro sink hpast
        rw [List.foldl_cons, ih _ fun other hmem => hpast other (List.mem_cons_of_mem _ hmem)]
        refine Sink.gaugesOf_after hkey ?_
        rintro item result rfl
        exact hpast _ List.mem_cons_self
    rw [h.lives.sink]
    exact hfold _ _ hevents

theorem DryRun.World.Reaches.leads {first later : World}
    (h : first.Reaches (fun _ _ => False) later) : first.cluster.Leads later.cluster := by
  induction h with
  | start => exact .refl _
  | handled occasion _ hended ih => exact ih.trans hended.lives.leads
  | changed _ hchange => exact hchange.elim

theorem Cluster.Leads.apart {before after : Cluster} (h : before.Leads after)
    (hbefore : before.bindings.Pairwise Binding.IsApart) :
    after.bindings.Pairwise Binding.IsApart := by
  obtain ⟨new, hafter, hnew, hboth⟩ := h.bindings
  rw [hafter]
  exact List.pairwise_append.mpr ⟨hbefore, hnew, hboth⟩

theorem PolicyPass.bindings_of_ends {space name : Value} {world : World} {ended : Ending Result}
    {result : Result} (h : (run space name).Ends world ended)
    (hresult : ended.result = .ok result) :
    ended.world.cluster.bindings = world.cluster.bindings ++ result.created := by
  have hwithin : (run space name).Within (.around world.cluster.policies (fun _ => True)
      fun _ _ => True) Result.Tells [] :=
    within_run space name (fun _ _ => trivial) fun _ _ _ _ => trivial
  rw [h.lives.bindings, (hwithin.ends h).2 result hresult, Ending.calls, createdIn_callsOf]

theorem NamespacePass.bindings_of_ends {name : Value} {world : World} {ended : Ending Result}
    {result : Result} (h : (run name).Ends world ended) (hresult : ended.result = .ok result) :
    ended.world.cluster.bindings = world.cluster.bindings ++ result.created := by
  have hwithin : (run name).Within (.around world.cluster.policies (fun _ => True)
      fun _ _ => True) Result.Tells [] :=
    within_run name fun _ _ => trivial
  rw [h.lives.bindings, (hwithin.ends h).2 result hresult, Ending.calls, createdIn_callsOf]

/-- Over every run of the handlers, in which any calls may be refused, bindings are added behind
those that are there, each under a key of its own, and all that owners and administrators wrote
stays as it is. From there on a handler spares the policies that it is not to work on, and a pass
that has a result has added exactly the bindings that the result tells. -/
theorem DryRun.World.Reaches.appends_and_spares {first later : World}
    (h : first.Reaches (fun _ _ => False) later)
    (hapart : first.cluster.bindings.Pairwise Binding.IsApart) :
    (first.cluster.bindings <+: later.cluster.bindings ∧
      later.cluster.bindings.Pairwise Binding.IsApart ∧
      later.cluster.owned = first.cluster.owned ∧
      later.cluster.namespaces = first.cluster.namespaces ∧
      later.cluster.roles = first.cluster.roles) ∧
    (∀ (occasion : Occasion) ended, occasion.handler.Ends later ended →
      occasion.Spares later ended.world) ∧
    (∀ space name ended result, (PolicyPass.run space name).Ends later ended →
      ended.result = .ok result →
      ended.world.cluster.bindings = later.cluster.bindings ++ result.created) ∧
    ∀ name ended result, (NamespacePass.run name).Ends later ended → ended.result = .ok result →
      ended.world.cluster.bindings = later.cluster.bindings ++ result.created := by
  refine ⟨⟨?_, h.leads.apart hapart, h.leads.owned, h.leads.namespaces, h.leads.roles⟩,
    fun _ _ => Occasion.spares_of_ends, fun _ _ _ _ => PolicyPass.bindings_of_ends,
    fun _ _ _ => NamespacePass.bindings_of_ends⟩
  obtain ⟨new, hafter, -⟩ := h.leads.bindings
  exact ⟨new, hafter.symm⟩

/-- Two passes over the policy, of which the first is cut short by a refused status, have granted
its roles on the whole cluster and in its namespace. -/
theorem DryRun.World.Reaches.appends_and_spares_web :
    let changed : Occasion := .policyChanged {} "team" "editor"
    let middle := (Course.unwritable.play .web changed.handler).world
    let later := (Course.unwritable.calm.play middle changed.handler).world
    World.web.cluster.bindings.Pairwise Binding.IsApart ∧ middle.cluster.bindings.length = 1 ∧
      later.cluster.bindings.length = 2 ∧ World.web.cluster.bindings <+: later.cluster.bindings ∧
      later.cluster.bindings.Pairwise Binding.IsApart := by
  intro changed middle later
  have hlengths : middle.cluster.bindings.length = 1 ∧ later.cluster.bindings.length = 2 := by
    decide +kernel
  have hreaches : World.web.Reaches (fun _ _ => False) later :=
    .handled changed (.handled changed .start (Course.ends_play _ _ _)) (Course.ends_play _ _ _)
  obtain ⟨⟨happends, hapart, -⟩, -⟩ := hreaches.appends_and_spares .nil
  exact ⟨.nil, hlengths.1, hlengths.2, happends, hapart⟩

end RoleGrants
