import RoleGrants.DryRun.Edit
import RoleGrants.Proofs.Absence
import RoleGrants.Proofs.Concluding
import RoleGrants.Proofs.Visiting

/-! What becomes of a pass when a policy that it has read disappears under it. The pass has the
history that it has when the policy stays, up to the first call that is answered otherwise, and that
can only be one that writes the status of the policy. There it stops. A pass that comes to no such
call, or that has only a breach of the rules to tell of, ends as if nothing had happened. -/

namespace RoleGrants

open DryRun

/-! ### A cluster without a policy -/

/-- How a store tells that it has no such policy. -/
def Policy.absence (policy : Policy) : String := s!"PermissionPolicy {policy.key} not found"

namespace Cluster

variable {cluster : Cluster} {space name : Value}

/-- The cluster without what is kept under the key of a policy. -/
def without (cluster : Cluster) (space name : Value) : Cluster :=
  { cluster with policies := cluster.policies.filter fun policy => !isPolicy space name policy }

@[simp] theorem without_without :
    (cluster.without space name).without space name = cluster.without space name := by
  simp [without]

theorem without_changePolicy {change : Policy → Policy} {home label : Value}
    (hchange : ∀ policy, isPolicy space name (change policy) = isPolicy space name policy) :
    (cluster.changePolicy home label change).without space name =
      (cluster.without space name).changePolicy home label change := by
  have hkept : ((fun policy => !isPolicy space name policy) ∘ fun policy =>
      if isPolicy home label policy then change policy else policy) =
        fun policy => !isPolicy space name policy := by
    funext policy
    simp only [Function.comp]
    split
    · rw [hchange]
    · rfl
  simp only [without, changePolicy, List.filter_map, hkept]

/-- A call that neither reads nor writes a policy does not depend on one. -/
theorem answer_without {request : StoreCall} (h : request.IsQuiet) :
    (cluster.without space name).answer request =
      ((cluster.answer request).1, (cluster.answer request).2.without space name) := by
  cases request with
  | getPolicy space name => exact h.elim
  | listPolicies => exact h.elim
  | updateStatus written => exact h.elim
  | createBinding binding =>
    have hcreate : (cluster.without space name).createBinding binding =
        (cluster.createBinding binding).map (·.without space name) := by
      unfold createBinding without
      dsimp only
      cases Value.requireKeys [binding.space, binding.name] with
      | error failure => rfl
      | ok _ => cases cluster.bindings.any (isBinding binding.space binding.name) <;> rfl
    dsimp only [answer]
    rw [hcreate]
    cases cluster.createBinding binding <;> rfl
  | _ => rfl

/-- A status is written as before, unless a policy was kept under its key that is gone. -/
theorem answer_updateStatus_without (written : Policy) :
    (cluster.without space name).answer (.updateStatus written) =
        ((cluster.answer (.updateStatus written)).1,
          (cluster.answer (.updateStatus written)).2.without space name) ∨
      (∃ kept, isPolicy space name kept = true ∧
        isPolicy written.space written.name kept = true) ∧
      (cluster.answer (.updateStatus written)).1 = .ok () ∧
      (cluster.without space name).answer (.updateStatus written) =
        (.error (.store .notFound written.absence), cluster.without space name) := by
  have hchange : (cluster.changePolicy written.space written.name fun kept =>
        { kept with conditions := written.conditions }).without space name =
      (cluster.without space name).changePolicy written.space written.name fun kept =>
        { kept with conditions := written.conditions } := without_changePolicy fun _ => rfl
  dsimp only [answer]
  unfold updateStatus
  cases Value.requireKeys [written.space, written.name] with
  | error failure => exact .inl rfl
  | ok _ =>
    cases hbefore : cluster.policies.any (isPolicy written.space written.name) with
    | false =>
      have hafter : (cluster.without space name).policies.any
          (isPolicy written.space written.name) = false := by
        rw [List.any_eq_false] at hbefore ⊢
        exact fun kept hmem => hbefore kept (List.mem_filter.mp hmem).1
      rw [hafter]
      exact .inl rfl
    | true =>
      cases hafter : (cluster.without space name).policies.any
          (isPolicy written.space written.name) with
      | true => exact .inl (congrArg (Prod.mk _) hchange.symm)
      | false =>
        refine .inr ⟨?_, rfl, rfl⟩
        obtain ⟨kept, hmem, hkept⟩ := List.any_eq_true.mp hbefore
        refine ⟨kept, ?_, hkept⟩
        cases hgone : isPolicy space name kept with
        | true => rfl
        | false =>
          have hstays : kept ∈ (cluster.without space name).policies :=
            List.mem_filter.mpr ⟨hmem, by rw [hgone]; rfl⟩
          exact absurd hkept (List.any_eq_false.mp hafter kept hstays)

end Cluster

namespace DryRun.World

variable {world other : World} {space name : Value}

theorem answer_congr (hcluster : other.cluster = world.cluster)
    (hstale : other.isStale = world.isStale) (request : StoreCall) :
    other.answer request = world.answer request := by
  cases request <;> simp only [answer, hcluster, hstale]

theorem answer_removePolicy {request : StoreCall} (h : request.IsQuiet) :
    (world.removePolicy space name).answer request =
      ((world.answer request).1, (world.answer request).2.without space name) := by
  have hquiet : (world.cluster.without space name).answer request =
      ((world.cluster.answer request).1, (world.cluster.answer request).2.without space name) :=
    Cluster.answer_without h
  cases request with
  | listClusterRoleBindings =>
    dsimp only [answer]
    change (if world.isStale then _ else _) = _
    split
    · rfl
    · exact hquiet
  | listRoleBindings asked =>
    dsimp only [answer]
    change (if world.isStale then _ else _) = _
    split
    · rfl
    · exact hquiet
  | _ => exact hquiet

/-- Whether a world is like another one, but for a policy that may be gone once policies were
read. -/
structure MayLack (other world : World) (space name : Value) (hasRead : Bool) : Prop where
  stale : other.isStale = world.isStale
  cluster : other.cluster = world.cluster ∨
    hasRead = true ∧ other.cluster = world.cluster.without space name

namespace MayLack

variable {hasRead later : Bool} {request : StoreCall}

theorem refl (world : World) : world.MayLack world space name hasRead := ⟨rfl, .inl rfl⟩

theorem removePolicy (h : other.MayLack world space name true) :
    (other.removePolicy space name).MayLack world space name true := by
  refine ⟨h.stale, .inr ⟨rfl, ?_⟩⟩
  change other.cluster.without space name = _
  rcases h.cluster with heq | ⟨-, heq⟩ <;> simp [heq]

theorem reported (h : other.MayLack world space name hasRead) (item : Report) :
    (other.report item).2.MayLack (world.report item).2 space name hasRead := by
  refine ⟨?_, ?_⟩
  · rw [report_isStale, report_isStale, h.stale]
  · rw [(other.report_cluster item).1, (world.report_cluster item).1]
    exact h.cluster

theorem isStale_called (h : other.MayLack world space name hasRead) :
    ((other.facing none request).call request).2.isStale =
      ((world.facing none request).call request).2.isStale := by
  rw [call_isStale, call_isStale]
  exact h.stale

theorem called_alike (h : other.MayLack world space name hasRead)
    (hcluster : other.cluster = world.cluster) :
    (other.answer request).1 = (world.answer request).1 ∧
      ((other.facing none request).call request).2.MayLack
        ((world.facing none request).call request).2 space name later := by
  have hanswer := answer_congr hcluster h.stale request
  refine ⟨congrArg Prod.fst hanswer, h.isStale_called, .inl ?_⟩
  rw [(other.call_facing_none request).2, (world.call_facing_none request).2, hanswer]

/-- What a call is answered does not depend on the policy, unless it writes its status. -/
theorem called (h : other.MayLack world space name true)
    (hrequest : request.IsQuiet ∨ ∃ written, request = .updateStatus written) :
    (other.answer request).1 = (world.answer request).1 ∧
      ((other.facing none request).call request).2.MayLack
        ((world.facing none request).call request).2 space name true ∨
      ∃ written, request = .updateStatus written ∧
        (∃ kept, Cluster.isPolicy space name kept = true ∧
          Cluster.isPolicy written.space written.name kept = true) ∧
        (world.answer (.updateStatus written)).1 = .ok () ∧
        (other.answer (.updateStatus written)).1 =
          .error (.store .notFound written.absence) := by
  rcases h.cluster with heq | ⟨-, heq⟩
  · exact .inl (h.called_alike heq)
  have hremoved : other.cluster = (world.removePolicy space name).cluster := heq
  have hanswer : other.answer request = (world.removePolicy space name).answer request :=
    answer_congr hremoved h.stale request
  have hsame : (world.removePolicy space name).answer request =
      ((world.answer request).1, (world.answer request).2.without space name) →
      (other.answer request).1 = (world.answer request).1 ∧
        ((other.facing none request).call request).2.MayLack
          ((world.facing none request).call request).2 space name true := by
    intro hquiet
    rw [hquiet] at hanswer
    refine ⟨by rw [hanswer], h.isStale_called, .inr ⟨rfl, ?_⟩⟩
    rw [(other.call_facing_none request).2, (world.call_facing_none request).2, hanswer]
  rcases hrequest with hquiet | ⟨written, rfl⟩
  · exact .inl (hsame (answer_removePolicy hquiet))
  rcases Cluster.answer_updateStatus_without written with hwritten | ⟨hkept, hok, hfailed⟩
  · exact .inl (hsame hwritten)
  · refine .inr ⟨written, rfl, hkept, hok, ?_⟩
    rw [hanswer]
    exact congrArg Prod.fst hfailed

end MayLack

end DryRun.World

/-! ### Runs during which a policy disappears -/

/-- What others do: from some events on, which tell when, a policy is gone. -/
def losing (gone : List Event → Bool) (space name : Value) (past : List Event) (world : World) :
    World :=
  if gone past then world.removePolicy space name else world

theorem DryRun.World.MayLack.losing {gone : List Event → Bool} {space name : Value}
    {past : List Event} {world other : World} {hasRead : Bool}
    (h : other.MayLack world space name hasRead) (hread : gone past = true → hasRead = true) :
    (losing gone space name past other).MayLack world space name hasRead := by
  unfold RoleGrants.losing
  split
  · next hgone =>
    cases hread hgone
    exact h.removePolicy
  · exact h

/-- How a run on which nothing fails ends if a policy disappears meanwhile. -/
def Clock.playLosing {α : Type} (clock : Clock) (gone : List Event → Bool) (space name : Value)
    (world : World) (program : Program α) : Ending α :=
  clock.calm.runAmid (losing gone space name) [] world program

/-- Whether a run has come to its end where another has written the status of a policy: all was the
same up to there, but the policy that was kept under that key is gone. -/
structure Ending.BreaksOff {α : Type} (ended calm : Ending α) (space name : Value)
    (written : Policy) : Prop where
  lost : ∃ kept, Cluster.isPolicy space name kept = true ∧
    Cluster.isPolicy written.space written.name kept = true
  calls : ∃ done, done ++ [.called (.updateStatus written) (.ok ())] <+: calm.past ∧
    ended.calls = callsOf done ++
      [.called (.updateStatus written) (.error (.store .notFound written.absence))]

/-- How a run has ended during which a policy disappeared, beside the one in which it stays: as that
one, and with the same cluster, but for the policy; or where that one has written its status. Then
it fails in a way of some kind, or as that one does. -/
inductive Ending.Follows {α : Type} (ended calm : Ending α) (kind : String → Failure → Prop)
    (space name : Value) : Prop
  | through : ended.result = calm.result → ended.past = calm.past →
      (ended.world.cluster = calm.world.cluster ∨
        ended.world.cluster = calm.world.cluster.without space name) →
      ended.Follows calm kind space name
  | brokenOff {written : Policy} {failure : Failure} : ended.BreaksOff calm space name written →
      ended.result = .error failure → kind written.absence failure ∨ calm.result = .error failure →
      ended.Follows calm kind space name

namespace Program

variable {α : Type} {kind : String → Failure → Prop} {failure : Failure} {program : Program α}
  {space name : Value} {past : List Event} {world other : World}

/-- A program that has to fail only reports before that. -/
theorem Misses.ended (h : program.Misses kind (.doomed failure)) (course : Course)
    (change : List Event → World → World) (past : List Event) (world : World) :
    (course.runAmid change past world program).result = .error failure ∧
      (course.runAmid change past world program).calls = callsOf past := by
  induction program generalizing past world with
  | done result =>
    cases result with
    | ok value => exact h.elim
    | error told => exact ⟨congrArg Except.error h, rfl⟩
  | judge verdict rest => exact h.1.elim
  | call request rest => exact h.elim
  | report item rest ih =>
    have hrest : (rest (world.report item).1).Misses kind (.doomed failure) := by
      rw [world.report_result item]
      exact h
    obtain ⟨hresult, hcalls⟩ := ih _ hrest (past ++ [.reported item (world.report item).1])
      (world.report item).2
    refine ⟨hresult, hcalls.trans ?_⟩
    rw [callsOf_append]
    exact List.append_nil _

theorem Misses.result_run (h : program.Misses kind (.doomed failure)) (course : Course)
    (past : List Event) (world : World) :
    (course.run past world program).result = .error failure := by
  rw [Course.run_eq_runAmid]
  exact (h.ended course _ past world).1

theorem run_calm_call (clock : Clock) (past : List Event) {request : StoreCall}
    {answer : Except Failure request.Answer} (h : (world.answer request).1 = answer)
    (rest : Except Failure request.Answer → Program α) :
    clock.calm.run past world (.call request rest) =
      clock.calm.run (past ++ [.called request answer]) ((world.facing none request).call request).2
        (rest answer) := by
  rw [← h, ← (world.call_facing_none request).1]
  rfl

theorem runAmid_calm_call (clock : Clock) {change : List Event → World → World}
    {request : StoreCall} {answer : Except Failure request.Answer}
    (h : ((change past world).answer request).1 = answer)
    (rest : Except Failure request.Answer → Program α) :
    clock.calm.runAmid change past world (.call request rest) =
      clock.calm.runAmid change (past ++ [.called request answer])
        (((change past world).facing none request).call request).2 (rest answer) := by
  rw [← h, ← ((change past world).call_facing_none request).1]
  rfl

/-- A run of a program that misses a policy only where it writes its status is as if the policy had
stayed, or breaks off where it comes to do that. -/
theorem Misses.follows {gone : List Event → Bool} {hasRead : Bool}
    (h : program.Misses kind (.going hasRead)) (clock : Clock)
    (hgone : ∀ past, gone past = true → past.any Event.readsPolicies = true)
    (hread : past.any Event.readsPolicies = true → hasRead = true)
    (hlacks : other.MayLack world space name hasRead) :
    (clock.calm.runAmid (losing gone space name) past other program).Follows
      (clock.calm.run past world program) kind space name := by
  induction program generalizing hasRead world other past with
  | done result => exact .through rfl rfl (hlacks.cluster.imp id And.right)
  | judge verdict rest ih =>
    refine ih _ (h.2 _) ?_ hlacks
    simpa [Event.readsPolicies] using hread
  | report item rest ih =>
    have hpast : (past ++ [Event.reported item item.result]).any Event.readsPolicies = true →
        hasRead = true := by simpa [Event.readsPolicies] using hread
    have hnext := ih item.result h hpast (hlacks.reported item)
    change (clock.calm.runAmid (losing gone space name)
      (past ++ [.reported item (other.report item).1]) (other.report item).2
        (rest (other.report item).1)).Follows
      (clock.calm.run (past ++ [.reported item (world.report item).1]) (world.report item).2
        (rest (world.report item).1)) kind space name
    rwa [world.report_result item, other.report_result item]
  | call request rest ih =>
    have hlost := hlacks.losing fun hyes => hread (hgone past hyes)
    cases hasRead with
    | false =>
      have hcluster := hlost.cluster.resolve_right fun hother => Bool.false_ne_true hother.1
      obtain ⟨hanswer, hlater⟩ := hlost.called_alike hcluster
      rw [run_calm_call clock past rfl, runAmid_calm_call clock hanswer]
      refine ih _ (h _) (fun hyes => ?_) hlater
      rw [List.any_append, Bool.or_eq_true] at hyes
      simpa [Event.readsPolicies] using
        hyes.resolve_left fun hpast => Bool.false_ne_true (hread hpast)
    | true =>
      obtain ⟨hrest, hcall⟩ := h
      rcases hlost.called (hcall.imp id And.left) with
        ⟨hanswer, hlater⟩ | ⟨written, rfl, hkept, hok, hfailed⟩
      · rw [run_calm_call clock past rfl, runAmid_calm_call clock hanswer]
        exact ih _ (hrest _) (fun _ => rfl) hlater
      have hmissed : ∃ failure,
          (rest (.error (.store .notFound written.absence))).Misses kind (.doomed failure) ∧
            (kind written.absence failure ∨ (rest (.ok ())).Misses kind (.doomed failure)) := by
        rcases (hcall.resolve_left id).2 with htold | ⟨failure, hanyway, hfails⟩
        · obtain ⟨failure, hkind, hfails⟩ := Misses.doomed (htold written.absence)
          exact ⟨failure, hfails, .inl hkind⟩
        · exact ⟨failure, hfails _, .inr (hanyway ())⟩
      obtain ⟨failure, hfails, hkind⟩ := hmissed
      rw [run_calm_call clock past hok, runAmid_calm_call clock hfailed]
      obtain ⟨hresult, hcalls⟩ := hfails.ended clock.calm (losing gone space name)
        (past ++ [.called (.updateStatus written) (.error (.store .notFound written.absence))]) _
      refine .brokenOff ⟨hkept, past, clock.calm.past_run .., hcalls.trans ?_⟩ hresult
        (hkind.imp id fun hanyway => hanyway.result_run _ _ _)
      rw [callsOf_append]
      rfl

end Program

theorem Clock.follows_playLosing {α : Type} {kind : String → Failure → Prop} {program : Program α}
    {gone : List Event → Bool} (h : program.Misses kind (.going false)) (clock : Clock)
    (hgone : ∀ past, gone past = true → past.any Event.readsPolicies = true) (world : World)
    (space name : Value) :
    (clock.playLosing gone space name world program).Follows (clock.calm.play world program) kind
      space name :=
  h.follows clock hgone (fun hread => by cases hread) (.refl world)

/-! ### Passes -/

namespace PolicyPass

variable {clock : Clock} {world : World} {space name : Value} {gone : List Event → Bool}
  {written : Policy}

/-- Where a pass would have written the status of its policy, it has done all else. -/
theorem calls_of_breaksOff {ended : Ending Result} {home label : Value}
    (h : ended.BreaksOff (clock.calm.play world (run space name)) home label written) :
    ∃ done, (clock.calm.play world (run space name)).calls =
        callsOf done ++ [.called (.updateStatus written) (.ok ())] ∧
      ended.calls = callsOf done ++
        [.called (.updateStatus written) (.error (.store .notFound written.absence))] ∧
      createdIn ended.past = createdIn (clock.calm.play world (run space name)).past := by
  obtain ⟨-, done, ⟨more, hmore⟩, hcalls⟩ := h
  have hcalm : (clock.calm.play world (run space name)).calls =
      callsOf done ++ .called (.updateStatus written) (.ok ()) :: callsOf more := by
    rw [Ending.calls, ← hmore, callsOf_append, callsOf_append, List.append_assoc]
    rfl
  have hnone : callsOf more = [] :=
    Halted.eq_nil (hcalm ▸ play_halted clock.calm world space name) id
  rw [hnone] at hcalm
  refine ⟨done, hcalm, hcalls, ?_⟩
  rw [← createdIn_callsOf ended.past, ← createdIn_callsOf (clock.calm.play _ _).past]
  change createdIn ended.calls = createdIn (clock.calm.play world (run space name)).calls
  rw [hcalls, hcalm, createdIn_append, createdIn_append]
  rfl

/-- A pass that cannot write the status of its policy has not refused the policy, and would not
have. -/
theorem not_refused_of_breaksOff {home label : Value} {fault : StoreFault} {message : String}
    (h : (clock.playLosing gone home label world (run space name)).BreaksOff
      (clock.calm.play world (run space name)) home label written)
    (hresult : (clock.playLosing gone home label world (run space name)).result =
      .error (.store fault message)) (cause : String) (types : List ConditionType) :
    (clock.calm.play world (run space name)).result ≠ .error (.invalidPolicy cause types) := by
  intro hcalm
  obtain ⟨done, hcalls, hended, -⟩ := calls_of_breaksOff h
  have hstopped : Aborted (clock.playLosing gone home label world (run space name)).calls
      (.store fault message) := by
    have hends := clock.calm.holds_amid (losing gone home label) world
      (holds_run_anyAnswers space name)
    unfold Clock.playLosing at hresult ⊢
    rwa [hresult] at hends
  cases (aborted_play hcalm).stopped with
  | internal hinternal => exact hinternal.2 trivial
  | @refused under as policy other answer _ _ hrefused hinvalid =>
    cases hstopped.stopped with
    | internal hinternal => cases hinternal.1
    | @atCall earlier request kind _ purpose hclear hlast hpurpose =>
      -- The policy that was fetched is the same on both runs, and breaks a rule or does not.
      have hboth : callsOf done ++ [.called (.updateStatus written) (.ok ())] =
          [.called (.getPolicy under as) (.ok policy)] ++
            [.called (.updateStatus other) answer] := hcalls.symm.trans hrefused
      have hearlier : earlier = callsOf done := (List.append_inj' (hlast.symm.trans hended) rfl).1
      have hmem : Event.called (.getPolicy under as) (.ok policy) ∈ earlier := by
        rw [hearlier, (List.append_inj' hboth rfl).1]
        exact List.mem_singleton_self _
      cases (hclear.valid under as policy hmem).symm.trans hinvalid

/-- What a pass over a policy does if a policy disappears after it was read, beside the pass on
which it stays. That one never fails for the store; this one creates all bindings that that one
creates, and refuses a policy that breaks a rule. -/
structure Withstands (world : World) (space name home label : Value) (calm ended : Ending Result) :
    Prop where
  follows : ended.Follows calm GivesUp home label
  created : createdIn ended.past = createdIn calm.past
  unbroken : ∀ fault message, calm.result ≠ .error (.store fault message)
  refused : ∀ policy message types, world.cluster.getPolicy space name = .ok policy →
    policy.validate = .error (.invalidPolicy message types) →
    ended.result =
      .error (.invalidPolicy s!"PermissionPolicy validation failed: {message}" types)

theorem result_of_invalid (clock : Clock) (hfresh : world.isStale = false) {policy : Policy}
    {message : String} {types : List ConditionType}
    (hfound : world.cluster.getPolicy space name = .ok policy)
    (hinvalid : policy.validate = .error (.invalidPolicy message types)) :
    (clock.calm.play world (run space name)).result =
      .error (.invalidPolicy s!"PermissionPolicy validation failed: {message}" types) := by
  obtain ⟨later, -, hconcludes | ⟨hrough, -⟩⟩ := concludes_play clock hfresh space name
  · obtain ⟨failure, hresult, hdeclined⟩ := hconcludes.of_invalid hfound hinvalid
    rw [hresult, hdeclined.failure]
  · have hsmooth : policy.IsSmooth world.cluster :=
      { verdict := fun failure hfailure => by
          cases hinvalid.symm.trans hfailure
          exact ⟨message, types, rfl⟩
        isOpen := fun hvalid => by cases hinvalid.symm.trans hvalid
        released := fun hvalid => by cases hinvalid.symm.trans hvalid
        fit := fun hvalid => by cases hinvalid.symm.trans hvalid }
    exact absurd (.inr ⟨policy, hfound, hsmooth⟩) hrough

theorem result_ne_store (clock : Clock) (hfresh : world.isStale = false) (space name : Value)
    (fault : StoreFault) (message : String) :
    (clock.calm.play world (run space name)).result ≠ .error (.store fault message) := by
  intro hresult
  obtain ⟨later, -, hended⟩ := concludes_play clock hfresh space name
  rw [hresult] at hended
  rcases hended with hconcludes | ⟨-, failure, hinternal, hfailure⟩
  · cases hconcludes with
    | declined _ _ hdeclined => cases hdeclined.failure
  · cases hfailure
    cases hinternal.1

theorem run_withstands (clock : Clock) (hfresh : world.isStale = false)
    (hgone : ∀ past, gone past = true → past.any Event.readsPolicies = true)
    (space name home label : Value) :
    Withstands world space name home label (clock.calm.play world (run space name))
      (clock.playLosing gone home label world (run space name)) := by
  have hfollows := clock.follows_playLosing (misses_run space name) hgone world home label
  refine ⟨hfollows, ?_, result_ne_store clock hfresh space name, ?_⟩
  · cases hfollows with
    | through _ hpast _ => rw [hpast]
    | brokenOff hbreaks _ _ =>
      obtain ⟨-, -, -, hcreated⟩ := calls_of_breaksOff hbreaks
      exact hcreated
  · intro policy message types hfound hinvalid
    have hrefused := result_of_invalid clock hfresh hfound hinvalid
    rw [← hrefused]
    cases hfollows with
    | through hresult _ _ => exact hresult
    | brokenOff hbreaks hresult hkind =>
      rcases hkind with ⟨purpose, -, rfl⟩ | hsame
      · exact absurd hrefused (not_refused_of_breaksOff hbreaks hresult _ types)
      · exact hresult.trans hsame.symm

end PolicyPass

namespace NamespacePass

open Program Pass

/-- On a calm course a pass over a namespace has a result. -/
theorem exists_result (clock : Clock) {world : World} (hfresh : world.isStale = false)
    (hreadable : world.cluster.IsReadable) (name : String) :
    ∃ result, (clock.calm.play world (run (.text name))).result = .ok result := by
  obtain ⟨later, -, hended⟩ := clock.leaves_play (leaves_run hreadable) hfresh
  generalize (clock.calm.play world (run (.text name))).result = ended at hended
  cases ended with
  | ok result => exact ⟨result, rfl⟩
  | error failure => exact hended.elim

end NamespacePass

/-- Two policies that are granted in one namespace. -/
def DryRun.World.shared : World where
  cluster := { World.web.cluster with
    policies := [.editor, { Policy.editor with name := "writer", subjectName := "bob" }] }

/-- A policy may disappear at any time after a pass has read it, if nothing else goes wrong. Then
the pass ends as if the policy had stayed, so without a failure of the store, unless it comes to
write the status of the policy: there it stops, with such a failure. -/
theorem Clock.playLosing_follows (clock : Clock) {gone : List Event → Bool}
    (hgone : ∀ past, gone past = true → past.any Event.readsPolicies = true) {world : World}
    (hfresh : world.isStale = false) (space name : Value) :
    PolicyPass.Withstands world space name space name
        (clock.calm.play world (PolicyPass.run space name))
        (clock.playLosing gone space name world (PolicyPass.run space name)) ∧
      ∀ label : String,
        (clock.playLosing gone space name world (NamespacePass.run (.text label))).Follows
          (clock.calm.play world (NamespacePass.run (.text label))) NamespacePass.GivesUp space
            name ∧
        (world.cluster.IsReadable →
          ∃ result, (clock.calm.play world (NamespacePass.run (.text label))).result =
            .ok result) :=
  ⟨PolicyPass.run_withstands clock hfresh hgone space name space name, fun label =>
    ⟨clock.follows_playLosing (NamespacePass.misses_run (.text label)) hgone world space name,
      fun hreadable => NamespacePass.exists_result clock hfresh hreadable label⟩⟩

/-- When the first policy disappears once they are listed, the pass over the namespace stops where
it would have told that the policy is granted. -/
theorem Clock.playLosing_follows_shared :
    ((∀ past : List Event, past.any Event.readsPolicies = true →
      past.any Event.readsPolicies = true) ∧ World.shared.isStale = false) ∧
    let clock := Course.unwritable.toClock
    let ended := clock.playLosing (·.any Event.readsPolicies) "team" "editor" .shared
      (NamespacePass.run "web")
    ∃ written, ended.BreaksOff (clock.calm.play .shared (NamespacePass.run "web")) "team" "editor"
        written ∧
      ended.result =
        .error (.store .general
          s!"failed to update PermissionPolicy status: {written.absence}") := by
  refine ⟨⟨fun _ => id, rfl⟩, ?_⟩
  intro clock ended
  have hcalm : (clock.calm.play .shared (NamespacePass.run "web")).result.toOption.isSome =
      true := by
    decide +kernel
  have hended : ended.result.toOption.isSome = false := by decide +kernel
  have hfresh : World.shared.isStale = false := rfl
  obtain ⟨-, hfollows⟩ := playLosing_follows clock (fun _ => id) hfresh "team" "editor"
  cases (hfollows "web").1 with
  | through hresult _ _ =>
    have hsame : ended.result = (clock.calm.play .shared (NamespacePass.run "web")).result :=
      hresult
    rw [hsame, hcalm] at hended
    cases hended
  | brokenOff hbreaks hresult hkind =>
    rcases hkind with rfl | hsame
    · exact ⟨_, hbreaks, hresult⟩
    · rw [hsame] at hcalm
      cases hcalm

/-- So a policy that disappears makes a pass over it fail, and keeps a namespace from the policies
that come after it. -/
theorem Clock.playLosing_fails :
    (let ended := Course.unwritable.toClock.playLosing (·.any Event.readsPolicies) "team" "editor"
        .shared (PolicyPass.run "team" "editor")
      let message := "failed to update status after creating ClusterRoleBindings: " ++
        "PermissionPolicy team/editor not found"
      ended.isFailure message = true) ∧
    (let calm := Course.unwritable.toClock.calm.play .shared (NamespacePass.run "web")
      let ended := Course.unwritable.toClock.playLosing (·.any Event.readsPolicies) "team" "editor"
        .shared (NamespacePass.run "web")
      let message := "failed to update PermissionPolicy status: " ++
        "PermissionPolicy team/editor not found"
      calm.world.cluster.bindings.length = 2 ∧ ended.isFailure message = true ∧
        ended.world.cluster.bindings.length = 1) := by
  decide +kernel

end RoleGrants
