import RoleGrants.Proofs.Failing
import RoleGrants.Proofs.Regularity
import RoleGrants.Proofs.Running

/-! Runs of passes keep a cluster sound, also when calls are refused. So each call of a pass over a
sound cluster is answered with sound objects or fails for reasons of the store, each report
succeeds, and a pass fails only in the ways in which it may. -/

namespace RoleGrants

open DryRun

/-- Whether the moment that an event shows, if any, has a timestamp. -/
def Event.IsDated : Event → Prop
  | .judged _ moment => ∃ text, Timestamp.ofMoment moment = .ok text
  | _ => True

/-- The failures of a pass. -/
def Trigger.Fails : Trigger → Failure → Prop
  | .ofPolicy _ _ => PolicyPass.Fails
  | .ofNamespace _ => NamespacePass.Fails

theorem Trigger.holds_pass_sound (trigger : Trigger) :
    trigger.pass.Holds Regime.sound.logic (fun _ _ => True) (fun _ => trigger.Fails) () := by
  cases trigger with
  | ofPolicy space name =>
    exact (PolicyPass.holds_run_sound (.text space) (.text name)).bind fun _ _ _ => trivial
  | ofNamespace name =>
    exact (NamespacePass.holds_run_sound ⟨name, rfl⟩).bind fun _ _ _ => trivial

namespace Cluster

variable {cluster : Cluster}

theorem IsSound.sound_getPolicy (h : cluster.IsSound) {space name : Value} (hspace : space.IsText)
    (hname : name.IsText) :
    (StoreCall.getPolicy space name).IsSound (cluster.getPolicy space name) := by
  unfold getPolicy
  rw [Value.requireKeys_pair hspace hname]
  cases hfound : cluster.policies.find? (isPolicy space name) with
  | none => rfl
  | some policy =>
    refine ⟨nofun, ?_⟩
    rintro _ ⟨⟩
    exact h.policies policy (List.mem_of_find?_eq_some hfound)

theorem sound_createBinding {binding : Binding} (hproper : binding.IsProper) :
    (StoreCall.createBinding binding).IsSound (cluster.answer (.createBinding binding)).1 := by
  have hanswered := @StoreCall.isAnswered_createBinding cluster cluster binding hproper
  cases hanswer : (cluster.answer (.createBinding binding)).1 with
  | ok value => trivial
  | error failure =>
    rw [hanswer] at hanswered
    have hsettled := hanswered.1
    unfold Settled at hsettled
    split at hsettled
    · next heq => cases heq
    · next heq =>
      cases heq
      rfl
    · exact hsettled.elim

theorem sound_updateStatus {written : Policy} (hspace : written.space.IsText)
    (hname : written.name.IsText) :
    (StoreCall.updateStatus written).IsSound (cluster.answer (.updateStatus written)).1 := by
  dsimp only [Cluster.answer]
  unfold Cluster.updateStatus
  rw [Value.requireKeys_pair hspace hname]
  cases cluster.policies.any (isPolicy written.space written.name) with
  | false => rfl
  | true => rfl

/-- A sound cluster answers with sound objects or fails for reasons of the store. -/
theorem IsSound.sound_answer (h : cluster.IsSound) {request : StoreCall}
    (hkeyed : request.IsKeyed) : request.IsSound (cluster.answer request).1 := by
  cases request with
  | getPolicy space name => exact h.sound_getPolicy hkeyed.1 hkeyed.2
  | listPolicies => exact ⟨_, rfl, h.policies⟩
  | listClusterRoles => exact ⟨_, rfl, h.roles⟩
  | listClusterRoleBindings => exact ⟨_, rfl⟩
  | listRoleBindings space => exact ⟨_, rfl⟩
  | getNamespace name =>
    dsimp only [Cluster.answer, Cluster.getNamespace]
    split
    · exact nofun
    · rfl
  | listNamespaces => exact ⟨_, rfl, h.namespaces⟩
  | createBinding binding => exact sound_createBinding hkeyed
  | updateStatus written => exact sound_updateStatus hkeyed.1 hkeyed.2

theorem IsSound.typed_answer (h : cluster.IsSound) {request : StoreCall}
    (hkeyed : request.IsKeyed) : request.IsTyped (cluster.answer request).1 := by
  have hsound := h.sound_answer hkeyed
  cases request with
  | getPolicy space name =>
    intro policy heq
    dsimp only [Cluster.answer] at hsound heq
    rw [heq] at hsound
    exact (hsound.2 policy rfl).toIsTextual
  | listPolicies =>
    rintro _ ⟨⟩ policy hmem
    exact (h.policies policy hmem).toIsTextual
  | getNamespace name =>
    obtain ⟨name, rfl⟩ := hkeyed
    exact fun space heq => Cluster.name_of_getNamespace heq
  | _ => trivial

end Cluster

/-- A call that is not refused keeps the cluster of a world sound, whether bindings are listed or
not. -/
theorem DryRun.World.sound_answer {world : World} {request : StoreCall}
    (h : world.cluster.IsSound) (hkeyed : request.IsKeyed)
    (hwritten : ∀ written, request = .updateStatus written → written.IsWorded) :
    (world.answer request).2.IsSound ∧ request.IsSound (world.answer request).1 ∧
      request.IsTyped (world.answer request).1 ∧
      Event.IsWorded (.called request (world.answer request).1) := by
  cases request with
  | listClusterRoleBindings =>
    dsimp only [answer]
    split
    · exact ⟨h, ⟨_, rfl⟩, trivial, trivial⟩
    · exact ⟨h, ⟨_, rfl⟩, trivial, trivial⟩
  | listRoleBindings space =>
    dsimp only [answer]
    split
    · exact ⟨h, ⟨_, rfl⟩, trivial, trivial⟩
    · exact ⟨h, ⟨_, rfl⟩, trivial, trivial⟩
  | _ => exact ⟨h.answer hwritten, h.sound_answer hkeyed, h.typed_answer hkeyed, h.isWorded _⟩

/-- What holds of a world with a sound cluster after what a pass did in it. -/
structure DryRun.World.StaysSound (past : List Event) (world : World) : Prop where
  cluster : world.cluster.IsSound
  leads : Regime.sound.logic.Leads () past ()
  typed : ∀ event ∈ past, event.IsTyped
  worded : ∀ event ∈ past, event.IsWorded

theorem Event.isWorded_failed (request : StoreCall) (failure : Failure) :
    Event.IsWorded (.called request (.error failure)) := by
  cases request <;> trivial

namespace DryRun.World.StaysSound

variable {world later : World} {past : List Event} {event : Event} {trigger : Trigger}

theorem start (h : world.cluster.IsSound) : world.StaysSound [] where
  cluster := h
  leads := .start
  typed _ hmem := absurd hmem List.not_mem_nil
  worded _ hmem := absurd hmem List.not_mem_nil

theorem concat (h : world.StaysSound past) (hcluster : later.cluster.IsSound)
    (hallows : Regime.sound.logic.Allows () event ()) (htyped : event.IsTyped)
    (hworded : event.IsWorded) : later.StaysSound (past ++ [event]) where
  cluster := hcluster
  leads := h.leads.step hallows
  typed := typed_concat h.typed htyped
  worded other hmem := by
    rcases List.mem_append.mp hmem with hmem | hmem
    · exact h.worded other hmem
    · exact List.mem_singleton.mp hmem ▸ hworded

/-- A status that a pass is about to write has texts as messages. -/
theorem written {middle rest : Program Bool} (h : world.StaysSound past)
    (hafter : trigger.pass.After past middle) {written : Policy} {answer : Except Failure Unit}
    (hresumes : middle.Resumes (.called (.updateStatus written) answer) rest) :
    written.IsWorded := by
  have hdemand := (Trigger.meets_after hafter h.typed).demands_of_resumes hresumes
  refine Trigger.isWorded hdemand (fun verdict moment hjudged => ?_) h.worded
  exact Trigger.isText_of_judges (trigger.meets_pass.judged hafter h.typed hjudged)

theorem step {middle rest : Program Bool} (h : world.StaysSound past)
    (hafter : trigger.pass.After past middle) (hresumes : middle.Resumes event rest)
    (hevent : world.Undergoes event later) (hdated : event.IsDated) :
    later.StaysSound (past ++ [event]) := by
  cases hevent with
  | judged verdict moment => exact h.concat h.cluster (Regime.allows_judged hdated) trivial trivial
  | reported item =>
    have hcluster : (world.report item).2.cluster.IsSound := by
      rw [(world.report_cluster item).1]
      exact h.cluster
    rw [world.report_result item]
    exact h.concat hcluster Regime.allows_reported trivial trivial
  | called refusal request =>
    have hkeyed := Trigger.isKeyed
      ((Trigger.meets_after hafter h.typed).demands_of_resumes hresumes) h.typed
    have hwritten : ∀ written, request = .updateStatus written → written.IsWorded := by
      rintro written rfl
      exact h.written hafter hresumes
    cases refusal with
    | some refusal =>
      obtain ⟨hanswer, hcluster⟩ := world.call_refused refusal request
      rw [hanswer]
      exact h.concat (hcluster ▸ h.cluster) (Regime.allows_called rfl) (request.isTyped_failed _)
        (Event.isWorded_failed request _)
    | none =>
      obtain ⟨hanswer, hcluster⟩ := world.call_answered request
      rw [hanswer]
      obtain ⟨hkept, hsound, htyped, hworded⟩ := sound_answer h.cluster hkeyed hwritten
      exact h.concat (hcluster ▸ hkept) (Regime.allows_called hsound) htyped hworded

end DryRun.World.StaysSound

namespace Program.Ends

variable {world : World} {trigger : Trigger} {ended : Ending Bool}

/-- A pass that runs in a world with a sound cluster keeps it sound. -/
theorem staysSound (h : trigger.pass.Ends world ended) (hsound : world.cluster.IsSound)
    (hdated : ∀ event ∈ ended.past, event.IsDated) : ended.world.StaysSound ended.past := by
  -- That all moments have timestamps is known of the whole history, and so of each part of it.
  refine h.follows.along h.lives (motive := fun past _ world =>
    (∀ event ∈ past, event.IsDated) → world.StaysSound past)
    (fun _ => .start hsound) (fun hafter hkept hresumes hevent hdated => ?_) hdated
  exact (hkept fun event hmem => hdated event (List.mem_append_left _ hmem)).step hafter hresumes
    hevent (hdated _ List.mem_concat_self)

theorem failsOnly (h : trigger.pass.Ends world ended) (hsound : world.cluster.IsSound)
    (hdated : ∀ event ∈ ended.past, event.IsDated) : FailsOnly trigger.Fails ended.result := by
  intro failure hresult
  have hended := trigger.holds_pass_sound.after h.follows (h.staysSound hsound hdated).leads
  rwa [hresult] at hended

end Program.Ends

end RoleGrants
