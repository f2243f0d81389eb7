import RoleGrants.Proofs.Keys
import RoleGrants.Proofs.Scene

/-! What the steps that passes share leave of a scene. A policy whose patterns compile is resolved
over namespaces exactly when those names are texts that it looks at. -/

namespace RoleGrants

open Program Pass

/-- The scene after some conditions were written to a policy. -/
def Scene.noting (scene : Scene) (policy : Policy) (conditions : List Condition) : Scene where
  cluster := scene.cluster.report policy conditions
  sink := scene.sink
  mutations := scene.mutations ++ [.updateStatus { policy with conditions }]

/-- A binding is made where none stands. -/
theorem Scene.called_createBinding {scene : Scene} {binding : Binding} {place : Place}
    (hproper : binding.IsProper) (hat : binding.IsAt place) (hfree : ¬ scene.cluster.Holds place) :
    (scene.cluster.answer (.createBinding binding)).1 = .ok binding ∧
      scene.called (.createBinding binding) = scene.making [binding] := by
  have hanswer := Cluster.answer_createBinding hproper hat hfree
  exact ⟨congrArg Prod.fst hanswer, by simp [called, making, hanswer, StoreCall.mutates]⟩

theorem Scene.called_updateStatus {scene : Scene} {policy : Policy}
    (h : policy.IsKept scene.cluster) (conditions : List Condition) :
    (scene.cluster.answer (.updateStatus { policy with conditions })).1 = .ok () ∧
      scene.called (.updateStatus { policy with conditions }) = scene.noting policy conditions := by
  have hanswer := Cluster.answer_updateStatus h conditions
  exact ⟨congrArg Prod.fst hanswer, by simp [called, noting, hanswer, StoreCall.mutates]⟩

/-- A condition can be set at any moment that has a timestamp, if the roles can be keys. -/
theorem Tracker.exists_upsert {tracker : Tracker} {verdict : Verdict} {moment : Int} {text : String}
    (hkeys : ∀ role ∈ verdict.roles, role.isKey = true)
    (htext : Timestamp.ofMoment moment = .ok text) :
    ∃ after, tracker.upsert moment verdict = .ok after := by
  obtain ⟨condition, hnext⟩ :=
    next_ok (Value.requireKeys_iff.mpr hkeys) htext (tracker.get? verdict.type)
  exact ⟨_, by rw [upsert, hnext]; rfl⟩

/-! ### What a policy that breaks no rule selects -/

namespace Safelist

theorem exists_of_keep_ok {test : Value → Except Failure Bool} {names kept : List Value}
    (h : keep test names = .ok kept) : ∀ name ∈ names, ∃ found, test name = .ok found := by
  induction names generalizing kept with
  | nil => exact fun _ hmem => absurd hmem List.not_mem_nil
  | cons name rest ih =>
    obtain ⟨found, hfound, h⟩ := exists_of_bind_ok h
    have hrest : ∃ kept, keep test rest = .ok kept := by
      cases found with
      | true =>
        obtain ⟨kept, hkept, _⟩ := exists_of_bind_ok h
        exact ⟨kept, hkept⟩
      | false => exact ⟨kept, h⟩
    obtain ⟨kept, hkept⟩ := hrest
    intro other hmem
    rcases List.mem_cons.mp hmem with rfl | hmem
    · exact ⟨found, hfound⟩
    · exact ih hkept other hmem

end Safelist

/-- Whether the patterns of all permissions of a policy can be tried on some names. -/
def Policy.Resolves (policy : Policy) (names : List Value) : Prop :=
  ∀ permission ∈ policy.permissions, ∃ targets,
    Safelist.resolve permission.allowed permission.denied names = .ok targets

/-- What a permission selects of some names, if it can be tried on them: those that it chooses, all
of them texts. -/
theorem Policy.of_resolve_ok {policy : Policy} {permission : Permission}
    {names targets : List Value} (hvalid : policy.validate = .ok ())
    (hmem : permission ∈ policy.permissions)
    (h : Safelist.resolve permission.allowed permission.denied names = .ok targets) :
    targets = names.filter permission.chooses ∧ ∀ target ∈ targets, target.IsText := by
  cases hpresent : permission.allowed.isTrue with
  | false =>
    have hnone : ∀ names, Safelist.resolve permission.allowed permission.denied names = .ok [] := by
      intro names
      rw [Safelist.resolve, hpresent]
      rfl
    rw [hnone] at h
    cases h
    have hchooses : ∀ name ∈ names, ¬ permission.chooses name = true := by
      intro name _
      rw [Permission.chooses, hnone]
      exact Bool.false_ne_true
    exact ⟨(List.filter_eq_nil_iff.mpr hchooses).symm, fun _ hmem => absurd hmem List.not_mem_nil⟩
  | true =>
    obtain ⟨allow, hallow⟩ := (compile_of_validate hvalid hmem).1 hpresent
    have htexts : ∀ name ∈ names, name.IsText := by
      have hkept := h
      simp only [Safelist.resolve, hpresent, hallow] at hkept
      obtain ⟨_, _, hkept⟩ := exists_of_bind_ok hkept
      obtain ⟨selected, hselected, _⟩ := exists_of_bind_ok hkept
      intro name hname
      obtain ⟨found, hfound⟩ := Safelist.exists_of_keep_ok hselected name hname
      obtain ⟨text, htext, -⟩ := Safelist.matchesName_ok hfound
      exact ⟨text, htext⟩
    rw [resolve_eq hvalid hmem htexts] at h
    cases h
    exact ⟨rfl, fun target htarget => htexts target (List.mem_filter.mp htarget).1⟩

namespace Pass

variable {scene later : Scene} {policy : Policy} {tracker : Tracker} {bad : Scene → Failure → Prop}

theorem leaves_judge {verdict : Verdict} {good : Scene → Tracker → Prop}
    (hkeys : ∀ role ∈ verdict.roles, role.isKey = true)
    (hgood : ∀ moment after, tracker.upsert moment verdict = .ok after → good scene after) :
    (upsert tracker verdict).Leaves good bad scene := by
  rintro moment ⟨text, htext⟩
  refine holds_ofExcept.mpr ⟨hgood moment, fun failure hfailure => ?_⟩
  obtain ⟨after, hafter⟩ := Tracker.exists_upsert hkeys htext
  rw [hafter] at hfailure
  cases hfailure

theorem leaves_write {good : Scene → Unit → Prop} (h : policy.IsKept scene.cluster)
    (hgood : good (scene.noting policy tracker.current) ()) :
    (ask (writing policy tracker)).Leaves good bad scene := by
  obtain ⟨hanswer, hcalled⟩ := Scene.called_updateStatus h tracker.current
  change (done (scene.cluster.answer (writing policy tracker)).1).Leaves good bad
    (scene.called (writing policy tracker))
  rw [hanswer, hcalled]
  exact hgood

/-- A wanted binding that is not known is created. -/
theorem Filled.leaves_create {cluster : Cluster} {scopes : Option String → Prop}
    {wanted : List Binding} {grants : Grants} {binding : Binding} {scope : Option String}
    {text purpose : String} {isCounted : Bool} {next : Bool → Scene → Prop}
    (h : Filled cluster scopes wanted later.cluster grants) (hscope : scopes scope)
    (hat : binding.IsAt ⟨scope, text⟩) (hscopes : scopes none → scope = none)
    (hproper : binding.IsProper)
    (hnew : grants.index.exists? binding.name (scope.map .text) = false)
    (hnext : Filled cluster scopes (wanted ++ [binding]) (later.making [binding]).cluster
      (grants.add binding true) → next true (later.making [binding])) :
    Scene.logic.call later (.createBinding binding) fun answer after =>
      Attempted Scene.logic bad purpose binding isCounted next answer after := by
  obtain ⟨hfree, hfilled⟩ := h.of_not_exists? hscope hat hscopes hnew
  obtain ⟨hanswer, hcalled⟩ := Scene.called_createBinding hproper hat hfree
  change Attempted Scene.logic bad purpose binding isCounted next
    (later.cluster.answer (.createBinding binding)).1 (later.called (.createBinding binding))
  rw [hanswer, hcalled]
  exact .of_isCalm (fun _ _ => hnext hfilled) nofun nofun

end Pass

end RoleGrants
