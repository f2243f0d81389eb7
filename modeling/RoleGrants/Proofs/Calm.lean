import RoleGrants.Proofs.Course
import RoleGrants.Proofs.Wanted

/-! What is created where nothing fails. The bindings that a pass knows are those that stand in the
cluster, and of the bindings that it wants it creates those that are missing. -/

namespace RoleGrants

open DryRun

namespace Cluster

/-- The cluster with some more bindings. -/
def extend (cluster : Cluster) (new : List Binding) : Cluster :=
  { cluster with bindings := cluster.bindings ++ new }

/-- The cluster with some conditions written to a policy. -/
def report (cluster : Cluster) (policy : Policy) (conditions : List Condition) : Cluster :=
  cluster.changePolicy policy.space policy.name fun kept => { kept with conditions }

variable {cluster : Cluster}

@[simp] theorem extend_nil : cluster.extend [] = cluster := by simp [extend]

@[simp] theorem extend_extend (first second : List Binding) :
    (cluster.extend first).extend second = cluster.extend (first ++ second) := by
  simp [extend]

@[simp] theorem bindings_extend (new : List Binding) :
    (cluster.extend new).bindings = cluster.bindings ++ new := rfl

theorem holds_iff {place : Place} :
    cluster.Holds place ↔ ∃ binding ∈ cluster.bindings, binding.place? = some place := by
  simp only [Holds, Binding.isAt_iff]

theorem isCovered_iff {binding : Binding} {place : Place} (hat : binding.IsAt place) :
    Binding.isCovered cluster.bindings binding = true ↔ cluster.Holds place := by
  rw [Binding.isAt_iff] at hat
  simp [Binding.isCovered, holds_iff, hat]

theorem holds_extend {new : List Binding} {place : Place} :
    (cluster.extend new).Holds place ↔
      cluster.Holds place ∨ ∃ binding ∈ new, binding.IsAt place := by
  simp only [Holds, bindings_extend, List.mem_append, or_and_right, exists_or]

/-- A binding is created where none stands. -/
theorem answer_createBinding {binding : Binding} {place : Place} (hproper : binding.IsProper)
    (hat : binding.IsAt place) (hfree : ¬ cluster.Holds place) :
    cluster.answer (.createBinding binding) = (.ok binding, cluster.extend [binding]) := by
  have hkeys : Value.requireKeys [binding.space, binding.name] = .ok () := by
    obtain ⟨name, hname⟩ := hproper.name
    rcases hproper.space with hspace | ⟨space, hspace⟩ <;> rw [hspace, hname] <;> rfl
  have hany : cluster.bindings.any (isBinding binding.space binding.name) = false := by
    rw [List.any_eq_false]
    intro stored hmem hsame
    obtain ⟨hspace, hname⟩ := hproper.key_eq hsame
    refine hfree ⟨stored, hmem, hname.trans hat.1, ?_⟩
    rw [hspace]
    exact hat.2
  have hcreate : cluster.createBinding binding = .ok (cluster.extend [binding]) := by
    unfold createBinding
    rw [hkeys, hany]
    rfl
  simp only [answer, hcreate]

end Cluster

/-- Whether an index has the names of the bindings that stand in a scope of a cluster. -/
def BindingIndex.Mirrors (index : BindingIndex) (cluster : Cluster) (scope : Option String) :
    Prop :=
  ∀ name, index.exists? (.text name) (scope.map Value.text) = true ↔ cluster.Holds ⟨scope, name⟩

namespace BindingIndex

variable {cluster : Cluster}

theorem mirrors_onCluster : (ofList cluster.clusterRoleBindings).Mirrors cluster none := by
  intro name
  refine exists?_ofList_none.trans ⟨?_, ?_⟩
  · rintro ⟨binding, hmem, hname⟩
    obtain ⟨hmem, hspace⟩ := List.mem_filter.mp hmem
    exact ⟨binding, hmem, hname, by simpa using hspace⟩
  · rintro ⟨binding, hmem, hname, hspace⟩
    have hspace : binding.space.isTrue = false := hspace
    exact ⟨binding, List.mem_filter.mpr ⟨hmem, by simp [hspace]⟩, hname⟩

/-- A list of the bindings in all namespaces, or in one of them, has all that stand there. -/
theorem mirrors_inNamespace {space : String} {asked : Option Value}
    (h : ∀ other, asked = some other → other = .text space) :
    (ofList (cluster.roleBindings asked)).Mirrors cluster (some space) := by
  intro name
  refine exists?_ofList_some.trans ⟨?_, ?_⟩
  · rintro ⟨binding, hmem, hat⟩
    exact ⟨binding, (List.mem_filter.mp hmem).1, hat⟩
  · rintro ⟨binding, hmem, hat⟩
    obtain ⟨hname, hne, hspace⟩ := hat
    refine ⟨binding, List.mem_filter.mpr ⟨hmem, ?_⟩, hname, hne, hspace⟩
    rw [hspace, Value.isTrue_text.mpr hne]
    cases asked with
    | none => rfl
    | some other =>
      rw [h other rfl]
      exact Value.text_beq_iff.mpr rfl

theorem Mirrors.add {index : BindingIndex} {binding : Binding} {scope other : Option String}
    {name : String} (h : index.Mirrors cluster scope) (hat : binding.IsAt ⟨other, name⟩)
    (hscope : scope = none → other = none) :
    (index.add binding).Mirrors (cluster.extend [binding]) scope := by
  have hnew : ∀ place, (∃ added ∈ [binding], added.IsAt place) ↔ binding.IsAt place := by simp
  intro text
  rw [Cluster.holds_extend, hnew, ← h text]
  cases scope with
  | none =>
    cases hscope rfl
    simp only [Option.map_none, exists?_add_none, Bool.or_eq_true, Value.text_beq_iff]
    refine or_congr_right ⟨fun hname => ⟨hname, hat.2⟩, fun hother => hother.1⟩
  | some space =>
    simp only [Option.map_some, exists?_add_some, Bool.or_eq_true, Bool.and_eq_true,
      Value.text_beq_iff]
    refine or_congr_right ⟨?_, ?_⟩
    · rintro ⟨⟨htrue, hspace⟩, hname⟩
      rw [hspace, Value.isTrue_text] at htrue
      exact ⟨hname, htrue, hspace⟩
    · rintro ⟨hname, hne, hspace⟩
      exact ⟨⟨by rw [hspace]; exact Value.isTrue_text.mpr hne, hspace⟩, hname⟩

end BindingIndex

namespace Pass

/-- How far some wanted bindings have come from a cluster on: those that were missing are created,
and what stands in some scopes is known. -/
structure Filled (cluster : Cluster) (scopes : Option String → Prop) (wanted : List Binding)
    (later : Cluster) (grants : Grants) : Prop where
  grown : later = cluster.extend (Binding.missing cluster.bindings wanted)
  created : grants.created = Binding.missing cluster.bindings wanted
  mirrors : ∀ scope, scopes scope → grants.index.Mirrors later scope

namespace Filled

variable {cluster later : Cluster} {scopes : Option String → Prop} {wanted : List Binding}
  {grants : Grants} {binding : Binding} {scope : Option String} {name : String}

theorem start {index : BindingIndex}
    (h : ∀ scope, scopes scope → index.Mirrors cluster scope) :
    Filled cluster scopes [] cluster { index } :=
  ⟨by simp, rfl, h⟩

theorem exists?_iff (h : Filled cluster scopes wanted later grants) (hscope : scopes scope)
    (hat : binding.IsAt ⟨scope, name⟩) :
    grants.index.exists? binding.name (scope.map Value.text) = true ↔
      Binding.isCovered later.bindings binding = true := by
  rw [Cluster.isCovered_iff hat, hat.1]
  exact h.mirrors scope hscope name

/-- A wanted binding that is known is not missing. -/
theorem known (h : Filled cluster scopes wanted later grants)
    (hcovered : Binding.isCovered later.bindings binding = true) :
    Filled cluster scopes (wanted ++ [binding]) later grants := by
  have hmissing : Binding.missing cluster.bindings (wanted ++ [binding]) =
      Binding.missing cluster.bindings wanted := by
    rw [h.grown] at hcovered
    have hnone : Binding.missing (cluster.bindings ++ Binding.missing cluster.bindings wanted)
        [binding] = [] := Binding.missing_eq_nil.mpr fun other hmem =>
      List.mem_singleton.mp hmem ▸ hcovered
    rw [Binding.missing_append, hnone, List.append_nil]
  exact ⟨hmissing ▸ h.grown, hmissing ▸ h.created, h.mirrors⟩

/-- One that is not known is missing, and is known when it is created. -/
theorem added (h : Filled cluster scopes wanted later grants)
    (hmissing : Binding.isCovered later.bindings binding = false)
    (hat : binding.IsAt ⟨scope, name⟩) (hscopes : scopes none → scope = none) :
    Filled cluster scopes (wanted ++ [binding]) (later.extend [binding])
      (grants.add binding true) := by
  have happend : Binding.missing cluster.bindings (wanted ++ [binding]) =
      Binding.missing cluster.bindings wanted ++ [binding] := by
    rw [h.grown, Cluster.bindings_extend] at hmissing
    rw [Binding.missing_append, Binding.missing, hmissing]
    rfl
  refine ⟨?_, ?_, fun other hother => ?_⟩
  · rw [happend, h.grown, Cluster.extend_extend]
  · rw [happend, Grants.add, h.created]
    rfl
  · refine (h.mirrors other hother).add hat fun hnone => hscopes (hnone ▸ hother)

/-- A wanted binding that the index has is not missing. -/
theorem of_exists? (h : Filled cluster scopes wanted later grants) (hscope : scopes scope)
    (hat : binding.IsAt ⟨scope, name⟩)
    (hknown : grants.index.exists? binding.name (scope.map .text) = true) :
    Filled cluster scopes (wanted ++ [binding]) later grants :=
  h.known ((h.exists?_iff hscope hat).mp hknown)

/-- One that the index does not have can be created. -/
theorem of_not_exists? (h : Filled cluster scopes wanted later grants) (hscope : scopes scope)
    (hat : binding.IsAt ⟨scope, name⟩) (hscopes : scopes none → scope = none)
    (hnew : grants.index.exists? binding.name (scope.map .text) = false) :
    ¬ later.Holds ⟨scope, name⟩ ∧
      Filled cluster scopes (wanted ++ [binding]) (later.extend [binding])
        (grants.add binding true) := by
  have hmissing : Binding.isCovered later.bindings binding = false := by
    refine Bool.eq_false_iff.mpr fun hcovered => ?_
    cases hnew.symm.trans ((h.exists?_iff hscope hat).mpr hcovered)
  refine ⟨fun hholds => ?_, h.added hmissing hat hscopes⟩
  cases hmissing.symm.trans ((Cluster.isCovered_iff hat).mpr hholds)

end Filled

end Pass

end RoleGrants
