import RoleGrants.Proofs.PolicyChart
import RoleGrants.Proofs.Regularity
import RoleGrants.Proofs.Staging
import RoleGrants.Proofs.Tidy

/-! What a pass does about a policy when nothing fails, in closed form. `Policy.deed` says which
stage the pass comes to, the bindings that it creates, the verdicts that it gives and the series
that it records; `Policy.IsFit` says when no value that it meets on the way is of a wrong type. -/

namespace RoleGrants

open DryRun Program Pass

/-- The requested roles that do not exist, each once and in the order requested. -/
def lackingRoles (requested existing : List Value) : List Value :=
  Value.distinct (requested.filter fun role => !existing.contains role)

theorem missingRoles_eq {requested existing : List Value}
    (hexisting : ∀ role ∈ existing, role.isKey = true)
    (hrequested : ∀ role ∈ requested, role.isKey = true) :
    missingRoles requested existing = .ok (lackingRoles requested existing) := by
  rw [missingRoles, Value.requireKeys_iff.mpr hexisting, Value.requireKeys_iff.mpr hrequested]
  rfl

theorem of_missingRoles_ok {requested existing missing : List Value}
    (h : missingRoles requested existing = .ok missing) :
    (∀ role ∈ existing, role.isKey = true) ∧ (∀ role ∈ requested, role.isKey = true) ∧
      missing = lackingRoles requested existing := by
  obtain ⟨_, hexisting, h⟩ := exists_of_bind_ok h
  obtain ⟨_, hrequested, h⟩ := exists_of_bind_ok h
  cases h
  exact ⟨Value.requireKeys_iff.mp hexisting, Value.requireKeys_iff.mp hrequested, rfl⟩

theorem mem_of_mem_lackingRoles {requested existing : List Value} {role : Value}
    (h : role ∈ lackingRoles requested existing) : role ∈ requested :=
  (List.mem_filter.mp (mem_of_mem_distinct h)).1

theorem lackingRoles_isEmpty {requested existing : List Value}
    (htexts : ∀ role ∈ requested, role.IsText) :
    (lackingRoles requested existing).isEmpty = true ↔ ∀ role ∈ requested, role ∈ existing := by
  rw [lackingRoles, distinct_isEmpty, List.isEmpty_iff, List.filter_eq_nil_iff]
  refine forall₂_congr fun role hmem => ?_
  obtain ⟨text, rfl⟩ := htexts role hmem
  simp [Value.contains_text]

/-- The verdicts on a scope of which some roles may be missing. -/
def lackings (type : ConditionType) (missing : List Value) : List Verdict :=
  if missing.isEmpty then [] else [lacking type missing]

theorem lackings_of_none {type : ConditionType} {missing : List Value}
    (h : missing.isEmpty = true) : lackings type missing = [] :=
  if_pos h

theorem lackings_of_some {type : ConditionType} {missing : List Value}
    (h : missing.isEmpty = false) : lackings type missing = [lacking type missing] :=
  if_neg (Bool.eq_false_iff.mp h)

theorem eq_of_mem_lackings {type : ConditionType} {missing : List Value} {verdict : Verdict}
    (h : verdict ∈ lackings type missing) : missing ≠ [] ∧ verdict = lacking type missing := by
  unfold lackings at h
  split at h
  · exact absurd h List.not_mem_nil
  · next hsome => exact ⟨fun hnil => hsome (hnil ▸ rfl), List.mem_singleton.mp h⟩

/-- Whether some verdicts are of distinct types, with texts as messages that tell of no breach. -/
structure PlainVerdicts (verdicts : List Verdict) : Prop where
  types : verdicts.Pairwise fun a b => a.type ≠ b.type
  texts : ∀ verdict ∈ verdicts, verdict.message.IsText
  mended : ∀ verdict ∈ verdicts, verdict.condition.tellsOfBreach = false

namespace PlainVerdicts

variable {verdicts : List Verdict} {verdict : Verdict}

theorem nil : PlainVerdicts [] :=
  ⟨.nil, fun _ hmem => absurd hmem List.not_mem_nil, fun _ hmem => absurd hmem List.not_mem_nil⟩

theorem cons (h : PlainVerdicts verdicts) (htypes : ∀ other ∈ verdicts, verdict.type ≠ other.type)
    (htext : verdict.message.IsText) (hmended : verdict.condition.tellsOfBreach = false) :
    PlainVerdicts (verdict :: verdicts) :=
  ⟨.cons htypes h.types, List.forall_mem_cons.mpr ⟨htext, h.texts⟩,
    List.forall_mem_cons.mpr ⟨hmended, h.mended⟩⟩

theorem lackings (type : ConditionType) (missing : List Value) :
    PlainVerdicts (lackings type missing) := by
  unfold RoleGrants.lackings
  split
  · exact nil
  · refine nil.cons (fun _ hmem => absurd hmem List.not_mem_nil) ⟨_, rfl⟩ ?_
    change (lacking type []).condition.tellsOfBreach = false
    cases type <;> decide +kernel

theorem consGranted (h : PlainVerdicts verdicts) {type : ConditionType} {roles : List Value}
    (htypes : ∀ other ∈ verdicts, type ≠ other.type) :
    PlainVerdicts (Pass.granted type roles :: verdicts) := by
  refine h.cons htypes ?_ ?_
  · cases type <;> exact ⟨_, rfl⟩
  · change (Pass.granted type []).condition.tellsOfBreach = false
    cases type <;> decide +kernel

/-- Verdicts of one type are the same. -/
theorem eq_of_type (h : PlainVerdicts verdicts) :
    ∀ one ∈ verdicts, ∀ other ∈ verdicts, one.type = other.type → one = other := by
  intro one hone other hother htype
  have hfound : ∀ verdict ∈ verdicts,
      (verdicts.find? fun other => other.type == verdict.type) = some verdict := fun verdict hmem =>
    find?_eq_of_pairwise (h.types.imp fun hne hboth =>
      hne ((eq_of_beq hboth.1).trans (eq_of_beq hboth.2).symm)) hmem (beq_self_eq_true _)
  have hone := htype ▸ hfound one hone
  rw [hfound other hother] at hone
  exact (Option.some.inj hone).symm

end PlainVerdicts

namespace Policy

/-- The verdict on a policy all of whose bindings on the whole cluster exist. -/
def grantedOnCluster (policy : Policy) : Verdict :=
  granted .clusterRoleBindingCreated policy.clusterPermissions

def grantedInNamespaces (policy : Policy) : Verdict :=
  granted .roleBindingCreated policy.permissionRoles

/-- The conditions of a policy when a pass starts, but for times. -/
def opened (policy : Policy) : List Condition :=
  (Tracker.tidy policy.conditions).map Condition.undated

def openedTracker (policy : Policy) : Tracker :=
  ⟨Tracker.tidy policy.conditions, Tracker.firstOfType policy.conditions⟩

end Policy

@[simp] theorem Tracker.replay_nil (tracker : Tracker) : tracker.replay [] = .ok tracker := rfl

namespace Cluster

/-- The cluster with the conditions of a tracker written, for sure or if they have changed. -/
def noted (cluster : Cluster) (isSure : Bool) (policy : Policy) (tracker : Tracker) : Cluster :=
  if isSure || tracker.changed then cluster.report policy tracker.current else cluster

section

variable {cluster : Cluster} {isSure : Bool} {policy : Policy} {tracker : Tracker}

@[simp] theorem roles_noted : (cluster.noted isSure policy tracker).roles = cluster.roles := by
  unfold noted
  split <;> rfl

@[simp] theorem namespaces_noted :
    (cluster.noted isSure policy tracker).namespaces = cluster.namespaces := by
  unfold noted
  split <;> rfl

@[simp] theorem bindings_noted :
    (cluster.noted isSure policy tracker).bindings = cluster.bindings := by
  unfold noted
  split <;> rfl

end

end Cluster

/-- Whether an outcome comes of trying the permissions of a policy in namespaces. -/
def Outcome.isPlaced : Outcome → Bool
  | .roleBindingsCreated => true
  | .incomplete => true
  | _ => false

namespace PolicyPass

/-- What a pass does about a checked policy: its result, the verdicts that it gives and the series
that it records, in order, and whether it writes the conditions even if they are as before. -/
structure Deed where
  result : Result
  verdicts : List Verdict := []
  recorded : List Series := []
  isSure : Bool := true

namespace Deed

/-- A deed after some verdicts and some series. -/
def following (verdicts : List Verdict) (recorded : List Series) (deed : Deed) : Deed :=
  { deed with verdicts := verdicts ++ deed.verdicts, recorded := recorded ++ deed.recorded }

/-- What a scene becomes when a deed is done, from a tracker on. -/
structure IsDone (deed : Deed) (policy : Policy) (tracker : Tracker) (scene later : Scene)
    (result : Result) : Prop where
  result : result = deed.result
  sink : later.sink = scene.sink.recordAll deed.recorded
  noted : ∃ given after, given.map Prod.fst = deed.verdicts ∧ tracker.replay given = .ok after ∧
    later.cluster = (scene.cluster.extend deed.result.created).noted deed.isSure policy after

/-- Whether no value that a deed comes upon is of a wrong type. -/
structure IsFit (deed : Deed) (policy : Policy) (cluster : Cluster) : Prop where
  subject : deed.recorded ≠ [] → policy.subjectName.isKey = true
  resolves : deed.result.outcome.isPlaced = true → policy.Resolves (validNames cluster.namespaces)

/-- What some roles are missing for. -/
def onMissing (onCluster inNamespaces : List Value) : Deed where
  result := { outcome := .rolesMissing }
  verdicts :=
    lackings .clusterRoleBindingCreated onCluster ++ lackings .roleBindingCreated inNamespaces

end Deed

end PolicyPass

namespace Policy

open PolicyPass

/-- What a pass does in the namespaces of a cluster. -/
def deedInNamespaces (policy : Policy) (cluster : Cluster) : Deed :=
  let names := validNames cluster.namespaces
  let created := Binding.missing cluster.bindings (policy.wantedIn names)
  if policy.permissions.all fun permission => names.any permission.chooses then
    { result := { outcome := .roleBindingsCreated, created }
      verdicts := [policy.grantedInNamespaces]
      recorded := policy.seriesOf policy.permissionRoles namespaceScope }
  else { result := { outcome := .incomplete, created }, isSure := false }

/-- What a pass does that grants roles on the whole cluster, and in namespaces if that needs
nothing. -/
def deedOnCluster (policy : Policy) (cluster : Cluster) : Deed :=
  let created := Binding.missing cluster.bindings policy.wantedOnCluster
  let recorded := policy.seriesOf policy.clusterPermissions clusterScope
  if !created.isEmpty || policy.permissions.isEmpty then
    { result := {
        outcome := .clusterBindingsCreated
        requeue := !policy.permissions.isEmpty
        created }
      verdicts := [policy.grantedOnCluster]
      recorded }
  else (policy.deedInNamespaces cluster).following [policy.grantedOnCluster] recorded

/-- What a pass does about a policy of a cluster. -/
def deed (policy : Policy) (cluster : Cluster) : Deed :=
  let onCluster := lackingRoles policy.clusterPermissions cluster.roles
  let inNamespaces := lackingRoles policy.permissionRoles cluster.roles
  if !onCluster.isEmpty || !inNamespaces.isEmpty then .onMissing onCluster inNamespaces
  else if !policy.clusterPermissions.isEmpty then policy.deedOnCluster cluster
  else if !policy.permissions.isEmpty then policy.deedInNamespaces cluster
  else { result := { outcome := .upToDate }, isSure := false }

/-- The series that a policy releases when it is deleted. -/
def released (policy : Policy) : List Series :=
  policy.seriesOf policy.clusterPermissions clusterScope ++
    policy.seriesOf policy.permissionRoles namespaceScope

/-- Whether the messages of the conditions that a pass starts from are texts. -/
def IsOpen (policy : Policy) : Prop :=
  ∀ condition ∈ Tracker.firstOfType policy.conditions, condition.message.IsText

/-- Whether no value that a pass over a policy of a cluster comes upon is of a wrong type. -/
structure IsFit (policy : Policy) (cluster : Cluster) : Prop where
  existing : ∀ role ∈ cluster.roles, role.isKey = true
  onCluster : ∀ role ∈ policy.clusterPermissions, role.isKey = true
  inNamespaces : ∀ role ∈ policy.permissionRoles, role.isKey = true
  deed : (policy.deed cluster).IsFit policy cluster

/-- Whether no value that a pass over a found policy comes upon is of a wrong type. -/
structure IsSmooth (policy : Policy) (cluster : Cluster) : Prop where
  verdict : IsVerdict policy.validate
  isOpen : policy.validate = .ok () → policy.IsOpen
  released : policy.validate = .ok () → policy.isDeleting = true →
    policy.CanRecord policy.clusterPermissions ∧ policy.CanRecord policy.permissionRoles
  fit : policy.validate = .ok () → policy.isDeleting = false → policy.IsFit cluster

end Policy

namespace PolicyPass

variable {policy : Policy} {cluster : Cluster}

theorem isTrue_of_mem_validNames {spaces : List Namespace} :
    ∀ name ∈ validNames spaces, name.isTrue = true := by
  intro name hmem
  obtain ⟨space, -, hvalid, rfl⟩ := mem_validNames.mp hmem
  exact (Bool.and_eq_true_iff.mp hvalid).1

theorem seriesOf_ne_nil {roles : List Value} {scope : String} :
    policy.seriesOf roles scope ≠ [] ↔ roles ≠ [] := by
  rw [Policy.seriesOf, Ne, List.map_eq_nil_iff, ← List.isEmpty_iff, distinct_isEmpty,
    List.isEmpty_iff]

theorem isPlaced_deedInNamespaces (policy : Policy) (cluster : Cluster) :
    (policy.deedInNamespaces cluster).result.outcome.isPlaced = true := by
  unfold Policy.deedInNamespaces
  dsimp only
  split <;> rfl

/-- What is done in namespaces if each permission chooses some. -/
theorem deedInNamespaces_of_all (h : (policy.permissions.all fun permission =>
      (validNames cluster.namespaces).any permission.chooses) = true) :
    policy.deedInNamespaces cluster = {
      result := {
        outcome := .roleBindingsCreated
        created := Binding.missing cluster.bindings
          (policy.wantedIn (validNames cluster.namespaces)) }
      verdicts := [policy.grantedInNamespaces]
      recorded := policy.seriesOf policy.permissionRoles namespaceScope } :=
  if_pos h

theorem deedInNamespaces_of_not_all (h : (policy.permissions.all fun permission =>
      (validNames cluster.namespaces).any permission.chooses) = false) :
    policy.deedInNamespaces cluster = {
      result := {
        outcome := .incomplete
        created := Binding.missing cluster.bindings
          (policy.wantedIn (validNames cluster.namespaces)) }
      isSure := false } :=
  if_neg (Bool.eq_false_iff.mp h)

/-- The series of the roles on the whole cluster are the first that are recorded. -/
theorem recorded_deedOnCluster (policy : Policy) (cluster : Cluster) :
    policy.seriesOf policy.clusterPermissions clusterScope <+:
      (policy.deedOnCluster cluster).recorded := by
  unfold Policy.deedOnCluster
  dsimp only
  split
  · exact List.prefix_refl _
  · exact List.prefix_append _ _

end PolicyPass

end RoleGrants
