import RoleGrants.Proofs.Calm
import RoleGrants.Proofs.Releasing

/-! Values that can be keys. A key is equal to itself, and so is a value that equals one, so a
policy that is found under a key can be written back under its own. The series of what a policy
grants can be recorded if its roles can be keys and its subject can; to record some series again, or
to clear them again, changes nothing. -/

namespace RoleGrants

namespace Value

theorem isKey_of_beq {one other : Value} (h : (one == other) = true) (hkey : other.isKey = true) :
    one.isKey = true := by
  cases one with
  | list items =>
    cases other with
    | list others => exact hkey
    | _ => cases h
  | object fields =>
    cases other with
    | object others => exact hkey
    | _ => cases h
  | _ => rfl

theorem beq_self_of_isKey {value : Value} (h : value.isKey = true) : (value == value) = true := by
  cases value with
  | list items => cases h
  | object fields => cases h
  | null => rfl
  | text text => exact text_beq_iff.mpr rfl
  | bool b => exact beq_self_eq_true (some (if b then (1 : Int) else 0))
  | int n => exact beq_self_eq_true (some n)
  | float x =>
    change (x == x || _) = true
    rw [beq_self_eq_true, Bool.true_or]

theorem sameItems_refl {values : List Value} (h : ∀ value ∈ values, (value == value) = true) :
    sameItems values values = true := by
  induction values with
  | nil => rfl
  | cons value rest ih =>
    obtain ⟨hvalue, hrest⟩ := List.forall_mem_cons.mp h
    exact Bool.and_eq_true_iff.mpr ⟨hvalue, ih hrest⟩

theorem requireKeys_iff {values : List Value} :
    requireKeys values = .ok () ↔ ∀ value ∈ values, value.isKey = true := by
  unfold requireKeys require
  split
  · next hall => exact ⟨fun _ => List.all_eq_true.mp hall, fun _ => rfl⟩
  · next hnot => exact ⟨nofun, fun hall => absurd (List.all_eq_true.mpr hall) hnot⟩

theorem requireKeys_cases (values : List Value) :
    requireKeys values = .ok () ∨ requireKeys values = .error .wrongType := by
  unfold requireKeys require
  split
  · exact .inl rfl
  · exact .inr rfl

theorem isKey_of_isText {value : Value} (h : value.IsText) : value.isKey = true := by
  obtain ⟨text, rfl⟩ := h
  rfl

end Value

/-- A policy that is found can be found under its own name, which can be a key. -/
structure Policy.IsKept (policy : Policy) (cluster : Cluster) : Prop where
  keys : Value.requireKeys [policy.space, policy.name] = .ok ()
  kept : cluster.policies.any (Cluster.isPolicy policy.space policy.name) = true

theorem Policy.IsTextual.isKept {policy : Policy} {cluster : Cluster} (h : policy.IsTextual)
    (howned : policy.unreported ∈ cluster.owned) : policy.IsKept cluster :=
  ⟨Value.requireKeys_pair h.space h.name, Cluster.any_isPolicy_of_owned h.space h.name howned⟩

theorem Policy.IsKept.extend {policy : Policy} {cluster : Cluster} (h : policy.IsKept cluster)
    (new : List Binding) : policy.IsKept (cluster.extend new) := ⟨h.keys, h.kept⟩

namespace Cluster

variable {cluster : Cluster} {policy : Policy} {conditions : List Condition}

theorem find?_changePolicy {change : Policy → Policy} (space name : Value) {home label : Value}
    (hchange : ∀ policy, isPolicy home label (change policy) = isPolicy home label policy)
    (hfound : cluster.policies.find? (isPolicy home label) = some policy) :
    (cluster.changePolicy space name change).policies.find? (isPolicy home label) =
      some (if isPolicy space name policy then change policy else policy) := by
  have hsame : (isPolicy home label ∘ fun policy =>
      if isPolicy space name policy then change policy else policy) = isPolicy home label := by
    funext other
    simp only [Function.comp]
    split
    · exact hchange other
    · rfl
  rw [changePolicy, List.find?_map, hsame, hfound, Option.map_some]

theorem getPolicy_eq {space name : Value} :
    cluster.getPolicy space name = .ok policy ↔ Value.requireKeys [space, name] = .ok () ∧
      cluster.policies.find? (isPolicy space name) = some policy := by
  unfold getPolicy
  cases Value.requireKeys [space, name] with
  | error failure => exact ⟨nofun, fun h => nomatch h.1⟩
  | ok _ =>
    cases hfound : cluster.policies.find? (isPolicy space name) with
    | none => exact ⟨nofun, fun h => nomatch h.2⟩
    | some other =>
      constructor
      · rintro ⟨⟩
        exact ⟨rfl, rfl⟩
      · rintro ⟨-, ⟨⟩⟩
        rfl

theorem getPolicy_congr {other : Cluster} (h : other.policies = cluster.policies)
    (space name : Value) : other.getPolicy space name = cluster.getPolicy space name := by
  rw [getPolicy, getPolicy, h]

theorem getPolicy_failed {space name : Value} {failure : Failure}
    (h : cluster.getPolicy space name = .error failure) :
    failure = .wrongType ∨ ∃ message, failure = .store .notFound message := by
  unfold getPolicy at h
  rcases Value.requireKeys_cases [space, name] with hkeys | hkeys
  · rw [hkeys] at h
    cases hfound : cluster.policies.find? (isPolicy space name) with
    | some policy =>
      rw [hfound] at h
      cases h
    | none =>
      rw [hfound] at h
      cases h
      exact .inr ⟨_, rfl⟩
  · rw [hkeys] at h
    cases h
    exact .inl rfl

theorem getNamespace_failed {name : Value} {failure : Failure}
    (h : cluster.getNamespace name = .error failure) :
    ∃ message, failure = .store .notFound message := by
  unfold getNamespace at h
  split at h
  · cases h
  · exact ⟨_, (Except.error.inj h).symm⟩

theorem isKept_of_getPolicy {space name : Value} (h : cluster.getPolicy space name = .ok policy) :
    policy.IsKept cluster ∧ isPolicy policy.space policy.name policy = true := by
  obtain ⟨hkeys, hfound⟩ := getPolicy_eq.mp h
  rw [Value.requireKeys_iff] at hkeys
  have hunder : isPolicy space name policy = true := List.find?_some hfound
  obtain ⟨hspace, hname⟩ := Bool.and_eq_true_iff.mp hunder
  have hspace := Value.isKey_of_beq hspace (hkeys space (by simp))
  have hname := Value.isKey_of_beq hname (hkeys name (by simp))
  have hself : isPolicy policy.space policy.name policy = true := by
    rw [isPolicy, Value.beq_self_of_isKey hspace, Value.beq_self_of_isKey hname]
    rfl
  refine ⟨⟨Value.requireKeys_iff.mpr ?_, ?_⟩, hself⟩
  · simp [hspace, hname]
  · exact List.any_eq_true.mpr ⟨policy, List.mem_of_find?_eq_some hfound, hself⟩

/-- What a policy is after its conditions were written. -/
theorem getPolicy_report {space name : Value} (h : cluster.getPolicy space name = .ok policy) :
    (cluster.report policy conditions).getPolicy space name = .ok { policy with conditions } := by
  have hself := (isKept_of_getPolicy h).2
  obtain ⟨hkeys, hfound⟩ := getPolicy_eq.mp h
  refine getPolicy_eq.mpr ⟨hkeys, ?_⟩
  unfold report
  rw [find?_changePolicy _ _ (fun _ => by rfl) hfound, if_pos hself]

/-- To write the same conditions again changes nothing. -/
theorem report_again : (cluster.report policy conditions).report policy conditions =
    cluster.report policy conditions := by
  unfold report changePolicy
  dsimp only
  rw [List.map_map]
  congr 1
  refine List.map_congr_left fun kept _ => ?_
  rw [Function.comp_apply]
  split
  · next hkept => exact if_pos hkept
  · rfl

/-- The conditions of a kept policy can be written. -/
theorem answer_updateStatus (h : policy.IsKept cluster) (conditions : List Condition) :
    cluster.answer (.updateStatus { policy with conditions }) =
      (.ok (), cluster.report policy conditions) := by
  have hupdate : cluster.updateStatus { policy with conditions } =
      .ok (cluster.report policy conditions) := by
    unfold updateStatus
    rw [h.keys, h.kept]
    rfl
  simp only [answer, hupdate]

end Cluster

/-! ### What a policy grants, in the metrics -/

/-- Whether the series of some roles that a policy grants can be recorded. -/
structure Policy.CanRecord (policy : Policy) (roles : List Value) : Prop where
  keys : ∀ role ∈ roles, role.isKey = true
  subject : roles ≠ [] → policy.subjectName.isKey = true

/-- The series of some roles that a policy grants in a scope, each once. -/
def Policy.seriesOf (policy : Policy) (roles : List Value) (scope : String) : List Series :=
  (Value.distinct roles).map (Pass.series policy scope)

theorem Pass.requireKeys_parts {policy : Policy} {scope : String} {role : Value} :
    Value.requireKeys (series policy scope role).parts = .ok () ↔
      policy.subjectName.isKey = true ∧ role.isKey = true := by
  rw [Value.requireKeys_iff]
  simp [Series.parts, series, Value.isKey]

namespace Sink

variable {sink : Sink} {one other : Series} {recorded cleared : List Series}

/-- The sink with some series recorded. -/
def recordAll (sink : Sink) (recorded : List Series) : Sink :=
  recorded.foldl (fun sink series => (sink.record series true).2) sink

theorem recordAll_append (first second : List Series) :
    sink.recordAll (first ++ second) = (sink.recordAll first).recordAll second :=
  List.foldl_append

/-- Whether a series is recorded and has its gauge. -/
structure Has (sink : Sink) (series : Series) : Prop where
  recorded : sink.recorded.any series.same = true
  gauge : sink.gauges.lookup series.labels = some true

theorem lookup_setGauge (gauges : List (List String × Bool)) (labels other : List String)
    (active : Bool) : (setGauge gauges labels active).lookup other =
      if other == labels then some active else gauges.lookup other := by
  induction gauges with
  | nil => cases h : other == labels <;> simp [setGauge, List.lookup_cons, h]
  | cons gauge rest ih =>
    obtain ⟨first, value⟩ := gauge
    rw [setGauge]
    split
    · next hsame =>
      cases eq_of_beq hsame
      cases h : other == labels <;> simp [List.lookup_cons, h]
    · next hother =>
      rw [List.lookup_cons, List.lookup_cons, ih]
      cases h : other == first with
      | false => rfl
      | true =>
        cases eq_of_beq h
        exact (if_neg hother).symm

theorem setGauge_eq_self {gauges : List (List String × Bool)} {labels : List String}
    {active : Bool} (h : gauges.lookup labels = some active) :
    setGauge gauges labels active = gauges := by
  induction gauges with
  | nil => cases h
  | cons gauge rest ih =>
    obtain ⟨first, value⟩ := gauge
    rw [List.lookup_cons] at h
    rw [setGauge]
    split
    · next hsame =>
      cases eq_of_beq hsame
      simp only [beq_self_eq_true] at h
      cases h
      rfl
    · next hother =>
      have hne : (labels == first) = false := by
        rw [beq_eq_false_iff_ne]
        exact fun heq => hother (beq_iff_eq.mpr heq.symm)
      simp only [hne] at h
      rw [ih h]

/-- To record a series again changes nothing. -/
theorem Has.record_eq (h : sink.Has one) (hkeys : Value.requireKeys one.parts = .ok ()) :
    (sink.record one true).2 = sink := by
  unfold record
  rw [hkeys]
  dsimp only
  rw [if_pos h.recorded, setGauge_eq_self h.gauge]

theorem Has.record (h : sink.Has one) (other : Series) : (sink.record other true).2.Has one where
  recorded := by
    obtain ⟨series, hmem, hsame⟩ := List.any_eq_true.mp h.recorded
    exact List.any_eq_true.mpr ⟨series, recorded_subset hmem, hsame⟩
  gauge := by
    rw [record_gauges, lookup_setGauge]
    split
    · rfl
    · exact h.gauge

theorem has_record (hkeys : Value.requireKeys one.parts = .ok ()) :
    (sink.record one true).2.Has one where
  recorded := by
    have hself : one.same one = true := by
      rw [Value.requireKeys_iff] at hkeys
      simp only [Series.parts, List.forall_mem_cons] at hkeys
      obtain ⟨hsubject, hpolicy, hrole, hscope, -⟩ := hkeys
      simp only [Series.same, Series.parts, Value.sameItems, Bool.and_eq_true]
      exact ⟨Value.beq_self_of_isKey hsubject, Value.beq_self_of_isKey hpolicy,
        Value.beq_self_of_isKey hrole, Value.beq_self_of_isKey hscope, trivial⟩
    unfold Sink.record
    rw [hkeys]
    dsimp only
    split
    · next hany => exact hany
    · rw [List.any_append]
      simp [hself]
  gauge := by
    rw [record_gauges, lookup_setGauge, if_pos (beq_self_eq_true _)]

theorem Has.recordAll (h : sink.Has one) : (sink.recordAll recorded).Has one := by
  induction recorded generalizing sink with
  | nil => exact h
  | cons first rest ih => exact ih (h.record first)

theorem has_recordAll (hkeys : ∀ series ∈ recorded, Value.requireKeys series.parts = .ok ())
    (hmem : one ∈ recorded) : (sink.recordAll recorded).Has one := by
  induction recorded generalizing sink with
  | nil => exact absurd hmem List.not_mem_nil
  | cons first rest ih =>
    rcases List.mem_cons.mp hmem with rfl | hmem
    · exact (has_record (hkeys one List.mem_cons_self)).recordAll
    · exact ih (fun series hseries => hkeys series (List.mem_cons_of_mem _ hseries)) hmem

/-- To record series that are all recorded changes nothing. -/
theorem recordAll_eq_self (hkeys : ∀ series ∈ recorded, Value.requireKeys series.parts = .ok ())
    (h : ∀ series ∈ recorded, sink.Has series) : sink.recordAll recorded = sink := by
  induction recorded with
  | nil => rfl
  | cons first rest ih =>
    have hfirst : (sink.record first true).2 = sink :=
      (h first List.mem_cons_self).record_eq (hkeys first List.mem_cons_self)
    rw [recordAll, List.foldl_cons, hfirst]
    exact ih (fun series hmem => hkeys series (List.mem_cons_of_mem _ hmem))
      fun series hmem => h series (List.mem_cons_of_mem _ hmem)

theorem recordAll_again (hkeys : ∀ series ∈ recorded, Value.requireKeys series.parts = .ok ()) :
    (sink.recordAll recorded).recordAll recorded = sink.recordAll recorded :=
  recordAll_eq_self hkeys fun _ hmem => has_recordAll hkeys hmem

/-! ### Series that are cleared again -/

/-- Whether nothing is left of a series, or it is not recorded. -/
def Lacks (sink : Sink) (series : Series) : Prop :=
  sink.recorded.any series.same = true →
    (∀ gauge ∈ sink.gauges, gauge.1 ≠ series.labels) ∧
      ∀ other ∈ sink.recorded, other.same series = false

theorem Lacks.clear_eq (h : sink.Lacks one) : (sink.clear one).2 = sink := by
  unfold Sink.clear
  split
  · rfl
  · split
    · next hany =>
      obtain ⟨hgauges, hrecorded⟩ := h hany
      rw [List.filter_eq_self.mpr fun gauge hmem => bne_iff_ne.mpr (hgauges gauge hmem),
        List.filter_eq_self.mpr fun other hmem => by rw [hrecorded other hmem]; rfl]
    · rfl

theorem clear_gauges_subset : (sink.clear one).2.gauges ⊆ sink.gauges := by
  unfold Sink.clear
  split
  · exact fun _ => id
  · split
    · exact fun _ hmem => (List.mem_filter.mp hmem).1
    · exact fun _ => id

theorem Lacks.clear (h : sink.Lacks one) (other : Series) : (sink.clear other).2.Lacks one := by
  intro hany
  obtain ⟨series, hmem, hsame⟩ := List.any_eq_true.mp hany
  obtain ⟨hgauges, hrecorded⟩ := h (List.any_eq_true.mpr ⟨series, clear_subset hmem, hsame⟩)
  exact ⟨fun gauge hgauge => hgauges gauge (clear_gauges_subset hgauge),
    fun series hseries => hrecorded series (clear_subset hseries)⟩

theorem lacks_clear (hkeys : Value.requireKeys one.parts = .ok ()) :
    (sink.clear one).2.Lacks one := by
  unfold Sink.clear
  rw [hkeys]
  dsimp only
  split
  · intro _
    refine ⟨fun gauge hmem => bne_iff_ne.mp (List.mem_filter.mp hmem).2, fun other hmem => ?_⟩
    simpa using (List.mem_filter.mp hmem).2
  · next hnone => exact fun hany => absurd hany hnone

theorem Lacks.clearAll (h : sink.Lacks one) : (sink.clearAll cleared).Lacks one := by
  induction cleared generalizing sink with
  | nil => exact h
  | cons first rest ih => exact ih (h.clear first)

theorem lacks_clearAll (hkeys : ∀ series ∈ cleared, Value.requireKeys series.parts = .ok ())
    (hmem : one ∈ cleared) : (sink.clearAll cleared).Lacks one := by
  induction cleared generalizing sink with
  | nil => exact absurd hmem List.not_mem_nil
  | cons first rest ih =>
    rcases List.mem_cons.mp hmem with rfl | hmem
    · exact (lacks_clear (hkeys one List.mem_cons_self)).clearAll
    · exact ih (fun series hseries => hkeys series (List.mem_cons_of_mem _ hseries)) hmem

theorem clearAll_eq_self (h : ∀ series ∈ cleared, sink.Lacks series) :
    sink.clearAll cleared = sink := by
  induction cleared with
  | nil => rfl
  | cons first rest ih =>
    rw [clearAll, List.foldl_cons, (h first List.mem_cons_self).clear_eq]
    exact ih fun series hmem => h series (List.mem_cons_of_mem _ hmem)

/-- To clear some series again changes nothing. -/
theorem clearAll_again (hkeys : ∀ series ∈ cleared, Value.requireKeys series.parts = .ok ()) :
    (sink.clearAll cleared).clearAll cleared = sink.clearAll cleared :=
  clearAll_eq_self fun _ hmem => lacks_clearAll hkeys hmem

end Sink

end RoleGrants
