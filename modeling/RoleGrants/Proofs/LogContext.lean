import Mathlib.Data.List.Nodup
import RoleGrants.Log.Record
import RoleGrants.Proofs.Filling

/-! Messages in a context. A record in a context carries the fields of the context and those of the
call, and shows four of them behind the text that it has without the context. Behind a message with
values the fields are part of the template, so that they are shown as they are only if no percent
sign is among them. -/

namespace RoleGrants

namespace Value

variable {fields more : List (String × Value)}

theorem lookup_mergeFields (h : (more.map Prod.fst).Nodup) (name : String) :
    (mergeFields fields more).lookup name = (more.lookup name).or (fields.lookup name) := by
  induction more generalizing fields with
  | nil => rfl
  | cons field more ih =>
    obtain ⟨key, value⟩ := field
    obtain ⟨hkey, hmore⟩ := List.nodup_cons.mp h
    have hmerge : mergeFields fields ((key, value) :: more) =
        mergeFields (putField fields key value) more := rfl
    rw [hmerge, ih hmore, lookup_putField, List.lookup_cons]
    by_cases hname : name = key
    · subst hname
      have hnone : more.lookup name = none := by
        rw [List.lookup_eq_none_iff]
        intro field hfield
        have hne : name ≠ field.1 := fun heq =>
          hkey (List.mem_map.mpr ⟨field, hfield, heq.symm⟩)
        simpa using hne
      simp [hnone]
    · have hne : (name == key) = false := by simpa using hname
      simp [hne]

end Value

namespace Log

variable {context extra : List (String × Value)} {record : Record} {text : String}

/-- The field that a record carries under a name: that of the call, or else that of the context. -/
def carried (context extra : List (String × Value)) (name : String) : Option Value :=
  (extra.lookup name).or (context.lookup name)

/-- What stands behind a message. -/
def shownBehind (context extra : List (String × Value)) : String :=
  match ["policy", "namespace", "subject", "binding"].filterMap fun name =>
    (carried context extra name).map fun value => name ++ "=" ++ value.plain with
  | [] => ""
  | fields => " [" ++ " ".intercalate fields ++ "]"

theorem lookup_mergeFields_eq (h : (extra.map Prod.fst).Nodup) (name : String) :
    (Value.mergeFields context extra).lookup name = carried context extra name :=
  Value.lookup_mergeFields h name

theorem contextText_mergeFields (h : (extra.map Prod.fst).Nodup) :
    contextText (Value.mergeFields context extra) = shownBehind context extra := by
  have hshown : (shownFields (Value.mergeFields context extra)).map
      (fun field => field.1 ++ "=" ++ field.2.plain) =
      ["policy", "namespace", "subject", "binding"].filterMap fun name =>
        (carried context extra name).map fun value => name ++ "=" ++ value.plain := by
    simp only [shownFields, contextNames, List.map_filterMap, lookup_mergeFields_eq h,
      Option.map_map]
    rfl
  unfold contextText shownBehind
  rw [← hshown]
  cases shownFields (Value.mergeFields context extra) with
  | nil => rfl
  | cons field fields => rfl

theorem exists_of_carried {name : String} (h : carried context extra name ≠ none) :
    ∃ field ∈ context ++ extra, field.1 = name := by
  by_contra hnone
  push Not at hnone
  apply h
  rw [carried, Option.or_eq_none_iff, List.lookup_eq_none_iff, List.lookup_eq_none_iff]
  constructor
  · intro field hfield
    simpa using (hnone field (List.mem_append_right _ hfield)).symm
  · intro field hfield
    simpa using (hnone field (List.mem_append_left _ hfield)).symm

section Apart

variable (hnames : ∀ field ∈ context ++ extra, field.1 ∉ ownNames)
  (hextra : (extra.map Prod.fst).Nodup)

include hnames

theorem checkContext_of_apart : checkContext context = .ok () := by
  refine if_neg ?_
  simp only [List.any_eq_true, beq_iff_eq, not_exists, not_and]
  intro field hfield hname
  apply hnames field (List.mem_append_left _ hfield)
  rw [hname]
  decide

include hextra

theorem attach_of_apart :
    record.attach (Value.mergeFields context extra) =
      .ok { record with extra := Value.mergeFields context extra } := by
  unfold Record.attach
  split
  · next name value hfind =>
    have hown := List.find?_some hfind
    have hfield := List.mem_of_find?_eq_some hfind
    have hcarried : carried context extra name ≠ none := by
      rw [← lookup_mergeFields_eq hextra, Ne, List.lookup_eq_none_iff]
      intro hnone
      simpa using hnone _ hfield
    obtain ⟨given, hgiven, hname⟩ := exists_of_carried hcarried
    refine absurd ?_ (hnames given hgiven)
    rw [hname]
    simpa using hown
  · rfl

end Apart

/-- The record of a message in a context. -/
def Record.within (context extra : List (String × Value)) (record : Record) : Record :=
  let shown := shownBehind context extra
  { record with
    message := if shown.isEmpty then record.message else .text (record.message.plain ++ shown)
    extra := Value.mergeFields context extra }

theorem logIn_of_apart (hnames : ∀ field ∈ context ++ extra, field.1 ∉ ownNames)
    (hextra : (extra.map Prod.fst).Nodup) :
    logIn context extra record = .ok (record.within context extra) := by
  rw [logIn, checkContext_of_apart hnames]
  simp only [bind, Except.bind, Record.inContext]
  rw [attach_of_apart hnames hextra, contextText_mergeFields hextra]
  rfl

theorem plain_message_within :
    (record.within context extra).message.plain =
      record.message.plain ++ shownBehind context extra := by
  unfold Record.within
  by_cases hshown : (shownBehind context extra).isEmpty
  · simp only [hshown, if_true]
    rw [String.isEmpty_iff.mp hshown, String.append_empty]
  · simp only [hshown]
    rfl

theorem supply?_within : (record.within context extra).supply? = record.supply? := rfl

theorem supply?_of_nil (h : record.arguments = []) : record.supply? = none := by
  rw [Record.supply?, h]

theorem text_of_supply {supply : Template.Supply} (h : record.supply? = some supply) :
    record.text = Template.fill record.message.plain supply := by
  rw [Record.text, h]

theorem text_of_none (h : record.supply? = none) : record.text = .ok record.message.plain := by
  rw [Record.text, h]

/-- A text is the same with a context up to what stands behind it. -/
theorem exists_of_text_within {whole : String} (htext : record.text = .ok text)
    (hwhole : (record.within context extra).text = .ok whole) : ∃ rest, whole = text ++ rest := by
  cases hsupply : record.supply? with
  | none =>
    rw [text_of_none hsupply] at htext
    rw [text_of_none (supply?_within.trans hsupply), plain_message_within] at hwhole
    cases htext
    exact ⟨_, (Except.ok.inj hwhole).symm⟩
  | some supply =>
    rw [text_of_supply hsupply] at htext
    rw [text_of_supply (supply?_within.trans hsupply), plain_message_within] at hwhole
    exact Template.exists_of_fill_append htext hwhole

theorem text_within (htext : record.text = .ok text)
    (hplain : record.arguments = [] ∨ '%' ∉ (shownBehind context extra).toList) :
    (record.within context extra).text = .ok (text ++ shownBehind context extra) := by
  cases hsupply : record.supply? with
  | none =>
    rw [text_of_none hsupply] at htext
    rw [text_of_none (supply?_within.trans hsupply), plain_message_within]
    cases htext
    rfl
  | some supply =>
    rw [text_of_supply hsupply] at htext
    rw [text_of_supply (supply?_within.trans hsupply), plain_message_within]
    rcases hplain with hnil | hplain
    · rw [supply?_of_nil hnil] at hsupply
      cases hsupply
    · exact Template.fill_append_plain htext hplain

/-- A message that has a text is logged in every context whose fields are apart from those of
records. The record carries the merged fields, and its text begins with that text. It ends with the
shown fields as they are, if the message takes no values or no percent sign is among the fields. -/
theorem logIn_showsContext (hnames : ∀ field ∈ context ++ extra, field.1 ∉ ownNames)
    (hextra : (extra.map Prod.fst).Nodup) (htext : record.text = .ok text) :
    ∃ logged, logIn context extra record = .ok logged ∧ logged.logger = record.logger ∧
      logged.level = record.level ∧ logged.arguments = record.arguments ∧
      (∀ name, logged.extra.lookup name = carried context extra name) ∧
      (∀ whole, logged.text = .ok whole → ∃ rest, whole = text ++ rest) ∧
      (record.arguments = [] ∨ '%' ∉ (shownBehind context extra).toList →
        logged.text = .ok (text ++ shownBehind context extra)) :=
  ⟨record.within context extra, logIn_of_apart hnames hextra, rfl, rfl, rfl,
    lookup_mergeFields_eq hextra, fun _ => exists_of_text_within htext, text_within htext⟩

theorem logIn_showsContext_override :
    ∃ logged, logIn [("policy", .text "team/viewer"), ("run", .int 7)]
        [("binding", .text "viewer-ann"), ("policy", .text "team/editor")]
        ⟨"oracle", .info, .text "Created %s", [.text "100%"], []⟩ = .ok logged ∧
      logged.text = .ok "Created 100% [policy=team/editor binding=viewer-ann]" := by
  have hnames : ∀ field ∈ [("policy", Value.text "team/viewer"), ("run", .int 7)] ++
      [("binding", .text "viewer-ann"), ("policy", .text "team/editor")],
      field.1 ∉ ownNames := by
    simp [ownNames]
  have htext : (⟨"oracle", .info, .text "Created %s", [.text "100%"], []⟩ : Record).text =
      .ok "Created 100%" := by rfl
  obtain ⟨logged, hlogged, -, -, -, -, -, hshown⟩ :=
    logIn_showsContext hnames (by simp) htext
  exact ⟨logged, hlogged, hshown (.inr (by decide))⟩

/-- A percent sign in the context of a message with values is taken for a placeholder, for which
there is no value. -/
theorem logIn_losesText_percent :
    (⟨"oracle", .info, .text "Created %s", [.text "view"], []⟩ : Record).text =
        .ok "Created view" ∧
      ∃ logged, logIn [("policy", .text "100%")] []
          ⟨"oracle", .info, .text "Created %s", [.text "view"], []⟩ = .ok logged ∧
        logged.text = .error .mismatch :=
  ⟨rfl, _, rfl, rfl⟩

end Log

end RoleGrants
