import Mathlib.Data.List.TakeDrop
import RoleGrants.Proofs.Tracking
import RoleGrants.Template.Fill

/-! Templates that are longer than they were. A template that can be filled is filled in the same
way in front of more characters. These find the values that are left, of which none is shown in its
turn, so that they stand for themselves if there is no percent sign among them. -/

namespace RoleGrants.Template

variable {chars rest : List Char} (more : List Char) {supply left : Supply}
  {flags newFlags : Flags}

theorem closing?_append {depth : Nat} {name : List Char}
    (h : closing? depth chars = some (name, rest)) :
    closing? depth (chars ++ more) = some (name, rest ++ more) := by
  induction chars generalizing depth name with
  | nil => cases h
  | cons c chars ih =>
    have hfurther {depth : Nat}
        (h : ((closing? depth chars).map fun found => (c :: found.1, found.2)) =
          some (name, rest)) :
        ((closing? depth (chars ++ more)).map fun found => (c :: found.1, found.2)) =
          some (name, rest ++ more) := by
      obtain ⟨⟨inner, behind⟩, hinner, hname⟩ := Option.map_eq_some_iff.mp h
      cases hname
      rw [ih hinner]
      rfl
    rw [List.cons_append]
    unfold closing? at h ⊢
    by_cases hclose : c == ')'
    · simp only [hclose, if_true] at h ⊢
      cases depth with
      | zero =>
        cases h
        rfl
      | succ depth => exact hfurther h
    · simp only [hclose] at h ⊢
      exact hfurther h

theorem takeName_append (h : takeName chars supply = .ok (rest, left)) (hrest : rest ≠ []) :
    chars ≠ [] ∧ takeName (chars ++ more) supply = .ok (rest ++ more, left) := by
  cases chars with
  | nil =>
    cases h
    exact absurd rfl hrest
  | cons c chars =>
    refine ⟨List.cons_ne_nil _ _, ?_⟩
    rw [List.cons_append]
    by_cases hopen : c = '('
    · subst hopen
      unfold takeName at h ⊢
      simp only at h ⊢
      cases hnamed : supply.named with
      | none =>
        rw [hnamed] at h
        cases h
      | some fields =>
        rw [hnamed] at h
        cases hclosing : closing? 0 chars with
        | none =>
          rw [hclosing] at h
          cases h
        | some found =>
          obtain ⟨name, behind⟩ := found
          rw [hclosing] at h
          obtain ⟨selected, hselected, hresult⟩ := exists_of_bind_ok h
          cases hresult
          simp only [closing?_append more hclosing, hselected]
          rfl
    · rw [takeName] at h ⊢
      · cases h
        rfl
      all_goals exact fun behind heq => hopen (List.cons.inj heq).1

theorem takeFlags_append (h : takeFlags flags chars = (newFlags, rest)) (hrest : rest ≠ []) :
    chars ≠ [] ∧ takeFlags flags (chars ++ more) = (newFlags, rest ++ more) := by
  fun_induction takeFlags flags chars with
  | case1 flags behind ih | case2 flags behind ih | case3 flags behind ih | case4 flags behind ih
  | case5 flags behind ih =>
    refine ⟨List.cons_ne_nil _ _, ?_⟩
    rw [List.cons_append, takeFlags]
    exact (ih h).2
  | case6 flags chars hleft hsigned hblank halternate hzeros =>
    cases h
    refine ⟨hrest, ?_⟩
    cases rest with
    | nil => exact absurd rfl hrest
    | cons c rest =>
      rw [List.cons_append, takeFlags]
      · exact fun _ heq => hleft _ (congrArg (· :: rest) (List.cons.inj heq).1)
      · exact fun _ heq => hsigned _ (congrArg (· :: rest) (List.cons.inj heq).1)
      · exact fun _ heq => hblank _ (congrArg (· :: rest) (List.cons.inj heq).1)
      · exact fun _ heq => halternate _ (congrArg (· :: rest) (List.cons.inj heq).1)
      · exact fun _ heq => hzeros _ (congrArg (· :: rest) (List.cons.inj heq).1)

theorem span_append {p : Char → Bool} {digits : List Char} (h : chars.span p = (digits, rest))
    (hrest : rest ≠ []) : (chars ++ more).span p = (digits, rest ++ more) := by
  rw [List.span_eq_takeWhile_dropWhile, Prod.mk.injEq] at h
  obtain ⟨rfl, rfl⟩ := h
  have hend : ¬ (chars.takeWhile p).length = chars.length := by
    intro hlength
    have := congrArg List.length (List.takeWhile_append_dropWhile (p := p) (l := chars))
    rw [List.length_append, hlength] at this
    exact hrest (List.eq_nil_of_length_eq_zero (by omega))
  rw [List.span_eq_takeWhile_dropWhile, List.takeWhile_append, if_neg hend,
    List.dropWhile_append, if_neg (by simpa using hrest)]

theorem takeWidth_append {width : Nat}
    (h : takeWidth flags chars supply = .ok (newFlags, width, rest, left)) (hrest : rest ≠ []) :
    chars ≠ [] ∧
      takeWidth flags (chars ++ more) supply = .ok (newFlags, width, rest ++ more, left) := by
  cases chars with
  | nil =>
    cases h
    exact absurd rfl hrest
  | cons c chars =>
    refine ⟨List.cons_ne_nil _ _, ?_⟩
    rw [List.cons_append]
    by_cases hstar : c = '*'
    · subst hstar
      rw [takeWidth] at h ⊢
      obtain ⟨⟨n, behind⟩, htake, h⟩ := exists_of_bind_ok h
      simp only [htake, bind, Except.bind] at h ⊢
      by_cases hwidth : n.natAbs > greatestWidth
      · rw [if_pos hwidth] at h
        cases h
      · rw [if_neg hwidth] at h ⊢
        cases h
        rfl
    · have hno (behind : List Char) (more : List Char) : c :: behind = '*' :: more → False := by
        rintro heq
        cases heq
        exact hstar rfl
      rw [takeWidth.eq_2 _ _ _ (hno _)] at h ⊢
      rcases hspan : List.span Char.isDigit (c :: chars) with ⟨digits, behind⟩
      simp only [hspan] at h
      by_cases hwidth : numberOf digits > greatestWidth
      · rw [if_pos hwidth] at h
        cases h
      · rw [if_neg hwidth] at h
        cases h
        rw [← List.cons_append, span_append more hspan hrest]
        exact if_neg hwidth

theorem takePrecision_append {precision : Option Nat}
    (h : takePrecision chars supply = .ok (precision, rest, left)) (hrest : rest ≠ []) :
    chars ≠ [] ∧ takePrecision (chars ++ more) supply = .ok (precision, rest ++ more, left) := by
  cases chars with
  | nil =>
    cases h
    exact absurd rfl hrest
  | cons c chars =>
    refine ⟨List.cons_ne_nil _ _, ?_⟩
    rw [List.cons_append]
    by_cases hpoint : c = '.'
    · subst hpoint
      cases chars with
      | nil =>
        cases h
        exact absurd rfl hrest
      | cons c chars =>
        rw [List.cons_append]
        by_cases hstar : c = '*'
        · subst hstar
          rw [takePrecision] at h ⊢
          obtain ⟨⟨n, behind⟩, htake, h⟩ := exists_of_bind_ok h
          simp only [htake, bind, Except.bind] at h ⊢
          split at h
          · cases h
          · next hprecision =>
            cases h
            rw [if_neg hprecision]
            rfl
        · have hno (behind more : List Char) : c :: behind = '*' :: more → False := by
            intro heq
            cases heq
            exact hstar rfl
          rw [takePrecision.eq_2 _ _ (hno _)] at h ⊢
          rcases hspan : List.span Char.isDigit (c :: chars) with ⟨digits, behind⟩
          simp only [hspan] at h
          by_cases hprecision : numberOf digits > greatestPrecision
          · rw [if_pos hprecision] at h
            cases h
          · rw [if_neg hprecision] at h
            cases h
            rw [← List.cons_append, span_append more hspan hrest]
            exact if_neg hprecision
    · rw [takePrecision] at h ⊢
      · cases h
        rfl
      all_goals exact fun behind heq => hpoint (List.cons.inj heq).1

theorem dropSize_append {kind : Char} (h : dropSize chars = kind :: rest) :
    chars ≠ [] ∧ dropSize (chars ++ more) = kind :: (rest ++ more) := by
  cases chars with
  | nil => cases h
  | cons c chars =>
    refine ⟨List.cons_ne_nil _ _, ?_⟩
    rw [List.cons_append]
    by_cases hsize : c = 'h' ∨ c = 'l' ∨ c = 'L'
    · have hdrop (behind : List Char) : dropSize (c :: behind) = behind := by
        rcases hsize with rfl | rfl | rfl <;> rfl
      rw [hdrop] at h ⊢
      rw [h, List.cons_append]
    · have hdrop (behind : List Char) : dropSize (c :: behind) = c :: behind := by
        rw [dropSize]
        · exact fun _ heq => hsize (.inl (List.cons.inj heq).1)
        · exact fun _ heq => hsize (.inr (.inl (List.cons.inj heq).1))
        · exact fun _ heq => hsize (.inr (.inr (List.cons.inj heq).1))
      rw [hdrop, List.cons.injEq] at h ⊢
      exact ⟨h.1, congrArg (· ++ more) h.2⟩

/-- What a placeholder shows, whatever stands behind the template. -/
theorem placeholder_append {total : Nat} {text : String}
    (h : placeholder total chars supply = .ok (text, rest, left)) :
    placeholder (total + more.length) (chars ++ more) supply = .ok (text, rest ++ more, left) := by
  unfold placeholder at h ⊢
  obtain ⟨⟨chars₁, supply₁⟩, hname, h⟩ := exists_of_bind_ok h
  obtain ⟨⟨newFlags, chars₂⟩, hflags⟩ : ∃ found, takeFlags {} chars₁ = found := ⟨_, rfl⟩
  simp only [hflags] at h
  obtain ⟨⟨flags, width, chars₃, supply₃⟩, hwidth, h⟩ := exists_of_bind_ok h
  obtain ⟨⟨precision, chars₄, supply₄⟩, hprecision, h⟩ := exists_of_bind_ok h
  simp only at h
  cases hkind : dropSize chars₄ with
  | nil =>
    rw [hkind] at h
    cases h
  | cons kind behind =>
    obtain ⟨hchars₄, hkind'⟩ := dropSize_append more hkind
    obtain ⟨hchars₃, hprecision'⟩ := takePrecision_append more hprecision hchars₄
    obtain ⟨hchars₂, hwidth'⟩ := takeWidth_append more hwidth hchars₃
    obtain ⟨hchars₁, hflags'⟩ := takeFlags_append more hflags hchars₂
    obtain ⟨-, hname'⟩ := takeName_append more hname hchars₁
    have hindex : total + more.length - (behind ++ more).length - 1 =
        total - behind.length - 1 := by
      rw [List.length_append]
      omega
    have hend {shown : String} {supply : Supply}
        (h : (if supply.named.isSome && !supply.pending.isEmpty then
            (do throw Fault.mismatch; pure (shown, behind, supply))
          else pure (shown, behind, supply) : Except Fault _) = .ok (text, rest, left)) :
        (if supply.named.isSome && !supply.pending.isEmpty then
            (do throw Fault.mismatch; pure (shown, behind ++ more, supply))
          else pure (shown, behind ++ more, supply) : Except Fault _) =
            .ok (text, rest ++ more, left) := by
      by_cases hpending : (supply.named.isSome && !supply.pending.isEmpty) = true
      · rw [if_pos hpending] at h
        cases h
      · rw [if_neg hpending] at h ⊢
        cases h
        rfl
    rw [hkind] at h
    rw [hname']
    simp only [bind, Except.bind, hflags', hwidth', hprecision', hkind', hindex] at h ⊢
    by_cases hpercent : (kind == '%') = true
    · rw [if_pos hpercent] at h ⊢
      exact hend h
    · rw [if_neg hpercent] at h ⊢
      obtain ⟨⟨value, supply₅⟩, hnext, h⟩ := exists_of_bind_ok h
      obtain ⟨shown, hshown, h⟩ := exists_of_bind_ok h
      simp only [hnext, hshown]
      exact hend h

/-- No value is left that is shown in its turn. -/
def Supply.IsSpent (supply : Supply) : Prop := supply.named = none → supply.pending = []

theorem isSpent_iff :
    supply.IsSpent ↔ ¬ (supply.named.isNone && !supply.pending.isEmpty) = true := by
  simp [Supply.IsSpent]

theorem prepend_map (front text : String) (result : Except Fault String) :
    (do return front ++ (← result.map (text ++ ·))) = result.map (front ++ text ++ ·) := by
  cases result with
  | error fault => rfl
  | ok shown => exact congrArg Except.ok String.append_assoc.symm

/-- A template that can be filled is filled in the same way in front of another, which takes what is
left of the values. -/
theorem fillFrom_append {total fuel : Nat} {text : String}
    (h : fillFrom total fuel chars supply = .ok text) :
    ∃ left fuel', left.IsSpent ∧ more.length < fuel' ∧
      fillFrom (total + more.length) (fuel + more.length) (chars ++ more) supply =
        (fillFrom (total + more.length) fuel' more left).map (text ++ ·) := by
  induction fuel generalizing chars supply text with
  | zero => cases h
  | succ fuel ih =>
    have hfuel : fuel + 1 + more.length = (fuel + more.length).succ := by omega
    cases chars with
    | nil =>
      rw [fillFrom] at h
      by_cases hspent : (supply.named.isNone && !supply.pending.isEmpty) = true
      · rw [if_pos hspent] at h
        cases h
      · rw [if_neg hspent] at h
        cases h
        refine ⟨supply, fuel + 1 + more.length, isSpent_iff.mpr hspent, by omega, ?_⟩
        rw [List.nil_append]
        cases fillFrom (total + more.length) (fuel + 1 + more.length) more supply with
        | error fault => rfl
        | ok shown => exact congrArg Except.ok String.empty_append.symm
    | cons c chars =>
      by_cases hpercent : c = '%'
      · subst hpercent
        cases chars with
        | nil => cases h
        | cons c chars =>
          by_cases hpercent : c = '%'
          · subst hpercent
            rw [fillFrom] at h
            obtain ⟨shown, hshown, hresult⟩ := exists_of_bind_ok h
            cases hresult
            obtain ⟨left, fuel', hspent, hlt, hfill⟩ := ih hshown
            refine ⟨left, fuel', hspent, hlt, ?_⟩
            rw [hfuel, List.cons_append, List.cons_append, fillFrom, hfill]
            exact prepend_map _ _ _
          · have hno (behind rest : List Char) : c :: behind = '%' :: rest → False :=
              fun heq => hpercent (List.cons.inj heq).1
            rw [fillFrom.eq_4 _ _ _ _ (hno _)] at h
            obtain ⟨⟨front, behind, between⟩, hplaceholder, h⟩ := exists_of_bind_ok h
            obtain ⟨shown, hshown, hresult⟩ := exists_of_bind_ok h
            cases hresult
            obtain ⟨left, fuel', hspent, hlt, hfill⟩ := ih hshown
            refine ⟨left, fuel', hspent, hlt, ?_⟩
            rw [hfuel, List.cons_append, List.cons_append, fillFrom.eq_4 _ _ _ _ (hno _),
              ← List.cons_append, placeholder_append more hplaceholder]
            simp only [bind, Except.bind]
            rw [hfill]
            exact prepend_map _ _ _
      · have hno (behind rest : List Char) : c = '%' → behind = '%' :: rest → False :=
          fun heq _ => hpercent heq
        rw [fillFrom.eq_5 _ _ _ _ _ (hno _) hpercent] at h
        obtain ⟨shown, hshown, hresult⟩ := exists_of_bind_ok h
        cases hresult
        obtain ⟨left, fuel', hspent, hlt, hfill⟩ := ih hshown
        refine ⟨left, fuel', hspent, hlt, ?_⟩
        rw [hfuel, List.cons_append, fillFrom.eq_5 _ _ _ _ _ (hno _) hpercent, hfill]
        exact prepend_map _ _ _

/-- Characters that are no part of placeholders stand for themselves. -/
theorem fillFrom_plain {total fuel : Nat} (hspent : supply.IsSpent) (hplain : '%' ∉ chars)
    (hfuel : chars.length < fuel) :
    fillFrom total fuel chars supply = .ok (String.ofList chars) := by
  induction chars generalizing fuel with
  | nil =>
    obtain ⟨fuel, rfl⟩ := Nat.exists_eq_add_one_of_ne_zero (Nat.ne_of_gt hfuel)
    rw [fillFrom, if_neg (isSpent_iff.mp hspent)]
  | cons c chars ih =>
    obtain ⟨fuel, rfl⟩ := Nat.exists_eq_add_one_of_ne_zero (Nat.ne_of_gt (Nat.zero_lt_of_lt hfuel))
    rw [List.mem_cons, not_or] at hplain
    rw [fillFrom.eq_5 _ _ _ _ _ (fun _ heq _ => hplain.1 heq.symm) (fun heq => hplain.1 heq.symm),
      ih hplain.2 (by simpa using hfuel)]
    rw [String.ofList_cons]
    rfl

theorem fill_append {template text : String} (h : fill template supply = .ok text)
    (behind : String) :
    ∃ total fuel left, left.IsSpent ∧ behind.toList.length < fuel ∧
      fill (template ++ behind) supply =
        (fillFrom total fuel behind.toList left).map (text ++ ·) := by
  obtain ⟨left, fuel, hspent, hfuel, hfill⟩ := fillFrom_append behind.toList h
  refine ⟨template.toList.length + behind.toList.length, fuel, left, hspent, hfuel, ?_⟩
  rw [Nat.add_right_comm] at hfill
  rw [fill, String.toList_append, List.length_append, hfill]

theorem fill_append_plain {template behind text : String} (h : fill template supply = .ok text)
    (hbehind : '%' ∉ behind.toList) : fill (template ++ behind) supply = .ok (text ++ behind) := by
  obtain ⟨total, fuel, left, hspent, hfuel, hfill⟩ := fill_append h behind
  rw [hfill, fillFrom_plain hspent hbehind hfuel, String.ofList_toList]
  rfl

theorem exists_of_fill_append {template behind text whole : String}
    (h : fill template supply = .ok text) (hwhole : fill (template ++ behind) supply = .ok whole) :
    ∃ rest, whole = text ++ rest := by
  obtain ⟨total, fuel, left, -, -, hfill⟩ := fill_append h behind
  rw [hfill] at hwhole
  cases hrest : fillFrom total fuel behind.toList left with
  | error fault =>
    rw [hrest] at hwhole
    cases hwhole
  | ok rest =>
    rw [hrest] at hwhole
    exact ⟨rest, (Except.ok.inj hwhole).symm⟩

end RoleGrants.Template
