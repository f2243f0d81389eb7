import Mathlib.Data.Char
import Mathlib.Data.List.Forall2
import Mathlib.Data.List.Lex
import Mathlib.Data.Nat.Digits.Defs
import RoleGrants.Proofs.Calendar
import RoleGrants.Time.Timestamp

/-! The texts of moments. A text is its fields from the year to the second, each with its own count
of digits and a mark behind it. So it can be read, and texts are in the order of their fields, which
is that of the moments. -/

namespace RoleGrants

/-! ### Local times -/

namespace LocalTime

/-- The microseconds from the start of 1970 in UTC. -/
def instant (time : LocalTime) : Int :=
  time.toMoment * 1000000 + time.microsecond

/-- The microseconds from the start of 1970 to that of a year, both in UTC. -/
def startOfYear (year : Int) : Int :=
  instant ⟨⟨year, 1, 1⟩, 0, 0, 0, 0, 0⟩

/-- In the years one to 9999 of UTC. -/
def IsInRange (time : LocalTime) : Prop :=
  startOfYear 1 ≤ time.instant ∧ time.instant < startOfYear 10000

instance (time : LocalTime) : Decidable time.IsInRange :=
  inferInstanceAs (Decidable (_ ∧ _))

/-- From the largest unit to the smallest. -/
def fields (time : LocalTime) : List Nat :=
  [time.date.year.toNat, time.date.month, time.date.day, time.hour, time.minute, time.second]

theorem isValid_iff {time : LocalTime} :
    time.isValid = true ↔ time.date.isValid = true ∧ time.hour < 24 ∧ time.minute < 60 ∧
      time.second < 60 ∧ time.microsecond < 1000000 := by
  simp [isValid, and_assoc]

theorem startOfYear_eq (year : Int) :
    startOfYear year = Date.toDays ⟨year, 1, 1⟩ * 86400 * 1000000 := by
  simp [startOfYear, instant, toMoment]

theorem toMoment_ofMoment (moment : Int) : (ofMoment moment).toMoment = moment := by
  simp only [toMoment, ofMoment, Date.toDays_ofDays]
  omega

theorem isValid_ofMoment (moment : Int) : (ofMoment moment).isValid = true := by
  refine isValid_iff.mpr ⟨Date.isValid_ofDays _, ?_⟩
  simp only [ofMoment]
  omega

theorem instant_div {time : LocalTime} (h : time.isValid = true) :
    time.instant / 1000000 = time.toMoment := by
  have := (isValid_iff.mp h).2
  unfold instant
  omega

theorem isInRange_iff {time : LocalTime} (h : time.isValid = true) :
    time.IsInRange ↔ 1 ≤ (ofMoment time.toMoment).date.year ∧
      (ofMoment time.toMoment).date.year ≤ 9999 := by
  have hvalid := Date.isValid_ofDays (time.toMoment / 86400)
  have hstart := Date.le_year_iff hvalid 1
  have hend := Date.le_year_iff hvalid 10000
  have hmoment := instant_div h
  rw [Date.toDays_ofDays] at hstart hend
  unfold IsInRange ofMoment
  rw [startOfYear_eq, startOfYear_eq]
  simp only
  omega

/-- Times in UTC are in the order of their fields. -/
theorem toMoment_lt_toMoment {time other : LocalTime} (h : time.isValid = true)
    (hother : other.isValid = true) (hoffset : time.offset = other.offset)
    (hyear : 0 ≤ time.date.year) (hyear' : 0 ≤ other.date.year) (hlt : time.fields < other.fields) :
    time.toMoment < other.toMoment := by
  obtain ⟨hdate, hhour, hminute, hsecond, -⟩ := isValid_iff.mp h
  obtain ⟨hdate', hhour', hminute', hsecond', -⟩ := isValid_iff.mp hother
  have hdays (hlt : time.date.year < other.date.year ∨ time.date.year = other.date.year ∧
      (time.date.month < other.date.month ∨
        time.date.month = other.date.month ∧ time.date.day < other.date.day)) :=
    Date.toDays_lt_toDays hdate hdate' hlt
  simp only [fields, List.cons_lt_cons_iff, List.not_lt_nil, and_false, or_false] at hlt
  unfold toMoment
  rcases hlt with hlt | ⟨hyears, hlt | ⟨hmonth, hlt | ⟨hday, hlt⟩⟩⟩
  · have := hdays (.inl (by omega))
    omega
  · have := hdays (.inr ⟨by omega, .inl hlt⟩)
    omega
  · have := hdays (.inr ⟨by omega, .inr ⟨hmonth, hlt⟩⟩)
    omega
  · have hyears : time.date.year = other.date.year := by omega
    rw [Date.toDays_eq_first time.date, Date.toDays_eq_first other.date, hyears, hmonth, hday]
    omega

end LocalTime

namespace Timestamp

/-! ### Numbers with a fixed count of digits -/

section Padded

variable {width n : Nat}

theorem length_padded (h : n < 10 ^ (width + 1)) :
    (padded (width + 1) n).toList.length = width + 1 := by
  have := Nat.toDigits_length 10 n (width + 1) (by omega) h
  simp [padded]
  omega

theorem isDigit_of_mem_padded {letter : Char} (h : letter ∈ (padded width n).toList) :
    letter.isDigit = true := by
  simp only [padded, String.toList_ofList, List.mem_append, List.mem_replicate] at h
  rcases h with ⟨-, rfl⟩ | h
  · decide
  · exact Nat.isDigit_of_mem_toDigits (by decide) (by decide) h

theorem ofDigitChars_padded : Nat.ofDigitChars 10 (padded width n).toList 0 = n := by
  have hzeros (count : Nat) : Nat.ofDigitChars 10 (List.replicate count '0') 0 = 0 := by
    induction count with
    | zero => rfl
    | succ count ih =>
      rw [List.replicate_succ, Nat.ofDigitChars_cons]
      exact ih
  simp [padded, Nat.ofDigitChars_append, hzeros, Nat.ofDigitChars_toDigits]

end Padded

/-! ### The order of digits -/

theorem toNat_of_isDigit {letter : Char} (h : letter.isDigit = true) :
    48 ≤ letter.toNat ∧ letter.toNat ≤ 57 := by
  simp only [Char.isDigit, Bool.and_eq_true, decide_eq_true_eq, UInt32.le_iff_toNat_le,
    ge_iff_le] at h
  exact h

theorem toNat_lt_toNat {letter other : Char} (h : letter < other) : letter.toNat < other.toNat := by
  rwa [Char.lt_def, UInt32.lt_iff_toNat_lt] at h

theorem ofDigitChars_bounds {digits : List Char} (h : ∀ letter ∈ digits, letter.isDigit = true)
    (start : Nat) :
    start * 10 ^ digits.length ≤ Nat.ofDigitChars 10 digits start ∧
      Nat.ofDigitChars 10 digits start < (start + 1) * 10 ^ digits.length := by
  induction digits generalizing start with
  | nil => simp
  | cons letter rest ih =>
    obtain ⟨hdigit, hrest⟩ := List.forall_mem_cons.mp h
    have hvalue := toNat_of_isDigit hdigit
    obtain ⟨hle, hlt⟩ := ih hrest (10 * start + (letter.toNat - 48))
    rw [Nat.ofDigitChars_cons, List.length_cons, pow_succ']
    constructor
    · calc start * (10 * 10 ^ rest.length) = 10 * start * 10 ^ rest.length := by ring
        _ ≤ (10 * start + (letter.toNat - 48)) * 10 ^ rest.length :=
          Nat.mul_le_mul_right _ (by omega)
        _ ≤ _ := hle
    · calc _ < (10 * start + (letter.toNat - 48) + 1) * 10 ^ rest.length := hlt
        _ ≤ (10 * (start + 1)) * 10 ^ rest.length := Nat.mul_le_mul_right _ (by omega)
        _ = (start + 1) * (10 * 10 ^ rest.length) := by ring

/-- Equally many digits are in the order of their numbers. -/
theorem ofDigitChars_lt {digits others : List Char} (h : ∀ letter ∈ digits, letter.isDigit = true)
    (hothers : ∀ letter ∈ others, letter.isDigit = true) (hlength : digits.length = others.length)
    (hlt : digits < others) (start : Nat) :
    Nat.ofDigitChars 10 digits start < Nat.ofDigitChars 10 others start := by
  induction digits generalizing others start with
  | nil =>
    rw [List.eq_nil_of_length_eq_zero hlength.symm] at hlt
    exact absurd hlt (lt_irrefl _)
  | cons letter rest ih =>
    cases others with
    | nil => cases hlength
    | cons letter' rest' =>
      obtain ⟨hdigit, hrest⟩ := List.forall_mem_cons.mp h
      obtain ⟨hdigit', hrest'⟩ := List.forall_mem_cons.mp hothers
      have hlengths : rest.length = rest'.length := Nat.succ.inj hlength
      rw [Nat.ofDigitChars_cons, Nat.ofDigitChars_cons]
      rcases List.cons_lt_cons_iff.mp hlt with hletter | ⟨rfl, hrests⟩
      · have hvalue := toNat_of_isDigit hdigit
        have hvalues := toNat_lt_toNat hletter
        calc _ < (10 * start + (letter.toNat - 48) + 1) * 10 ^ rest.length :=
              (ofDigitChars_bounds hrest _).2
          _ ≤ (10 * start + (letter'.toNat - 48)) * 10 ^ rest'.length := by
            rw [hlengths]
            exact Nat.mul_le_mul_right _ (by omega)
          _ ≤ _ := (ofDigitChars_bounds hrest' _).1
      · exact ih hrest hrest' hlengths hrests _

theorem padded_lt_padded {width m n : Nat} (hm : m < 10 ^ (width + 1)) (hn : n < 10 ^ (width + 1))
    (h : m < n) : (padded (width + 1) m).toList < (padded (width + 1) n).toList := by
  have hlength := (length_padded hm).trans (length_padded hn).symm
  rcases lt_trichotomy (padded (width + 1) m).toList (padded (width + 1) n).toList with
    hlt | heq | hgt
  · exact hlt
  · have := congrArg (Nat.ofDigitChars 10 · 0) heq
    simp only [ofDigitChars_padded] at this
    omega
  · have := ofDigitChars_lt (fun _ => isDigit_of_mem_padded) (fun _ => isDigit_of_mem_padded)
      hlength.symm hgt 0
    simp only [ofDigitChars_padded] at this
    omega

theorem append_lt_append {front front' : List Char} (hlength : front.length = front'.length)
    (h : front < front') (rest rest' : List Char) : front ++ rest < front' ++ rest' := by
  induction front generalizing front' with
  | nil =>
    rw [List.eq_nil_of_length_eq_zero hlength.symm] at h
    exact absurd h (lt_irrefl _)
  | cons letter front ih =>
    cases front' with
    | nil => cases hlength
    | cons letter' front' =>
      rw [List.cons_append, List.cons_append, List.cons_lt_cons_iff]
      rcases List.cons_lt_cons_iff.mp h with hletter | ⟨heq, hlt⟩
      · exact .inl hletter
      · exact .inr ⟨heq, ih (Nat.succ.inj hlength) hlt⟩

/-! ### Fields in a text -/

/-- How many digits less one a field has, and the mark behind it. -/
abbrev Slot := Nat × Char

/-- The slots of the year, the month, the day, the hour, the minute and the second. -/
def slots : List Slot :=
  [(3, '-'), (1, '-'), (1, 'T'), (1, ':'), (1, ':'), (1, 'Z')]

def written : List Slot → List Nat → List Char
  | (width, mark) :: slots, n :: fields =>
    (padded (width + 1) n).toList ++ mark :: written slots fields
  | _, _ => []

def readFields : List Slot → List Char → Option (List Nat)
  | [], [] => some []
  | [], _ :: _ => none
  | (width, mark) :: slots, letters =>
    let digits := letters.take (width + 1)
    match letters.drop (width + 1) with
    | [] => none
    | letter :: rest =>
      if digits.all Char.isDigit && letter == mark then
        (readFields slots rest).map (Nat.ofDigitChars 10 digits 0 :: ·)
      else none

/-- The time in UTC that a text gives. -/
def read? (text : String) : Option LocalTime :=
  match readFields slots text.toList with
  | some [year, month, day, hour, minute, second] =>
    some ⟨⟨year, month, day⟩, hour, minute, second, 0, 0⟩
  | _ => none

def Fits (slot : Slot) (n : Nat) : Prop := n < 10 ^ (slot.1 + 1)

section Written

variable {layout : List Slot} {fields others : List Nat}

theorem length_written (h : List.Forall₂ Fits layout fields) :
    (written layout fields).length = (layout.map fun slot => slot.1 + 2).sum := by
  induction h with
  | nil => rfl
  | cons hfits _ ih =>
    rw [written, List.length_append, length_padded hfits, List.length_cons, ih]
    simp
    omega

theorem readFields_written (h : List.Forall₂ Fits layout fields) :
    readFields layout (written layout fields) = some fields := by
  induction h with
  | nil => rfl
  | @cons slot n _ _ hfits _ ih =>
    have hall : (padded (slot.1 + 1) n).toList.all Char.isDigit = true :=
      List.all_eq_true.mpr fun _ => isDigit_of_mem_padded
    rw [written, readFields, List.take_left' (length_padded hfits),
      List.drop_left' (length_padded hfits)]
    simp only [hall, beq_self_eq_true, Bool.and_self, if_true, ih, ofDigitChars_padded,
      Option.map_some]

theorem written_lt_written (h : List.Forall₂ Fits layout fields)
    (hothers : List.Forall₂ Fits layout others) (hlt : fields < others) :
    written layout fields < written layout others := by
  induction h generalizing others with
  | nil =>
    cases hothers
    exact absurd hlt (lt_irrefl _)
  | @cons slot n layout fields hfits _ ih =>
    cases hothers with
    | @cons _ n' _ fields' hfits' hothers =>
      have hlength := (length_padded hfits).trans (length_padded hfits').symm
      rw [written, written]
      rcases List.cons_lt_cons_iff.mp hlt with hn | ⟨rfl, hrest⟩
      · exact append_lt_append hlength (padded_lt_padded hfits hfits' hn) _ _
      · exact List.append_left_lt (List.cons_lt_cons_iff.mpr (.inr ⟨rfl, ih hothers hrest⟩))

end Written

/-! ### Texts of moments -/

/-- A time in UTC whose year has four digits. -/
structure IsWritable (time : LocalTime) : Prop where
  valid : time.isValid = true
  year_pos : 1 ≤ time.date.year
  year_le : time.date.year ≤ 9999
  offset : time.offset = 0

section Writable

variable {time other : LocalTime}

theorem toList_render (time : LocalTime) : (render time).toList = written slots time.fields := by
  simp [render, written, slots, LocalTime.fields]

theorem IsWritable.fits (h : IsWritable time) : List.Forall₂ Fits slots time.fields := by
  obtain ⟨hdate, hhour, hminute, hsecond, -⟩ := LocalTime.isValid_iff.mp h.valid
  obtain ⟨-, hmonth, -, hday⟩ := Date.isValid_iff.mp hdate
  have hyear := h.year_le
  have hdays := Date.daysInMonth_le time.date.year time.date.month
  simp only [slots, LocalTime.fields, Fits, List.forall₂_cons, List.Forall₂.nil, and_true]
  omega

theorem IsWritable.length_render (h : IsWritable time) : (render time).length = 20 := by
  rw [← String.length_toList, toList_render, length_written h.fits]
  rfl

theorem IsWritable.read?_render (h : IsWritable time) :
    read? (render time) = some { time with microsecond := 0 } := by
  have hpos := h.year_pos
  have hyear : (time.date.year.toNat : Int) = time.date.year := Int.toNat_of_nonneg (by omega)
  rw [read?, toList_render, readFields_written h.fits]
  simp only [LocalTime.fields, hyear]
  rw [← h.offset]

theorem IsWritable.toMoment_lt_toMoment (h : IsWritable time) (hother : IsWritable other)
    (hlt : time.fields < other.fields) : time.toMoment < other.toMoment := by
  have hyear := h.year_pos
  have hyear' := hother.year_pos
  exact LocalTime.toMoment_lt_toMoment h.valid hother.valid (h.offset.trans hother.offset.symm)
    (by omega) (by omega) hlt

theorem IsWritable.toMoment_eq_toMoment (h : IsWritable time) (hother : IsWritable other)
    (heq : time.fields = other.fields) : time.toMoment = other.toMoment := by
  have hrender : render time = render other := by
    rw [← String.toList_inj, toList_render, toList_render, heq]
  have hread := hother.read?_render
  rw [← hrender, h.read?_render] at hread
  -- A moment does not depend on the part of the second.
  have hmoment := congrArg LocalTime.toMoment (Option.some.inj hread)
  exact hmoment

theorem IsWritable.fields_lt_iff (h : IsWritable time) (hother : IsWritable other) :
    time.fields < other.fields ↔ time.toMoment < other.toMoment := by
  refine ⟨h.toMoment_lt_toMoment hother, fun hlt => ?_⟩
  rcases lt_trichotomy time.fields other.fields with hfields | heq | hgt
  · exact hfields
  · exact absurd (h.toMoment_eq_toMoment hother heq) hlt.ne
  · exact absurd (hother.toMoment_lt_toMoment h hgt) hlt.not_gt

theorem IsWritable.fields_eq_iff (h : IsWritable time) (hother : IsWritable other) :
    time.fields = other.fields ↔ time.toMoment = other.toMoment := by
  refine ⟨h.toMoment_eq_toMoment hother, fun heq => ?_⟩
  rcases lt_trichotomy time.fields other.fields with hlt | hfields | hgt
  · exact absurd heq (h.toMoment_lt_toMoment hother hlt).ne
  · exact hfields
  · exact absurd heq (hother.toMoment_lt_toMoment h hgt).ne'

theorem strictMonoOn_written :
    StrictMonoOn (written slots) {fields | List.Forall₂ Fits slots fields} :=
  fun _ h _ hother => written_lt_written h hother

theorem IsWritable.render_lt_iff (h : IsWritable time) (hother : IsWritable other) :
    render time < render other ↔ time.toMoment < other.toMoment := by
  rw [String.lt_iff, toList_render, toList_render,
    strictMonoOn_written.lt_iff_lt h.fits hother.fits, h.fields_lt_iff hother]

theorem IsWritable.render_eq_iff (h : IsWritable time) (hother : IsWritable other) :
    render time = render other ↔ time.toMoment = other.toMoment := by
  rw [← String.toList_inj, toList_render, toList_render,
    strictMonoOn_written.injOn.eq_iff h.fits hother.fits, h.fields_eq_iff hother]

/-- A text of twenty characters that is read as a time in UTC, at a given instant. -/
def Gives (text : String) (instant : Int) : Prop :=
  text.length = 20 ∧ ∃ time : LocalTime,
    read? text = some time ∧ time.isValid = true ∧ time.offset = 0 ∧ time.instant = instant

theorem isWritable_ofMoment (h : time.isValid = true) (hrange : time.IsInRange) :
    IsWritable (LocalTime.ofMoment time.toMoment) :=
  have hyear := (LocalTime.isInRange_iff h).mp hrange
  ⟨LocalTime.isValid_ofMoment time.toMoment, hyear.1, hyear.2, rfl⟩

theorem ofLocalTime_of_isInRange (h : time.isValid = true) (hrange : time.IsInRange) :
    ofLocalTime time = .ok (render (LocalTime.ofMoment time.toMoment)) := by
  have hyear := (LocalTime.isInRange_iff h).mp hrange
  simp [ofLocalTime, ofMoment, hyear]

theorem ofLocalTime_of_not_isInRange (h : time.isValid = true) (hrange : ¬ time.IsInRange) :
    ofLocalTime time = .error .timeOutOfRange := by
  rw [LocalTime.isInRange_iff h] at hrange
  simp [ofLocalTime, ofMoment] at hrange ⊢
  omega

theorem IsWritable.gives_render (h : IsWritable time) :
    Gives (render time) (time.toMoment * 1000000) := by
  refine ⟨h.length_render, { time with microsecond := 0 }, h.read?_render, ?_, h.offset, ?_⟩
  · obtain ⟨hdate, hhour, hminute, hsecond, -⟩ := LocalTime.isValid_iff.mp h.valid
    exact LocalTime.isValid_iff.mpr ⟨hdate, hhour, hminute, hsecond, Nat.zero_lt_succ _⟩
  · simp [LocalTime.instant, LocalTime.toMoment]

/-- A valid time has a text just if it is in the years that have one. The text gives the time to
the second, and texts are in the order of the seconds that they give. -/
theorem ofLocalTime_keepsTime (h : time.isValid = true) (hother : other.isValid = true) :
    (time.IsInRange → ∃ text, ofLocalTime time = .ok text ∧
      Gives text (time.instant / 1000000 * 1000000)) ∧
    (¬ time.IsInRange → ofLocalTime time = .error .timeOutOfRange) ∧
    ∀ text otherText, ofLocalTime time = .ok text → ofLocalTime other = .ok otherText →
      (text < otherText ↔ time.instant / 1000000 < other.instant / 1000000) ∧
      (text = otherText ↔ time.instant / 1000000 = other.instant / 1000000) := by
  rw [LocalTime.instant_div h, LocalTime.instant_div hother]
  refine ⟨fun hrange => ?_, ofLocalTime_of_not_isInRange h,
    fun text otherText htext hotherText => ?_⟩
  · have hgives := (isWritable_ofMoment h hrange).gives_render
    rw [LocalTime.toMoment_ofMoment] at hgives
    exact ⟨_, ofLocalTime_of_isInRange h hrange, hgives⟩
  · by_cases hrange : time.IsInRange
    · by_cases hrange' : other.IsInRange
      · have hwritable := isWritable_ofMoment h hrange
        have hwritable' := isWritable_ofMoment hother hrange'
        rw [ofLocalTime_of_isInRange h hrange, Except.ok.injEq] at htext
        rw [ofLocalTime_of_isInRange hother hrange', Except.ok.injEq] at hotherText
        have hlt := hwritable.render_lt_iff hwritable'
        have heq := hwritable.render_eq_iff hwritable'
        rw [LocalTime.toMoment_ofMoment, LocalTime.toMoment_ofMoment] at hlt heq
        subst htext hotherText
        exact ⟨hlt, heq⟩
      · rw [ofLocalTime_of_not_isInRange hother hrange'] at hotherText
        cases hotherText
    · rw [ofLocalTime_of_not_isInRange h hrange] at htext
      cases htext

end Writable

/-- West of Greenwich the day before a leap day and east of it the day after fall on the leap
day. -/
theorem ofLocalTime_keepsTime_leapDay :
    ∃ text later, ofLocalTime ⟨⟨2024, 2, 28⟩, 23, 30, 0, 999999, -3600⟩ = .ok text ∧
      ofLocalTime ⟨⟨2024, 3, 1⟩, 1, 0, 0, 0, 7200⟩ = .ok later ∧
      Gives text (1709166600 * 1000000) ∧ Gives later (1709247600 * 1000000) ∧ text < later := by
  have hkeeps := @ofLocalTime_keepsTime ⟨⟨2024, 2, 28⟩, 23, 30, 0, 999999, -3600⟩
    ⟨⟨2024, 3, 1⟩, 1, 0, 0, 0, 7200⟩ (by decide) (by decide)
  have hkeeps' := @ofLocalTime_keepsTime ⟨⟨2024, 3, 1⟩, 1, 0, 0, 0, 7200⟩
    ⟨⟨2024, 2, 28⟩, 23, 30, 0, 999999, -3600⟩ (by decide) (by decide)
  obtain ⟨text, htext, hgives⟩ := hkeeps.1 (by decide)
  obtain ⟨later, hlater, hgives'⟩ := hkeeps'.1 (by decide)
  exact ⟨text, later, htext, hlater, hgives, hgives',
    (hkeeps.2.2 text later htext hlater).1.mpr (by decide)⟩

end Timestamp

end RoleGrants
