import Mathlib.Data.Int.SuccPred
import Mathlib.Order.SuccPred.IntervalSucc
import Mathlib.Tactic.IntervalCases
import RoleGrants.Time.Calendar

/-! The numbers of the dates. Every number is that of one date, which has it back, and the numbers
of valid dates are in the order of year, month and day. Both rest on one count, that of the days
before a year that starts in March: no year of such a calendar has its added day in the middle. -/

namespace RoleGrants.Date

/-- The days from the first of March of the year nought to that of another. -/
def daysBefore (year : Int) : Int :=
  365 * year + year / 4 - year / 100 + year / 400

theorem daysBefore_add_eras (era year : Int) :
    daysBefore (era * 400 + year) = era * 146097 + daysBefore year := by
  unfold daysBefore
  omega

theorem daysBefore_succ_le (year : Int) : daysBefore (year + 1) ≤ daysBefore year + 366 := by
  unfold daysBefore
  omega

theorem isLeapYear_iff {year : Int} :
    isLeapYear year = true ↔ year % 4 = 0 ∧ (year % 100 ≠ 0 ∨ year % 400 = 0) := by
  simp [isLeapYear]

/-- February has what the other months leave of the year that ends with it. -/
theorem daysInMonth_february (year : Int) :
    (daysInMonth year 2 : Int) = daysBefore year - daysBefore (year - 1) - 337 := by
  unfold daysBefore daysInMonth
  simp only [beq_self_eq_true, if_true]
  by_cases h : isLeapYear year
  · rw [if_pos h]
    rw [isLeapYear_iff] at h
    omega
  · rw [if_neg h]
    rw [isLeapYear_iff] at h
    omega

theorem daysInMonth_le (year : Int) (month : Nat) : daysInMonth year month ≤ 31 := by
  unfold daysInMonth
  split
  · split <;> decide
  · split <;> decide

theorem isValid_iff {date : Date} :
    date.isValid = true ↔ 1 ≤ date.month ∧ date.month ≤ 12 ∧ 1 ≤ date.day ∧
      date.day ≤ daysInMonth date.year date.month := by
  simp [isValid, and_assoc]

/-! ### The number of a date -/

theorem toDays_eq (year : Int) (month day : Nat) :
    toDays ⟨year, month, day⟩ =
      daysBefore (if month ≤ 2 then year - 1 else year) +
        ((153 * (((month : Int) + 9) % 12) + 2) / 5 + day - 1) - 719468 := by
  have heras (year : Int) : daysBefore year =
      year / 400 * 146097 + (year % 400 * 365 + year % 400 / 4 - year % 400 / 100) := by
    unfold daysBefore
    omega
  rw [heras]
  unfold toDays
  simp only
  omega

theorem toDays_eq_first (date : Date) :
    date.toDays = toDays ⟨date.year, date.month, 1⟩ + date.day - 1 := by
  have hday : date.toDays = toDays ⟨date.year, date.month, date.day⟩ := rfl
  rw [hday, toDays_eq, toDays_eq]
  omega

theorem toDays_succ_month {year : Int} {month : Nat} (h : 1 ≤ month) (h' : month ≤ 11) :
    toDays ⟨year, month + 1, 1⟩ = toDays ⟨year, month, 1⟩ + daysInMonth year month := by
  rw [toDays_eq, toDays_eq]
  by_cases hfebruary : month = 2
  · subst hfebruary
    have := daysInMonth_february year
    simp
    omega
  · interval_cases month <;> simp [daysInMonth] at hfebruary ⊢
    all_goals omega

theorem toDays_succ_year (year : Int) :
    toDays ⟨year + 1, 1, 1⟩ = toDays ⟨year, 12, 1⟩ + daysInMonth year 12 := by
  rw [toDays_eq, toDays_eq]
  simp [daysInMonth]
  omega

/-- The number of the first day of a month, where the months of all years are counted on. -/
def startOfMonth (index : Int) : Int :=
  toDays ⟨index / 12, (index % 12).toNat + 1, 1⟩

theorem startOfMonth_succ (index : Int) :
    startOfMonth (index + 1) =
      startOfMonth index + daysInMonth (index / 12) ((index % 12).toNat + 1) := by
  unfold startOfMonth
  by_cases hdecember : index % 12 = 11
  · have hyear : (index + 1) / 12 = index / 12 + 1 := by omega
    have hmonth : (index + 1) % 12 = 0 := by omega
    rw [hyear, hmonth, hdecember]
    exact toDays_succ_year (index / 12)
  · have hyear : (index + 1) / 12 = index / 12 := by omega
    have hmonth : ((index + 1) % 12).toNat = (index % 12).toNat + 1 := by omega
    rw [hyear, hmonth]
    exact toDays_succ_month (by omega) (by omega)

theorem startOfMonth_le_startOfMonth {index later : Int} (h : index ≤ later) :
    startOfMonth index ≤ startOfMonth later := by
  refine monotone_int_of_le_succ (fun index => ?_) h
  rw [startOfMonth_succ]
  omega

def monthIndex (date : Date) : Int :=
  12 * date.year + (date.month - 1)

section Valid

variable {date other : Date}

theorem monthIndex_div (h : date.isValid = true) : date.monthIndex / 12 = date.year := by
  rw [isValid_iff] at h
  unfold monthIndex
  omega

theorem monthIndex_mod (h : date.isValid = true) :
    (date.monthIndex % 12).toNat + 1 = date.month := by
  rw [isValid_iff] at h
  unfold monthIndex
  omega

theorem startOfMonth_monthIndex (h : date.isValid = true) :
    startOfMonth date.monthIndex = toDays ⟨date.year, date.month, 1⟩ := by
  rw [startOfMonth, monthIndex_div h, monthIndex_mod h]

theorem startOfMonth_le_toDays (h : date.isValid = true) :
    startOfMonth date.monthIndex ≤ date.toDays := by
  rw [startOfMonth_monthIndex h, toDays_eq_first date]
  rw [isValid_iff] at h
  omega

theorem toDays_lt_startOfMonth (h : date.isValid = true) :
    date.toDays < startOfMonth (date.monthIndex + 1) := by
  rw [startOfMonth_succ, monthIndex_div h, monthIndex_mod h, startOfMonth_monthIndex h,
    toDays_eq_first date]
  rw [isValid_iff] at h
  omega

theorem toDays_lt_of_monthIndex_lt (h : date.isValid = true) (hother : other.isValid = true)
    (hlt : date.monthIndex < other.monthIndex) : date.toDays < other.toDays :=
  calc date.toDays < startOfMonth (date.monthIndex + 1) := toDays_lt_startOfMonth h
    _ ≤ startOfMonth other.monthIndex := startOfMonth_le_startOfMonth hlt
    _ ≤ other.toDays := startOfMonth_le_toDays hother

/-- Valid dates are numbered in the order of year, month and day. -/
theorem toDays_lt_toDays (h : date.isValid = true) (hother : other.isValid = true)
    (hlt : date.year < other.year ∨ date.year = other.year ∧
      (date.month < other.month ∨ date.month = other.month ∧ date.day < other.day)) :
    date.toDays < other.toDays := by
  have hmonths := isValid_iff.mp h
  have hmonths' := isValid_iff.mp hother
  rcases hlt with hyear | ⟨hyear, hmonth | ⟨hmonth, hday⟩⟩
  · exact toDays_lt_of_monthIndex_lt h hother (by unfold monthIndex; omega)
  · exact toDays_lt_of_monthIndex_lt h hother (by unfold monthIndex; omega)
  · rw [toDays_eq_first date, toDays_eq_first other, hyear, hmonth]
    omega

theorem le_year_iff (h : date.isValid = true) (year : Int) :
    year ≤ date.year ↔ toDays ⟨year, 1, 1⟩ ≤ date.toDays := by
  have hstart : isValid ⟨year, 1, 1⟩ = true := isValid_iff.mpr (by simp [daysInMonth])
  have hmonths := isValid_iff.mp h
  constructor
  · intro hle
    have hindex : monthIndex ⟨year, 1, 1⟩ ≤ date.monthIndex := by
      unfold monthIndex
      simp only
      omega
    calc toDays ⟨year, 1, 1⟩ = startOfMonth (monthIndex ⟨year, 1, 1⟩) :=
          (startOfMonth_monthIndex hstart).symm
      _ ≤ startOfMonth date.monthIndex := startOfMonth_le_startOfMonth hindex
      _ ≤ date.toDays := startOfMonth_le_toDays h
  · intro hle
    by_contra hyear
    exact (toDays_lt_toDays h hstart (.inl (not_le.mp hyear))).not_ge hle

end Valid

/-! ### The date of a number -/

def yearOfEra (dayOfEra : Int) : Int :=
  (dayOfEra - dayOfEra / 1460 + dayOfEra / 36524 - dayOfEra / 146096) / 365

section YearOfEra

variable (dayOfEra : Int) (h : 0 ≤ dayOfEra) (h' : dayOfEra < 146097)

include h h'

theorem yearOfEra_bounds : 0 ≤ yearOfEra dayOfEra ∧ yearOfEra dayOfEra ≤ 399 := by
  unfold yearOfEra
  omega

theorem daysBefore_yearOfEra_le : daysBefore (yearOfEra dayOfEra) ≤ dayOfEra := by
  have hfours : yearOfEra dayOfEra / 4 ≤ dayOfEra / 1460 := by
    unfold yearOfEra
    omega
  have hcenturies : dayOfEra / 36524 - dayOfEra / 146096 ≤ yearOfEra dayOfEra / 100 := by
    unfold yearOfEra
    omega
  unfold daysBefore yearOfEra at *
  omega

theorem lt_daysBefore_yearOfEra : dayOfEra < daysBefore (yearOfEra dayOfEra + 1) := by
  have hfours : dayOfEra / 1460 ≤ (yearOfEra dayOfEra + 1) / 4 := by
    unfold yearOfEra
    omega
  have hera : dayOfEra / 146096 ≤ (yearOfEra dayOfEra + 1) / 400 := by
    unfold yearOfEra
    omega
  have hcenturies :
      (yearOfEra dayOfEra + 1) / 100 ≤ dayOfEra / 36524 - dayOfEra / 146096 + 1 := by
    unfold yearOfEra
    omega
  -- In the last year of a century the year after it counts one century more than the day.
  by_cases hlast : (yearOfEra dayOfEra + 1) / 100 ≤ dayOfEra / 36524 - dayOfEra / 146096
  · unfold daysBefore yearOfEra at *
    omega
  · have : (yearOfEra dayOfEra + 1) / 100 = dayOfEra / 36524 - dayOfEra / 146096 + 1 := by omega
    unfold daysBefore yearOfEra at *
    omega

end YearOfEra

/-- The year that starts in March and holds a day, which is counted from the first of March of the
year nought. -/
def yearFromMarch (day : Int) : Int :=
  day / 146097 * 400 + yearOfEra (day % 146097)

theorem daysBefore_yearFromMarch_le (day : Int) : daysBefore (yearFromMarch day) ≤ day := by
  have := daysBefore_yearOfEra_le (day % 146097) (by omega) (by omega)
  rw [yearFromMarch, daysBefore_add_eras]
  omega

theorem lt_daysBefore_yearFromMarch (day : Int) : day < daysBefore (yearFromMarch day + 1) := by
  have := lt_daysBefore_yearOfEra (day % 146097) (by omega) (by omega)
  rw [yearFromMarch, add_assoc, daysBefore_add_eras]
  omega

theorem sub_daysBefore_yearFromMarch (day : Int) :
    day - daysBefore (yearFromMarch day) = day % 146097 -
      (365 * yearOfEra (day % 146097) + yearOfEra (day % 146097) / 4 -
        yearOfEra (day % 146097) / 100) := by
  have := yearOfEra_bounds (day % 146097) (by omega) (by omega)
  have hera : yearOfEra (day % 146097) / 400 = 0 := by omega
  rw [yearFromMarch, daysBefore_add_eras, daysBefore, hera]
  omega

theorem exists_monthFromMarch (dayOfYear : Int) (h : 0 ≤ dayOfYear) (h' : dayOfYear ≤ 365) :
    ∃ month day : Nat, month ≤ 11 ∧ (5 * dayOfYear + 2) / 153 = month ∧
      dayOfYear = (153 * month + 2) / 5 + day ∧
      dayOfYear < (153 * (month + 1) + 2) / 5 := by
  obtain ⟨month, hmonth⟩ := Int.eq_ofNat_of_zero_le (a := (5 * dayOfYear + 2) / 153) (by omega)
  obtain ⟨day, hday⟩ := Int.eq_ofNat_of_zero_le (a := dayOfYear - (153 * month + 2) / 5) (by omega)
  exact ⟨month, day, by omega, hmonth, by omega, by omega⟩

theorem exists_ofDays (days : Int) :
    ∃ (year : Int) (month day : Nat), month ≤ 11 ∧
      days + 719468 = daysBefore year + ((153 * month + 2) / 5 + day) ∧
      days + 719468 < daysBefore (year + 1) ∧
      (day : Int) < (153 * (month + 1) + 2) / 5 - (153 * month + 2) / 5 ∧
      ofDays days = ⟨if month ≤ 9 then year else year + 1, (month + 2) % 12 + 1, day + 1⟩ := by
  have hle := daysBefore_yearFromMarch_le (days + 719468)
  have hlt := lt_daysBefore_yearFromMarch (days + 719468)
  have hyear := daysBefore_succ_le (yearFromMarch (days + 719468))
  have hdayOfYear := sub_daysBefore_yearFromMarch (days + 719468)
  obtain ⟨month, day, hmonth, hdiv, hday, hlast⟩ :=
    exists_monthFromMarch (days + 719468 - daysBefore (yearFromMarch (days + 719468)))
      (by omega) (by omega)
  refine ⟨yearFromMarch (days + 719468), month, day, hmonth, by omega, hlt, by omega, ?_⟩
  have hmonths : (((month : Int) + 2) % 12 + 1).toNat = (month + 2) % 12 + 1 := by omega
  have hdays : ((153 * (month : Int) + 2) / 5 + day - (153 * (month : Int) + 2) / 5 + 1).toNat =
      day + 1 := by
    omega
  unfold ofDays
  simp only [← yearOfEra.eq_def]
  rw [← hdayOfYear, hdiv, hday, hmonths, hdays, Date.mk.injEq]
  refine ⟨?_, rfl, rfl⟩
  unfold yearFromMarch
  split <;> split <;> omega

/-- The date of a number has that number. -/
theorem toDays_ofDays (days : Int) : toDays (ofDays days) = days := by
  obtain ⟨year, month, day, hmonth, hday, -, -, h⟩ := exists_ofDays days
  rw [h, toDays_eq]
  by_cases hjanuary : month ≤ 9
  · rw [if_pos hjanuary, if_neg (by omega)]
    omega
  · rw [if_neg hjanuary, if_pos (by omega), add_sub_cancel_right]
    omega

theorem isValid_ofDays (days : Int) : (ofDays days).isValid = true := by
  obtain ⟨year, month, day, hmonth, hday, hyear, hlast, h⟩ := exists_ofDays days
  rw [h, isValid_iff]
  by_cases hfebruary : month = 11
  · subst hfebruary
    have hlength := daysInMonth_february (year + 1)
    rw [add_sub_cancel_right] at hlength
    simp
    omega
  · interval_cases month <;> simp [daysInMonth] at *
    all_goals omega

end RoleGrants.Date
