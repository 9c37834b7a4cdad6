import Mathlib.Algebra.Ring.Nat
import Mathlib.Tactic.Common
import PrefixDelegation.Calendar.Moment

/-!
# Days and dates

Counting the days of the calendar and naming them are inverse to each other. The year of a day is
found by walking down from a year that is late enough, and the month by walking along the lengths of
the months. Each walk has one lemma that says where it stops: `lastYearBegun_spec` for years,
`alongMonths_spec` for months. Together they say that every day has a date that exists
(`Date.isDate_ofDays`) and that the date is that of the day (`Date.toDays_ofDays`).
-/

namespace PrefixDelegation.Calendar

/-! ### Years -/

/-- The number of days in a year. -/
def yearLength (year : Nat) : Nat := if isLeapYear year then 366 else 365

theorem isLeapYear_iff {year : Nat} :
    isLeapYear year = true ↔ year % 4 = 0 ∧ (year % 100 ≠ 0 ∨ year % 400 = 0) := by
  simp [isLeapYear]

/-- A year begins when the year before it is over. -/
theorem daysBeforeYear_succ {year : Nat} (h : 0 < year) :
    daysBeforeYear (year + 1) = daysBeforeYear year + yearLength year := by
  obtain ⟨past, rfl⟩ : ∃ past, year = past + 1 := ⟨year - 1, by omega⟩
  -- how often each of the three rules applies, with one year more
  have hfour : (past + 1) / 4 = past / 4 + if (past + 1) % 4 = 0 then 1 else 0 := by
    split <;> omega
  have hhundred : (past + 1) / 100 = past / 100 + if (past + 1) % 100 = 0 then 1 else 0 := by
    split <;> omega
  have hcycle : (past + 1) / 400 = past / 400 + if (past + 1) % 400 = 0 then 1 else 0 := by
    split <;> omega
  have hle : past / 100 ≤ past / 4 := Nat.div_le_div_left (by decide) (by decide)
  unfold daysBeforeYear yearLength
  simp only [Nat.add_sub_cancel, hfour, hhundred, hcycle, isLeapYear_iff]
  generalize past / 4 = fours at hle ⊢
  generalize past / 100 = hundreds at hle ⊢
  generalize past / 400 = cycles
  by_cases h4 : (past + 1) % 4 = 0
  · by_cases h100 : (past + 1) % 100 = 0
    · by_cases h400 : (past + 1) % 400 = 0
      · simp only [h4, h100, h400, ne_eq, not_true, or_true, and_self, if_true]
        omega
      · simp only [h4, h100, h400, ne_eq, not_true, or_false, and_false, if_true, if_false]
        omega
    · have h400 : (past + 1) % 400 ≠ 0 := by omega
      simp only [h4, h100, h400, ne_eq, not_false_eq_true, true_or, and_self, if_true, if_false]
      omega
  · have h100 : (past + 1) % 100 ≠ 0 := by omega
    have h400 : (past + 1) % 400 ≠ 0 := by omega
    simp only [h4, h100, h400, false_and, if_false]
    omega

theorem daysBeforeYear_mono {a b : Nat} (h : a ≤ b) : daysBeforeYear a ≤ daysBeforeYear b := by
  induction h with
  | refl => exact Nat.le_refl _
  | @step b _ ih =>
    rcases Nat.eq_zero_or_pos b with rfl | hpos
    · exact ih
    · rw [Nat.succ_eq_add_one, daysBeforeYear_succ hpos]
      exact Nat.le_add_right_of_le ih

/-- Every year has at least 365 days. -/
theorem le_daysBeforeYear (year : Nat) : 365 * (year - 1) ≤ daysBeforeYear year := by
  unfold daysBeforeYear
  dsimp only
  omega

/-- **Walking down the years** stops at a year that has begun, and the next has not, unless the walk
started there. -/
theorem lastYearBegun_spec (days : Nat) {start : Nat} (h : 0 < start) :
    0 < lastYearBegun days start ∧ lastYearBegun days start ≤ start ∧
      daysBeforeYear (lastYearBegun days start) ≤ days ∧
      (lastYearBegun days start < start → days < daysBeforeYear (lastYearBegun days start + 1)) := by
  induction start with
  | zero => cases h
  | succ year ih =>
    by_cases hbegun : daysBeforeYear (year + 1) ≤ days
    · rw [lastYearBegun, if_pos hbegun]
      exact ⟨h, Nat.le_refl _, hbegun, fun hlt => absurd hlt (Nat.lt_irrefl _)⟩
    · rw [lastYearBegun, if_neg hbegun]
      have hpos : 0 < year := by
        rcases Nat.eq_zero_or_pos year with rfl | hpos
        · exact absurd (Nat.zero_le days) hbegun
        · exact hpos
      obtain ⟨hyear, hle, hdays, hnext⟩ := ih hpos
      refine ⟨hyear, by omega, hdays, fun _ => ?_⟩
      by_cases hlast : lastYearBegun days year < year
      · exact hnext hlast
      · obtain hsame : lastYearBegun days year = year := by omega
        rw [hsame]
        omega

/-! ### Months -/

theorem sum_monthLengths (year : Nat) : (monthLengths year).sum = yearLength year := by
  unfold monthLengths yearLength
  by_cases h : isLeapYear year = true
  · simp [h]
  · simp [h]

/-- **Walking along the months** stops inside one of them, with the days that are left over. -/
theorem alongMonths_spec {lengths : List Nat} (month : Nat) {days : Nat} (h : days < lengths.sum) :
    ∃ passed left, alongMonths lengths month days = (month + passed, left + 1) ∧
      passed < lengths.length ∧ left < lengths.getD passed 0 ∧
      (lengths.take passed).sum + left = days := by
  induction lengths generalizing month days with
  | nil => cases h
  | cons length rest ih =>
    by_cases hhere : days < length
    · refine ⟨0, days, ?_, by simp, by simpa using hhere, by simp⟩
      rw [alongMonths, if_pos hhere]
      rfl
    · have hrest : days - length < rest.sum := by
        rw [List.sum_cons] at h
        omega
      obtain ⟨passed, left, hwalk, hpassed, hleft, hsum⟩ := ih (month + 1) hrest
      refine ⟨passed + 1, left, ?_, by simpa using hpassed, by simpa using hleft, ?_⟩
      · rw [alongMonths, if_neg hhere, hwalk, Nat.add_right_comm, Nat.add_assoc]
      · rw [List.take_succ_cons, List.sum_cons]
        omega

/-! ### Dates -/

/-- A date that exists. -/
structure Date.IsDate (d : Date) : Prop where
  year_pos : 0 < d.year
  month_pos : 0 < d.month
  month_le : d.month ≤ 12
  day_pos : 0 < d.day
  day_le : d.day ≤ daysInMonth d.year d.month

/-- **Where a day is in the calendar**: in a year that has begun, so many months further, and so
many days into that month. -/
theorem Date.ofDays_spec (days : Nat) : ∃ year passed left, Date.ofDays days =
      ⟨year, 1 + passed, left + 1⟩ ∧ 0 < year ∧ daysBeforeYear year ≤ days ∧
      passed < 12 ∧ left < (monthLengths year).getD passed 0 ∧
      daysBeforeYear year + ((monthLengths year).take passed).sum + left = days := by
  obtain ⟨hpos, -, hbegun, hnext⟩ := lastYearBegun_spec days (Nat.succ_pos (days / 365))
  -- the walk starts late enough: no year is shorter than 365 days
  have hover : days < daysBeforeYear (lastYearBegun days (days / 365 + 1) + 1) := by
    by_cases hlast : lastYearBegun days (days / 365 + 1) < days / 365 + 1
    · exact hnext hlast
    · have hlate := le_daysBeforeYear (days / 365 + 2)
      have hle : daysBeforeYear (days / 365 + 2)
          ≤ daysBeforeYear (lastYearBegun days (days / 365 + 1) + 1) :=
        daysBeforeYear_mono (by omega)
      omega
  generalize hyear : lastYearBegun days (days / 365 + 1) = year at hpos hbegun hover
  rw [daysBeforeYear_succ hpos] at hover
  have hinside : days - daysBeforeYear year < (monthLengths year).sum := by
    rw [sum_monthLengths]
    omega
  obtain ⟨passed, left, hwalk, hpassed, hleft, hsum⟩ := alongMonths_spec 1 hinside
  refine ⟨year, passed, left, ?_, hpos, hbegun, hpassed, hleft, by omega⟩
  unfold Date.ofDays
  simp only [hyear, hwalk]

/-- The date of a day exists. -/
theorem Date.isDate_ofDays (days : Nat) : (Date.ofDays days).IsDate := by
  obtain ⟨year, passed, left, heq, hpos, -, hpassed, hleft, -⟩ := Date.ofDays_spec days
  rw [heq]
  refine ⟨hpos, by show 0 < 1 + passed; omega, by show 1 + passed ≤ 12; omega, Nat.succ_pos left, ?_⟩
  unfold daysInMonth
  rw [if_neg (by show 1 + passed ≠ 0; omega), Nat.add_sub_cancel_left]
  exact hleft

/-- **The date of a day is that of the day.** -/
theorem Date.toDays_ofDays (days : Nat) : (Date.ofDays days).toDays = days := by
  obtain ⟨year, passed, left, heq, -, -, -, -, hsum⟩ := Date.ofDays_spec days
  unfold Date.toDays daysBeforeMonth
  rw [heq, ← List.sum_eq_foldl_nat, Nat.add_sub_cancel_left, Nat.add_sub_cancel]
  exact hsum

/-- A day of the calendar is in one of its years. -/
theorem Date.year_ofDays_lt {days : Nat} (h : days < dayLimit) :
    (Date.ofDays days).year < yearLimit := by
  obtain ⟨year, passed, left, heq, -, hbegun, -⟩ := Date.ofDays_spec days
  rw [heq]
  by_contra hge
  have hle : dayLimit ≤ daysBeforeYear year := daysBeforeYear_mono (Nat.le_of_not_lt hge)
  omega

theorem Date.daysInMonth_le (year month : Nat) : daysInMonth year month ≤ 31 := by
  unfold daysInMonth
  split
  · exact Nat.zero_le _
  · have hall : ∀ length ∈ monthLengths year, length ≤ 31 := by
      unfold monthLengths
      by_cases h : isLeapYear year = true
      · simp [h]
      · simp [h]
    rw [List.getD_eq_getElem?_getD]
    rcases hget : (monthLengths year)[month - 1]? with _ | length
    · exact Nat.zero_le _
    · exact hall length (List.mem_of_getElem? hget)

end PrefixDelegation.Calendar
