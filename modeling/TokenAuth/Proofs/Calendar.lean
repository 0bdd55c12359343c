import TokenAuth.Proofs.Elapsed
import TokenAuth.Time.Instant

/-!
# The order of the calendar

Days are counted in years that start in March, so that the leap day ends a year. Counting keeps the
order of dates (`Date.toDays_lt_iff`), and an instant falls on one of them (`Instant.exists_date`).
-/

namespace TokenAuth

namespace Date

/-- One date comes before another in the calendar. -/
def Before (a b : Date) : Prop :=
  a.year < b.year ∨ a.year = b.year ∧
    (a.month < b.month ∨ a.month = b.month ∧ a.day < b.day)

instance (a b : Date) : Decidable (a.Before b) :=
  inferInstanceAs (Decidable (_ ∨ _))

/-- The year of a date if years start in March. -/
def marchYear (d : Date) : Int := if d.month ≤ 2 then d.year - 1 else d.year

/-- Months since March. -/
def sinceMarch (month : Nat) : Int := if month ≤ 2 then (month : Int) + 9 else (month : Int) - 3

/-- Days from 1970-01-01 to the March in which a year starts. -/
def yearStart (year : Int) : Int := 365 * year + year / 4 - year / 100 + year / 400 - 719468

/-- Days from the first of March to the first day of a month. -/
def monthStart (months : Int) : Int := (153 * months + 2) / 5

theorem toDays_eq (d : Date) :
    d.toDays = yearStart d.marchYear + monthStart (sinceMarch d.month) + (d.day : Int) - 1 := by
  change 146097 * (d.marchYear / 400) + (365 * (d.marchYear % 400) + d.marchYear % 400 / 4 -
    d.marchYear % 400 / 100 + ((153 * sinceMarch d.month + 2) / 5 + (d.day : Int) - 1)) -
    719468 = _
  rw [yearStart, monthStart]
  omega

/-! ### Years and months in days -/

theorem yearStart_mono {y z : Int} (h : y ≤ z) : yearStart y ≤ yearStart z := by
  simp only [yearStart]
  omega

theorem isLeapYear_iff {y : Int} :
    isLeapYear y = true ↔ y % 4 = 0 ∧ (y % 100 ≠ 0 ∨ y % 400 = 0) := by
  simp [isLeapYear]

theorem yearStart_succ (y : Int) :
    yearStart (y + 1) = yearStart y + 337 + daysInMonth (y + 1) 2 := by
  simp only [yearStart, daysInMonth, if_true, isLeapYear_iff]
  split <;> omega

theorem monthStart_mono {m n : Int} (h : m ≤ n) : monthStart m ≤ monthStart n := by
  simp only [monthStart]
  omega

theorem monthStart_succ {month : Nat} (year : Int) (hmonth : 1 ≤ month ∧ month ≤ 12)
    (hfebruary : month ≠ 2) :
    monthStart (sinceMarch month + 1) = monthStart (sinceMarch month) + daysInMonth year month := by
  have hall : ∀ m < 13, 1 ≤ m → m ≠ 2 → monthStart (sinceMarch m + 1) = monthStart (sinceMarch m) +
      ((if m = 4 ∨ m = 6 ∨ m = 9 ∨ m = 11 then 30 else 31 : Nat) : Int) := by
    decide
  rw [daysInMonth, if_neg hfebruary, hall month (by omega) hmonth.1 hfebruary]

theorem sinceMarch_bounds {month : Nat} (hmonth : 1 ≤ month ∧ month ≤ 12) :
    0 ≤ sinceMarch month ∧ sinceMarch month ≤ 11 ∧ (sinceMarch month = 11 ↔ month = 2) := by
  rw [sinceMarch]
  split <;> omega

/-! ### Where a date lies in its year -/

variable {a b : Date}

theorem monthStart_le_toDays (d : Date) :
    yearStart d.marchYear + monthStart (sinceMarch d.month) ≤ d.toDays := by
  have hday := d.day_valid.1
  rw [toDays_eq]
  omega

theorem toDays_lt_monthStart {d : Date} (hfebruary : d.month ≠ 2) :
    d.toDays < yearStart d.marchYear + monthStart (sinceMarch d.month + 1) := by
  have hday := d.day_valid.2
  rw [toDays_eq, monthStart_succ d.year d.month_valid hfebruary]
  omega

theorem yearStart_le_toDays (d : Date) : yearStart d.marchYear ≤ d.toDays := by
  have hmonth := monthStart_mono (sinceMarch_bounds d.month_valid).1
  have hstart := monthStart_le_toDays d
  have hzero : monthStart 0 = 0 := by decide
  omega

theorem toDays_lt_yearStart (d : Date) : d.toDays < yearStart (d.marchYear + 1) := by
  have hlast : monthStart 11 = 337 := by decide
  rw [yearStart_succ]
  by_cases hfebruary : d.month = 2
  · -- February ends the year, so the leap day is its last day.
    have hday := d.day_valid.2
    have hyear : d.marchYear + 1 = d.year := by simp [marchYear, hfebruary]
    have hmonth : sinceMarch 2 = 11 := by decide
    rw [hfebruary] at hday
    rw [toDays_eq, hfebruary, hmonth, hyear, hlast]
    omega
  · have hbounds := sinceMarch_bounds d.month_valid
    have hmonth := monthStart_mono (show sinceMarch d.month + 1 ≤ 11 by omega)
    have hend := toDays_lt_monthStart hfebruary
    omega

/-- Years that start in March have the same order of dates. -/
theorem march_cases_of_before (h : a.Before b) : a.marchYear < b.marchYear ∨
    a.marchYear = b.marchYear ∧ (sinceMarch a.month < sinceMarch b.month ∨
      a.month = b.month ∧ a.day < b.day) := by
  have ha := a.month_valid
  have hb := b.month_valid
  rw [Before] at h
  simp only [marchYear, sinceMarch]
  split <;> split <;> omega

theorem toDays_lt_of_before (h : a.Before b) : a.toDays < b.toDays := by
  rcases march_cases_of_before h with hyear | ⟨hyear, hmonth | ⟨hmonth, hday⟩⟩
  · calc a.toDays < yearStart (a.marchYear + 1) := toDays_lt_yearStart a
      _ ≤ yearStart b.marchYear := yearStart_mono hyear
      _ ≤ b.toDays := yearStart_le_toDays b
  · have hbounds := sinceMarch_bounds b.month_valid
    have hfebruary : a.month ≠ 2 := by
      intro h2
      have := (sinceMarch_bounds a.month_valid).2.2.mpr h2
      omega
    have hend := toDays_lt_monthStart hfebruary
    have hnext := monthStart_mono (show sinceMarch a.month + 1 ≤ sinceMarch b.month by omega)
    have hstart := monthStart_le_toDays b
    rw [← hyear] at hstart
    omega
  · rw [toDays_eq, toDays_eq, hyear, hmonth]
    omega

theorem before_or (a b : Date) : a.Before b ∨ a = b ∨ b.Before a := by
  obtain ⟨ya, ma, da, _, _, _, _⟩ := a
  obtain ⟨yb, mb, db, _, _, _, _⟩ := b
  simp only [Before, mk.injEq]
  omega

/-- **Counting days keeps the order of the calendar.** -/
theorem toDays_lt_iff : a.toDays < b.toDays ↔ a.Before b := by
  refine ⟨fun hlt => ?_, toDays_lt_of_before⟩
  rcases before_or a b with h | rfl | h
  · exact h
  · exact absurd hlt (Int.lt_irrefl _)
  · have := toDays_lt_of_before h
    omega

/-! ### The next day -/

theorem daysInMonth_pos (year : Int) (month : Nat) : 1 ≤ daysInMonth year month := by
  rw [daysInMonth]
  split
  · split <;> decide
  · split <;> decide

/-- After every date but the last there is a next one. -/
theorem exists_next {d : Date} (h : d ≠ Instant.lastDay) :
    ∃ next : Date, next.toDays = d.toDays + 1 := by
  obtain ⟨year, month, day, hlower, hupper, hmonth, hday⟩ := d
  by_cases hlast : day < daysInMonth year month
  · exact ⟨⟨year, month, day + 1, hlower, hupper, hmonth, by omega⟩, by
      simp only [toDays_eq, marchYear]
      omega⟩
  have hend : day = daysInMonth year month := by omega
  by_cases hyear : month = 12
  · -- The next day is in the next year, which there is unless this is the last day of all.
    subst hyear
    have hnext : year < 262142 := by
      rcases Int.lt_or_eq_of_le hupper with hlt | rfl
      · exact hlt
      · subst hend
        exact absurd rfl h
    refine ⟨⟨year + 1, 1, 1, by omega, by omega, by decide, by simp [daysInMonth]⟩, ?_⟩
    have hstart := monthStart_succ year hmonth (by decide)
    have hjanuary : sinceMarch 1 = sinceMarch 12 + 1 := by decide
    simp only [toDays_eq, marchYear, hjanuary]
    simp only [show ¬(12 ≤ 2) by decide, if_false, show 1 ≤ 2 by decide, if_true]
    rw [show year + 1 - 1 = year by omega]
    omega
  · refine ⟨⟨year, month + 1, 1, hlower, hupper, by omega, Nat.le_refl 1, daysInMonth_pos _ _⟩, ?_⟩
    by_cases hfebruary : month = 2
    · subst hfebruary
      have hstart := yearStart_succ (year - 1)
      have hmarch : sinceMarch (2 + 1) = 0 := by decide
      have hmonth : monthStart 0 = 0 ∧ monthStart (sinceMarch 2) = 337 := by decide
      rw [show year - 1 + 1 = year by omega] at hstart
      simp only [toDays_eq, marchYear, hmarch, hmonth, Nat.le_refl, if_true,
        show ¬(2 + 1 ≤ 2) by decide, if_false]
      omega
    · have hstart := monthStart_succ year hmonth hfebruary
      have hnext : sinceMarch (month + 1) = sinceMarch month + 1 := by
        simp only [sinceMarch]
        split <;> split <;> omega
      have hyear : (if month + 1 ≤ 2 then year - 1 else year) =
          if month ≤ 2 then year - 1 else year := by
        split <;> split <;> omega
      simp only [toDays_eq, marchYear, hnext, hyear]
      omega

/-- **Every count of days between the first and the last date is the count of a date.** -/
theorem exists_toDays_eq (count : Nat)
    (h : Instant.firstDay.toDays + count ≤ Instant.lastDay.toDays) :
    ∃ d : Date, d.toDays = Instant.firstDay.toDays + count := by
  induction count with
  | zero => exact ⟨Instant.firstDay, by omega⟩
  | succ count ih =>
    obtain ⟨d, hd⟩ := ih (by omega)
    have hne : d ≠ Instant.lastDay := by
      rintro rfl
      omega
    obtain ⟨next, hnext⟩ := exists_next hne
    exact ⟨next, by omega⟩

end Date

/-- An instant falls on a date. -/
theorem Instant.exists_date (t : Instant) : ∃ d : Date, d.toDays = t.day := by
  have hfirst : firstDay.toDays = -96465292 := by decide
  have hlast : lastDay.toDays = 95026236 := by decide
  have hlower := t.lower
  have hupper := t.upper
  obtain ⟨d, hd⟩ := Date.exists_toDays_eq (t.day - firstDay.toDays).toNat (by rw [day]; omega)
  refine ⟨d, ?_⟩
  rw [hd, day]
  omega

end TokenAuth
