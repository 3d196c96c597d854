import Mathlib.Data.Int.Notation
import Mathlib.Tactic.IntervalCases

/-!
The Gregorian calendar counted from 1 January 1970: the leap rule, the days before a year in closed
form, and the days before a month.
-/

namespace N32L43x.Lib.Calendar

/-! ### Years -/

/-- The leap rule. -/
def IsLeap (y : ℤ) : Prop := y % 4 = 0 ∧ (y % 100 ≠ 0 ∨ y % 400 = 0)

instance (y : ℤ) : Decidable (IsLeap y) := inferInstanceAs (Decidable (_ ∧ _))

/-- The length of a year. -/
def yearDays (y : ℤ) : ℤ := if IsLeap y then 366 else 365

/-- The days from 1 January 1970 to 1 January of the year `1970 + n`. -/
def daysBeforeYear : ℕ → ℤ
  | 0 => 0
  | n + 1 => daysBeforeYear n + yearDays (1970 + n)

lemma yearDays_bounds (y : ℤ) : 365 ≤ yearDays y ∧ yearDays y ≤ 366 := by
  unfold yearDays
  split <;> omega

/-- **The days before a year**: 365 for each year, one more for each leap year. -/
theorem daysBeforeYear_eq (n : ℕ) :
    daysBeforeYear n = 365 * n + (n + 1) / 4 - (n + 69) / 100 + (n + 369) / 400 := by
  induction n with
  | zero => rfl
  | succ n ih =>
    rw [daysBeforeYear, ih, yearDays]
    push_cast
    by_cases h : IsLeap (1970 + n)
    · rw [if_pos h]
      obtain ⟨h4, h100⟩ := h
      omega
    · rw [if_neg h]
      rw [IsLeap, not_and_or, not_or, not_not] at h
      omega

lemma daysBeforeYear_mono {m n : ℕ} (h : m ≤ n) : daysBeforeYear m ≤ daysBeforeYear n := by
  induction n, h using Nat.le_induction with
  | base => exact le_refl _
  | succ n _ ih =>
    have := yearDays_bounds (1970 + n)
    rw [daysBeforeYear]
    omega

/-! ### Months -/

/-- The length of a month, counted from `0`, in a leap year or not. -/
def monthDays (leap : Prop) [Decidable leap] : ℕ → ℤ
  | 1 => if leap then 29 else 28
  | 3 | 5 | 8 | 10 => 30
  | _ => 31

/-- The days of the year before a month. -/
def daysBeforeMonth (leap : Prop) [Decidable leap] : ℕ → ℤ
  | 0 => 0
  | m + 1 => daysBeforeMonth leap m + monthDays leap m

/-- The day of a date, counted from 1 January 1970; the month is counted from `0`. -/
def dayNumber (n : ℕ) (mon : ℕ) (mday : ℤ) : ℤ :=
  daysBeforeYear n + daysBeforeMonth (IsLeap (1970 + n)) mon + mday - 1

/-- A date that the calendar has. -/
structure ValidDate (n : ℕ) (mon : ℕ) (mday : ℤ) : Prop where
  mon_lt : mon < 12
  one_le : 1 ≤ mday
  le_days : mday ≤ monthDays (IsLeap (1970 + n)) mon

lemma monthDays_le (leap : Prop) [Decidable leap] (m : ℕ) : monthDays leap m ≤ 31 := by
  unfold monthDays
  split <;> first | split <;> omega | omega

lemma ValidDate.mday_le {n mon : ℕ} {mday : ℤ} (h : ValidDate n mon mday) : mday ≤ 31 :=
  h.le_days.trans (monthDays_le _ _)

lemma daysBeforeMonth_bounds (leap : Prop) [Decidable leap] {mon : ℕ} (h : mon < 12) :
    0 ≤ daysBeforeMonth leap mon ∧ daysBeforeMonth leap mon ≤ if leap then 335 else 334 := by
  by_cases hl : leap
  all_goals
    interval_cases mon <;> simp [daysBeforeMonth, monthDays, hl]

/-- A day lies in its year. -/
lemma dayNumber_bounds (n : ℕ) {mon : ℕ} {mday : ℤ} (hmon : mon < 12) (h1 : 1 ≤ mday)
    (h31 : mday ≤ 31) :
    daysBeforeYear n ≤ dayNumber n mon mday ∧ dayNumber n mon mday < daysBeforeYear (n + 1) := by
  obtain ⟨hlo, hhi⟩ := daysBeforeMonth_bounds (IsLeap (1970 + n)) hmon
  rw [daysBeforeYear, dayNumber, yearDays]
  by_cases hl : IsLeap (1970 + n)
  · rw [if_pos hl] at hhi ⊢
    omega
  · rw [if_neg hl] at hhi ⊢
    omega

/-- The year of a day is the last that begins before it. -/
theorem dayNumber_lt_iff {n mon : ℕ} {mday : ℤ} (hmon : mon < 12) (h1 : 1 ≤ mday) (h31 : mday ≤ 31)
    (k : ℕ) : dayNumber n mon mday < daysBeforeYear k ↔ n < k := by
  obtain ⟨hlo, hhi⟩ := dayNumber_bounds n hmon h1 h31
  constructor
  · intro h
    by_contra hk
    have := daysBeforeYear_mono (Nat.not_lt.1 hk)
    omega
  · intro h
    have := daysBeforeYear_mono (m := n + 1) (n := k) h
    omega

lemma le_daysBeforeYear (n : ℕ) : 365 * n ≤ daysBeforeYear n := by
  rw [daysBeforeYear_eq]
  omega

lemma daysBeforeMonth_twelve (leap : Prop) [Decidable leap] :
    daysBeforeMonth leap 12 = if leap then 366 else 365 := by
  by_cases hl : leap <;> simp [daysBeforeMonth, monthDays, hl]

lemma daysBeforeMonth_mono (leap : Prop) [Decidable leap] {m k : ℕ} (h : m ≤ k) :
    daysBeforeMonth leap m ≤ daysBeforeMonth leap k := by
  induction k, h using Nat.le_induction with
  | base => exact le_refl _
  | succ k _ ih =>
    have hpos : 0 ≤ monthDays leap k := by
      unfold monthDays
      split <;> first | split <;> omega | omega
    rw [daysBeforeMonth]
    omega

/-! ### Day after day -/

/-- A date of 1970 or later: the years since 1970, the month from `0` and the day of the month. -/
structure Date where
  year : ℕ
  mon : ℕ
  mday : ℕ
deriving DecidableEq

namespace Date

variable (d : Date)

/-- The date of the next day: the next of the month, else the first of the next month, else
1 January. -/
def next : Date :=
  if (d.mday : ℤ) + 1 ≤ monthDays (IsLeap (1970 + d.year)) d.mon then
    { d with mday := d.mday + 1 }
  else if d.mon + 1 < 12 then { d with mon := d.mon + 1, mday := 1 }
  else { year := d.year + 1, mon := 0, mday := 1 }

/-- The date some days after 1 January 1970. -/
def after : ℕ → Date
  | 0 => { year := 0, mon := 0, mday := 1 }
  | k + 1 => (after k).next

/-- The date is one the calendar has. -/
def Valid : Prop := ValidDate d.year d.mon d.mday

/-- The days of the date's year that come before it. -/
def yday : ℤ := daysBeforeMonth (IsLeap (1970 + d.year)) d.mon + d.mday - 1

variable {d}

lemma Valid.next (h : d.Valid) : d.next.Valid := by
  obtain ⟨hmon, hone, hle⟩ := h
  unfold Date.next
  split
  · next hday => exact ⟨hmon, by push_cast; omega, by push_cast; exact hday⟩
  · split
    · next hmon' =>
      refine ⟨hmon', le_refl _, ?_⟩
      change (1 : ℤ) ≤ monthDays _ (d.mon + 1)
      unfold monthDays
      split <;> first | split <;> omega | omega
    · exact ⟨by simp, le_refl _, by simp [monthDays]⟩

/-- **One day is counted** from a date to the next. -/
lemma Valid.dayNumber_next (h : d.Valid) :
    dayNumber d.next.year d.next.mon d.next.mday = dayNumber d.year d.mon d.mday + 1 := by
  obtain ⟨hmon, hone, hle⟩ := h
  unfold Date.next
  by_cases hday : (d.mday : ℤ) + 1 ≤ monthDays (IsLeap (1970 + d.year)) d.mon
  · rw [if_pos hday]
    simp only [dayNumber]
    push_cast
    omega
  · -- the month ends, so the day is its last
    have hlast : (d.mday : ℤ) = monthDays (IsLeap (1970 + d.year)) d.mon := by omega
    rw [if_neg hday]
    split
    · simp only [dayNumber, daysBeforeMonth, hlast]
      push_cast
      omega
    · next hdec =>
      -- the year ends with its twelfth month
      have hdec' : d.mon = 11 := by omega
      have hyear : daysBeforeMonth (IsLeap (1970 + d.year)) 12 = yearDays (1970 + d.year) :=
        daysBeforeMonth_twelve _
      rw [daysBeforeMonth, ← hdec', ← hlast] at hyear
      simp only [dayNumber, daysBeforeMonth, daysBeforeYear]
      push_cast
      omega

/-- The dates are counted in their order. -/
theorem after_spec (k : ℕ) :
    (after k).Valid ∧ dayNumber (after k).year (after k).mon (after k).mday = k := by
  induction k with
  | zero => exact ⟨⟨by decide, by decide, by decide⟩, by decide⟩
  | succ k ih =>
    rw [after]
    exact ⟨ih.1.next, by rw [ih.1.dayNumber_next, ih.2]; push_cast; rfl⟩

end Date

lemma ValidDate.yday_bounds {n mon : ℕ} {mday : ℤ} (h : ValidDate n mon mday) :
    daysBeforeMonth (IsLeap (1970 + n)) mon < daysBeforeMonth (IsLeap (1970 + n)) mon + mday ∧
      daysBeforeMonth (IsLeap (1970 + n)) mon + mday ≤
        daysBeforeMonth (IsLeap (1970 + n)) (mon + 1) := by
  have hone := h.one_le
  have hle := h.le_days
  rw [daysBeforeMonth]
  omega

/-- **A day has one date.** -/
theorem ValidDate.unique {n n' mon mon' : ℕ} {mday mday' : ℤ} (h : ValidDate n mon mday)
    (h' : ValidDate n' mon' mday') (heq : dayNumber n mon mday = dayNumber n' mon' mday') :
    n = n' ∧ mon = mon' ∧ mday = mday' := by
  have hyear : n = n' := by
    have hlt (k : ℕ) : dayNumber n mon mday < daysBeforeYear k ↔ n < k :=
      dayNumber_lt_iff h.mon_lt h.one_le h.mday_le k
    have hlt' (k : ℕ) : dayNumber n' mon' mday' < daysBeforeYear k ↔ n' < k :=
      dayNumber_lt_iff h'.mon_lt h'.one_le h'.mday_le k
    have h1 := (hlt (n' + 1)).1 (heq ▸ (hlt' (n' + 1)).2 (Nat.lt_succ_self n'))
    have h2 := (hlt' (n + 1)).1 (heq ▸ (hlt (n + 1)).2 (Nat.lt_succ_self n))
    omega
  subst hyear
  obtain ⟨hlo, hhi⟩ := h.yday_bounds
  obtain ⟨hlo', hhi'⟩ := h'.yday_bounds
  rw [dayNumber, dayNumber] at heq
  have hmon : mon = mon' := by
    rcases Nat.lt_trichotomy mon mon' with hlt | heq' | hlt
    · have : daysBeforeMonth (IsLeap (1970 + n)) (mon + 1) ≤ _ := daysBeforeMonth_mono _ hlt
      omega
    · exact heq'
    · have : daysBeforeMonth (IsLeap (1970 + n)) (mon' + 1) ≤ _ := daysBeforeMonth_mono _ hlt
      omega
  subst hmon
  exact ⟨rfl, rfl, by omega⟩

end N32L43x.Lib.Calendar
