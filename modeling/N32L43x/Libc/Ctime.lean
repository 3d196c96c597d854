import N32L43x.Lib.Calendar
import Mathlib.Tactic.Ring

/-!
`gmtime_r` and `timegm` of the C library.  A `time_t` has 64 bits and an `int` 32; both are integers
here, and an `int` is wrapped where the source may leave its range.
-/

namespace N32L43x.Libc

open N32L43x.Lib.Calendar

/-! ### The code -/

/-- The value an `int` gets from a wider integer. -/
def toInt32 (x : ℤ) : ℤ := (x + 2147483648) % 4294967296 - 2147483648

/-- `struct tm`. -/
structure Tm where
  tmSec : ℤ
  tmMin : ℤ
  tmHour : ℤ
  tmMday : ℤ
  tmMon : ℤ
  tmYear : ℤ
  tmWday : ℤ
  tmYday : ℤ
  tmIsdst : ℤ
deriving DecidableEq

/-- `__spm`: the days before each month, in a year that is no leap year.  The code reads it for
indices from `0` to `12` only, as long as the month is not negative. -/
def spm (i : ℤ) : ℤ := [0, 31, 59, 90, 120, 151, 181, 212, 243, 273, 304, 334, 365].getD i.toNat 0

/-- `__isleap`. -/
def isleap (year : ℤ) : Bool :=
  year.tmod 4 == 0 && (year.tmod 100 != 0 || year.tmod 400 == 0)

/-- The year loop of `gmtime_r`, `for (i = 1970;; ++i)`: it takes the length of a year off as long
as it can. -/
def yearLoop : ℕ → ℤ → ℤ → ℤ × ℤ
  | 0, i, work => (i, work)
  | fuel + 1, i, work =>
    let k := if isleap i then 366 else 365
    if work ≥ k then yearLoop fuel (i + 1) (work - k) else (i, work)

/-- The month loop of `gmtime_r`, `for (i = 11; i && (__spm[i] > work); --i)`. -/
def monthLoop (work : ℤ) : ℕ → ℕ
  | 0 => 0
  | i + 1 => if spm (i + 1) > work then monthLoop work i else i + 1

/-- The month and the day of the month `gmtime_r` finds for a day of the year; 29 February has its
own case. -/
def monthDay (leap : Bool) (yday : ℤ) : ℕ × ℤ :=
  let mday := if leap ∧ yday = 59 then 2 else 1
  let work := if leap ∧ yday > 58 then yday - 1 else yday
  let mon := monthLoop work 11
  (mon, mday + (work - spm mon))

/-- `gmtime_r`. -/
def gmtimeR (timep : ℤ) : Tm :=
  let work := timep.tmod 86400
  let sec := work.tmod 60
  let work := work.tdiv 60
  let min := work.tmod 60
  let hour := work.tdiv 60
  let work := toInt32 (timep.tdiv 86400)
  let wday := (toInt32 (4 + work)).tmod 7
  -- a year takes 365 days at least, so the loop ends well before the fuel does
  let (i, work) := yearLoop (work.toNat + 1) 1970 work
  let (mon, mday) := monthDay (isleap i) work
  { tmSec := sec
    tmMin := min
    tmHour := hour
    tmMday := mday
    tmMon := mon
    tmYear := i - 1900
    tmWday := wday
    tmYday := work
    tmIsdst := 0 }

/-- One turn of the loop of `timegm` over the day of the month. -/
def mdayTurn (t : Tm) : Tm :=
  let mday := if t.tmMon = 1 ∧ isleap (toInt32 (t.tmYear + 1900)) then t.tmMday - 1 else t.tmMday
  let mday := mday - spm t.tmMon
  let mon := t.tmMon + 1
  if mon > 11 then { t with tmMday := mday, tmMon := 0, tmYear := toInt32 (t.tmYear + 1) }
  else { t with tmMday := mday, tmMon := mon }

/-- The loop of `timegm` over the day of the month, with the bound it is compared with. -/
def mdayLoop : ℕ → Tm → Tm
  | 0, t => t
  | fuel + 1, t => if t.tmMday > spm (1 + t.tmMon) then mdayLoop fuel (mdayTurn t) else t

/-- The carries of `timegm`: seconds into minutes, minutes into hours, hours into days and months
into years. -/
def carrySec (t : Tm) : Tm :=
  if t.tmSec > 60 then
    { t with tmMin := toInt32 (t.tmMin + t.tmSec.tdiv 60), tmSec := t.tmSec.tmod 60 }
  else t

def carryMin (t : Tm) : Tm :=
  if t.tmMin ≥ 60 then
    { t with tmHour := toInt32 (t.tmHour + t.tmMin.tdiv 60), tmMin := t.tmMin.tmod 60 }
  else t

def carryHour (t : Tm) : Tm :=
  if t.tmHour ≥ 24 then
    { t with tmMday := toInt32 (t.tmMday + t.tmHour.tdiv 24), tmHour := t.tmHour.tmod 24 }
  else t

def carryMon (t : Tm) : Tm :=
  if t.tmMon ≥ 12 then
    { t with tmYear := toInt32 (t.tmYear + t.tmMon.tdiv 12), tmMon := t.tmMon.tmod 12 }
  else t

def carry (t : Tm) : Tm := carryMon (carryHour (carryMin (carrySec t)))

/-- The days `timegm` counts for the years since 1970. -/
def yearsToDays (years : ℤ) : ℤ :=
  let day := years * 365 + (years + 1).tdiv 4
  if years ≥ 131 then
    let years := (years - 131).tdiv 100
    let day := day - (years / 4 * 3 + 1)
    let years := years % 4
    let years := if years = 3 then years - 1 else years
    day - years
  else day

/-- `timegm`: the time, and the structure it stores back. -/
def timegm (t : Tm) : ℤ × Tm :=
  let years := t.tmYear - 70
  let t := carry t
  -- two turns of the loop take a month off at least
  let t := mdayLoop (t.tmMday.toNat + 2) t
  if t.tmYear < 70 then (-1, t)
  else
    let leap := if isleap (toInt32 (t.tmYear + 1900)) ∧ t.tmMon > 1 then 1 else 0
    let yday := toInt32 (spm t.tmMon + t.tmMday - 1 + leap)
    let day := yearsToDays years + yday
    let t := { t with tmYday := yday, tmWday := (day + 4).tmod 7 }
    (((day * 24 + t.tmHour) * 60 + t.tmMin) * 60 + t.tmSec, t)

/-! ### The table and the leap rule -/

lemma toInt32_of_range {x : ℤ} (h : -2147483648 ≤ x) (h' : x < 2147483648) : toInt32 x = x := by
  unfold toInt32
  omega

lemma isleap_iff (y : ℤ) : isleap y = true ↔ IsLeap y := by
  have h (d : ℤ) : y.tmod d = 0 ↔ y % d = 0 := by
    rw [← Int.dvd_iff_tmod_eq_zero, Int.dvd_iff_emod_eq_zero]
  simp [isleap, IsLeap, h]

lemma yearDays_eq (y : ℤ) : (if isleap y then 366 else 365) = yearDays y := by
  unfold yearDays
  simp only [isleap_iff]

lemma spm_bounds {m : ℕ} (hm : m < 12) : 0 ≤ spm m ∧ spm m ≤ 334 := by
  interval_cases m <;> decide

/-- The table is the one of the calendar; a leap year has one day more before every month from
March on. -/
lemma daysBeforeMonth_eq (leap : Prop) [Decidable leap] {m : ℕ} (hm : m ≤ 12) :
    daysBeforeMonth leap m = spm m + if leap ∧ m > 1 then 1 else 0 := by
  by_cases h : leap
  all_goals
    interval_cases m <;> simp [daysBeforeMonth, monthDays, spm, h]

/-! ### `gmtime_r` -/

/-- The year loop finds the year a day lies in, whatever fuel it has beyond the days. -/
lemma yearLoop_spec (fuel n : ℕ) (work : ℤ) (h0 : 0 ≤ work) (hfuel : work < fuel) :
    ∃ (m : ℕ) (r : ℤ), n ≤ m ∧ yearLoop fuel (1970 + n) work = ((1970 + m : ℤ), r) ∧ 0 ≤ r ∧
      r < yearDays (1970 + m) ∧ daysBeforeYear m + r = daysBeforeYear n + work := by
  induction fuel generalizing n work with
  | zero => omega
  | succ fuel ih =>
    rw [yearLoop, yearDays_eq]
    have hk := yearDays_bounds (1970 + n)
    by_cases hw : work ≥ yearDays (1970 + n)
    · obtain ⟨m, r, hm, hloop, hr0, hr, hsum⟩ :=
        ih (n + 1) (work - yearDays (1970 + n)) (by omega) (by push_cast at hfuel; omega)
      refine ⟨m, r, by omega, ?_, hr0, hr, ?_⟩
      · rw [if_pos hw, ← hloop]
        push_cast
        rw [add_assoc]
      · rw [hsum, daysBeforeYear]
        ring
    · exact ⟨n, work, le_refl n, by rw [if_neg hw], h0, by omega, rfl⟩

/-- The month loop finds the month a day of the year lies in. -/
lemma monthLoop_spec (work : ℤ) (h0 : 0 ≤ work) (i : ℕ) (hi : i ≤ 11) (hw : work < spm (i + 1)) :
    monthLoop work i ≤ i ∧ spm (monthLoop work i) ≤ work ∧ work < spm (monthLoop work i + 1) := by
  induction i with
  | zero => exact ⟨le_refl 0, h0, hw⟩
  | succ i ih =>
    rw [monthLoop]
    by_cases h : spm (i + 1) > work
    · rw [if_pos h]
      obtain ⟨hle, hrest⟩ := ih (by omega) h
      exact ⟨by omega, hrest⟩
    · rw [if_neg h]
      exact ⟨le_refl _, by push_cast; omega, by push_cast at hw ⊢; exact hw⟩

/-- The day that `gmtime_r` works out from the table, with the correction for leap years. -/
lemma monthDay_spec (y : ℤ) {yday : ℤ} (h0 : 0 ≤ yday) (hlt : yday < yearDays y) :
    (monthDay (isleap y) yday).1 < 12 ∧ 1 ≤ (monthDay (isleap y) yday).2 ∧
      (monthDay (isleap y) yday).2 ≤ monthDays (IsLeap y) (monthDay (isleap y) yday).1 ∧
      daysBeforeMonth (IsLeap y) (monthDay (isleap y) yday).1 +
        (monthDay (isleap y) yday).2 - 1 = yday := by
  set work := if isleap y ∧ yday > 58 then yday - 1 else yday with hwork
  have hwork0 : 0 ≤ work := by
    rw [hwork]
    split <;> omega
  have hwork1 : work < spm (11 + 1) := by
    have hspm : spm (11 + 1) = 365 := rfl
    rw [hspm, hwork]
    unfold yearDays at hlt
    by_cases hl : IsLeap y
    · rw [if_pos hl] at hlt
      simp only [(isleap_iff y).2 hl, true_and]
      split <;> omega
    · rw [if_neg hl] at hlt
      split <;> omega
  obtain ⟨hm, hlo, hhi⟩ := monthLoop_spec work hwork0 11 (le_refl _) hwork1
  have hmd : monthDay (isleap y) yday = (monthLoop work 11,
      (if isleap y ∧ yday = 59 then 2 else 1) + (work - spm (monthLoop work 11))) := rfl
  rw [hmd]
  generalize monthLoop work 11 = m at hm hlo hhi
  refine ⟨by omega, by split <;> omega, ?_, ?_⟩
  all_goals
    by_cases hl : IsLeap y
    · simp only [(isleap_iff y).2 hl, true_and] at hwork ⊢
      interval_cases m <;> simp [spm, monthDays, daysBeforeMonth, hl] at hlo hhi ⊢ <;> split at hwork <;> split <;> omega
    · have hl' : isleap y = false := Bool.eq_false_iff.2 (mt (isleap_iff y).1 hl)
      simp only [hl', Bool.false_eq_true, false_and, if_false] at hwork ⊢
      interval_cases m <;> simp [spm, monthDays, daysBeforeMonth, hl] at hlo hhi ⊢ <;> omega

/-- The days since 1970, as the `int` that `gmtime_r` works with. -/
def gmtimeDays (timep : ℤ) : ℤ := toInt32 (timep.tdiv 86400)

/-- **The date of `gmtime_r`** and its day of the year, for a time whose day is not negative. -/
theorem gmtimeR_date_yday {t : ℤ} (h : 0 ≤ gmtimeDays t) :
    ∃ n mon : ℕ, (gmtimeR t).tmYear = n + 70 ∧ (gmtimeR t).tmMon = mon ∧
      ValidDate n mon (gmtimeR t).tmMday ∧
      dayNumber n mon (gmtimeR t).tmMday = gmtimeDays t ∧
      (gmtimeR t).tmYday = daysBeforeMonth (IsLeap (1970 + n)) mon + (gmtimeR t).tmMday - 1 ∧
      (gmtimeR t).tmIsdst = 0 := by
  obtain ⟨n, r, -, hloop, hr0, hr, hsum⟩ :=
    yearLoop_spec ((gmtimeDays t).toNat + 1) 0 (gmtimeDays t) h (by omega)
  rw [Nat.cast_zero, add_zero] at hloop
  have hloop' : yearLoop ((toInt32 (t.tdiv 86400)).toNat + 1) 1970 (toInt32 (t.tdiv 86400)) =
      ((1970 + n : ℤ), r) := hloop
  obtain ⟨hmon, hlo, hhi, hday⟩ := monthDay_spec (1970 + n) hr0 hr
  refine ⟨n, (monthDay (isleap (1970 + n)) r).1, ?_, ?_, ?_, ?_, ?_, ?_⟩
  · simp only [gmtimeR, hloop']
    ring
  · simp only [gmtimeR, hloop']
  · simp only [gmtimeR, hloop']
    exact ⟨hmon, hlo, hhi⟩
  · simp only [gmtimeR, hloop', dayNumber]
    rw [daysBeforeYear, zero_add] at hsum
    omega
  · simp only [gmtimeR, hloop']
    exact hday.symm
  · simp only [gmtimeR, hloop']

theorem gmtimeR_date {t : ℤ} (h : 0 ≤ gmtimeDays t) :
    ∃ n mon : ℕ, (gmtimeR t).tmYear = n + 70 ∧ (gmtimeR t).tmMon = mon ∧
      ValidDate n mon (gmtimeR t).tmMday ∧
      dayNumber n mon (gmtimeR t).tmMday = gmtimeDays t := by
  obtain ⟨n, mon, hyear, hmon, hvalid, hday, -⟩ := gmtimeR_date_yday h
  exact ⟨n, mon, hyear, hmon, hvalid, hday⟩

/-- Before 1970, in the days of the `int`, the year is the first one. -/
lemma gmtimeR_year_of_neg {t : ℤ} (h : gmtimeDays t < 0) : (gmtimeR t).tmYear = 70 := by
  have hloop : yearLoop ((toInt32 (t.tdiv 86400)).toNat + 1) 1970 (toInt32 (t.tdiv 86400)) =
      (1970, toInt32 (t.tdiv 86400)) := by
    have hk := yearDays_bounds 1970
    rw [yearLoop, yearDays_eq, if_neg]
    change ¬gmtimeDays t ≥ _
    omega
  simp only [gmtimeR, hloop]
  norm_num

/-- **The time of day of `gmtime_r`.** -/
theorem gmtimeR_time {t : ℤ} (h : 0 ≤ t) :
    (0 ≤ (gmtimeR t).tmSec ∧ (gmtimeR t).tmSec < 60) ∧
    (0 ≤ (gmtimeR t).tmMin ∧ (gmtimeR t).tmMin < 60) ∧
    (0 ≤ (gmtimeR t).tmHour ∧ (gmtimeR t).tmHour < 24) ∧
    ((t / 86400 * 24 + (gmtimeR t).tmHour) * 60 + (gmtimeR t).tmMin) * 60 + (gmtimeR t).tmSec = t := by
  have hsec : (gmtimeR t).tmSec = (t.tmod 86400).tmod 60 := rfl
  have hmin : (gmtimeR t).tmMin = ((t.tmod 86400).tdiv 60).tmod 60 := rfl
  have hhour : (gmtimeR t).tmHour = ((t.tmod 86400).tdiv 60).tdiv 60 := rfl
  have h0 : 0 ≤ t % 86400 := by omega
  have h1 : 0 ≤ t % 86400 / 60 := by omega
  rw [Int.tmod_eq_emod_of_nonneg h] at hsec hmin hhour
  rw [Int.tmod_eq_emod_of_nonneg h0] at hsec
  rw [Int.tdiv_eq_ediv_of_nonneg h0, Int.tmod_eq_emod_of_nonneg h1] at hmin
  rw [Int.tdiv_eq_ediv_of_nonneg h0, Int.tdiv_eq_ediv_of_nonneg h1] at hhour
  rw [hsec, hmin, hhour]
  refine ⟨⟨?_, ?_⟩, ⟨?_, ?_⟩, ⟨?_, ?_⟩, ?_⟩ <;> omega

lemma gmtimeR_tmWday (t : ℤ) : (gmtimeR t).tmWday = (toInt32 (4 + gmtimeDays t)).tmod 7 := rfl

/-- **The weekday of `gmtime_r`**; 1 January 1970 was a Thursday. -/
lemma gmtimeR_wday {t : ℤ} (h0 : 0 ≤ gmtimeDays t) (h1 : gmtimeDays t < 2147483644) :
    (gmtimeR t).tmWday = (4 + gmtimeDays t) % 7 := by
  rw [gmtimeR_tmWday, toInt32_of_range (by omega) (by omega), Int.tmod_eq_emod_of_nonneg (by omega)]

/-! ### `timegm` -/

/-- The leap years `timegm` counts are those of the calendar. -/
theorem yearsToDays_eq (n : ℕ) : yearsToDays n = daysBeforeYear n := by
  rw [daysBeforeYear_eq]
  unfold yearsToDays
  rw [Int.tdiv_eq_ediv_of_nonneg (by omega)]
  by_cases h : (n : ℤ) ≥ 131
  · simp only [if_pos h]
    rw [Int.tdiv_eq_ediv_of_nonneg (by omega)]
    split <;> omega
  · simp only [if_neg h]
    omega

/-- The fields of a date and a time of day are left alone. -/
lemma carry_eq {t : Tm} (hsec : t.tmSec ≤ 60) (hmin : t.tmMin < 60) (hhour : t.tmHour < 24)
    (hmon : t.tmMon < 12) : carry t = t := by
  have h1 : carrySec t = t := if_neg (by omega)
  have h2 : carryMin t = t := if_neg (by omega)
  have h3 : carryHour t = t := if_neg (by omega)
  have h4 : carryMon t = t := if_neg (by omega)
  rw [carry, h1, h2, h3, h4]

/-- The loop compares with the days before the next month, so no day of a month enters it. -/
lemma mdayLoop_eq {t : Tm} (fuel : ℕ) (hmday : t.tmMday ≤ 31) (h0 : 0 ≤ t.tmMon)
    (h1 : t.tmMon < 12) : mdayLoop fuel t = t := by
  have hspm : 31 ≤ spm (1 + t.tmMon) := by
    generalize t.tmMon = m at h0 h1
    interval_cases m <;> decide
  cases fuel with
  | zero => rfl
  | succ fuel => rw [mdayLoop, if_neg (by omega)]

/-- **The time of `timegm`**, for the fields of a date and a time of day; the day may be one that
the month does not have. -/
theorem timegm_eq {t : Tm} {n mon : ℕ} (hyear : t.tmYear = n + 70) (hn : n < 1000000000)
    (hmon : t.tmMon = mon) (hmon12 : mon < 12) (hone : 1 ≤ t.tmMday) (hmday : t.tmMday ≤ 31)
    (hsec : t.tmSec < 60) (hmin : t.tmMin < 60) (hhour : t.tmHour < 24) :
    (timegm t).1 =
      ((dayNumber n mon t.tmMday * 24 + t.tmHour) * 60 + t.tmMin) * 60 + t.tmSec := by
  have hleap : isleap (toInt32 (t.tmYear + 1900)) = true ↔ IsLeap (1970 + n) := by
    rw [toInt32_of_range (by omega) (by omega), isleap_iff, hyear, add_assoc, add_comm]
    norm_num
  have hyday : toInt32 (spm t.tmMon + t.tmMday - 1 +
      if isleap (toInt32 (t.tmYear + 1900)) = true ∧ t.tmMon > 1 then 1 else 0) =
      daysBeforeMonth (IsLeap (1970 + n)) mon + t.tmMday - 1 := by
    obtain ⟨hlo, hhi⟩ := spm_bounds hmon12
    have hcond : (isleap (toInt32 (t.tmYear + 1900)) = true ∧ t.tmMon > 1) ↔
        (IsLeap (1970 + n) ∧ mon > 1) := by
      rw [hleap, hmon]
      exact and_congr_right fun _ => by omega
    rw [daysBeforeMonth_eq _ (by omega), if_congr hcond rfl rfl, hmon]
    split
    · rw [toInt32_of_range (by omega) (by omega)]
      ring
    · rw [toInt32_of_range (by omega) (by omega)]
      ring
  rw [timegm, carry_eq (by omega) hmin hhour (by omega)]
  simp only
  rw [mdayLoop_eq _ hmday (by omega) (by omega), if_neg (by omega)]
  simp only
  rw [hyday, show t.tmYear - 70 = n by omega, yearsToDays_eq, dayNumber]
  ring

/-! ### Fields out of range -/

/-- Fields that are not negative and far from the limits of `int`, with a month of the year. -/
structure Tm.Small (t : Tm) : Prop where
  sec : 0 ≤ t.tmSec ∧ t.tmSec ≤ 1000
  min : 0 ≤ t.tmMin ∧ t.tmMin ≤ 1000
  hour : 0 ≤ t.tmHour ∧ t.tmHour ≤ 1000
  mday : 1 ≤ t.tmMday ∧ t.tmMday ≤ 1000
  mon : 0 ≤ t.tmMon ∧ t.tmMon < 12
  year : 70 ≤ t.tmYear ∧ t.tmYear ≤ 1000

lemma carrySec_bounds {t : Tm} (hsec : 0 ≤ t.tmSec ∧ t.tmSec ≤ 1000)
    (hmin : 0 ≤ t.tmMin ∧ t.tmMin ≤ 1000) :
    0 ≤ (carrySec t).tmSec ∧ (0 ≤ (carrySec t).tmMin ∧ (carrySec t).tmMin ≤ 2000) := by
  unfold carrySec
  split
  · rw [Int.tdiv_eq_ediv_of_nonneg hsec.1, Int.tmod_eq_emod_of_nonneg hsec.1,
      toInt32_of_range (by omega) (by omega)]
    exact ⟨by simp only; omega, by simp only; omega⟩
  · exact ⟨by omega, by omega⟩

lemma carryMin_bounds {t : Tm} (hmin : 0 ≤ t.tmMin ∧ t.tmMin ≤ 2000)
    (hhour : 0 ≤ t.tmHour ∧ t.tmHour ≤ 1000) :
    0 ≤ (carryMin t).tmMin ∧ (0 ≤ (carryMin t).tmHour ∧ (carryMin t).tmHour ≤ 2000) := by
  unfold carryMin
  split
  · rw [Int.tdiv_eq_ediv_of_nonneg hmin.1, Int.tmod_eq_emod_of_nonneg hmin.1,
      toInt32_of_range (by omega) (by omega)]
    exact ⟨by simp only; omega, by simp only; omega⟩
  · exact ⟨by omega, by omega⟩

lemma carryHour_bounds {t : Tm} (hhour : 0 ≤ t.tmHour ∧ t.tmHour ≤ 2000)
    (hmday : 1 ≤ t.tmMday ∧ t.tmMday ≤ 1000) :
    0 ≤ (carryHour t).tmHour ∧ (1 ≤ (carryHour t).tmMday ∧ (carryHour t).tmMday ≤ 2000) := by
  unfold carryHour
  split
  · rw [Int.tdiv_eq_ediv_of_nonneg hhour.1, Int.tmod_eq_emod_of_nonneg hhour.1,
      toInt32_of_range (by omega) (by omega)]
    exact ⟨by simp only; omega, by simp only; omega⟩
  · exact ⟨by omega, by omega⟩

/-- A carry touches the two fields it is about. -/
lemma carry_frame (t : Tm) :
    (∃ sec min, carrySec t = { t with tmSec := sec, tmMin := min }) ∧
    (∃ min hour, carryMin t = { t with tmMin := min, tmHour := hour }) ∧
    ∃ hour mday, carryHour t = { t with tmHour := hour, tmMday := mday } := by
  unfold carrySec carryMin carryHour
  refine ⟨?_, ?_, ?_⟩
  all_goals
    split
    · exact ⟨_, _, rfl⟩
    · exact ⟨_, _, rfl⟩

lemma carry_bounds {t : Tm} (h : t.Small) :
    0 ≤ (carry t).tmSec ∧ 0 ≤ (carry t).tmMin ∧ 0 ≤ (carry t).tmHour ∧
      (1 ≤ (carry t).tmMday ∧ (carry t).tmMday ≤ 2000) ∧ (carry t).tmMon = t.tmMon ∧
      (carry t).tmYear = t.tmYear := by
  obtain ⟨hsec, hmin⟩ := carrySec_bounds h.sec h.min
  obtain ⟨s1, m1, e1⟩ := (carry_frame t).1
  rw [e1] at hsec hmin
  obtain ⟨hmin', hhour⟩ := carryMin_bounds hmin h.hour
  obtain ⟨m2, h2, e2⟩ := (carry_frame { t with tmSec := s1, tmMin := m1 }).2.1
  rw [e2] at hmin' hhour
  obtain ⟨hhour', hmday⟩ := carryHour_bounds hhour h.mday
  obtain ⟨h3, d3, e3⟩ := (carry_frame { t with tmSec := s1, tmMin := m2, tmHour := h2 }).2.2
  rw [e3] at hhour' hmday
  have hmon : carryMon { t with tmSec := s1, tmMin := m2, tmHour := h3, tmMday := d3 } =
      { t with tmSec := s1, tmMin := m2, tmHour := h3, tmMday := d3 } :=
    if_neg (not_le.2 h.mon.2)
  rw [carry, e1, e2, e3, hmon]
  exact ⟨hsec, hmin', hhour', hmday, rfl, rfl⟩

lemma spm_step {m : ℤ} (h0 : 0 ≤ m) (h1 : m < 12) : 0 ≤ spm m ∧ spm m + 28 ≤ spm (1 + m) := by
  interval_cases m <;> decide

lemma mdayTurn_mday (t : Tm) : (mdayTurn t).tmMday =
    (if t.tmMon = 1 ∧ isleap (toInt32 (t.tmYear + 1900)) then t.tmMday - 1 else t.tmMday) -
      spm t.tmMon := by
  rw [mdayTurn, apply_ite Tm.tmMday, ite_self]

lemma mdayTurn_mon (t : Tm) :
    (mdayTurn t).tmMon = if t.tmMon + 1 > 11 then 0 else t.tmMon + 1 := by
  rw [mdayTurn, apply_ite Tm.tmMon]

lemma mdayTurn_year (t : Tm) :
    (mdayTurn t).tmYear = if t.tmMon + 1 > 11 then toInt32 (t.tmYear + 1) else t.tmYear := by
  rw [mdayTurn, apply_ite Tm.tmYear]

lemma mdayTurn_bounds {t : Tm} (hmon : 0 ≤ t.tmMon ∧ t.tmMon < 12)
    (hyear : 70 ≤ t.tmYear ∧ t.tmYear + 1 < 2147483648) (hloop : t.tmMday > spm (1 + t.tmMon)) :
    (1 ≤ (mdayTurn t).tmMday ∧ (mdayTurn t).tmMday ≤ t.tmMday) ∧
      (0 ≤ (mdayTurn t).tmMon ∧ (mdayTurn t).tmMon < 12) ∧
      (70 ≤ (mdayTurn t).tmYear ∧ (mdayTurn t).tmYear ≤ t.tmYear + 1) ∧
      (mdayTurn t).tmHour = t.tmHour ∧ (mdayTurn t).tmMin = t.tmMin ∧
      (mdayTurn t).tmSec = t.tmSec := by
  obtain ⟨hs0, hs1⟩ := spm_step hmon.1 hmon.2
  have hnext : toInt32 (t.tmYear + 1) = t.tmYear + 1 := toInt32_of_range (by omega) (by omega)
  rw [mdayTurn_mday, mdayTurn_mon, mdayTurn_year, hnext]
  refine ⟨by split <;> omega, by split <;> omega, by split <;> omega, ?_⟩
  rw [mdayTurn, apply_ite Tm.tmHour, apply_ite Tm.tmMin, apply_ite Tm.tmSec]
  simp only [ite_self, and_self]

/-- The loop over the day of the month leaves a day and a month. -/
lemma mdayLoop_bounds (fuel : ℕ) {t : Tm} (hmday : 1 ≤ t.tmMday) (hmon : 0 ≤ t.tmMon ∧ t.tmMon < 12)
    (hyear : 70 ≤ t.tmYear ∧ t.tmYear + fuel < 2147483648) :
    (1 ≤ (mdayLoop fuel t).tmMday ∧ (mdayLoop fuel t).tmMday ≤ t.tmMday) ∧
      (0 ≤ (mdayLoop fuel t).tmMon ∧ (mdayLoop fuel t).tmMon < 12) ∧
      70 ≤ (mdayLoop fuel t).tmYear ∧ (mdayLoop fuel t).tmHour = t.tmHour ∧
      (mdayLoop fuel t).tmMin = t.tmMin ∧ (mdayLoop fuel t).tmSec = t.tmSec := by
  induction fuel generalizing t with
  | zero => exact ⟨⟨hmday, le_refl _⟩, hmon, hyear.1, rfl, rfl, rfl⟩
  | succ fuel ih =>
    rw [mdayLoop]
    by_cases hloop : t.tmMday > spm (1 + t.tmMon)
    · rw [if_pos hloop]
      obtain ⟨hd, hm, hy, hh, hmi, hs⟩ := mdayTurn_bounds hmon ⟨hyear.1, by omega⟩ hloop
      obtain ⟨hd', hm', hy', hh', hmi', hs'⟩ := ih hd.1 hm ⟨hy.1, by omega⟩
      exact ⟨⟨hd'.1, hd'.2.trans hd.2⟩, hm', hy', hh'.trans hh, hmi'.trans hmi, hs'.trans hs⟩
    · rw [if_neg hloop]
      exact ⟨⟨hmday, le_refl _⟩, hmon, hyear.1, rfl, rfl, rfl⟩

lemma yearsToDays_nonneg {years : ℤ} (h : 0 ≤ years) : 0 ≤ yearsToDays years := by
  obtain ⟨n, rfl⟩ := Int.eq_ofNat_of_zero_le h
  rw [yearsToDays_eq, daysBeforeYear_eq]
  omega

/-- A date of 1970 or later has no negative time, also if its fields are out of range. -/
theorem timegm_nonneg {t : Tm} (h : t.Small) : 0 ≤ (timegm t).1 := by
  obtain ⟨hsec, hmin, hhour, hmday, hmon, hyear⟩ := carry_bounds h
  have hy := h.year
  obtain ⟨hmday', hmon', hyear', hhour', hmin', hsec'⟩ :=
    mdayLoop_bounds ((carry t).tmMday.toNat + 2) hmday.1 (hmon ▸ h.mon) ⟨by omega, by omega⟩
  have hyears : 0 ≤ yearsToDays (t.tmYear - 70) := yearsToDays_nonneg (by omega)
  rw [timegm]
  simp only
  generalize mdayLoop ((carry t).tmMday.toNat + 2) (carry t) = t' at *
  rw [if_neg (by omega)]
  simp only
  obtain ⟨hs0, hs1⟩ := spm_step hmon'.1 hmon'.2
  have hspm : spm t'.tmMon ≤ 334 := by
    obtain ⟨m, hm⟩ := Int.eq_ofNat_of_zero_le hmon'.1
    rw [hm]
    exact (spm_bounds (by omega)).2
  rw [toInt32_of_range (by split <;> omega) (by split <;> omega), hhour', hmin', hsec']
  split <;> omega

end N32L43x.Libc
