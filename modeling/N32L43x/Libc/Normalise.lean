import N32L43x.Libc.Utc

/-!
`timegm` for fields out of range, against the instant they stand for when the excess of each field is
carried into the next.
-/

namespace N32L43x.Libc

open N32L43x.Lib.Calendar

/-! ### What is asked of `timegm` -/

/-- Fields an `int` can hold, none of them negative, of 1970 or later. -/
structure Tm.NonNegative (t : Tm) : Prop where
  sec : 0 ≤ t.tmSec ∧ t.tmSec < 2147483648
  min : 0 ≤ t.tmMin ∧ t.tmMin < 2147483648
  hour : 0 ≤ t.tmHour ∧ t.tmHour < 2147483648
  mday : 1 ≤ t.tmMday ∧ t.tmMday < 2147483648
  mon : 0 ≤ t.tmMon ∧ t.tmMon < 2147483648
  year : 70 ≤ t.tmYear ∧ t.tmYear < 2147483648

/-- The year since 1970 and the month, when the months are carried into the years. -/
def carriedYear (t : Tm) : ℕ := (t.tmYear - 70 + t.tmMon / 12).toNat

def carriedMon (t : Tm) : ℕ := (t.tmMon % 12).toNat

/-- The seconds from 1970 to the instant the fields stand for. -/
def instant (t : Tm) : ℤ :=
  ((dayNumber (carriedYear t) (carriedMon t) t.tmMday * 24 + t.tmHour) * 60 + t.tmMin) * 60 + t.tmSec

/-- The time is that of the instant, and what is stored back is what `gmtime_r` gives for it. -/
def Normalises (t : Tm) : Prop :=
  (timegm t).1 = instant t ∧ { (timegm t).2 with tmIsdst := 0 } = gmtimeR (timegm t).1

instance (t : Tm) : Decidable (Normalises t) := inferInstanceAs (Decidable (_ ∧ _))

/-- The hour and the day of the month when the excess of the time of day is carried. -/
def carriedHour (t : Tm) : ℤ := t.tmHour + (t.tmMin + t.tmSec / 60) / 60

def carriedDay (t : Tm) : ℤ := t.tmMday + carriedHour t / 24

/-- No leap second, a month of the year, and a day that is still one of the month when the time of day is
carried into it; the days since 1970 fit an `int`. -/
structure Tm.Ordinary (t : Tm) : Prop where
  sec : t.tmSec ≠ 60
  mon : t.tmMon < 12
  mday : carriedDay t ≤ monthDays (IsLeap (t.tmYear + 1900)) t.tmMon.toNat
  days : dayNumber (t.tmYear - 70).toNat t.tmMon.toNat (carriedDay t) + 4 < 2147483648

variable {t : Tm}

/-! ### The carries -/

lemma toInt32_le (x : ℤ) : -2147483648 ≤ toInt32 x ∧ toInt32 x < 2147483648 := by
  unfold toInt32
  omega

lemma carrySec_eq (hsec : 0 ≤ t.tmSec) (hne : t.tmSec ≠ 60)
    (hmin : 0 ≤ t.tmMin ∧ t.tmMin < 2147483648) :
    carrySec t = { t with tmMin := toInt32 (t.tmMin + t.tmSec / 60), tmSec := t.tmSec % 60 } := by
  unfold carrySec
  split
  · rw [Int.tdiv_eq_ediv_of_nonneg hsec, Int.tmod_eq_emod_of_nonneg hsec]
  · have hdiv : t.tmMin + t.tmSec / 60 = t.tmMin := by omega
    have hmod : t.tmSec % 60 = t.tmSec := by omega
    rw [hdiv, hmod, toInt32_of_range (by omega) hmin.2]

lemma carryMin_eq (hmin : 0 ≤ t.tmMin) (hhour : 0 ≤ t.tmHour ∧ t.tmHour < 2147483648) :
    carryMin t = { t with tmHour := toInt32 (t.tmHour + t.tmMin / 60), tmMin := t.tmMin % 60 } := by
  unfold carryMin
  split
  · rw [Int.tdiv_eq_ediv_of_nonneg hmin, Int.tmod_eq_emod_of_nonneg hmin]
  · have hdiv : t.tmHour + t.tmMin / 60 = t.tmHour := by omega
    have hmod : t.tmMin % 60 = t.tmMin := by omega
    rw [hdiv, hmod, toInt32_of_range (by omega) hhour.2]

lemma carryHour_eq (hhour : 0 ≤ t.tmHour) (hmday : 0 ≤ t.tmMday ∧ t.tmMday < 2147483648) :
    carryHour t = { t with tmMday := toInt32 (t.tmMday + t.tmHour / 24), tmHour := t.tmHour % 24 } := by
  unfold carryHour
  split
  · rw [Int.tdiv_eq_ediv_of_nonneg hhour, Int.tmod_eq_emod_of_nonneg hhour]
  · have hdiv : t.tmMday + t.tmHour / 24 = t.tmMday := by omega
    have hmod : t.tmHour % 24 = t.tmHour := by omega
    rw [hdiv, hmod, toInt32_of_range (by omega) hmday.2]

lemma carryMon_eq (hmon : 0 ≤ t.tmMon) (hyear : 0 ≤ t.tmYear ∧ t.tmYear < 2147483648) :
    carryMon t = { t with tmYear := toInt32 (t.tmYear + t.tmMon / 12), tmMon := t.tmMon % 12 } := by
  unfold carryMon
  split
  · rw [Int.tdiv_eq_ediv_of_nonneg hmon, Int.tmod_eq_emod_of_nonneg hmon]
  · have hdiv : t.tmYear + t.tmMon / 12 = t.tmYear := by omega
    have hmod : t.tmMon % 12 = t.tmMon := by omega
    rw [hdiv, hmod, toInt32_of_range (by omega) hyear.2]

/-- A leap second stays. -/
lemma carry_sec_of_sixty (h : t.tmSec = 60) : (carry t).tmSec = 60 := by
  have hfirst : carrySec t = t := if_neg (by omega)
  have hmin : (carryMin t).tmSec = t.tmSec := by
    unfold carryMin
    split <;> rfl
  have hhour : ∀ u : Tm, (carryHour u).tmSec = u.tmSec := by
    intro u
    unfold carryHour
    split <;> rfl
  have hmon : ∀ u : Tm, (carryMon u).tmSec = u.tmSec := by
    intro u
    unfold carryMon
    split <;> rfl
  rw [carry, hfirst, hmon, hhour, hmin, h]

/-- **The carries**, if no `int` overflows on the way to the hours and days. -/
lemma carry_eq_of_lt (h : t.NonNegative) (hsec : t.tmSec ≠ 60)
    (hmin : t.tmMin + t.tmSec / 60 < 2147483648) (hhour : carriedHour t < 2147483648) :
    carry t = { t with
      tmSec := t.tmSec % 60
      tmMin := (t.tmMin + t.tmSec / 60) % 60
      tmHour := carriedHour t % 24
      tmMday := toInt32 (carriedDay t)
      tmMon := t.tmMon % 12
      tmYear := toInt32 (t.tmYear + t.tmMon / 12) } := by
  obtain ⟨hs, hm, hh, hd, ho, hy⟩ := h
  have hmin0 : 0 ≤ t.tmMin + t.tmSec / 60 := by omega
  have hhour0 : 0 ≤ carriedHour t := by
    unfold carriedHour
    omega
  have h1 := carrySec_eq hs.1 hsec hm
  rw [toInt32_of_range (by omega) hmin] at h1
  have h2 : carryMin (carrySec t) = { t with
      tmSec := t.tmSec % 60
      tmMin := (t.tmMin + t.tmSec / 60) % 60
      tmHour := toInt32 (carriedHour t) } := by
    rw [h1]
    exact carryMin_eq hmin0 hh
  rw [toInt32_of_range (by omega) hhour] at h2
  have h3 : carryHour (carryMin (carrySec t)) = { t with
      tmSec := t.tmSec % 60
      tmMin := (t.tmMin + t.tmSec / 60) % 60
      tmHour := carriedHour t % 24
      tmMday := toInt32 (carriedDay t) } := by
    rw [h2]
    exact carryHour_eq hhour0 ⟨by simp only; omega, hd.2⟩
  rw [carry, h3]
  exact carryMon_eq ho.1 ⟨by simp only; omega, hy.2⟩

lemma carryHour_min (t : Tm) : (carryHour t).tmMin = t.tmMin := by
  unfold carryHour
  split <;> rfl

lemma carryMon_time (t : Tm) : (carryMon t).tmMin = t.tmMin ∧ (carryMon t).tmHour = t.tmHour := by
  unfold carryMon
  split <;> exact ⟨rfl, rfl⟩

/-- Where one does, the minutes or the hours stay negative. -/
lemma carry_lt_of_nonneg (h : t.NonNegative) (hsec : t.tmSec ≠ 60) (hmin : 0 ≤ (carry t).tmMin)
    (hhour : 0 ≤ (carry t).tmHour) :
    t.tmMin + t.tmSec / 60 < 2147483648 ∧ carriedHour t < 2147483648 := by
  obtain ⟨hs, hm, hh, -, -, -⟩ := h
  have h1 := carrySec_eq hs.1 hsec hm
  have hmin' : t.tmMin + t.tmSec / 60 < 2147483648 := by
    by_contra hlarge
    have hneg : toInt32 (t.tmMin + t.tmSec / 60) < 0 := by
      unfold toInt32
      omega
    have h2 : carryMin (carrySec t) = carrySec t := by
      rw [h1]
      exact if_neg (by simp only; omega)
    rw [carry, (carryMon_time _).1, carryHour_min, h2, h1] at hmin
    simp only at hmin
    omega
  refine ⟨hmin', ?_⟩
  by_contra hlarge
  have hneg : toInt32 (carriedHour t) < 0 := by
    unfold toInt32 carriedHour at *
    omega
  rw [toInt32_of_range (by omega) hmin'] at h1
  have h2 : carryMin (carrySec t) = { t with
      tmSec := t.tmSec % 60
      tmMin := (t.tmMin + t.tmSec / 60) % 60
      tmHour := toInt32 (carriedHour t) } := by
    rw [h1]
    exact carryMin_eq (by simp only; omega) hh
  have h3 : carryHour (carryMin (carrySec t)) = carryMin (carrySec t) := by
    rw [h2]
    exact if_neg (by simp only; omega)
  rw [carry, (carryMon_time _).2, h3, h2] at hhour
  simp only at hhour
  omega

/-! ### The loop over the day of the month -/

/-- What the loop has taken off the day of the month when it comes to a month in the year it started in. -/
def spmSum : ℕ → ℤ
  | 0 => 0
  | m + 1 => spmSum m + spm m

/-- A day for 29 February, from March on. -/
def leapDay (t : Tm) : ℤ := if isleap (toInt32 (t.tmYear + 1900)) ∧ t.tmMon > 1 then 1 else 0

lemma mdayTurn_time (t : Tm) : (mdayTurn t).tmHour = t.tmHour ∧ (mdayTurn t).tmMin = t.tmMin ∧
    (mdayTurn t).tmSec = t.tmSec := by
  rw [mdayTurn, apply_ite Tm.tmHour, apply_ite Tm.tmMin, apply_ite Tm.tmSec]
  simp only [ite_self, and_self]

/-- The loop leaves the time of day alone. -/
lemma mdayLoop_time (fuel : ℕ) (t : Tm) : (mdayLoop fuel t).tmHour = t.tmHour ∧
    (mdayLoop fuel t).tmMin = t.tmMin ∧ (mdayLoop fuel t).tmSec = t.tmSec := by
  induction fuel generalizing t with
  | zero => exact ⟨rfl, rfl, rfl⟩
  | succ fuel ih =>
    rw [mdayLoop]
    split
    · obtain ⟨h1, h2, h3⟩ := ih (mdayTurn t)
      obtain ⟨k1, k2, k3⟩ := mdayTurn_time t
      exact ⟨h1.trans k1, h2.trans k2, h3.trans k3⟩
    · exact ⟨rfl, rfl, rfl⟩

/-- What the loop makes of a date: `j` times it passes the end of a year. -/
structure Looped (t t' : Tm) (j : ℤ) : Prop where
  mon : 0 ≤ t'.tmMon ∧ t'.tmMon < 12
  passed : 0 ≤ j
  year : t'.tmYear = toInt32 (t.tmYear + j)
  mday : 334 * j + t'.tmMday ≤ t.tmMday
  entered : t' = t ∨ 27 ≤ t'.tmMday ∧ (t'.tmMon = 3 → 31 < t'.tmMday)
  same : j = 0 → t.tmMon ≤ t'.tmMon ∧ t'.tmMday + spmSum t'.tmMon.toNat + leapDay t' =
    t.tmMday + spmSum t.tmMon.toNat + leapDay t

lemma Looped.refl (hmon : 0 ≤ t.tmMon ∧ t.tmMon < 12) (hyear : toInt32 t.tmYear = t.tmYear) :
    Looped t t 0 where
  mon := hmon
  passed := le_refl 0
  year := by rw [add_zero, hyear]
  mday := by omega
  entered := .inl rfl
  same := fun _ => ⟨le_refl _, rfl⟩

lemma Looped.trans {u t' : Tm} {i j : ℤ} (h : Looped t u i) (h' : Looped u t' j) :
    Looped t t' (i + j) where
  mon := h'.mon
  passed := add_nonneg h.passed h'.passed
  year := by
    rw [h'.year, h.year]
    unfold toInt32
    omega
  mday := by
    have h1 := h.mday
    have h2 := h'.mday
    omega
  entered := by
    rcases h'.entered with rfl | hlate
    · exact h.entered
    · exact .inr hlate
  same := by
    intro hzero
    have h0 := h.passed
    have h0' := h'.passed
    obtain ⟨hle, hday⟩ := h.same (by omega)
    obtain ⟨hle', hday'⟩ := h'.same (by omega)
    exact ⟨hle.trans hle', hday'.trans hday⟩

/-- One turn. -/
lemma looped_mdayTurn (hmon : 0 ≤ t.tmMon ∧ t.tmMon < 12) (hyear : toInt32 t.tmYear = t.tmYear)
    (hloop : t.tmMday > spm (1 + t.tmMon)) :
    Looped t (mdayTurn t) (if t.tmMon = 11 then 1 else 0) := by
  have hmday := mdayTurn_mday t
  have hmon' := mdayTurn_mon t
  have hyear' := mdayTurn_year t
  obtain ⟨hs0, hs1⟩ := spm_step hmon.1 hmon.2
  by_cases hdec : t.tmMon = 11
  · -- the year ends
    have h11 : spm 11 = 334 := rfl
    have h12 : spm (1 + 11) = 365 := rfl
    rw [hdec] at hmday hmon' hyear' hloop
    rw [if_neg fun h => absurd h.1 (by decide), h11] at hmday
    rw [if_pos (by decide)] at hmon' hyear'
    rw [h12] at hloop
    rw [if_pos hdec]
    refine ⟨by omega, Int.one_nonneg, hyear', by omega, .inr ⟨by omega, by omega⟩, fun h => ?_⟩
    exact absurd h one_ne_zero
  · have hnext : ¬ t.tmMon + 1 > 11 := by omega
    rw [if_neg hnext] at hmon' hyear'
    rw [if_neg hdec]
    have hleap : leapDay (mdayTurn t) =
        leapDay t + if t.tmMon = 1 ∧ isleap (toInt32 (t.tmYear + 1900)) then 1 else 0 := by
      unfold leapDay
      rw [hyear', hmon']
      by_cases hl : isleap (toInt32 (t.tmYear + 1900)) = true
      · simp only [hl, true_and, and_true]
        split_ifs <;> omega
      · simp only [hl, false_and, and_false, if_false, Bool.false_eq_true]
        rfl
    have hsum : spmSum (t.tmMon + 1).toNat = spmSum t.tmMon.toNat + spm t.tmMon := by
      obtain ⟨m, hm⟩ := Int.eq_ofNat_of_zero_le hmon.1
      rw [hm]
      exact congrArg spmSum (by omega : ((m : ℤ) + 1).toNat = m + 1)
    have hday : (mdayTurn t).tmMday = t.tmMday -
        (if t.tmMon = 1 ∧ isleap (toInt32 (t.tmYear + 1900)) then 1 else 0) - spm t.tmMon := by
      rw [hmday]
      split <;> omega
    refine ⟨by omega, le_refl 0, ?_, ?_, .inr ⟨?_, fun h3 => ?_⟩, fun _ => ⟨by omega, ?_⟩⟩
    · rw [hyear', add_zero, hyear]
    · rw [hday]
      split <;> omega
    · rw [hday]
      split <;> omega
    · -- from March to April
      have hmar : t.tmMon = 2 := by omega
      have h2 : spm 2 = 59 := rfl
      have h3' : spm (1 + 2) = 90 := rfl
      rw [hmar, h3'] at hloop
      rw [hday, hmar, h2, if_neg fun h => absurd h.1 (by decide)]
      omega
    · rw [hmon', hsum, hleap, hday]
      omega

/-- **The loop**, as far as the fuel lasts. -/
lemma looped_mdayLoop (fuel : ℕ) (hmon : 0 ≤ t.tmMon ∧ t.tmMon < 12)
    (hyear : toInt32 t.tmYear = t.tmYear) : ∃ j, Looped t (mdayLoop fuel t) j := by
  induction fuel generalizing t with
  | zero => exact ⟨0, Looped.refl hmon hyear⟩
  | succ fuel ih =>
    rw [mdayLoop]
    split
    · rename_i hloop
      have hturn := looped_mdayTurn hmon hyear hloop
      have hrange : toInt32 (mdayTurn t).tmYear = (mdayTurn t).tmYear := by
        rw [hturn.year]
        exact toInt32_of_range (toInt32_le _).1 (toInt32_le _).2
      obtain ⟨j, hrest⟩ := ih hturn.mon hrange
      exact ⟨_, hturn.trans hrest⟩
    · exact ⟨0, Looped.refl hmon hyear⟩

/-- Only from January to April the loop takes as much off as the months have days. -/
lemma spmSum_eq {m k : ℕ} (hm : m < 12) (hk : k < 12) (hle : m ≤ k)
    (h : spm m - spmSum m = spm k - spmSum k) : m = k ∨ m = 0 ∧ k = 3 := by
  have hall : ∀ m < 12, ∀ k < 12, m ≤ k ∧ spm (m : ℕ) - spmSum m = spm (k : ℕ) - spmSum k →
      (m = k ∨ m = 0 ∧ k = 3) := by
    decide
  exact hall m hm k hk ⟨hle, h⟩

/-! ### The results -/

/-- The date behind the carries and the loop. -/
def loopedDate (t : Tm) : Tm := mdayLoop ((carry t).tmMday.toNat + 2) (carry t)

/-- The day of the year `timegm` works out. -/
def storedYday (t : Tm) : ℤ :=
  toInt32 (spm (loopedDate t).tmMon + (loopedDate t).tmMday - 1 + leapDay (loopedDate t))

/-- The days since 1970 `timegm` works out, with the year as it was passed. -/
def storedDays (t : Tm) : ℤ := yearsToDays (t.tmYear - 70) + storedYday t

lemma timegm_early (h : (loopedDate t).tmYear < 70) : (timegm t).1 = -1 := by
  have htime : timegm t = (-1, loopedDate t) := if_pos h
  rw [htime]

lemma timegm_stored (h : 70 ≤ (loopedDate t).tmYear) : timegm t =
    (((storedDays t * 24 + (loopedDate t).tmHour) * 60 + (loopedDate t).tmMin) * 60 +
        (loopedDate t).tmSec,
      { loopedDate t with tmYday := storedYday t, tmWday := (storedDays t + 4).tmod 7 }) :=
  if_neg (not_lt.mpr h)

lemma monthLoop_of_neg {work : ℤ} (h : work < 0) (i : ℕ) (hi : i ≤ 11) : monthLoop work i = 0 := by
  induction i with
  | zero => rfl
  | succ i ih =>
    have hspm : 0 ≤ spm ((i : ℤ) + 1) := (spm_bounds (by omega : i + 1 < 12)).1
    rw [monthLoop, if_pos (by omega)]
    exact ih (by omega)

/-- Before 1970 `gmtime_r` finds no month. -/
lemma gmtimeR_of_neg {s : ℤ} (h : gmtimeDays s < 0) : (gmtimeR s).tmYday = gmtimeDays s ∧
    (gmtimeR s).tmMday = gmtimeDays s + 1 ∧ (gmtimeR s).tmMon = 0 := by
  have hloop : yearLoop ((toInt32 (s.tdiv 86400)).toNat + 1) 1970 (toInt32 (s.tdiv 86400)) =
      (1970, gmtimeDays s) := by
    have hk := yearDays_bounds 1970
    rw [yearLoop, yearDays_eq, if_neg]
    · rfl
    · change ¬gmtimeDays s ≥ _
      omega
  have hmonth : monthDay (isleap 1970) (gmtimeDays s) = (0, gmtimeDays s + 1) := by
    have hleap : isleap 1970 = false := by decide
    have hspm : spm ((0 : ℕ) : ℤ) = 0 := rfl
    unfold monthDay
    simp only [hleap, Bool.false_eq_true, false_and, if_false, monthLoop_of_neg h 11 (le_refl _), hspm]
    congr 1
    omega
  refine ⟨?_, ?_, ?_⟩
  all_goals
    simp only [gmtimeR, hloop, hmonth, Nat.cast_zero]

/-- The days of the instant, with the time of day carried into them. -/
def carriedDays (t : Tm) : ℤ := dayNumber (carriedYear t) (carriedMon t) (carriedDay t)

lemma instant_eq (t : Tm) : instant t = ((carriedDays t * 24 + carriedHour t % 24) * 60 +
    (t.tmMin + t.tmSec / 60) % 60) * 60 + t.tmSec % 60 := by
  unfold instant carriedDays carriedDay dayNumber carriedHour
  omega

lemma carriedMon_lt (t : Tm) : carriedMon t < 12 := by
  unfold carriedMon
  omega

lemma carriedDay_pos (h : t.NonNegative) : 1 ≤ carriedDay t := by
  have hsec := h.sec.1
  have hmin := h.min.1
  have hhour := h.hour.1
  have hmday := h.mday.1
  unfold carriedDay carriedHour
  omega

lemma carriedDays_ge (t : Tm) :
    365 * carriedYear t + carriedDay t - 1 ≤ carriedDays t := by
  have hyear := le_daysBeforeYear (carriedYear t)
  have hmon := (daysBeforeMonth_bounds (IsLeap (1970 + carriedYear t)) (carriedMon_lt t)).1
  unfold carriedDays dayNumber
  omega

lemma instant_nonneg (h : t.NonNegative) : 0 ≤ instant t := by
  have hday := carriedDay_pos h
  have hdays := carriedDays_ge t
  rw [instant_eq]
  omega

/-- The days before a year tell the year. -/
lemma daysBeforeYear_inj {m n : ℕ} (h : daysBeforeYear m = daysBeforeYear n) : m = n := by
  have hlt : ∀ {m n : ℕ}, m < n → daysBeforeYear m < daysBeforeYear n := by
    intro m n hmn
    have hmono : daysBeforeYear (m + 1) ≤ daysBeforeYear n := daysBeforeYear_mono hmn
    have hlen := yearDays_bounds (1970 + m)
    rw [daysBeforeYear] at hmono
    omega
  rcases Nat.lt_trichotomy m n with hmn | heq | hmn
  · exact absurd h (hlt hmn).ne
  · exact heq
  · exact absurd h (hlt hmn).ne'

/-- **What is stored back**, if it is what `gmtime_r` gives for the instant: the carries are exact, and the
days that are counted are those of the instant. -/
lemma Normalises.carry_eq (h : t.NonNegative) (hnorm : Normalises t) : t.tmSec ≠ 60 ∧
    carry t = { t with
      tmSec := t.tmSec % 60
      tmMin := (t.tmMin + t.tmSec / 60) % 60
      tmHour := carriedHour t % 24
      tmMday := toInt32 (carriedDay t)
      tmMon := t.tmMon % 12
      tmYear := toInt32 (t.tmYear + t.tmMon / 12) } ∧
    storedDays t = carriedDays t ∧
    gmtimeR (instant t) = { loopedDate t with
      tmYday := storedYday t
      tmWday := (storedDays t + 4).tmod 7
      tmIsdst := 0 } := by
  obtain ⟨htime, hfields⟩ := hnorm
  have hnonneg := instant_nonneg h
  have hresult := timegm_stored (not_lt.mp fun hearly => by
    have htime' := timegm_early hearly
    omega : 70 ≤ (loopedDate t).tmYear)
  rw [htime, hresult] at hfields
  rw [hresult] at htime
  simp only at htime hfields
  obtain ⟨⟨hs0, hs⟩, ⟨hm0, hm⟩, ⟨hh0, hh⟩, -⟩ := gmtimeR_time hnonneg
  rw [← hfields] at hs0 hs hm0 hm hh0 hh
  simp only at hs0 hs hm0 hm hh0 hh
  obtain ⟨khour, kmin, ksec⟩ := mdayLoop_time ((carry t).tmMday.toNat + 2) (carry t)
  have hhour : (loopedDate t).tmHour = (carry t).tmHour := khour
  have hmin : (loopedDate t).tmMin = (carry t).tmMin := kmin
  have hsec : (loopedDate t).tmSec = (carry t).tmSec := ksec
  have hne : t.tmSec ≠ 60 := by
    intro hsixty
    have hkept := carry_sec_of_sixty hsixty
    omega
  obtain ⟨hminlt, hhourlt⟩ := carry_lt_of_nonneg h hne (by omega) (by omega)
  have hcarry := carry_eq_of_lt h hne hminlt hhourlt
  refine ⟨hne, hcarry, ?_, hfields.symm⟩
  rw [hcarry] at hhour hmin hsec
  rw [instant_eq, hhour, hmin, hsec] at htime
  simp only at htime
  omega

/-- The day for 29 February, in a year that is far from the limits of `int`. -/
lemma leapDay_eq {n m : ℕ} (hyear : t.tmYear = n + 70) (hn : n < 2000000000) (hmon : t.tmMon = m) :
    leapDay t = if IsLeap (1970 + n) ∧ m > 1 then 1 else 0 := by
  have hleap : isleap (toInt32 (t.tmYear + 1900)) = true ↔ IsLeap (1970 + n) := by
    rw [toInt32_of_range (by omega) (by omega), isleap_iff, hyear, add_assoc, add_comm]
    norm_num
  have hcond : (isleap (toInt32 (t.tmYear + 1900)) = true ∧ t.tmMon > 1) ↔
      (IsLeap (1970 + n) ∧ m > 1) := by
    rw [hleap, hmon]
    exact and_congr_right fun _ => by omega
  unfold leapDay
  exact if_congr hcond rfl rfl

/-- **Fields that are normalised were ordinary**, if the days since 1970 fit an `int`. -/
lemma Normalises.ordinary (h : t.NonNegative) (hnorm : Normalises t)
    (hsmall : carriedDays t + 4 < 2147483648) : t.Ordinary := by
  obtain ⟨hne, hcarry, hdays, hgm⟩ := hnorm.carry_eq h
  have hnonneg := instant_nonneg h
  have hpos := carriedDay_pos h
  have hge := carriedDays_ge t
  -- the date of the calendar
  obtain ⟨s, hs⟩ := Int.eq_ofNat_of_zero_le hnonneg
  have hsdays : ((s / 86400 : ℕ) : ℤ) = carriedDays t := by
    have htime := instant_eq t
    push_cast
    omega
  obtain ⟨hyear, hmon, hmday, hyday, -⟩ := gmtimeR_after (by omega : s / 86400 + 4 < 2147483648)
  obtain ⟨hvalid, hday⟩ := Date.after_spec (s / 86400)
  rw [hsdays] at hday
  rw [hs] at hgm
  rw [hgm] at hyear hmon hmday hyday
  simp only at hyear hmon hmday hyday
  generalize Date.after (s / 86400) = date at *
  have hmon12 := hvalid.mon_lt
  have hone := hvalid.one_le
  have h31 := hvalid.mday_le
  -- the year is that of the date
  obtain ⟨k, hk⟩ := Int.eq_ofNat_of_zero_le (by have hy := h.year.1; omega : 0 ≤ t.tmYear - 70)
  have hkyear : k = date.year := by
    refine daysBeforeYear_inj ?_
    unfold storedDays at hdays
    rw [hk, hyday, yearsToDays_eq, ← hday] at hdays
    unfold Date.yday dayNumber at hdays
    omega
  have ho := h.mon.1
  have hcarried : (carriedYear t : ℤ) = t.tmYear - 70 + t.tmMon / 12 := by
    unfold carriedYear
    omega
  have hcmon : (carriedMon t : ℤ) = t.tmMon % 12 := by
    unfold carriedMon
    omega
  have hcyear : (carry t).tmYear = carriedYear t + 70 := by
    rw [hcarry]
    simp only
    rw [toInt32_of_range (by omega) (by omega)]
    omega
  have hcmday : (carry t).tmMday = carriedDay t := by
    rw [hcarry]
    exact toInt32_of_range (by omega) (by omega)
  have hcmon' : (carry t).tmMon = carriedMon t := by
    rw [hcarry, hcmon]
  obtain ⟨j, hloop⟩ : ∃ j, Looped (carry t) (loopedDate t) j :=
    looped_mdayLoop _ (by omega) (toInt32_of_range (by omega) (by omega))
  have hj := hloop.passed
  have hjday := hloop.mday
  have hjyear := hloop.year
  rw [hyear, hcyear, toInt32_of_range (by omega) (by omega)] at hjyear
  have hj0 : j = 0 := by omega
  have hsame : carriedYear t = date.year := by omega
  obtain ⟨hle, hsum⟩ := hloop.same hj0
  rw [leapDay_eq (by rw [hyear]) (by omega) hmon, leapDay_eq hcyear (by omega) hcmon', hmon, hcmon',
    hmday, hcmday, hsame, Int.toNat_natCast, Int.toNat_natCast] at hsum
  have hnumber : dayNumber date.year (carriedMon t) (carriedDay t) =
      dayNumber date.year date.mon date.mday := by
    rw [hday, ← hsame]
    rfl
  unfold dayNumber at hnumber
  rw [daysBeforeMonth_eq _ (carriedMon_lt t).le, daysBeforeMonth_eq _ hmon12.le] at hnumber
  -- the loop has not been entered
  have hstart : carriedMon t = date.mon := by
    rcases spmSum_eq (carriedMon_lt t) hmon12 (by omega) (by omega) with heq | ⟨hjan, hapr⟩
    · exact heq
    · rcases hloop.entered with hkept | ⟨-, hlate⟩
      · rw [hkept] at hmon
        omega
      · have hlate' := hlate (by omega)
        omega
  rw [hstart] at hsum
  have hyears : t.tmYear + 1900 = 1970 + date.year := by omega
  have hmonth : t.tmMon.toNat = date.mon := by omega
  refine ⟨hne, by omega, ?_, ?_⟩
  · have hlast := hvalid.le_days
    rw [hyears, hmonth]
    omega
  · have hyear70 : (t.tmYear - 70).toNat = carriedYear t := by omega
    rw [hyear70, hmonth, ← hstart]
    exact hsmall

/-- The weekday of `gmtime_r` is wrong where four days more do not fit an `int`. -/
lemma wday_ne {d : ℤ} (h : 2147483644 ≤ d) (hlt : d < 2147483648) :
    (toInt32 (4 + d)).tmod 7 ≠ (d + 4).tmod 7 := by
  have hcases : d = 2147483644 ∨ d = 2147483645 ∨ d = 2147483646 ∨ d = 2147483647 := by omega
  rcases hcases with rfl | rfl | rfl | rfl <;> decide

/-- **The days fit an `int`** where `gmtime_r` gives what is stored back. -/
lemma Normalises.days_lt (h : t.NonNegative) (hnorm : Normalises t) :
    carriedDays t + 4 < 2147483648 := by
  by_contra hlarge
  obtain ⟨-, hcarry, hdays, hgm⟩ := hnorm.carry_eq h
  obtain ⟨s, hs⟩ := Int.eq_ofNat_of_zero_le (instant_nonneg h)
  have hw : gmtimeDays s = toInt32 (carriedDays t) := by
    have htime := instant_eq t
    unfold gmtimeDays
    rw [Int.tdiv_eq_ediv_of_nonneg (Int.natCast_nonneg s)]
    congr 1
    omega
  rw [hs] at hgm
  -- the date that is stored back
  have hy := h.year
  have ho := h.mon
  obtain ⟨hm0, hm1⟩ : 0 ≤ t.tmMon / 12 ∧ t.tmMon / 12 < 178956971 := by omega
  have hcyear : (carry t).tmYear = toInt32 (t.tmYear + t.tmMon / 12) := by rw [hcarry]
  have hcmon : (carry t).tmMon = t.tmMon % 12 := by rw [hcarry]
  have hcmday : (carry t).tmMday = toInt32 (carriedDay t) := by rw [hcarry]
  obtain ⟨hrange0, hrange⟩ := toInt32_le (t.tmYear + t.tmMon / 12)
  obtain ⟨-, hmday1⟩ := toInt32_le (carriedDay t)
  obtain ⟨j, hloop⟩ : ∃ j, Looped (carry t) (loopedDate t) j :=
    looped_mdayLoop _ (by omega) (by rw [hcyear, toInt32_of_range hrange0 hrange])
  have hj := hloop.passed
  have hjday := hloop.mday
  have hjyear := hloop.year
  obtain ⟨k, hk⟩ := Int.eq_ofNat_of_zero_le (by omega : 0 ≤ t.tmYear - 70)
  unfold storedDays at hdays
  rw [hk, yearsToDays_eq] at hdays
  rcases lt_or_ge (gmtimeDays s) 0 with hneg | hpos
  · -- a negative number of days
    obtain ⟨hyday, hmday, -⟩ := gmtimeR_of_neg hneg
    have hyear := gmtimeR_year_of_neg hneg
    rw [hgm] at hyday hmday hyear
    simp only at hyday hmday hyear
    have hkept : loopedDate t = carry t := by
      rcases hloop.entered with hkept | ⟨hlate, -⟩
      · exact hkept
      · omega
    rw [hkept, hcyear] at hyear
    have hk0 : k = 0 := by
      unfold toInt32 at hyear
      omega
    rw [hk0, daysBeforeYear, hyday] at hdays
    omega
  · obtain ⟨n, mon, hyear, -, hvalid, hday, hyday, -⟩ := gmtimeR_date_yday hpos
    have hwday := gmtimeR_tmWday s
    rw [hgm] at hyear hvalid hday hyday hwday
    simp only at hyear hvalid hday hyday hwday
    have hone := hvalid.one_le
    unfold dayNumber at hday
    by_cases hfit : carriedDays t < 2147483648
    · -- four days more are a negative number
      rw [toInt32_of_range (by omega) hfit] at hw
      unfold storedDays at hwday
      rw [hk, yearsToDays_eq, hdays, hw] at hwday
      exact wday_ne (by omega) hfit hwday.symm
    · -- an earlier year
      have hless : daysBeforeYear n < daysBeforeYear k := by
        unfold toInt32 at hw
        omega
      have hnk : n < k := by
        by_contra hnot
        have hmono := daysBeforeYear_mono (not_lt.mp hnot)
        omega
      rw [hyear, hcyear] at hjyear
      unfold toInt32 at hjyear
      omega

/-- **Ordinary fields are normalised.** -/
lemma Tm.Ordinary.normalises (h : t.NonNegative) (hord : t.Ordinary) : Normalises t := by
  obtain ⟨hne, hmon, hlast, hsmall⟩ := hord
  have ho := h.mon
  have hy := h.year
  have hd := h.mday
  have hpos := carriedDay_pos h
  have h31 := hlast.trans (monthDays_le _ _)
  have hhour : carriedHour t < 2147483648 := by
    unfold carriedDay at h31
    omega
  have hmin : t.tmMin + t.tmSec / 60 < 2147483648 := by
    have hhour0 := h.hour
    unfold carriedDay carriedHour at h31
    omega
  -- neither the months nor the loop change the date
  have hyear : t.tmYear + t.tmMon / 12 = t.tmYear := by omega
  have hcarry := carry_eq_of_lt h hne hmin hhour
  rw [hyear, toInt32_of_range (by omega) (by omega), toInt32_of_range (by omega) (by omega),
    Int.emod_eq_of_lt ho.1 hmon] at hcarry
  have hdate : loopedDate t = carry t := by
    refine mdayLoop_eq _ ?_ ?_ ?_
    all_goals rw [hcarry]
    · exact h31
    · exact ho.1
    · exact hmon
  rw [hcarry] at hdate
  obtain ⟨n, hn⟩ := Int.eq_ofNat_of_zero_le (by omega : 0 ≤ t.tmYear - 70)
  obtain ⟨m, hm⟩ := Int.eq_ofNat_of_zero_le ho.1
  obtain ⟨day, hday⟩ := Int.eq_ofNat_of_zero_le (by omega : 0 ≤ carriedDay t)
  have hyears : t.tmYear + 1900 = 1970 + n := by omega
  rw [hyears, hm, Int.toNat_natCast, hday] at hlast
  have hvalid : ValidDate n m day := ⟨by omega, by omega, hlast⟩
  have hcarried : carriedDays t = dayNumber n m day := by
    have hcyear : carriedYear t = n := by
      unfold carriedYear
      omega
    have hcmon : carriedMon t = m := by
      unfold carriedMon
      omega
    unfold carriedDays
    rw [hcyear, hcmon, hday]
  rw [hn, hm, Int.toNat_natCast, Int.toNat_natCast, hday, ← hcarried] at hsmall
  have hge := carriedDays_ge t
  have hnyear : n < 2000000000 := by
    have hyear' := le_daysBeforeYear n
    have hmon' := (daysBeforeMonth_bounds (IsLeap (1970 + n)) (by omega : m < 12)).1
    unfold dayNumber at hcarried
    omega
  -- the days that are counted
  have hyday : storedYday t = daysBeforeMonth (IsLeap (1970 + n)) m + day - 1 := by
    have hleap : leapDay (loopedDate t) = if IsLeap (1970 + n) ∧ m > 1 then 1 else 0 := by
      refine leapDay_eq ?_ hnyear ?_
      all_goals rw [hdate]
      · simp only
        omega
      · exact hm
    obtain ⟨hlo, hhi⟩ := daysBeforeMonth_bounds (IsLeap (1970 + n)) (by omega : m < 12)
    have hbefore := daysBeforeMonth_eq (IsLeap (1970 + n)) (by omega : m ≤ 12)
    unfold storedYday
    rw [hleap, hdate]
    simp only
    rw [hm, hday, toInt32_of_range (by split at hhi <;> omega) (by split at hhi <;> omega)]
    omega
  have hdays : storedDays t = carriedDays t := by
    unfold storedDays
    rw [hn, yearsToDays_eq, hyday, hcarried]
    unfold dayNumber
    omega
  have hresult := timegm_stored (by rw [hdate]; exact hy.1 : 70 ≤ (loopedDate t).tmYear)
  have htime : (timegm t).1 = instant t := by
    rw [hresult, instant_eq, hdate, hdays]
  refine ⟨htime, ?_⟩
  -- the calendar
  obtain ⟨s, hs⟩ := Int.eq_ofNat_of_zero_le (instant_nonneg h)
  have hinstant := instant_eq t
  rw [hs] at hinstant
  have hsdays : ((s / 86400 : ℕ) : ℤ) = carriedDays t := by
    push_cast
    omega
  obtain ⟨hvalid', hnumber⟩ := Date.after_spec (s / 86400)
  obtain ⟨hyear', hmon', hmday'⟩ := hvalid.unique hvalid' (by rw [hnumber, hsdays, hcarried])
  rw [htime, hs, gmtimeR_eq (by omega), hresult, hdate]
  unfold utcFields
  simp only [Tm.mk.injEq, ← hyear', ← hmon', hdays]
  have hsec : t.tmSec % 60 = (s % 60 : ℕ) := by
    push_cast
    omega
  have hmin' : (t.tmMin + t.tmSec / 60) % 60 = (s / 60 % 60 : ℕ) := by
    push_cast
    omega
  have hhour' : carriedHour t % 24 = (s / 3600 % 24 : ℕ) := by
    push_cast
    omega
  have hwday : (carriedDays t + 4).tmod 7 = ((4 + s / 86400) % 7 : ℕ) := by
    rw [Int.tmod_eq_emod_of_nonneg (by omega)]
    push_cast
    omega
  refine ⟨hsec, hmin', hhour', by rw [hday, hmday'], hm, by omega, hwday, ?_, trivial⟩
  rw [hyday]
  unfold Date.yday
  rw [← hyear', ← hmon', hmday']

/-- **Calendar normalisation.**  `timegm` gives the instant the fields stand for and stores its fields back
exactly for ordinary fields. -/
theorem timegm_normalises_iff (t : Tm) (h : t.NonNegative) : Normalises t ↔ t.Ordinary :=
  ⟨fun hnorm => hnorm.ordinary h (hnorm.days_lt h), fun hord => hord.normalises h⟩

/-- 31 December 1999, 22 hours, 119 minutes and 59 seconds. -/
def newYearsEve : Tm := ⟨59, 119, 22, 31, 11, 99, 0, 0, 0⟩

theorem timegm_normalises_iff_newYearsEve : newYearsEve.NonNegative ∧ Normalises newYearsEve := by
  have h : newYearsEve.NonNegative :=
    ⟨by decide, by decide, by decide, by decide, by decide, by decide⟩
  exact ⟨h, (timegm_normalises_iff newYearsEve h).mpr
    ⟨by decide, by decide, by decide, by decide⟩⟩

/-- The 13th month of 1970: the year is read before it is carried, and January 1971 is taken for January
1970. -/
theorem timegm_month_not_carried : ¬ ∀ t : Tm, t.NonNegative → Normalises t := by
  intro h
  have hthirteenth : ¬ Normalises ⟨0, 0, 0, 1, 12, 70, 0, 0, 0⟩ := by decide
  exact hthirteenth (h _ ⟨by decide, by decide, by decide, by decide, by decide, by decide⟩)

end N32L43x.Libc
