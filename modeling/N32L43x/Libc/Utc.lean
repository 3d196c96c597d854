import N32L43x.Libc.Ctime

/-!
`gmtime_r` against the calendar counted day by day from 1 January 1970, and `timegm` as its inverse.
-/

namespace N32L43x.Libc

open N32L43x.Lib.Calendar

/-! ### The fields of a time -/

/-- The broken-down time of the calendar: the date reached after the whole days of the time, the
time of day, and a weekday that counts on from a Thursday. -/
def utcFields (t : ℕ) : Tm :=
  let days := t / 86400
  let date := Date.after days
  { tmSec := (t % 60 : ℕ)
    tmMin := (t / 60 % 60 : ℕ)
    tmHour := (t / 3600 % 24 : ℕ)
    tmMday := date.mday
    tmMon := date.mon
    tmYear := date.year + 70
    tmWday := ((4 + days) % 7 : ℕ)
    tmYday := date.yday
    tmIsdst := 0 }

lemma gmtimeDays_eq {t : ℕ} (h : t / 86400 + 4 < 2147483648) : gmtimeDays t = (t / 86400 : ℕ) := by
  rw [gmtimeDays, Int.tdiv_eq_ediv_of_nonneg (by omega), toInt32_of_range (by omega) (by omega)]
  push_cast
  rfl

lemma gmtimeDays_bounds {t : ℕ} (h : t / 86400 + 4 < 2147483648) :
    0 ≤ gmtimeDays t ∧ gmtimeDays t < 2147483644 := by
  have hdays := gmtimeDays_eq h
  exact ⟨by omega, by omega⟩

/-- The date `gmtime_r` finds is the one the calendar reaches. -/
lemma gmtimeR_after {t : ℕ} (h : t / 86400 + 4 < 2147483648) :
    (gmtimeR t).tmYear = (Date.after (t / 86400)).year + 70 ∧
      (gmtimeR t).tmMon = (Date.after (t / 86400)).mon ∧
      (gmtimeR t).tmMday = (Date.after (t / 86400)).mday ∧
      (gmtimeR t).tmYday = (Date.after (t / 86400)).yday ∧ (gmtimeR t).tmIsdst = 0 := by
  have hdays := gmtimeDays_eq h
  obtain ⟨n, mon, hyear, hmon, hvalid, hday, hyday, hdst⟩ :=
    gmtimeR_date_yday (gmtimeDays_bounds h).1
  obtain ⟨hvalid', hday'⟩ := Date.after_spec (t / 86400)
  obtain ⟨hn, hm, hd⟩ := hvalid.unique hvalid' (by rw [hday, hdays, hday'])
  exact ⟨by rw [hyear, hn], by rw [hmon, hm], hd, by rw [hyday, Date.yday, hn, hm, hd], hdst⟩

/-- The time of day is what is left of the days. -/
lemma gmtimeR_timeOfDay (t : ℕ) : (gmtimeR t).tmSec = (t % 60 : ℕ) ∧
    (gmtimeR t).tmMin = (t / 60 % 60 : ℕ) ∧ (gmtimeR t).tmHour = (t / 3600 % 24 : ℕ) := by
  obtain ⟨⟨hsec0, hsec⟩, ⟨hmin0, hmin⟩, ⟨hhour0, hhour⟩, htime⟩ :=
    gmtimeR_time (Int.natCast_nonneg t)
  exact ⟨by omega, by omega, by omega⟩

/-- **The broken-down time is the calendar's.** -/
lemma gmtimeR_eq {t : ℕ} (h : t / 86400 + 4 < 2147483648) : gmtimeR t = utcFields t := by
  obtain ⟨hyear, hmon, hmday, hyday, hdst⟩ := gmtimeR_after h
  obtain ⟨hsec, hmin, hhour⟩ := gmtimeR_timeOfDay t
  have hdays := gmtimeDays_eq h
  have hwday := gmtimeR_wday (gmtimeDays_bounds h).1 (gmtimeDays_bounds h).2
  rw [hdays] at hwday
  have hwday' : (gmtimeR t).tmWday = ((4 + t / 86400) % 7 : ℕ) := by
    rw [hwday]
    push_cast
    rfl
  generalize gmtimeR t = r at *
  cases r
  simp only at hyear hmon hmday hyday hdst hsec hmin hhour hwday'
  rw [hyear, hmon, hmday, hyday, hdst, hsec, hmin, hhour, hwday']
  rfl

/-! ### There and back -/

/-- `timegm` counts the fields back. -/
lemma timegm_utcFields {t : ℕ} (h : t / 86400 + 4 < 2147483648) : (timegm (utcFields t)).1 = t := by
  obtain ⟨hvalid, hday⟩ := Date.after_spec (t / 86400)
  obtain ⟨hlo, -⟩ := dayNumber_bounds (Date.after (t / 86400)).year hvalid.mon_lt hvalid.one_le
    hvalid.mday_le
  have hyears := le_daysBeforeYear (Date.after (t / 86400)).year
  have hyear : (utcFields t).tmYear = ((Date.after (t / 86400)).year : ℕ) + 70 := rfl
  have hmon : (utcFields t).tmMon = (Date.after (t / 86400)).mon := rfl
  rw [timegm_eq hyear (by omega) hmon hvalid.mon_lt hvalid.one_le hvalid.mday_le (by simp only [utcFields]; omega)
    (by simp only [utcFields]; omega) (by simp only [utcFields]; omega)]
  have hdate : dayNumber (Date.after (t / 86400)).year (Date.after (t / 86400)).mon
      (utcFields t).tmMday = (t / 86400 : ℕ) := hday
  rw [hdate]
  simp only [utcFields]
  omega

/-- **Calendar and round trip**: for a time from 1970 on whose days fit an `int`, `gmtime_r` gives
the fields of the calendar, on a date the calendar has, and `timegm` gives the time back. -/
theorem gmtimeR_utc_roundTrip (t : ℕ) (h : t / 86400 + 4 < 2147483648) :
    gmtimeR t = utcFields t ∧ (Date.after (t / 86400)).Valid ∧ (timegm (gmtimeR t)).1 = t := by
  refine ⟨gmtimeR_eq h, (Date.after_spec _).1, ?_⟩
  rw [gmtimeR_eq h]
  exact timegm_utcFields h

/-- The last second of the year 2100, no leap year. -/
theorem gmtimeR_utc_roundTrip_2100 :
    gmtimeR (4133980799 : ℕ) = utcFields 4133980799 ∧
      (Date.after (4133980799 / 86400)).Valid ∧
      (timegm (gmtimeR (4133980799 : ℕ))).1 = (4133980799 : ℕ) :=
  gmtimeR_utc_roundTrip 4133980799 (by omega)

end N32L43x.Libc
