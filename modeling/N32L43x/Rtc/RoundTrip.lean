import N32L43x.Rtc.Defs
import Mathlib.Tactic.IntervalCases

/-!
Setting the clock and reading it back.  The driver takes every time from 2000 on, but the date
register has two digits for the year, and the date is already written when the time turns out not to
be accepted.  The main result says for which times and which answers of the peripheral the call
either sets the clock or leaves it alone.
-/

namespace N32L43x.Rtc

open N32L43x.Lib.Bits N32L43x.Lib.Calendar N32L43x.Libc

/-! ### Binary coded decimals -/

lemma bcd_table : ∀ n < 100, IsBcd (rtcByteToBcd2 (BitVec.ofNat 8 n)) ∧
    (rtcBcd2ToByte (rtcByteToBcd2 (BitVec.ofNat 8 n))).toNat = n ∧
    (n < 20 → rtcByteToBcd2 (BitVec.ofNat 8 n) &&& 0x1F#8 = rtcByteToBcd2 (BitVec.ofNat 8 n)) ∧
    (n < 40 → rtcByteToBcd2 (BitVec.ofNat 8 n) &&& 0x3F#8 = rtcByteToBcd2 (BitVec.ofNat 8 n)) ∧
    (n < 80 → rtcByteToBcd2 (BitVec.ofNat 8 n) &&& 0x7F#8 = rtcByteToBcd2 (BitVec.ofNat 8 n)) := by
  decide +kernel

lemma bcd2ToByte_le_99 (b : BitVec 8) (h : IsBcd b) : (rtcBcd2ToByte b).toNat ≤ 99 := by
  have key : ∀ n < 256, IsBcd (BitVec.ofNat 8 n) → (rtcBcd2ToByte (BitVec.ofNat 8 n)).toNat ≤ 99 := by
    decide +kernel
  have := key b.toNat b.isLt
  rw [BitVec.ofNat_toNat, BitVec.setWidth_eq] at this
  exact this h

/-! ### The words -/

lemma dateWord_month (y m d w : BitVec 8) :
    ((((y.setWidth 32 <<< 16 ||| m.setWidth 32 <<< 8 ||| d.setWidth 32 ||| w.setWidth 32 <<< 13) &&&
      0x00FFFF3F#32) &&& 0x1F00#32) >>> 8).setWidth 8 = m &&& 0x1F#8 := by
  refine BitVec.eq_of_getLsbD_eq fun i hi => ?_
  interval_cases i <;> simp

lemma dateWord_date (y m d w : BitVec 8) :
    (((y.setWidth 32 <<< 16 ||| m.setWidth 32 <<< 8 ||| d.setWidth 32 ||| w.setWidth 32 <<< 13) &&&
      0x00FFFF3F#32) &&& 0x3F#32).setWidth 8 = d &&& 0x3F#8 := by
  refine BitVec.eq_of_getLsbD_eq fun i hi => ?_
  interval_cases i <;> simp

/-- A weekday above 7 would run into the year. -/
lemma dateWord_year (y m d w : BitVec 8) :
    yearByte ((y.setWidth 32 <<< 16 ||| m.setWidth 32 <<< 8 ||| d.setWidth 32 |||
      w.setWidth 32 <<< 13) &&& 0x00FFFF3F#32) = y ||| w >>> 3 := by
  unfold yearByte
  refine BitVec.eq_of_getLsbD_eq fun i hi => ?_
  interval_cases i <;> simp

lemma timeWord_fields (h m s : BitVec 8) :
    let word := (h.setWidth 32 <<< 16 ||| m.setWidth 32 <<< 8 ||| s.setWidth 32) &&& 0x007F7F7F#32
    ((word &&& 0x007F7F7F#32 &&& 0x003F0000#32) >>> 16).setWidth 8 = h &&& 0x3F#8 ∧
    ((word &&& 0x007F7F7F#32 &&& 0x00007F00#32) >>> 8).setWidth 8 = m &&& 0x7F#8 ∧
    (word &&& 0x007F7F7F#32 &&& 0x0000007F#32).setWidth 8 = s &&& 0x7F#8 := by
  refine ⟨?_, ?_, ?_⟩
  all_goals
    refine BitVec.eq_of_getLsbD_eq fun i hi => ?_
    interval_cases i <;> simp

/-! ### Reading back -/

lemma ofInt_eq_ofNat {x : ℤ} (h : 0 ≤ x) : BitVec.ofInt 8 x = BitVec.ofNat 8 x.toNat := by
  obtain ⟨n, rfl⟩ := Int.eq_ofNat_of_zero_le h
  simp

/-- A number of two digits is read as it was written, through a mask that keeps its tens. -/
lemma bcd_read {x : ℤ} (h0 : 0 ≤ x) (h100 : x < 100) :
    IsBcd (rtcByteToBcd2 (BitVec.ofInt 8 x)) ∧
    ((rtcBcd2ToByte (rtcByteToBcd2 (BitVec.ofInt 8 x))).toNat : ℤ) = x ∧
    (x < 20 → rtcByteToBcd2 (BitVec.ofInt 8 x) &&& 0x1F#8 = rtcByteToBcd2 (BitVec.ofInt 8 x)) ∧
    (x < 40 → rtcByteToBcd2 (BitVec.ofInt 8 x) &&& 0x3F#8 = rtcByteToBcd2 (BitVec.ofInt 8 x)) ∧
    (x < 80 → rtcByteToBcd2 (BitVec.ofInt 8 x) &&& 0x7F#8 = rtcByteToBcd2 (BitVec.ofInt 8 x)) := by
  obtain ⟨hbcd, hread, h20, h40, h80⟩ := bcd_table x.toNat (by omega)
  rw [ofInt_eq_ofNat h0]
  exact ⟨hbcd, by omega, fun h => h20 (by omega), fun h => h40 (by omega), fun h => h80 (by omega)⟩

/-- The fields below the year are stored as they are. -/
lemma DateRegister.latch_and (hw : DateRegister) (word : BitVec 32) {m : BitVec 32}
    (hm : 0xFF3F#32 &&& m = m) : hw.latch word &&& m = word &&& m := by
  rw [← hm, ← BitVec.and_assoc, hw.rest_eq, BitVec.and_assoc]

section Read

variable {hw : DateRegister} {rtc : RtcModule} {time : Tm}
  (hdate : rtc.date = hw.latch (rtcDateWord (dateOf time)))
include hdate

/-- The month and the day are read back whatever the year and the weekday are. -/
lemma getDate_month (h0 : 0 ≤ time.tmMon) (h12 : time.tmMon < 12) :
    ((rtcGetDate rtc).month.toNat : ℤ) = time.tmMon + 1 := by
  obtain ⟨-, hread, h20, -, -⟩ := bcd_read (x := time.tmMon + 1) (by omega) (by omega)
  have hno : ¬(BitVec.ofInt 8 (time.tmMon + 1) &&& 0x10#8 = 0x10#8) := by
    generalize time.tmMon = m at h0 h12
    interval_cases m <;> decide
  have hword : ((rtc.date &&& 0x00FFFF3F#32 &&& 0x00001F00#32) >>> 8).setWidth 8 =
      rtcByteToBcd2 (BitVec.ofInt 8 (time.tmMon + 1)) := by
    rw [BitVec.and_assoc, hdate, hw.latch_and _ (by decide)]
    refine (dateWord_month _ _ _ _).trans ?_
    rw [dateOf, if_neg hno]
    exact h20 (by omega)
  simp only [rtcGetDate, hword, hread]

lemma getDate_date (h1 : 1 ≤ time.tmMday) (h31 : time.tmMday ≤ 31) :
    ((rtcGetDate rtc).date.toNat : ℤ) = time.tmMday := by
  obtain ⟨-, hread, -, h40, -⟩ := bcd_read (x := time.tmMday) (by omega) (by omega)
  have hword : (rtc.date &&& 0x00FFFF3F#32 &&& 0x0000003F#32).setWidth 8 =
      rtcByteToBcd2 (BitVec.ofInt 8 time.tmMday) := by
    rw [BitVec.and_assoc, hdate, hw.latch_and _ (by decide)]
    exact (dateWord_date _ _ _ _).trans (h40 (by omega))
  simp only [rtcGetDate, hword, hread]

omit hdate in
lemma getDate_year_eq (rtc : RtcModule) :
    (rtcGetDate rtc).year = rtcBcd2ToByte (yearByte rtc.date) := by
  simp only [rtcGetDate, yearByte, BitVec.and_assoc]
  rfl

lemma getDate_year_le : (rtcGetDate rtc).year.toNat ≤ 99 := by
  rw [getDate_year_eq, hdate]
  exact bcd2ToByte_le_99 _ (hw.isBcd_year _)

lemma getDate_year (h0 : 100 ≤ time.tmYear) (h1 : time.tmYear < 200) (hw0 : 0 ≤ time.tmWday)
    (hw1 : time.tmWday < 7) : ((rtcGetDate rtc).year.toNat : ℤ) = time.tmYear - 100 := by
  obtain ⟨hbcd, hread, -, -, -⟩ := bcd_read (x := time.tmYear - 100) (by omega) (by omega)
  have hwday : BitVec.ofInt 8 (time.tmWday + 1) >>> 3 = 0#8 := by
    generalize time.tmWday = d at hw0 hw1
    interval_cases d <;> decide
  have hyear : yearByte (rtcDateWord (dateOf time)) =
      rtcByteToBcd2 (BitVec.ofInt 8 (time.tmYear - 100)) := by
    refine (dateWord_year _ _ _ _).trans ?_
    simp only [dateOf, hwday, BitVec.or_zero]
  rw [getDate_year_eq, hdate, hw.yearByte_eq _ (hyear ▸ hbcd), hyear, hread]

end Read

/-- The time of day is read back. -/
lemma getTime_eq {rtc : RtcModule} {time : Tm} {hfmt : Bool}
    (htsh : rtc.tsh = rtcTimeWord hfmt (timeOf time))
    (hsec : 0 ≤ time.tmSec ∧ time.tmSec < 60) (hmin : 0 ≤ time.tmMin ∧ time.tmMin < 60)
    (hhour : 0 ≤ time.tmHour ∧ time.tmHour < 24) :
    ((rtcGetTime rtc).seconds.toNat : ℤ) = time.tmSec ∧
    ((rtcGetTime rtc).minutes.toNat : ℤ) = time.tmMin ∧
    ((rtcGetTime rtc).hours.toNat : ℤ) = time.tmHour := by
  obtain ⟨-, hreads, -, -, h80s⟩ := bcd_read hsec.1 (by omega)
  obtain ⟨-, hreadm, -, -, h80m⟩ := bcd_read hmin.1 (by omega)
  obtain ⟨-, hreadh, -, h40h, -⟩ := bcd_read hhour.1 (by omega)
  have hword : rtc.tsh = ((rtcByteToBcd2 (BitVec.ofInt 8 time.tmHour)).setWidth 32 <<< 16 |||
      (rtcByteToBcd2 (BitVec.ofInt 8 time.tmMin)).setWidth 32 <<< 8 |||
      (rtcByteToBcd2 (BitVec.ofInt 8 time.tmSec)).setWidth 32) &&& 0x007F7F7F#32 := by
    rw [htsh]
    simp [rtcTimeWord, timeOf]
  obtain ⟨hh, hm, hs⟩ := timeWord_fields (rtcByteToBcd2 (BitVec.ofInt 8 time.tmHour))
    (rtcByteToBcd2 (BitVec.ofInt 8 time.tmMin)) (rtcByteToBcd2 (BitVec.ofInt 8 time.tmSec))
  rw [← hword] at hh hm hs
  refine ⟨?_, ?_, ?_⟩
  · simp only [rtcGetTime, hs, h80s (by omega), hreads]
  · simp only [rtcGetTime, hm, h80m (by omega), hreadm]
  · simp only [rtcGetTime, hh, h40h (by omega), hreadh]

/-! ### The answers of the peripheral -/

/-- The polls of an update of the calendar, without the write. -/
def calendarPolls (ctrl : BitVec 32) (p : Polls) : Polls × ErrorStatus :=
  let (p, status) := rtcEnterInitMode p
  if status = .error then (p, .error) else waitAfterWrite ctrl p

/-- An update writes if the initialization mode was entered; its result is that of the polls. -/
lemma updateCalendar_eq (write : RtcModule → RtcModule)
    (hpolls : ∀ rtc p, write { rtc with polls := p } = { write rtc with polls := p })
    (hctrl : ∀ rtc, (write rtc).ctrl = rtc.ctrl) (rtc : RtcModule) :
    updateCalendar rtc write =
      ({ if (rtcEnterInitMode rtc.polls).2 = .error then rtc else write rtc with
          polls := (calendarPolls rtc.ctrl rtc.polls).1 },
        (calendarPolls rtc.ctrl rtc.polls).2) := by
  by_cases h : (rtcEnterInitMode rtc.polls).2 = .error
  · simp only [updateCalendar, calendarPolls, if_pos h]
  · simp only [updateCalendar, calendarPolls, if_neg h]
    rw [hpolls rtc]
    simp only [hctrl]

lemma calendarPolls_of_error {ctrl : BitVec 32} {p : Polls}
    (h : (rtcEnterInitMode p).2 = .error) : (calendarPolls ctrl p).2 = .error := by
  simp [calendarPolls, h]

section Update

variable (hw : DateRegister) (rtc : RtcModule)

lemma rtcSetDate_eq (d : RtcDateType) : rtcSetDate hw rtc d =
    ({ rtc with
        date := if (rtcEnterInitMode rtc.polls).2 = .error then rtc.date
          else hw.latch (rtcDateWord d)
        polls := (calendarPolls rtc.ctrl rtc.polls).1 },
      (calendarPolls rtc.ctrl rtc.polls).2) := by
  rw [rtcSetDate, updateCalendar_eq (fun rtc => { rtc with date := hw.latch (rtcDateWord d) })
    (fun _ _ => rfl) (fun _ => rfl)]
  split <;> rfl

lemma rtcConfigTime_eq (t : RtcTimeType) : rtcConfigTime rtc t =
    ({ rtc with
        tsh := if (rtcEnterInitMode rtc.polls).2 = .error then rtc.tsh
          else rtcTimeWord (anySet rtc.ctrl 0x40#32) t
        polls := (calendarPolls rtc.ctrl rtc.polls).1 },
      (calendarPolls rtc.ctrl rtc.polls).2) := by
  rw [rtcConfigTime, updateCalendar_eq (fun r =>
    { r with tsh := rtcTimeWord (anySet rtc.ctrl 0x40#32) t }) (fun _ _ => rfl) (fun _ => rfl)]
  split <;> rfl

end Update

/-! ### The time that is read back -/

lemma daysBeforeYear_2000 : daysBeforeYear 30 = 10957 := by
  rw [daysBeforeYear_eq]
  norm_num

lemma daysBeforeYear_2100 : daysBeforeYear 130 = 47482 := by
  rw [daysBeforeYear_eq]
  norm_num

/-- The years the driver refuses, in the days that `gmtime_r` works with. -/
lemma tmYear_lt_iff (t : ℤ) : (gmtimeR t).tmYear < 100 ↔ gmtimeDays t < 10957 := by
  rcases lt_or_ge (gmtimeDays t) 0 with h | h
  · have := gmtimeR_year_of_neg h
    omega
  · obtain ⟨n, mon, hyear, -, hd, hday⟩ := gmtimeR_date h
    rw [← hday, ← daysBeforeYear_2000, dayNumber_lt_iff hd.mon_lt hd.one_le hd.mday_le]
    omega

/-- The time of day is read back, if it was not negative. -/
lemma readTm_time {rtc : RtcModule} {t : ℤ} {hfmt : Bool}
    (htsh : rtc.tsh = rtcTimeWord hfmt (timeOf (gmtimeR t))) (h : 0 ≤ t) :
    (readTm rtc).tmSec = (gmtimeR t).tmSec ∧ (readTm rtc).tmMin = (gmtimeR t).tmMin ∧
      (readTm rtc).tmHour = (gmtimeR t).tmHour := by
  obtain ⟨hsec, hmin, hhour, -⟩ := gmtimeR_time h
  exact getTime_eq htsh hsec hmin hhour

section Back

variable {hw : DateRegister} {rtc : RtcModule} {t : ℤ} {hfmt : Bool}
  (hdate : rtc.date = hw.latch (rtcDateWord (dateOf (gmtimeR t))))
include hdate

/-- The date that is read back has the month and the day that were set, in some year from 2000 to
2099. -/
lemma readTm_date (h : 0 ≤ gmtimeDays t) :
    ∃ n mon : ℕ, (30 ≤ n ∧ n < 130) ∧ mon < 12 ∧ (readTm rtc).tmYear = n + 70 ∧
      (readTm rtc).tmMon = mon ∧ 1 ≤ (readTm rtc).tmMday ∧ (readTm rtc).tmMday ≤ 31 := by
  obtain ⟨_, mon, -, hmon, hd, -⟩ := gmtimeR_date h
  have hlt := hd.mon_lt
  have hmonth := getDate_month hdate (by omega) (by omega)
  have hday := getDate_date hdate hd.one_le hd.mday_le
  have hyear := getDate_year_le hdate
  refine ⟨(rtcGetDate rtc).year.toNat + 30, mon, ⟨by omega, by omega⟩, hlt, ?_, ?_, ?_, ?_⟩
  · simp only [readTm]
    push_cast
    ring
  · simp only [readTm]
    omega
  · simp only [readTm, hday]
    exact hd.one_le
  · simp only [readTm, hday]
    exact hd.mday_le

variable (htsh : rtc.tsh = rtcTimeWord hfmt (timeOf (gmtimeR t)))
include htsh

/-- A time from 2000 to 2099 is read back as it was set. -/
lemma getSecs_eq (h0 : 946684800 ≤ t) (h1 : t < 4102444800) : n32RtcGetSecs rtc = t := by
  have hdays : gmtimeDays t = t / 86400 := by
    rw [gmtimeDays, Int.tdiv_eq_ediv_of_nonneg (by omega), toInt32_of_range (by omega) (by omega)]
  obtain ⟨n, mon, hyear, hmon, hd, hday⟩ := gmtimeR_date (t := t) (by omega)
  obtain ⟨hsec, hmin, hhour, hsum⟩ := gmtimeR_time (t := t) (by omega)
  have hlt := hd.mon_lt
  have hn30 : ¬n < 30 := by
    rw [← dayNumber_lt_iff hlt hd.one_le hd.mday_le 30, hday, daysBeforeYear_2000]
    omega
  have hn130 : n < 130 := by
    rw [← dayNumber_lt_iff hlt hd.one_le hd.mday_le 130, hday, daysBeforeYear_2100]
    omega
  have hwday := gmtimeR_wday (t := t) (by omega) (by omega)
  obtain ⟨hs, hm, hh⟩ := readTm_time htsh (by omega)
  have hmonth : (readTm rtc).tmMon = mon := by
    have := getDate_month hdate (by omega) (by omega)
    simp only [readTm]
    omega
  have hmday : (readTm rtc).tmMday = (gmtimeR t).tmMday :=
    getDate_date hdate hd.one_le hd.mday_le
  have hyear' : (readTm rtc).tmYear = n + 70 := by
    have := getDate_year hdate (by omega) (by omega) (by omega) (by omega)
    simp only [readTm]
    omega
  have hback := timegm_eq hyear' (by omega) hmonth hlt (hmday ▸ hd.one_le) (hmday ▸ hd.mday_le)
    (hs ▸ hsec.2) (hm ▸ hmin.2) (hh ▸ hhour.2)
  rw [n32RtcGetSecs, n32RtcGetTimeval, hback, hs, hm, hh, hmday, hday, hdays, hsum]

/-- Any other time that the driver takes is not. -/
lemma getSecs_ne (hdays : 10957 ≤ gmtimeDays t) (h : ¬(946684800 ≤ t ∧ t < 4102444800)) :
    n32RtcGetSecs rtc ≠ t := by
  obtain ⟨n, mon, ⟨hn30, hn130⟩, hlt, hyear, hmon, hone, h31⟩ := readTm_date hdate (by omega)
  intro hback
  rw [n32RtcGetSecs, n32RtcGetTimeval] at hback
  rcases lt_or_ge t 0 with ht | ht
  · -- the time of day may be anything, but what is read back is not before 1970
    have hsmall : (readTm rtc).Small := by
      have hbyte (b : BitVec 8) : (0 : ℤ) ≤ b.toNat ∧ (b.toNat : ℤ) ≤ 1000 := by
        have := b.isLt
        omega
      exact ⟨hbyte _, hbyte _, hbyte _, ⟨hone, by omega⟩, by omega, by omega⟩
    have := timegm_nonneg hsmall
    omega
  · have hge : 4102444800 ≤ t := by
      by_contra hlt'
      rw [gmtimeDays, Int.tdiv_eq_ediv_of_nonneg ht,
        toInt32_of_range (by omega) (by omega)] at hdays
      omega
    obtain ⟨hsec, hmin, hhour, -⟩ := gmtimeR_time ht
    obtain ⟨hs, hm, hh⟩ := readTm_time htsh ht
    have htime := timegm_eq hyear (by omega) hmon hlt hone h31 (hs ▸ hsec.2) (hm ▸ hmin.2)
      (hh ▸ hhour.2)
    have hday : dayNumber n mon (readTm rtc).tmMday < 47482 := by
      rw [← daysBeforeYear_2100, dayNumber_lt_iff hlt hone h31]
      exact hn130
    rw [← hs] at hsec
    rw [← hm] at hmin
    rw [← hh] at hhour
    omega

end Back

/-! ### Setting the clock -/

/-- `n32_rtc_set_secs` either sets the clock to the time, or reports an error and leaves the two
registers alone. -/
def RoundTrip (hw : DateRegister) (rtc : RtcModule) (t : ℤ) : Prop :=
  ((n32RtcSetSecs hw rtc t).2 = .eok → n32RtcGetSecs (n32RtcSetSecs hw rtc t).1 = t) ∧
  ((n32RtcSetSecs hw rtc t).2 ≠ .eok →
    (n32RtcSetSecs hw rtc t).1.date = rtc.date ∧ (n32RtcSetSecs hw rtc t).1.tsh = rtc.tsh)

/-- The polls of the second update, after those of the first. -/
def secondPolls (rtc : RtcModule) : Polls := (calendarPolls rtc.ctrl rtc.polls).1

/-- When it does: the time is one the driver refuses; or the peripheral refuses the first write; or
both updates are answered and the year has two digits; or an update is not answered, and the
registers already held what was written up to there. -/
def Settable (hw : DateRegister) (rtc : RtcModule) (t : ℤ) : Prop :=
  gmtimeDays t < 10957 ∨
  (rtcEnterInitMode rtc.polls).2 = .error ∨
  ((calendarPolls rtc.ctrl rtc.polls).2 = .success ∧
    (calendarPolls rtc.ctrl (secondPolls rtc)).2 = .success ∧ 946684800 ≤ t ∧ t < 4102444800) ∨
  (rtc.date = hw.latch (rtcDateWord (dateOf (gmtimeR t))) ∧
    ((calendarPolls rtc.ctrl rtc.polls).2 = .error ∨
      (rtcEnterInitMode (secondPolls rtc)).2 = .error ∨
      ((calendarPolls rtc.ctrl (secondPolls rtc)).2 = .error ∧
        rtc.tsh = rtcTimeWord (anySet rtc.ctrl 0x40#32) (timeOf (gmtimeR t)))))

lemma n32RtcSetSecs_early (hw : DateRegister) (rtc : RtcModule) {t : ℤ} (h : gmtimeDays t < 10957) :
    n32RtcSetSecs hw rtc t = (rtc, .error) := by
  simp [n32RtcSetSecs, setRtcTimeStamp, (tmYear_lt_iff t).2 h]

/-- The registers and the result for a time that the driver takes. -/
lemma n32RtcSetSecs_eq (hw : DateRegister) (rtc : RtcModule) {t : ℤ} (h : 10957 ≤ gmtimeDays t) :
    ∃ p, n32RtcSetSecs hw rtc t =
      ({ rtc with
          date := if (rtcEnterInitMode rtc.polls).2 = .error then rtc.date
            else hw.latch (rtcDateWord (dateOf (gmtimeR t)))
          tsh := if (calendarPolls rtc.ctrl rtc.polls).2 = .error ∨
              (rtcEnterInitMode (secondPolls rtc)).2 = .error then rtc.tsh
            else rtcTimeWord (anySet rtc.ctrl 0x40#32) (timeOf (gmtimeR t))
          polls := p },
        if (calendarPolls rtc.ctrl rtc.polls).2 = .error ∨
          (calendarPolls rtc.ctrl (secondPolls rtc)).2 = .error then .error else .eok) := by
  have hyear : ¬(gmtimeR t).tmYear < 100 := by
    rw [tmYear_lt_iff]
    omega
  have hsecond : (calendarPolls rtc.ctrl rtc.polls).1 = secondPolls rtc := rfl
  simp only [n32RtcSetSecs, setRtcTimeStamp, if_neg hyear, rtcSetDate_eq, rtcConfigTime_eq, hsecond]
  rcases h1 : (calendarPolls rtc.ctrl rtc.polls).2 with _ | _
  · refine ⟨(calendarPolls rtc.ctrl (secondPolls rtc)).1, ?_⟩
    rcases h2 : (calendarPolls rtc.ctrl (secondPolls rtc)).2 with _ | _
    · simp
    · simp
  · exact ⟨secondPolls rtc, by simp⟩

/-- **Round trip of the clock.**  For every time, every content of the registers and every sequence
of flags, `n32_rtc_set_secs` sets the clock or leaves it alone if and only if the condition
holds. -/
theorem roundTrip_iff (hw : DateRegister) (rtc : RtcModule) (t : ℤ) :
    RoundTrip hw rtc t ↔ Settable hw rtc t := by
  rcases lt_or_ge (gmtimeDays t) 10957 with hdays | hdays
  · -- refused at once
    unfold RoundTrip Settable
    rw [n32RtcSetSecs_early hw rtc hdays]
    exact ⟨fun _ => .inl hdays, fun _ => ⟨nofun, fun _ => ⟨rfl, rfl⟩⟩⟩
  obtain ⟨p, hset⟩ := n32RtcSetSecs_eq hw rtc hdays
  have hdays' : ¬gmtimeDays t < 10957 := Int.not_lt.2 hdays
  unfold RoundTrip Settable
  rw [hset]
  by_cases he1 : (rtcEnterInitMode rtc.polls).2 = .error
  · have h1 : (calendarPolls rtc.ctrl rtc.polls).2 = .error := calendarPolls_of_error he1
    simp [he1, h1]
  rcases h1 : (calendarPolls rtc.ctrl rtc.polls).2 with _ | _
  · by_cases he2 : (rtcEnterInitMode (secondPolls rtc)).2 = .error
    · have h2 : (calendarPolls rtc.ctrl (secondPolls rtc)).2 = .error := calendarPolls_of_error he2
      simp [hdays', he1, he2, h2, eq_comm]
    rcases h2 : (calendarPolls rtc.ctrl (secondPolls rtc)).2 with _ | _
    · -- both updates were made: what is read back decides
      simp only [he1, he2, reduceCtorEq, or_self, if_false, hdays', false_or, true_and, and_false,
        false_and, or_false, ne_eq, not_true_eq_false, false_implies, and_true, forall_const]
      constructor
      · intro hback
        by_contra hr
        exact getSecs_ne rfl rfl hdays hr hback
      · rintro ⟨h0, h1⟩
        exact getSecs_eq rfl rfl h0 h1
    · simp [hdays', he1, he2, eq_comm]
  · simp [hdays', he1, eq_comm]

/-- A date register that drops a year it cannot hold. -/
def twoDigitRegister : DateRegister where
  latch word := if IsBcd (yearByte word) then word else word &&& 0xFF00FFFF#32
  isBcd_year word := by
    split
    · assumption
    · have hzero : yearByte (word &&& 0xFF00FFFF#32) = 0#8 := by
        simp [yearByte, BitVec.and_assoc]
      rw [hzero]
      decide
  yearByte_eq word h := by rw [if_pos h]
  rest_eq word := by
    split
    · rfl
    · simp [BitVec.and_assoc]

/-- A peripheral that answers at once. -/
def readyRtc : RtcModule := ⟨0#32, 0#32, 0#32, ⟨fun _ => 0x60#32, 0⟩⟩

/-- On 1 January 2256 the year is cut to a byte and the clock is set to 1 January 2000. -/
theorem roundTrip_fails : ¬∀ hw rtc t, RoundTrip hw rtc t := by
  intro h
  have hset := (h twoDigitRegister readyRtc 9025257600).1
  exact absurd (hset (by decide +kernel)) (by decide +kernel)

end N32L43x.Rtc
