import N32L43x.Lib.Bits
import N32L43x.Libc.Ctime
import N32L43x.RtErr

/-!
The real-time clock: the calendar part of the peripheral library, which keeps the date and the time
as BCD fields of two registers, and the driver that sets and reads them.
-/

namespace N32L43x.Rtc

open N32L43x.Lib.Bits N32L43x.Libc

/-! ### Binary coded decimals -/

/-- The loop of `RTC_ByteToBcd2`; a byte has at most 25 tens. -/
def bcdLoop : ℕ → BitVec 8 → BitVec 8 → BitVec 8 × BitVec 8
  | 0, bcdhigh, value => (bcdhigh, value)
  | fuel + 1, bcdhigh, value =>
    if value ≥ 10#8 then bcdLoop fuel (bcdhigh + 1#8) (value - 10#8) else (bcdhigh, value)

/-- `RTC_ByteToBcd2`. -/
def rtcByteToBcd2 (value : BitVec 8) : BitVec 8 :=
  let (bcdhigh, value) := bcdLoop 26 0#8 value
  bcdhigh <<< 4 ||| value

/-- `RTC_Bcd2ToByte`. -/
def rtcBcd2ToByte (value : BitVec 8) : BitVec 8 :=
  (value &&& 0xF0#8) >>> 4 * 10#8 + (value &&& 0x0F#8)

/-! ### The registers -/

inductive ErrorStatus where
  | success
  | error
deriving DecidableEq

/-- The reads of `INITSTS` that the code tests. -/
structure Polls where
  /-- the value at each read -/
  initsts : ℕ → BitVec 32
  /-- the number of reads so far -/
  reads : ℕ

/-- The calendar registers of `RTC_Module`. -/
structure RtcModule where
  tsh : BitVec 32
  date : BitVec 32
  ctrl : BitVec 32
  polls : Polls

/-- A read of `INITSTS`, tested for a flag. -/
def Polls.test (p : Polls) (flag : BitVec 32) : Polls × Bool :=
  ({ p with reads := p.reads + 1 }, anySet (p.initsts p.reads) flag)

/-- The `do … while` loops on a flag: at most `n` reads, up to the first that shows it. -/
def pollInitsts (flag : BitVec 32) : ℕ → Polls → Polls
  | 0, p => p
  | n + 1, p =>
    let (p, set) := p.test flag
    if set then p else pollInitsts flag n p

/-- The status a function returns for the flag it reads last. -/
def statusOf (set : Bool) : ErrorStatus := if set then .success else .error

def initmodeTimeout : ℕ := 0x2000

def synchroTimeout : ℕ := 0x8000

/-- `RTC_EnterInitMode`.  The wait on `SUBS` before it is bounded and has no result. -/
def rtcEnterInitMode (p : Polls) : Polls × ErrorStatus :=
  let (p, set) := p.test (bit 32 6)
  if set then (p, .success)
  else
    let p := pollInitsts (bit 32 6) initmodeTimeout p
    let (p, set) := p.test (bit 32 6)
    (p, statusOf set)

/-- `RTC_WaitForSynchro`. -/
def rtcWaitForSynchro (p : Polls) : Polls × ErrorStatus :=
  let p := pollInitsts (bit 32 5) synchroTimeout p
  let (p, set) := p.test (bit 32 5)
  (p, statusOf set)

/-- The waits after a write: for the shadow registers unless they are bypassed, and once more in
either case. -/
def waitAfterWrite (ctrl : BitVec 32) (p : Polls) : Polls × ErrorStatus :=
  let (p, status) := if ctrl &&& 0x20#32 = 0#32 then rtcWaitForSynchro p else (p, .success)
  if status ≠ .error then rtcWaitForSynchro p else (p, status)

/-- What `RTC_SetDate` and `RTC_ConfigTime` have in common: initialization mode, the write of a
register and the waits. -/
def updateCalendar (rtc : RtcModule) (write : RtcModule → RtcModule) : RtcModule × ErrorStatus :=
  let (p, status) := rtcEnterInitMode rtc.polls
  let rtc := { rtc with polls := p }
  if status = .error then (rtc, .error)
  else
    let rtc := write rtc
    let (p, status) := waitAfterWrite rtc.ctrl rtc.polls
    ({ rtc with polls := p }, status)

/-! ### Dates and times -/

/-- `RTC_DateType`. -/
structure RtcDateType where
  weekDay : BitVec 8
  month : BitVec 8
  date : BitVec 8
  year : BitVec 8

/-- `RTC_TimeType`. -/
structure RtcTimeType where
  hours : BitVec 8
  minutes : BitVec 8
  seconds : BitVec 8
  h12 : BitVec 8

/-- The word `RTC_SetDate` writes in binary format.  A month with bit 4 set is taken for BCD. -/
def rtcDateWord (d : RtcDateType) : BitVec 32 :=
  let month := if d.month &&& 0x10#8 = 0x10#8 then (d.month &&& ~~~0x10#8) + 0x0A#8 else d.month
  ((rtcByteToBcd2 d.year).setWidth 32 <<< 16 ||| (rtcByteToBcd2 month).setWidth 32 <<< 8 |||
    (rtcByteToBcd2 d.date).setWidth 32 ||| d.weekDay.setWidth 32 <<< 13) &&& 0x00FFFF3F#32

/-- The word `RTC_ConfigTime` writes in binary format, in 12-hour mode or not. -/
def rtcTimeWord (hfmt : Bool) (t : RtcTimeType) : BitVec 32 :=
  let h12 := if hfmt then t.h12 else 0#8
  ((rtcByteToBcd2 t.hours).setWidth 32 <<< 16 ||| (rtcByteToBcd2 t.minutes).setWidth 32 <<< 8 |||
    (rtcByteToBcd2 t.seconds).setWidth 32 ||| h12.setWidth 32 <<< 16) &&& 0x007F7F7F#32

/-- The byte of the date register that holds the year. -/
def yearByte (word : BitVec 32) : BitVec 8 := ((word &&& 0x00FF0000#32) >>> 16).setWidth 8

/-- Both digits of a BCD byte are decimal. -/
def IsBcd (b : BitVec 8) : Prop := (b &&& 0x0F#8) ≤ 9#8 ∧ b >>> 4 ≤ 9#8

instance (b : BitVec 8) : Decidable (IsBcd b) := inferInstanceAs (Decidable (_ ∧ _))

/-- What the date register holds after a write: the fields of the word, with a year of two decimal
digits.  A year that has them is kept. -/
structure DateRegister where
  latch : BitVec 32 → BitVec 32
  isBcd_year : ∀ word, IsBcd (yearByte (latch word))
  yearByte_eq : ∀ word, IsBcd (yearByte word) → yearByte (latch word) = yearByte word
  rest_eq : ∀ word, latch word &&& 0xFF3F#32 = word &&& 0xFF3F#32

/-- `RTC_SetDate`. -/
def rtcSetDate (hw : DateRegister) (rtc : RtcModule) (d : RtcDateType) : RtcModule × ErrorStatus :=
  updateCalendar rtc fun rtc => { rtc with date := hw.latch (rtcDateWord d) }

/-- `RTC_ConfigTime`. -/
def rtcConfigTime (rtc : RtcModule) (t : RtcTimeType) : RtcModule × ErrorStatus :=
  let hfmt := anySet rtc.ctrl 0x40#32
  updateCalendar rtc fun rtc => { rtc with tsh := rtcTimeWord hfmt t }

/-- `RTC_GetDate`. -/
def rtcGetDate (rtc : RtcModule) : RtcDateType :=
  let tmpregister := rtc.date &&& 0x00FFFF3F#32
  { year := rtcBcd2ToByte (((tmpregister &&& 0x00FF0000#32) >>> 16).setWidth 8)
    month := rtcBcd2ToByte (((tmpregister &&& 0x00001F00#32) >>> 8).setWidth 8)
    date := rtcBcd2ToByte ((tmpregister &&& 0x0000003F#32).setWidth 8)
    weekDay := ((tmpregister &&& 0x0000E000#32) >>> 13).setWidth 8 }

/-- `RTC_GetTime`. -/
def rtcGetTime (rtc : RtcModule) : RtcTimeType :=
  let tmpregister := rtc.tsh &&& 0x007F7F7F#32
  { hours := rtcBcd2ToByte (((tmpregister &&& 0x003F0000#32) >>> 16).setWidth 8)
    minutes := rtcBcd2ToByte (((tmpregister &&& 0x00007F00#32) >>> 8).setWidth 8)
    seconds := rtcBcd2ToByte ((tmpregister &&& 0x0000007F#32).setWidth 8)
    h12 := ((tmpregister &&& 0x00400000#32) >>> 16).setWidth 8 }

/-! ### The driver -/

/-- The date `set_rtc_time_stamp` hands to the library. -/
def dateOf (time : Tm) : RtcDateType where
  date := BitVec.ofInt 8 time.tmMday
  month := BitVec.ofInt 8 (time.tmMon + 1)
  year := BitVec.ofInt 8 (time.tmYear - 100)
  weekDay := BitVec.ofInt 8 (time.tmWday + 1)

/-- The time it hands to the library. -/
def timeOf (time : Tm) : RtcTimeType where
  seconds := BitVec.ofInt 8 time.tmSec
  minutes := BitVec.ofInt 8 time.tmMin
  hours := BitVec.ofInt 8 time.tmHour
  h12 := 0#8

/-- `set_rtc_time_stamp`. -/
def setRtcTimeStamp (hw : DateRegister) (rtc : RtcModule) (timeStamp : ℤ) : RtcModule × RtErr :=
  let time := gmtimeR timeStamp
  if time.tmYear < 100 then (rtc, .error)
  else
    let (rtc, status) := rtcSetDate hw rtc (dateOf time)
    if status ≠ .success then (rtc, .error)
    else
      let (rtc, status) := rtcConfigTime rtc (timeOf time)
      if status ≠ .success then (rtc, .error) else (rtc, .eok)

/-- `n32_rtc_set_secs`. -/
def n32RtcSetSecs (hw : DateRegister) (rtc : RtcModule) (sec : ℤ) : RtcModule × RtErr :=
  let (rtc, result) := setRtcTimeStamp hw rtc sec
  if result ≠ .eok then (rtc, .error) else (rtc, .eok)

/-- The structure that `n32_rtc_get_timeval` fills from the two registers. -/
def readTm (rtc : RtcModule) : Tm :=
  let time := rtcGetTime rtc
  let date := rtcGetDate rtc
  { tmSec := time.seconds.toNat
    tmMin := time.minutes.toNat
    tmHour := time.hours.toNat
    tmMday := date.date.toNat
    tmMon := date.month.toNat - 1
    tmYear := date.year.toNat + 100
    tmWday := date.weekDay.toNat
    tmYday := 0
    tmIsdst := 0 }

/-- `n32_rtc_get_timeval`. -/
def n32RtcGetTimeval (rtc : RtcModule) : ℤ := (timegm (readTm rtc)).1

/-- `n32_rtc_get_secs`. -/
def n32RtcGetSecs (rtc : RtcModule) : ℤ := n32RtcGetTimeval rtc

end N32L43x.Rtc
