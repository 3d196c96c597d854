import N32L43x.Wdt.Control

/-!
What the watchdog reads back once a timeout is set.  The law of the two reads fails for every timeout,
since the prescaler's register is zero after reset and since the time that is left wraps when the
seconds exceed what is read; the theorem at the end says for each part when it holds.
-/

namespace N32L43x.Wdt

/-! ### The value that is read -/

/-- What the reads make of the count of a timeout, in 32 bits: LSI periods over three. -/
def readOf (lsiFreq v : ℕ) : ℕ := countOf lsiFreq v * lsiFreq % 4294967296 / 3

/-- The timeout read back is within a count of the one that was set: the LSI frequency and the modulus
make it so. -/
def ReadBack (lsiFreq v : ℕ) : Prop :=
  readOf lsiFreq v % 65536 ≤ v ∧ (v - readOf lsiFreq v % 65536) * lsiFreq < 32000

instance (lsiFreq v : ℕ) : Decidable (ReadBack lsiFreq v) := inferInstanceAs (Decidable (_ ∧ _))

section AfterSet

variable {d d' : Device} {tick : BitVec 32} {v : BitVec 16}
  (h : n32WdtControl d tick v .setTimeout = some (d', v, .eok))
include h

lemma read_toNat : (d'.relv * d'.lsiFreq / d'.prediv).toNat = readOf d.lsiFreq.toNat v.toNat := by
  obtain ⟨-, hprediv, hfreq, -, hrelv⟩ := setTimeout_spec h
  rw [BitVec.toNat_udiv, BitVec.toNat_mul, hrelv, hprediv, hfreq]
  rfl

lemma udiv32_read :
    udiv32 (d'.relv * d'.lsiFreq) d'.prediv = some (d'.relv * d'.lsiFreq / d'.prediv) := by
  obtain ⟨-, hprediv, -⟩ := setTimeout_spec h
  apply udiv32_of_ne
  rw [hprediv]
  decide

/-- `GET_TIMEOUT` after the timeout is set. -/
lemma getTimeout_spec (tick' : BitVec 32) (args : BitVec 16) :
    ∃ w, n32WdtControl d' tick' args .getTimeout = some (d', w, .eok) ∧
      w.toNat = readOf d.lsiFreq.toNat v.toNat % 65536 := by
  refine ⟨(d'.relv * d'.lsiFreq / d'.prediv).setWidth 16, ?_, ?_⟩
  · rw [n32WdtControl, udiv32_read h, Option.map_some]
  · rw [BitVec.toNat_setWidth, read_toNat h]

/-- `GET_TIMELEFT` after the timeout is set: the seconds are taken off in 32 bits. -/
lemma getTimeleft_spec (tick' : BitVec 32) (args : BitVec 16) :
    ∃ left, n32WdtControl d' tick' args .getTimeleft = some (d', left, .eok) ∧
      left.toNat = (4294967296 - elapsed d' tick' + readOf d.lsiFreq.toNat v.toNat) % 65536 := by
  refine ⟨(d'.relv * d'.lsiFreq / d'.prediv - (tick' - d'.lastTick) / 1000).setWidth 16, ?_, ?_⟩
  · rw [n32WdtControl, udiv32_read h, Option.map_some]
  · have hsecs : ((tick' - d'.lastTick) / 1000).toNat = elapsed d' tick' := by
      rw [BitVec.toNat_udiv]
      rfl
    rw [BitVec.toNat_setWidth, BitVec.toNat_sub, hsecs, read_toNat h]
    exact Nat.mod_mod_of_dvd _ (by decide)

lemma readBack_iff : RoundTrip d' v ↔ ReadBack d.lsiFreq.toNat v.toNat := by
  obtain ⟨-, -, hfreq, -⟩ := setTimeout_spec h
  constructor
  · intro hround
    obtain ⟨w, hget, hle, hnear⟩ := hround 0 0
    obtain ⟨w', hget', hw'⟩ := getTimeout_spec h 0 0
    obtain rfl : w = w' := by simpa using hget.symm.trans hget'
    rw [hw', hfreq] at hnear
    rw [hw'] at hle
    exact ⟨hle, hnear⟩
  · rintro ⟨hle, hnear⟩ tick' args
    obtain ⟨w, hget, hw⟩ := getTimeout_spec h tick' args
    refine ⟨w, hget, by rw [hw]; exact hle, ?_⟩
    rw [hw, hfreq]
    exact hnear

/-- The time left is right until the seconds exceed the value that `GET_TIMEOUT` gives. -/
lemma timeleftOk_iff (tick' : BitVec 32) :
    TimeleftOk d' tick' ↔ elapsed d' tick' ≤ readOf d.lsiFreq.toNat v.toNat % 65536 := by
  have hsecs : elapsed d' tick' < 4294968 := by
    have hlt := (tick' - d'.lastTick).isLt
    unfold elapsed
    omega
  constructor
  · intro hok
    obtain ⟨w, left, hget, -, hsum⟩ := hok 0
    obtain ⟨w', hget', hw'⟩ := getTimeout_spec h tick' 0
    obtain rfl : w = w' := by simpa using hget.symm.trans hget'
    omega
  · intro hle args
    obtain ⟨w, hget, hw⟩ := getTimeout_spec h tick' args
    obtain ⟨left, hleft, hval⟩ := getTimeleft_spec h tick' args
    refine ⟨w, left, hget, hleft, ?_⟩
    omega

/-- There is a later tick at which the time left has wrapped. -/
lemma not_timeleftOk : ∃ tick', ¬ TimeleftOk d' tick' := by
  have hlt : readOf d.lsiFreq.toNat v.toNat % 65536 < 65536 := Nat.mod_lt _ (by decide)
  generalize hw : readOf d.lsiFreq.toNat v.toNat % 65536 = w at hlt
  refine ⟨d'.lastTick + BitVec.ofNat 32 ((w + 1) * 1000), ?_⟩
  rw [timeleftOk_iff h, hw, elapsed, BitVec.add_comm, BitVec.add_sub_cancel, BitVec.toNat_ofNat,
    Nat.mod_eq_of_lt (by omega)]
  omega

end AfterSet

/-- With the driver's LSI frequency no timeout but zero is read back. -/
lemma readBack_default {v : ℕ} (hv : v < 3277) (h : ReadBack 40000 v) : v = 0 := by
  have hall : ∀ a < 58, ∀ b < 57, ReadBack 40000 (57 * a + b) → 57 * a + b = 0 := by decide +kernel
  have hsplit : 57 * (v / 57) + v % 57 = v := Nat.div_add_mod v 57
  have hv' := hall (v / 57) (by omega) (v % 57) (by omega)
  rw [hsplit] at hv'
  exact hv' h

/-- **The law of the watchdog fails for every timeout**: a prescaler register at zero makes the reads
divide by zero.  Of its parts, no command divides by zero exactly while the register is not zero; the
timeout comes back exactly if its value modulo `2 ^ 32` and `2 ^ 16` happens to be within a count of it,
which with the driver's own frequency is for the timeout zero only; and the time left is right exactly
until the seconds exceed that value, so not at every later tick. -/
theorem watchdogLaw_never (d : Device) (v : BitVec 16) :
    ¬ WatchdogLaw d v ∧
    (d.lsiFreq ≠ 0 → (NoDivZero d ↔ d.prediv ≠ 0)) ∧
    ∀ tick d', n32WdtControl d tick v .setTimeout = some (d', v, .eok) →
      (RoundTrip d' v ↔ ReadBack d.lsiFreq.toNat v.toNat) ∧
      (d.lsiFreq = 40000 → (RoundTrip d' v ↔ v = 0)) ∧
      (∀ tick', TimeleftOk d' tick' ↔
        elapsed d' tick' ≤ readOf d.lsiFreq.toNat v.toNat % 65536) ∧
      ∃ tick', ¬ TimeleftOk d' tick' := by
  refine ⟨fun hlaw => ?_, noDivZero_iff, fun tick d' h => ?_⟩
  · exact hlaw.2 0 0 0 .getTimeout (n32WdtControl_eq_none.2 (Or.inl ⟨Or.inl rfl, rfl⟩))
  · refine ⟨readBack_iff h, fun hfreq => ?_, timeleftOk_iff h, not_timeleftOk h⟩
    obtain ⟨hfits, -⟩ := setTimeout_spec h
    rw [hfreq] at hfits
    change v.toNat * 40000 ≤ 131040000 at hfits
    have hback : RoundTrip d' v ↔ ReadBack 40000 v.toNat := by
      have hiff := readBack_iff h
      rw [hfreq] at hiff
      exact hiff
    rw [hback]
    constructor
    · exact fun hread => BitVec.eq_of_toNat_eq (readBack_default (by omega) hread)
    · rintro rfl
      decide

/-- After reset a read of the timeout divides by zero.  A timeout of a second is set, and is read back as
20522. -/
theorem not_watchdogLaw_second :
    n32WdtControl Device.init 0 0 .getTimeout = none ∧
      ∃ d', n32WdtControl Device.init 0 1000 .setTimeout = some (d', 1000, .eok) ∧
        n32WdtControl d' 0 0 .getTimeout = some (d', 20522, .eok) ∧ ¬ RoundTrip d' 1000 := by
  refine ⟨by rfl, { Device.init with key := 0, prediv := 3, relv := 1250 }, by rfl, by rfl, ?_⟩
  intro hround
  obtain ⟨w, hget, hle, -⟩ := hround 0 0
  have hread : n32WdtControl { Device.init with key := 0, prediv := 3, relv := 1250 } 0 0 .getTimeout =
      some ({ Device.init with key := 0, prediv := 3, relv := 1250 }, 20522, .eok) := by rfl
  rw [hread] at hget
  obtain rfl : 20522 = w := by simpa using hget
  exact absurd hle (by decide)

end N32L43x.Wdt
