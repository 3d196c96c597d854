import N32L43x.RtErr
import Mathlib.Data.BitVec
import Mathlib.Tactic.Ring

/-!
The watchdog driver.  `RT_DEVICE_CTRL_WDT_SET_TIMEOUT` turns milliseconds into a count of the LSI over
32; the two reads turn the count back with the code of the prescaler in place of its divider and
without the factor for milliseconds, and one of them takes seconds off.  The register of the prescaler
is read as it is, and it is zero after reset.
-/

namespace N32L43x.Wdt

/-! ### The driver -/

/-- The registers of the watchdog, the switch of the LSI, and the driver's variables. -/
structure Device where
  /-- `IWDG->KEY`, as last written -/
  key : BitVec 32
  /-- `IWDG->PREDIV` -/
  prediv : BitVec 32
  /-- `IWDG->RELV` -/
  relv : BitVec 32
  /-- the LSI oscillator is enabled -/
  lsiEnabled : Bool
  /-- `LsiFreq` -/
  lsiFreq : BitVec 32
  /-- `last_tick` -/
  lastTick : BitVec 32

/-- The state after reset. -/
def Device.init : Device where
  key := 0
  prediv := 0
  relv := 0xFFF
  lsiEnabled := false
  lsiFreq := 40000
  lastTick := 0

/-- `IWDG_PRESCALER_DIV32`. -/
def iwdgPrescalerDiv32 : BitVec 32 := 3

/-- `IWDG_WriteConfig`, with `IWDG_WRITE_ENABLE` or `IWDG_WRITE_DISABLE`. -/
def iwdgWriteConfig (d : Device) (access : Bool) : Device :=
  { d with key := if access then 0x5555 else 0 }

/-- `IWDG_ReloadKey`: the counter starts again from the reload value. -/
def iwdgReloadKey (d : Device) : Device := { d with key := 0xAAAA }

/-- `IWDG_Enable`. -/
def iwdgEnable (d : Device) : Device := { d with key := 0xCCCC }

/-- `n32_wdt_open`; the wait for the oscillator is left out. -/
def n32WdtOpen (d : Device) : Device :=
  iwdgEnable (iwdgReloadKey { d with lsiEnabled := true })

/-- `n32_wdt_close`. -/
def n32WdtClose (d : Device) : Device := { d with lsiEnabled := false }

/-- `n32_wdt_refresh`. -/
def n32WdtRefresh (d : Device) : Device := iwdgReloadKey d

/-- The commands of `n32_wdt_control`. -/
inductive Cmd where
  | getTimeout
  | setTimeout
  | getTimeleft
  | keepalive
  | start
  | stop
  | other
deriving DecidableEq

/-- A 32-bit division, `none` if it divides by zero. -/
def udiv32 (x y : BitVec 32) : Option (BitVec 32) := if y = 0 then none else some (x / y)

/-- The largest timeout `SET_TIMEOUT` takes, `0xFFF * 32 * 1000 / LsiFreq`. -/
def maxTimeout (d : Device) : Option (BitVec 32) := udiv32 (0xFFF * 32 * 1000) d.lsiFreq

/-- The branch for `SET_TIMEOUT`, once its bound is known. -/
def setTimeout (d : Device) (args : BitVec 16) (limit : BitVec 32) : Device × BitVec 16 × RtErr :=
  if args.setWidth 32 > limit then (d, args, .einval)
  else
    let d := iwdgWriteConfig d true
    let d := { d with prediv := iwdgPrescalerDiv32 }
    let reloadValue : BitVec 16 := (args.setWidth 32 * d.lsiFreq / 1000 / 32).setWidth 16
    let d := { d with relv := reloadValue.setWidth 32 }
    (iwdgWriteConfig d false, args, .eok)

/-- `n32_wdt_control`: the state, the `uint16_t` behind `args` and the result; `none` if the call
divides by zero. -/
def n32WdtControl (d : Device) (tick : BitVec 32) (args : BitVec 16) :
    Cmd → Option (Device × BitVec 16 × RtErr)
  | .getTimeout =>
    (udiv32 (d.relv * d.lsiFreq) d.prediv).map fun value => (d, value.setWidth 16, .eok)
  | .setTimeout => (maxTimeout d).map (setTimeout d args)
  | .getTimeleft =>
    (udiv32 (d.relv * d.lsiFreq) d.prediv).map fun value =>
      (d, (value - (tick - d.lastTick) / 1000).setWidth 16, .eok)
  | .keepalive => some (n32WdtRefresh { d with lastTick := tick }, args, .eok)
  | .start => some ({ n32WdtOpen d with lastTick := tick }, args, .eok)
  | .stop => some (n32WdtClose d, args, .eok)
  | .other => some (d, args, .einval)

/-! ### The property -/

/-- `GET_TIMEOUT` gives the timeout back, short of it by less than a count of 32 periods of the LSI;
times are in milliseconds. -/
def RoundTrip (d : Device) (v : BitVec 16) : Prop :=
  ∀ tick args, ∃ w, n32WdtControl d tick args .getTimeout = some (d, w, .eok) ∧ w.toNat ≤ v.toNat ∧
    (v.toNat - w.toNat) * d.lsiFreq.toNat < 32 * 1000

/-- The seconds `GET_TIMELEFT` takes off. -/
def elapsed (d : Device) (tick : BitVec 32) : ℕ := (tick - d.lastTick).toNat / 1000

/-- `GET_TIMELEFT` stays within what `GET_TIMEOUT` says and does not wrap below zero. -/
def TimeleftOk (d : Device) (tick : BitVec 32) : Prop :=
  ∀ args, ∃ w left, n32WdtControl d tick args .getTimeout = some (d, w, .eok) ∧
    n32WdtControl d tick args .getTimeleft = some (d, left, .eok) ∧ left.toNat + elapsed d tick = w.toNat

/-- No command divides by zero. -/
def NoDivZero (d : Device) : Prop := ∀ tick args cmd, n32WdtControl d tick args cmd ≠ none

/-- The whole law for a timeout: what holds once it is set, and that no state of the prescaler makes a
command divide by zero. -/
def WatchdogLaw (d : Device) (v : BitVec 16) : Prop :=
  (∀ tick d', n32WdtControl d tick v .setTimeout = some (d', v, .eok) →
    RoundTrip d' v ∧ ∀ tick', TimeleftOk d' tick') ∧
  ∀ prediv, NoDivZero { d with prediv := prediv }

/-! ### What the commands do -/

lemma udiv32_eq_none {x y : BitVec 32} : udiv32 x y = none ↔ y = 0 := by
  unfold udiv32
  split <;> simp_all

lemma udiv32_of_ne {x y : BitVec 32} (h : y ≠ 0) : udiv32 x y = some (x / y) := if_neg h

/-- **The commands that divide by zero**: both reads while the prescaler's register is zero, and setting
with no LSI frequency. -/
theorem n32WdtControl_eq_none {d : Device} {tick : BitVec 32} {args : BitVec 16} {cmd : Cmd} :
    n32WdtControl d tick args cmd = none ↔
      (cmd = .getTimeout ∨ cmd = .getTimeleft) ∧ d.prediv = 0 ∨ cmd = .setTimeout ∧ d.lsiFreq = 0 := by
  cases cmd <;> simp [n32WdtControl, maxTimeout, udiv32_eq_none]

lemma noDivZero_iff {d : Device} (hL : d.lsiFreq ≠ 0) : NoDivZero d ↔ d.prediv ≠ 0 := by
  simp only [NoDivZero, ne_eq, n32WdtControl_eq_none, hL, and_false, or_false, not_and]
  constructor
  · exact fun h => h 0 0 .getTimeout (Or.inl rfl)
  · exact fun h _ _ _ _ => h

/-- The count that a timeout is set to. -/
def countOf (lsiFreq v : ℕ) : ℕ := v * lsiFreq / 32000

lemma setWidth_toNat (v : BitVec 16) : (v.setWidth 32).toNat = v.toNat := by
  rw [BitVec.toNat_setWidth]
  exact Nat.mod_eq_of_lt (by omega)

/-- The timeouts that are set: those whose count fits the register, so nothing is lost. -/
lemma setTimeout_spec {d d' : Device} {tick : BitVec 32} {v : BitVec 16}
    (h : n32WdtControl d tick v .setTimeout = some (d', v, .eok)) :
    v.toNat * d.lsiFreq.toNat ≤ 131040000 ∧ d'.prediv = 3 ∧ d'.lsiFreq = d.lsiFreq ∧
      d'.lastTick = d.lastTick ∧ d'.relv.toNat = countOf d.lsiFreq.toNat v.toNat := by
  have hL : d.lsiFreq ≠ 0 := by
    intro hL
    simp [n32WdtControl, maxTimeout, udiv32, hL] at h
  have hpos : 0 < d.lsiFreq.toNat := by
    rw [Nat.pos_iff_ne_zero]
    exact fun h0 => hL (BitVec.eq_of_toNat_eq h0)
  rw [n32WdtControl, maxTimeout, udiv32_of_ne hL, Option.map_some, Option.some_inj] at h
  unfold setTimeout at h
  split at h
  · cases h
  next hle =>
  have hlim : (0xFFF * 32 * 1000 / d.lsiFreq).toNat = 131040000 / d.lsiFreq.toNat := by
    rw [BitVec.toNat_udiv]
    rfl
  rw [gt_iff_lt, BitVec.lt_def, hlim, setWidth_toNat, not_lt, Nat.le_div_iff_mul_le hpos] at hle
  have hprod : (v.setWidth 32 * d.lsiFreq).toNat = v.toNat * d.lsiFreq.toNat := by
    rw [BitVec.toNat_mul, setWidth_toNat]
    exact Nat.mod_eq_of_lt (by omega)
  have hcount : (v.setWidth 32 * d.lsiFreq / 1000 / 32).toNat = countOf d.lsiFreq.toNat v.toNat := by
    rw [BitVec.toNat_udiv, BitVec.toNat_udiv, hprod]
    exact Nat.div_div_eq_div_mul _ 1000 32
  obtain ⟨rfl, -, -⟩ := Prod.ext_iff.1 h |>.imp_right Prod.ext_iff.1
  refine ⟨hle, rfl, rfl, rfl, ?_⟩
  change ((v.setWidth 32 * d.lsiFreq / 1000 / 32).setWidth 16 |>.setWidth 32).toNat = _
  rw [setWidth_toNat, BitVec.toNat_setWidth, hcount]
  unfold countOf
  exact Nat.mod_eq_of_lt (by omega)

end N32L43x.Wdt
