import N32L43x.Pm.Tickless

/-!
Arming the hardware timer: `pm_timer_start` on the registers of the LPTIM, for any
`RT_TICK_PER_SECOND`.  The ticks are turned into milliseconds before they are compared with what the
timer can count, and the product is taken modulo `2 ^ 32`, which does no harm for some timeouts.
-/

namespace N32L43x.Pm

open N32L43x.Lib.Bits

/-! ### The LPTIM -/

/-- The registers of the LPTIM that `pm_timer_start` writes. -/
structure LptimRegs where
  ctrl : BitVec 32
  cfg : BitVec 32
  inten : BitVec 32
  arr : BitVec 32
  compx : BitVec 32

/-- `MODIFY_REG`. -/
def modifyReg (reg clearMask setMask : BitVec 32) : BitVec 32 := reg &&& ~~~clearMask ||| setMask

/-- `LPTIM_CTRL_LPTIMEN`, `LPTIM_CTRL_SNGMST` and `LPTIM_CTRL_TSTCM`. -/
def lptimCtrlLptimen : BitVec 32 := 1
def lptimCtrlSngmst : BitVec 32 := 2
def lptimCtrlTstcm : BitVec 32 := 4

/-- `LPTIM_CFG_CLKPRE` and `LPTIM_INTEN_CMPMIE`. -/
def lptimCfgClkpre : BitVec 32 := 0xE00
def lptimIntenCmpmie : BitVec 32 := 1

/-- `LPTIM_SetAutoReload`. -/
def lptimSetAutoReload (l : LptimRegs) (autoReload : BitVec 32) : LptimRegs :=
  { l with arr := modifyReg l.arr 0xFFFF autoReload }

/-- `LPTIM_SetCompare`. -/
def lptimSetCompare (l : LptimRegs) (compareValue : BitVec 32) : LptimRegs :=
  { l with compx := modifyReg l.compx 0xFFFF compareValue }

/-- `LPTIM_StartCounter`. -/
def lptimStartCounter (l : LptimRegs) (operatingMode : BitVec 32) : LptimRegs :=
  { l with ctrl := modifyReg l.ctrl (lptimCtrlTstcm ||| lptimCtrlSngmst) operatingMode }

/-- `n32_pm_tick_from_os_tick`. -/
def n32PmTickFromOsTickOf (rtTickPerSecond tick : BitVec 32) : BitVec 32 :=
  tick * 1000 / rtTickPerSecond

/-- The milliseconds `pm_timer_start` arms the timer with. -/
def pmTimeout (rtTickPerSecond timeout : BitVec 32) : BitVec 32 :=
  let timeout := n32PmTickFromOsTickOf rtTickPerSecond timeout
  if timeout > 0xFFFF then 0xFFFF else timeout

/-- `pm_timer_start` on the registers. -/
def pmTimerStartRegs (rtTickPerSecond : BitVec 32) (l : LptimRegs) (timeout : BitVec 32) :
    LptimRegs :=
  let l := { l with ctrl := l.ctrl &&& ~~~lptimCtrlLptimen }
  if timeout ≠ rtTickMax then
    let timeout := pmTimeout rtTickPerSecond timeout
    let l := { l with cfg := modifyReg l.cfg lptimCfgClkpre 0 }
    let l := { l with inten := l.inten ||| lptimIntenCmpmie }
    let l := { l with ctrl := l.ctrl ||| lptimCtrlLptimen }
    let l := lptimSetAutoReload l timeout
    let l := lptimSetCompare l 0
    lptimStartCounter l lptimCtrlSngmst
  else l

/-- The auto-reload value in the register. -/
def LptimRegs.autoReload (l : LptimRegs) : BitVec 32 := l.arr &&& 0xFFFF

/-! ### What is armed -/

/-- The timer runs, with the auto-reload value of the exact conversion: it is not zero, and not
later than the timeout. -/
def Armed (rtTickPerSecond timeout : BitVec 32) (l : LptimRegs) : Prop :=
  l.ctrl.getLsbD 0 = true ∧ l.ctrl.getLsbD 1 = true ∧
    l.autoReload.toNat = min (timeout.toNat * 1000 / rtTickPerSecond.toNat) 65535 ∧
    0 < l.autoReload.toNat ∧ l.autoReload.toNat * rtTickPerSecond.toNat ≤ timeout.toNat * 1000

lemma autoReload_modifyReg (arr v : BitVec 32) (h : v.toNat ≤ 65535) :
    modifyReg arr 0xFFFF v &&& 0xFFFF = v := by
  have hmask (i : ℕ) : (0xFFFF#32).getLsbD i = decide (i < 16) := by
    have hones : (0xFFFF#32).getLsbD i = (65535).testBit i := rfl
    rw [hones, show (65535 : ℕ) = 2 ^ 16 - 1 by rfl, Nat.testBit_two_pow_sub_one]
  apply BitVec.eq_of_getLsbD_eq
  intro i hi
  simp only [modifyReg, BitVec.getLsbD_and, BitVec.getLsbD_or, BitVec.getLsbD_not]
  have hmask' : BitVec.getLsbD (65535 : BitVec 32) i = decide (i < 16) := hmask i
  rw [hmask']
  by_cases hlow : i < 16
  · simp [hlow]
  · have hv : v.getLsbD i = false := by
      rw [BitVec.getLsbD]
      apply Nat.testBit_lt_two_pow
      calc v.toNat < 2 ^ 16 := by omega
        _ ≤ 2 ^ i := Nat.pow_le_pow_right (by omega) (by omega)
    simp [hlow, hv]

lemma pmTimeout_toNat (rtTickPerSecond timeout : BitVec 32) :
    (pmTimeout rtTickPerSecond timeout).toNat =
      min (timeout.toNat * 1000 % 4294967296 / rtTickPerSecond.toNat) 65535 := by
  have hconv : (n32PmTickFromOsTickOf rtTickPerSecond timeout).toNat =
      timeout.toNat * 1000 % 4294967296 / rtTickPerSecond.toNat := by
    rw [n32PmTickFromOsTickOf, BitVec.toNat_udiv, BitVec.toNat_mul]
    rfl
  have hmax : BitVec.toNat (65535 : BitVec 32) = 65535 := rfl
  unfold pmTimeout
  simp only [gt_iff_lt, BitVec.lt_def, apply_ite BitVec.toNat, hconv]
  rw [hmax]
  split <;> omega

lemma pmTimerStartRegs_autoReload (rtTickPerSecond : BitVec 32) (l : LptimRegs) {timeout : BitVec 32}
    (h : timeout ≠ rtTickMax) :
    (pmTimerStartRegs rtTickPerSecond l timeout).autoReload = pmTimeout rtTickPerSecond timeout := by
  unfold pmTimerStartRegs
  rw [if_pos h]
  apply autoReload_modifyReg
  rw [pmTimeout_toNat]
  exact Nat.min_le_right _ _

lemma pmTimerStartRegs_ctrl (rtTickPerSecond : BitVec 32) (l : LptimRegs) {timeout : BitVec 32}
    (h : timeout ≠ rtTickMax) :
    (pmTimerStartRegs rtTickPerSecond l timeout).ctrl.getLsbD 0 = true ∧
      (pmTimerStartRegs rtTickPerSecond l timeout).ctrl.getLsbD 1 = true := by
  unfold pmTimerStartRegs
  rw [if_pos h]
  simp only [lptimStartCounter, lptimSetCompare, lptimSetAutoReload, modifyReg]
  constructor
  · simp [lptimCtrlLptimen, lptimCtrlSngmst, lptimCtrlTstcm]
  · simp [lptimCtrlLptimen, lptimCtrlSngmst, lptimCtrlTstcm]

/-- The clamped quotient is the exact one if nothing is lost of the product, or enough is left of it
to reach the clamp. -/
lemma min_div_eq_iff {x T : ℕ} (hT : 0 < T) (hT' : T ≤ 1000) :
    min (x % 4294967296 / T) 65535 = min (x / T) 65535 ↔
      x < 4294967296 ∨ 65535 * T ≤ x % 4294967296 := by
  have hclamp (y : ℕ) : 65535 ≤ y / T ↔ 65535 * T ≤ y := Nat.le_div_iff_mul_le hT
  by_cases hx : x < 4294967296
  · rw [Nat.mod_eq_of_lt hx]
    exact iff_of_true rfl (Or.inl hx)
  · have hlarge : 65535 ≤ x / T := (hclamp x).2 (by omega)
    rw [or_iff_right hx, ← hclamp, min_eq_right hlarge]
    omega

/-- **The timer is armed right, exactly**: for a timeout whose milliseconds fit 32 bits, or leave
enough modulo `2 ^ 32` for the timer's longest time. -/
theorem armed_iff (rtTickPerSecond timeout : BitVec 32) (l : LptimRegs)
    (hT : 0 < rtTickPerSecond.toNat ∧ rtTickPerSecond.toNat ≤ 1000) (hpos : 0 < timeout.toNat)
    (hmax : timeout ≠ rtTickMax) :
    Armed rtTickPerSecond timeout (pmTimerStartRegs rtTickPerSecond l timeout) ↔
      timeout.toNat * 1000 < 4294967296 ∨
        65535 * rtTickPerSecond.toNat ≤ timeout.toNat * 1000 % 4294967296 := by
  obtain ⟨hT0, hT1⟩ := hT
  obtain ⟨hen, hstart⟩ := pmTimerStartRegs_ctrl rtTickPerSecond l hmax
  rw [Armed, pmTimerStartRegs_autoReload _ _ hmax, pmTimeout_toNat, ← min_div_eq_iff hT0 hT1]
  refine ⟨fun h => h.2.2.1, fun h => ⟨hen, hstart, h, ?_, ?_⟩⟩
  · rw [h]
    have hone : 1 ≤ timeout.toNat * 1000 / rtTickPerSecond.toNat :=
      (Nat.le_div_iff_mul_le hT0).2 (by omega)
    omega
  · rw [h]
    calc min (timeout.toNat * 1000 / rtTickPerSecond.toNat) 65535 * rtTickPerSecond.toNat
        ≤ timeout.toNat * 1000 / rtTickPerSecond.toNat * rtTickPerSecond.toNat :=
          Nat.mul_le_mul_right _ (Nat.min_le_left _ _)
      _ ≤ timeout.toNat * 1000 := Nat.div_mul_le_self _ _

/-- A minute, with a thousand ticks a second. -/
theorem armed_iff_minute :
    Armed 1000 60000 (pmTimerStartRegs 1000 ⟨0, 0, 0, 0, 0⟩ 60000) ↔
      (60000#32).toNat * 1000 < 4294967296 ∨
        65535 * (1000#32).toNat ≤ (60000#32).toNat * 1000 % 4294967296 :=
  armed_iff 1000 60000 ⟨0, 0, 0, 0, 0⟩ ⟨by decide, by decide⟩ (by decide) (by decide)

/-- After 4294968 ticks, some 72 minutes at a thousand a second, the timer is armed with zero. -/
theorem not_armed_72min :
    ¬ Armed 1000 4294968 (pmTimerStartRegs 1000 ⟨0, 0, 0, 0, 0⟩ 4294968) := by
  rintro ⟨-, -, -, hpos, -⟩
  revert hpos
  decide +kernel

end N32L43x.Pm
