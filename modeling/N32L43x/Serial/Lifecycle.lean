import Mathlib.Data.List.Perm.Basic
import Mathlib.Data.List.Range
import N32L43x.Lib.Run
import N32L43x.Serial.Device

/-!
What is allocated for a serial device between its first open and its last close.  The driver takes down at
every open what it is opened for, and frees at the last close what it last took down.
-/

namespace N32L43x.Serial.Device

open N32L43x.Lib.Bits N32L43x.Lib.Run

variable {s s' : SerialDevice} {oflag : BitVec 16} {m : BitVec 16}

/-! ### The heap -/

def txObjects : Option TxObject → List ℕ
  | none => []
  | some (.fifo addr) => [addr]
  | some (.dma addr queue) => [addr, queue]

/-- The objects the device points to and those that were freed are the objects that were allocated, each
of them once. -/
def Heap (s : SerialDevice) : Prop :=
  (s.freed ++ s.serialRx.toList ++ txObjects s.serialTx).Perm (List.range s.allocated)

/-- The next object is allocated. -/
lemma perm_range_succ {l l' : List ℕ} {n : ℕ} (h : (l ++ l').Perm (List.range n)) :
    (l ++ n :: l').Perm (List.range (n + 1)) := by
  rw [List.range_succ]
  exact (List.perm_middle.trans (h.cons n)).trans (List.perm_append_singleton n _).symm

/-! ### Opening -/

/-- The mode that a direction is opened in, of the two it has. -/
def mode (int dma oflag : BitVec 16) : BitVec 16 :=
  if anySet oflag int then int else if anySet oflag dma then dma else 0#16

lemma mode_cases (int dma oflag : BitVec 16) :
    (anySet oflag int = true ∧ mode int dma oflag = int ∧ anySet oflag (int ||| dma) = true) ∨
      (¬ anySet oflag int = true ∧ anySet oflag dma = true ∧ mode int dma oflag = dma ∧
        anySet oflag (int ||| dma) = true) ∨
      (¬ anySet oflag int = true ∧ ¬ anySet oflag dma = true ∧ mode int dma oflag = 0#16 ∧
        anySet oflag (int ||| dma) = false) := by
  rw [anySet_or_right]
  unfold mode
  by_cases hint : anySet oflag int = true
  · exact .inl ⟨hint, if_pos hint, by rw [hint, Bool.true_or]⟩
  · by_cases hdma : anySet oflag dma = true
    · exact .inr (.inl ⟨hint, hdma, by rw [if_neg hint, if_pos hdma], by rw [hdma, Bool.or_true]⟩)
    · refine .inr (.inr ⟨hint, hdma, by rw [if_neg hint, if_neg hdma], ?_⟩)
      rw [eq_false_of_ne_true hint, eq_false_of_ne_true hdma, Bool.or_false]

lemma anySet_mode {int dma : BitVec 16} (hint : anySet int (int ||| dma) = true)
    (hdma : anySet dma (int ||| dma) = true) (oflag : BitVec 16) :
    anySet (mode int dma oflag) (int ||| dma) = anySet oflag (int ||| dma) := by
  rcases mode_cases int dma oflag with ⟨-, hmode, hany⟩ | ⟨-, -, hmode, hany⟩ | ⟨-, -, hmode, hany⟩
  · rw [hmode, hany, hint]
  · rw [hmode, hany, hdma]
  · rw [hmode, hany, anySet_zero_left]

/-- What `openRx` does. -/
structure OpensRx (s s' : SerialDevice) (oflag : BitVec 16) : Prop where
  openFlag : s'.openFlag = s.openFlag ||| mode rtDeviceFlagIntRx rtDeviceFlagDmaRx oflag
  serialRx : s'.serialRx.isSome = (s.serialRx.isSome || anySet oflag rxModes)
  heap : Heap s → Heap s'
  irq : s'.rxIrq = true → s.rxIrq = true ∨ s'.serialRx.isSome = true
  serialTx : s'.serialTx = s.serialTx
  flag : s'.flag = s.flag
  refCount : s'.refCount = s.refCount
  fault : s'.fault = s.fault

lemma openRx_spec (s : SerialDevice) (oflag : BitVec 16) : OpensRx s (openRx s oflag) oflag := by
  have hmode := mode_cases rtDeviceFlagIntRx rtDeviceFlagDmaRx oflag
  unfold openRx
  rcases hrx : s.serialRx with _ | addr
  · have halloc : Heap s →
        (s.freed ++ [s.allocated] ++ txObjects s.serialTx).Perm (List.range (s.allocated + 1)) := by
      intro hheap
      unfold Heap at hheap
      rw [hrx, Option.toList_none, List.append_nil] at hheap
      rw [List.append_assoc]
      exact perm_range_succ hheap
    rcases hmode with ⟨hint, hmode, hany⟩ | ⟨hint, hdma, hmode, hany⟩ | ⟨hint, hdma, hmode, hany⟩
    · simp only [if_pos hint]
      refine ⟨(congrArg (s.openFlag ||| ·) hmode).symm, ?_, halloc, fun _ => .inr rfl, rfl, rfl, rfl, rfl⟩
      rw [hrx]
      exact hany.symm
    · simp only [if_neg hint, if_pos hdma]
      refine ⟨(congrArg (s.openFlag ||| ·) hmode).symm, ?_, halloc, fun _ => .inr rfl, rfl, rfl, rfl, rfl⟩
      rw [hrx]
      exact hany.symm
    · simp only [if_neg hint, if_neg hdma]
      refine ⟨?_, ?_, id, .inl, rfl, rfl, rfl, rfl⟩
      · rw [hmode, BitVec.or_zero]
      · rw [hrx]
        exact hany.symm
  · rcases hmode with ⟨hint, hmode, -⟩ | ⟨hint, hdma, hmode, -⟩ | ⟨hint, hdma, hmode, -⟩
    · simp only [if_pos hint]
      refine ⟨(congrArg (s.openFlag ||| ·) hmode).symm, ?_, fun h => ?_, .inl, rfl, rfl, rfl, rfl⟩
      · rw [hrx]
        rfl
      · unfold Heap at h ⊢
        rw [hrx] at h
        exact h
    · simp only [if_neg hint, if_pos hdma]
      refine ⟨(congrArg (s.openFlag ||| ·) hmode).symm, ?_, fun h => ?_, .inl, rfl, rfl, rfl, rfl⟩
      · rw [hrx]
        rfl
      · unfold Heap at h ⊢
        rw [hrx] at h
        exact h
    · simp only [if_neg hint, if_neg hdma]
      refine ⟨?_, ?_, id, .inl, rfl, rfl, rfl, rfl⟩
      · rw [hmode, BitVec.or_zero]
      · rw [hrx]
        rfl

/-- What `openTx` does. -/
structure OpensTx (s s' : SerialDevice) (oflag : BitVec 16) : Prop where
  openFlag : s'.openFlag = s.openFlag ||| mode rtDeviceFlagIntTx rtDeviceFlagDmaTx oflag
  serialTx : s'.serialTx.isSome = (s.serialTx.isSome || anySet oflag txModes)
  heap : Heap s → Heap s'
  irq : s'.rxIrq = true → s.rxIrq = true ∨ s'.serialTx.isSome = true
  serialRx : s'.serialRx = s.serialRx
  flag : s'.flag = s.flag
  refCount : s'.refCount = s.refCount
  fault : s'.fault = s.fault

lemma openTx_spec (s : SerialDevice) (oflag : BitVec 16) : OpensTx s (openTx s oflag) oflag := by
  have hmode := mode_cases rtDeviceFlagIntTx rtDeviceFlagDmaTx oflag
  unfold openTx
  rcases htx : s.serialTx with _ | object
  · have hsplit : Heap s → (s.freed ++ s.serialRx.toList).Perm (List.range s.allocated) := by
      intro hheap
      unfold Heap at hheap
      rw [htx] at hheap
      unfold txObjects at hheap
      rw [List.append_nil] at hheap
      exact hheap
    rcases hmode with ⟨hint, hmode, hany⟩ | ⟨hint, hdma, hmode, hany⟩ | ⟨hint, hdma, hmode, hany⟩
    · simp only [if_pos hint]
      refine ⟨(congrArg (s.openFlag ||| ·) hmode).symm, ?_, fun h => ?_, fun _ => .inr rfl, rfl, rfl, rfl,
        rfl⟩
      · rw [htx]
        exact hany.symm
      · show (s.freed ++ s.serialRx.toList ++ [s.allocated]).Perm (List.range (s.allocated + 1))
        rw [List.range_succ]
        exact (hsplit h).append_right _
    · simp only [if_neg hint, if_pos hdma]
      refine ⟨(congrArg (s.openFlag ||| ·) hmode).symm, ?_, fun h => ?_, fun _ => .inr rfl, rfl, rfl, rfl,
        rfl⟩
      · rw [htx]
        exact hany.symm
      · show (s.freed ++ s.serialRx.toList ++ [s.allocated, s.allocated + 1]).Perm
          (List.range (s.allocated + 1 + 1))
        rw [List.range_succ, List.range_succ, List.append_assoc (List.range _)]
        exact (hsplit h).append_right _
    · simp only [if_neg hint, if_neg hdma]
      refine ⟨?_, ?_, id, .inl, rfl, rfl, rfl, rfl⟩
      · rw [hmode, BitVec.or_zero]
      · rw [htx]
        exact hany.symm
  · rcases hmode with ⟨hint, hmode, -⟩ | ⟨hint, hdma, hmode, -⟩ | ⟨hint, hdma, hmode, -⟩
    · simp only [if_pos hint]
      refine ⟨(congrArg (s.openFlag ||| ·) hmode).symm, ?_, fun h => ?_, .inl, rfl, rfl, rfl, rfl⟩
      · rw [htx]
        rfl
      · unfold Heap at h ⊢
        rw [htx] at h
        exact h
    · simp only [if_neg hint, if_pos hdma]
      refine ⟨(congrArg (s.openFlag ||| ·) hmode).symm, ?_, fun h => ?_, .inl, rfl, rfl, rfl, rfl⟩
      · rw [htx]
        rfl
      · unfold Heap at h ⊢
        rw [htx] at h
        exact h
    · simp only [if_neg hint, if_neg hdma]
      refine ⟨?_, ?_, id, .inl, rfl, rfl, rfl, rfl⟩
      · rw [hmode, BitVec.or_zero]
      · rw [htx]
        rfl

/-! ### Closing -/

/-- What `closeRx` does to a device that has a receiver iff `open_flag` says so. -/
structure ClosesRx (s s' : SerialDevice) : Prop where
  serialRx : s'.serialRx = none
  heap : Heap s → Heap s'
  irq : s'.rxIrq = true → s.rxIrq = true ∧ s.serialRx = none
  openFlag : anySet s'.openFlag txModes = anySet s.openFlag txModes
  intTx : anySet s'.openFlag rtDeviceFlagIntTx = anySet s.openFlag rtDeviceFlagIntTx
  serialTx : s'.serialTx = s.serialTx
  fault : s'.fault = s.fault

/-- The receiver is freed. -/
lemma heap_freeRx (s : SerialDevice) (h : Heap s) : Heap { freeRx s with serialRx := none } := by
  unfold freeRx
  rcases hrx : s.serialRx with _ | addr
  · unfold Heap at h ⊢
    rw [hrx] at h
    exact h
  · unfold Heap at h
    rw [hrx, Option.toList_some, List.append_assoc] at h
    show (addr :: s.freed ++ [] ++ txObjects s.serialTx).Perm (List.range s.allocated)
    rw [List.append_nil]
    exact List.perm_middle.symm.trans h

lemma freeRx_same (s : SerialDevice) :
    (freeRx s).openFlag = s.openFlag ∧ (freeRx s).serialTx = s.serialTx ∧ (freeRx s).rxIrq = s.rxIrq ∧
      (freeRx s).fault = s.fault := by
  unfold freeRx
  split
  · exact ⟨rfl, rfl, rfl, rfl⟩
  · exact ⟨rfl, rfl, rfl, rfl⟩

lemma closeRx_spec (s : SerialDevice) (hrx : s.serialRx.isSome = anySet s.openFlag rxModes) :
    ClosesRx s (closeRx s) := by
  -- the interrupt is disabled, a mode is taken out of `open_flag` and the object is freed
  have hcase : ∀ bit : BitVec 16, ~~~bit &&& txModes = txModes →
      ~~~bit &&& rtDeviceFlagIntTx = rtDeviceFlagIntTx →
      ClosesRx s { freeRx { s.control .clrInt with openFlag := s.openFlag &&& ~~~bit } with
        serialRx := none } := by
    intro bit htx hint
    obtain ⟨hflag, hserial, hirq, hfault⟩ :=
      freeRx_same { s.control .clrInt with openFlag := s.openFlag &&& ~~~bit }
    refine ⟨rfl, fun h => heap_freeRx _ h, fun h => ?_, ?_, ?_, hserial, hfault⟩
    · exact absurd (hirq.symm.trans h) Bool.false_ne_true
    · show anySet (freeRx _).openFlag txModes = _
      rw [hflag, anySet_and, htx]
    · show anySet (freeRx _).openFlag rtDeviceFlagIntTx = _
      rw [hflag, anySet_and, hint]
  unfold closeRx
  by_cases hint : anySet s.openFlag rtDeviceFlagIntRx = true
  · rw [if_pos hint]
    exact hcase _ (by decide) (by decide)
  · rw [if_neg hint]
    by_cases hdma : anySet s.openFlag rtDeviceFlagDmaRx = true
    · rw [if_pos hdma]
      exact hcase _ (by decide) (by decide)
    · rw [if_neg hdma]
      unfold rxModes at hrx
      rw [anySet_or_right, eq_false_of_ne_true hint, eq_false_of_ne_true hdma, Bool.or_false] at hrx
      have hnone : s.serialRx = none := Option.not_isSome_iff_eq_none.mp (ne_true_of_eq_false hrx)
      exact ⟨hnone, id, fun h => ⟨h, hnone⟩, rfl, rfl, rfl, rfl⟩

/-- `open_flag` names the mode that the transmitter was allocated for. -/
def TxMatches (s : SerialDevice) : Prop :=
  match s.serialTx with
  | none => True
  | some (.fifo _) => anySet s.openFlag rtDeviceFlagIntTx = true
  | some (.dma _ _) => anySet s.openFlag rtDeviceFlagIntTx = false

instance (s : SerialDevice) : Decidable (TxMatches s) :=
  match h : s.serialTx with
  | none => isTrue (by unfold TxMatches; rw [h]; trivial)
  | some (.fifo _) => decidable_of_iff (anySet s.openFlag rtDeviceFlagIntTx = true)
      (by unfold TxMatches; rw [h])
  | some (.dma _ _) => decidable_of_iff (anySet s.openFlag rtDeviceFlagIntTx = false)
      (by unfold TxMatches; rw [h])

/-- What `closeTx` does to a device that has a transmitter iff `open_flag` says so. -/
structure ClosesTx (s s' : SerialDevice) : Prop where
  serialTx : s'.serialTx = none
  heap : Heap s → Heap s'
  irq : s'.rxIrq = true → s.rxIrq = true ∧ s.serialTx = none
  serialRx : s'.serialRx = s.serialRx
  fault : s'.fault = s.fault

lemma closeTx_spec (s : SerialDevice) (htx : s.serialTx.isSome = anySet s.openFlag txModes)
    (hmatch : TxMatches s) : ClosesTx s (closeTx s) := by
  unfold txModes at htx
  rw [anySet_or_right] at htx
  unfold TxMatches at hmatch
  unfold closeTx
  rcases hobject : s.serialTx with _ | addr | ⟨addr, queue⟩
  · -- there is nothing to free, and nothing is freed
    rw [hobject] at htx
    have hnot := Bool.or_eq_false_iff.mp htx.symm
    rw [if_neg (ne_true_of_eq_false hnot.1), if_neg (ne_true_of_eq_false hnot.2)]
    exact ⟨hobject, id, fun h => ⟨h, hobject⟩, rfl, rfl⟩
  · rw [hobject] at hmatch
    rw [if_pos hmatch]
    unfold freeTx
    simp only [SerialDevice.control, hobject]
    refine ⟨rfl, fun h => ?_, fun h => absurd h Bool.false_ne_true, rfl, rfl⟩
    unfold Heap at h
    rw [hobject] at h
    show (addr :: s.freed ++ s.serialRx.toList ++ []).Perm (List.range s.allocated)
    rw [List.append_nil]
    exact (List.perm_append_singleton addr _).symm.trans h
  · rw [hobject] at hmatch htx
    rw [if_neg (ne_true_of_eq_false hmatch)]
    rw [hmatch, Bool.false_or] at htx
    have hdma : anySet s.openFlag rtDeviceFlagDmaTx = true := htx.symm
    rw [if_pos hdma]
    unfold deinitTx
    simp only [SerialDevice.control, hobject]
    refine ⟨rfl, fun h => ?_, fun h => absurd h Bool.false_ne_true, rfl, rfl⟩
    unfold Heap at h
    rw [hobject] at h
    show (addr :: queue :: s.freed ++ s.serialRx.toList ++ []).Perm (List.range s.allocated)
    rw [List.append_nil]
    show ([addr, queue] ++ (s.freed ++ s.serialRx.toList)).Perm (List.range s.allocated)
    exact List.perm_append_comm.trans h

/-! ### The invariant -/

/-- What holds of a device between the calls. -/
structure Inv (s : SerialDevice) : Prop where
  rx : s.serialRx.isSome = anySet s.openFlag rxModes
  tx : s.serialTx.isSome = anySet s.openFlag txModes
  heap : Heap s
  irq : s.rxIrq = true → s.serialRx.isSome = true ∨ s.serialTx.isSome = true
  closed : s.refCount = 0#8 ∨ anySet s.flag rtDeviceFlagActivated = false →
    s.serialRx = none ∧ s.serialTx = none
  fault : s.fault = false

/-- An open that names no mode of a direction that is open takes the mode away from the device. -/
def Keeps (s : SerialDevice) (oflag : BitVec 16) : Prop :=
  callsOpen s oflag = true → supports s.flag oflag = true →
    (s.serialRx.isSome = true → anySet oflag rxModes = true) ∧
      (s.serialTx.isSome = true → anySet oflag txModes = true)

/-- `ref_count` does not wrap around, unless nothing is allocated. -/
def Counts (s : SerialDevice) (oflag : BitVec 16) : Prop :=
  s.refCount = 255#8 → (callsOpen s oflag = true → supports s.flag oflag = true) →
    s.serialRx = none ∧ s.serialTx = none ∧ anySet oflag (rxModes ||| txModes) = false

/-- The condition on a call. -/
def Within (s : SerialDevice) : Action → Prop
  | .openDevice oflag _ => isBusy s = false → Keeps s oflag ∧ Counts s oflag
  | .closeDevice => s.refCount = 1#8 → TxMatches s

lemma anySet_mode_of_disjoint {int dma : BitVec 16} (hint : anySet int m = false)
    (hdma : anySet dma m = false) (oflag : BitVec 16) : anySet (mode int dma oflag) m = false := by
  unfold mode
  split
  · exact hint
  · split
    · exact hdma
    · exact anySet_zero_left m

/-- What a successful call of the driver's `open` does. -/
structure Opens (s s' : SerialDevice) (oflag : BitVec 16) : Prop where
  rx : s'.serialRx.isSome = anySet oflag rxModes
  openRx : anySet s'.openFlag rxModes = anySet oflag rxModes
  tx : s'.serialTx.isSome = anySet oflag txModes
  openTx : anySet s'.openFlag txModes = anySet oflag txModes
  heap : Heap s'
  irq : s'.rxIrq = true → s'.serialRx.isSome = true ∨ s'.serialTx.isSome = true
  flag : s'.flag = s.flag
  refCount : s'.refCount = s.refCount
  fault : s'.fault = false

/-- **The driver is opened.** -/
lemma Inv.rtSerialOpen (h : Inv s) (hkeepRx : s.serialRx.isSome = true → anySet oflag rxModes = true)
    (hkeepTx : s.serialTx.isSome = true → anySet oflag txModes = true)
    (hsupports : supports s.flag oflag = true) :
    ∃ s', rtSerialOpen s oflag = (s', .eok) ∧ Opens s s' oflag := by
  obtain ⟨streamFlag, hstream⟩ : ∃ f, f = if anySet oflag rtDeviceFlagStream ||
    anySet s.openFlag rtDeviceFlagStream then rtDeviceFlagStream else 0#16 := ⟨_, rfl⟩
  have hstreamOut : anySet streamFlag rxModes = false ∧ anySet streamFlag txModes = false := by
    rw [hstream]
    split
    · decide
    · exact ⟨anySet_zero_left _, anySet_zero_left _⟩
  have hrx := openRx_spec { s with openFlag := oflag &&& 0xff#16 } oflag
  have htx := openTx_spec (Device.openRx { s with openFlag := oflag &&& 0xff#16 } oflag) oflag
  obtain ⟨s₁, hs₁⟩ : ∃ s₁, s₁ = Device.openRx { s with openFlag := oflag &&& 0xff#16 } oflag := ⟨_, rfl⟩
  obtain ⟨s₂, hs₂⟩ : ∃ s₂, s₂ = Device.openTx s₁ oflag := ⟨_, rfl⟩
  rw [← hs₁] at hrx htx
  rw [← hs₂] at htx
  have hopen : Device.rtSerialOpen s oflag = ({ s₂ with openFlag := s₂.openFlag ||| streamFlag }, .eok) := by
    unfold Device.rtSerialOpen
    rw [hsupports, hs₂, hs₁, hstream]
    rfl
  have hor : ∀ {a b : Bool}, (a = true → b = true) → (a || b) = b := by decide
  have hlow : ∀ m, 0xff#16 &&& m = 0#16 → anySet (oflag &&& 0xff#16) m = false := by
    intro m hm
    rw [anySet_and, hm, anySet_zero_right]
  have hserialRx : s₂.serialRx.isSome = anySet oflag rxModes := by
    rw [htx.serialRx, hrx.serialRx]
    exact hor hkeepRx
  have hserialTx : s₂.serialTx.isSome = anySet oflag txModes := by
    rw [htx.serialTx, hrx.serialTx]
    exact hor hkeepTx
  have hmodeRx : anySet (mode rtDeviceFlagIntRx rtDeviceFlagDmaRx oflag) rxModes = anySet oflag rxModes :=
    anySet_mode (by decide) (by decide) oflag
  have hmodeTx : anySet (mode rtDeviceFlagIntTx rtDeviceFlagDmaTx oflag) txModes = anySet oflag txModes :=
    anySet_mode (by decide) (by decide) oflag
  refine ⟨_, hopen, hserialRx, ?_, hserialTx, ?_, htx.heap (hrx.heap h.heap), fun hirq => ?_,
    htx.flag.trans hrx.flag, htx.refCount.trans hrx.refCount,
    (htx.fault.trans hrx.fault).trans h.fault⟩
  · simp only
    rw [htx.openFlag, hrx.openFlag, anySet_or, anySet_or, anySet_or, hmodeRx, hstreamOut.1,
      hlow rxModes (by decide), anySet_mode_of_disjoint (by decide) (by decide), Bool.or_false,
      Bool.or_false, Bool.false_or]
  · simp only
    rw [htx.openFlag, hrx.openFlag, anySet_or, anySet_or, anySet_or, hmodeTx, hstreamOut.2,
      hlow txModes (by decide), anySet_mode_of_disjoint (by decide) (by decide), Bool.or_false,
      Bool.false_or, Bool.false_or]
  · rcases htx.irq hirq with hirq₁ | htx'
    · rcases hrx.irq hirq₁ with hirq₀ | hrx'
      · -- an object that was there is still there
        rcases h.irq hirq₀ with hold | hold
        · exact .inl (hserialRx.trans (hkeepRx hold))
        · exact .inr (hserialTx.trans (hkeepTx hold))
      · exact .inl ((congrArg Option.isSome htx.serialRx).trans hrx')
    · exact .inr htx'

/-- One more reference. -/
def count (s : SerialDevice) : SerialDevice :=
  { s with openFlag := s.openFlag ||| rtDeviceOflagOpen, refCount := s.refCount + 1#8 }

lemma anySet_count (s : SerialDevice) (hm : rtDeviceOflagOpen &&& m = 0#16) :
    anySet (count s).openFlag m = anySet s.openFlag m := by
  show anySet (s.openFlag ||| rtDeviceOflagOpen) m = _
  rw [anySet_or]
  unfold anySet
  rw [hm]
  exact Bool.or_false _

lemma eq_of_count (h : (count s).refCount = 0#8) : s.refCount = 255#8 := by
  have hsucc : s.refCount + 1#8 = 0#8 := h
  bv_omega

/-- **`rt_device_open` of a device that is initialized.** -/
lemma Inv.openActivated (h : Inv s) (hactive : anySet s.flag rtDeviceFlagActivated = true)
    (hwithin : isBusy s = false → Keeps s oflag ∧ Counts s oflag) : Inv (openActivated s oflag).1 := by
  cases hbusy : isBusy s with
  | true =>
    have heq : Device.openActivated s oflag = (s, .ebusy) := by
      unfold Device.openActivated
      rw [hbusy]
      rfl
    rw [heq]
    exact h
  | false =>
    obtain ⟨hkeeps, hcounts⟩ := hwithin hbusy
    cases hcalls : callsOpen s oflag with
    | false =>
      have heq : Device.openActivated s oflag = (count s, .eok) := by
        unfold Device.openActivated
        rw [hbusy, hcalls]
        rfl
      rw [heq]
      refine ⟨?_, ?_, h.heap, h.irq, ?_, h.fault⟩
      · exact h.rx.trans (anySet_count s (by decide)).symm
      · exact h.tx.trans (anySet_count s (by decide)).symm
      · rintro (hclosed | hclosed)
        · have hnone := hcounts (eq_of_count hclosed) fun hcalls' =>
            absurd (hcalls.symm.trans hcalls') Bool.false_ne_true
          exact ⟨hnone.1, hnone.2.1⟩
        · exact absurd (hactive.symm.trans hclosed) Bool.false_ne_true.symm
    | true =>
      cases hsupports : supports s.flag oflag with
      | false =>
        have heq : Device.openActivated s oflag = (s, .eio) := by
          unfold Device.openActivated Device.rtSerialOpen
          rw [hbusy, hcalls, hsupports]
          rfl
        rw [heq]
        exact h
      | true =>
        obtain ⟨hkeepRx, hkeepTx⟩ := hkeeps hcalls hsupports
        obtain ⟨s', hopen, hs'⟩ := h.rtSerialOpen hkeepRx hkeepTx hsupports
        have heq : Device.openActivated s oflag = (count s', .eok) := by
          unfold Device.openActivated
          rw [hbusy, hcalls, hopen]
          rfl
        rw [heq]
        refine ⟨?_, ?_, hs'.heap, hs'.irq, ?_, hs'.fault⟩
        · exact (hs'.rx.trans hs'.openRx.symm).trans (anySet_count s' (by decide)).symm
        · exact (hs'.tx.trans hs'.openTx.symm).trans (anySet_count s' (by decide)).symm
        · rintro (hclosed | hclosed)
          · have hfull := (hs'.refCount.symm.trans (eq_of_count hclosed))
            have hnone := (hcounts hfull fun _ => hsupports).2.2
            rw [anySet_or_right, Bool.or_eq_false_iff, ← hs'.rx, ← hs'.tx] at hnone
            exact ⟨Option.not_isSome_iff_eq_none.mp (ne_true_of_eq_false hnone.1),
              Option.not_isSome_iff_eq_none.mp (ne_true_of_eq_false hnone.2)⟩
          · have hinactive := (congrArg (anySet · rtDeviceFlagActivated) hs'.flag).symm.trans hclosed
            exact absurd (hactive.symm.trans hinactive) Bool.false_ne_true.symm

/-- That a device is initialized does not change what it can be opened for. -/
lemma anySet_activated (f : BitVec 16) (hm : rtDeviceFlagActivated &&& m = 0#16) :
    anySet (f ||| rtDeviceFlagActivated) m = anySet f m := by
  rw [anySet_or]
  unfold anySet
  rw [hm]
  exact Bool.or_false _

/-- **`rt_device_open`.** -/
lemma Inv.rtDeviceOpen (h : Inv s) {configured : RtErr}
    (hwithin : isBusy s = false → Keeps s oflag ∧ Counts s oflag) :
    Inv (rtDeviceOpen s oflag configured).1 := by
  unfold Device.rtDeviceOpen
  cases hactive : anySet s.flag rtDeviceFlagActivated with
  | true => exact h.openActivated hactive hwithin
  | false =>
    obtain ⟨hrx, htx⟩ := h.closed (.inr hactive)
    have hinit : Device.rtSerialInit s configured = (s, configured) := by
      unfold rtSerialInit
      rw [← hrx, ← htx]
    rw [if_neg Bool.false_ne_true, hinit]
    show Inv (if configured ≠ .eok then (s, configured)
      else Device.openActivated { s with flag := s.flag ||| rtDeviceFlagActivated } oflag).1
    split
    · exact h
    · have hnone : ∀ {P : Prop}, P → s.serialRx = none ∧ s.serialTx = none := fun _ => ⟨hrx, htx⟩
      have hinv : Inv { s with flag := s.flag ||| rtDeviceFlagActivated } :=
        ⟨h.rx, h.tx, h.heap, h.irq, hnone, h.fault⟩
      have hsupports : supports (s.flag ||| rtDeviceFlagActivated) oflag = supports s.flag oflag := by
        unfold supports
        rw [anySet_activated s.flag (by decide), anySet_activated s.flag (by decide),
          anySet_activated s.flag (by decide), anySet_activated s.flag (by decide)]
      have hbusy : isBusy { s with flag := s.flag ||| rtDeviceFlagActivated } = isBusy s := by
        unfold isBusy
        rw [anySet_activated s.flag (by decide)]
      refine hinv.openActivated ?_ fun hidle => ?_
      · show anySet (s.flag ||| rtDeviceFlagActivated) rtDeviceFlagActivated = true
        rw [anySet_or]
        exact Bool.or_true _
      · obtain ⟨hkeeps, hcounts⟩ := hwithin (hbusy.symm.trans hidle)
        exact ⟨fun hcalls hsup => hkeeps hcalls (hsupports.symm.trans hsup),
          fun hfull hsup => hcounts hfull fun hcalls => hsupports.symm.trans (hsup hcalls)⟩

/-- **The last close.** -/
lemma Inv.rtSerialClose (h : Inv s) (hcount : s.refCount = 1#8) (hmatch : TxMatches s) :
    ∃ s', rtSerialClose { s with refCount := s.refCount - 1#8 } = (s', .eok) ∧ s'.serialRx = none ∧
      s'.serialTx = none ∧ Heap s' ∧ s'.rxIrq = false ∧ s'.fault = false := by
  have hrx := closeRx_spec { s with refCount := s.refCount - 1#8 } h.rx
  obtain ⟨s₁, hs₁⟩ : ∃ s₁, s₁ = closeRx { s with refCount := s.refCount - 1#8 } := ⟨_, rfl⟩
  rw [← hs₁] at hrx
  have htx₁ : s₁.serialTx.isSome = anySet s₁.openFlag txModes := by
    rw [hrx.serialTx, hrx.openFlag]
    exact h.tx
  have hmatch₁ : TxMatches s₁ := by
    unfold TxMatches at hmatch ⊢
    rw [hrx.serialTx, hrx.intTx]
    exact hmatch
  have htx := closeTx_spec s₁ htx₁ hmatch₁
  have hclose : Device.rtSerialClose { s with refCount := s.refCount - 1#8 } =
      ({ (closeTx s₁).control .close with
        flag := ((closeTx s₁).control .close).flag &&& ~~~rtDeviceFlagActivated }, .eok) := by
    unfold Device.rtSerialClose
    rw [← hs₁, if_neg]
    show ¬ 1#8 < s.refCount - 1#8
    rw [hcount]
    decide
  refine ⟨_, hclose, htx.serialRx.trans hrx.serialRx, htx.serialTx, htx.heap (hrx.heap h.heap), ?_,
    (htx.fault.trans hrx.fault).trans h.fault⟩
  show (closeTx s₁).rxIrq = false
  refine eq_false_of_ne_true fun hirq => ?_
  obtain ⟨hirq₁, htxNone⟩ := htx.irq hirq
  obtain ⟨hirq₀, hrxNone⟩ := hrx.irq hirq₁
  rcases h.irq hirq₀ with hsome | hsome
  · exact absurd (hsome.symm.trans (congrArg Option.isSome hrxNone)) Bool.false_ne_true.symm
  · have hnone := hrx.serialTx.symm.trans htxNone
    exact absurd (hsome.symm.trans (congrArg Option.isSome hnone)) Bool.false_ne_true.symm

/-- **`rt_device_close`.** -/
lemma Inv.rtDeviceClose (h : Inv s) (hwithin : s.refCount = 1#8 → TxMatches s) :
    Inv (rtDeviceClose s).1 := by
  by_cases hzero : s.refCount = 0#8
  · unfold Device.rtDeviceClose
    rw [if_pos hzero]
    exact h
  · by_cases hone : s.refCount = 1#8
    · obtain ⟨s', hclose, hrx, htx, hheap, hirq, hfault⟩ := h.rtSerialClose hone (hwithin hone)
      have heq : Device.rtDeviceClose s = ({ s' with openFlag := rtDeviceOflagClose }, .eok) := by
        unfold Device.rtDeviceClose
        rw [if_neg hzero]
        simp only [hclose]
        rw [if_neg]
        · rfl
        · rw [hone]
          decide
      rw [heq]
      refine ⟨?_, ?_, hheap, fun hirq' => ?_, fun _ => ⟨hrx, htx⟩, hfault⟩
      · simp only [hrx]
        rfl
      · simp only [htx]
        rfl
      · exact absurd (hirq.symm.trans hirq') Bool.false_ne_true
    · have hsub : s.refCount - 1#8 ≠ 0#8 := by bv_omega
      have heq : Device.rtDeviceClose s = ({ s with refCount := s.refCount - 1#8 }, .eok) := by
        unfold Device.rtDeviceClose
        rw [if_neg hzero]
        exact if_pos hsub
      rw [heq]
      refine ⟨h.rx, h.tx, h.heap, h.irq, ?_, h.fault⟩
      rintro (hclosed | hclosed)
      · exact absurd hclosed hsub
      · exact h.closed (.inr hclosed)

/-- **Every call** keeps the invariant. -/
lemma inv_step (h : Inv s) {a : Action} (hwithin : Within s a) (hs : step s a = some s') : Inv s' := by
  cases a with
  | openDevice oflag configured =>
    cases hs
    exact h.rtDeviceOpen hwithin
  | closeDevice =>
    cases hs
    exact h.rtDeviceClose hwithin

lemma inv_rtHwSerialRegister (flag : BitVec 16) : Inv (rtHwSerialRegister flag) := by
  refine ⟨(anySet_zero_left _).symm, (anySet_zero_left _).symm, List.Perm.refl _, fun h => ?_,
    fun _ => ⟨rfl, rfl⟩, rfl⟩
  exact absurd h Bool.false_ne_true

/-! ### Every sequence of calls -/

/-- What the life of a device is meant to be: it has a receiver and a transmitter iff `open_flag` says so,
and if it is closed, every object was freed once and the interrupt is disabled. -/
structure Sound (s : SerialDevice) : Prop where
  rx : s.serialRx ≠ none ↔ anySet s.openFlag (rtDeviceFlagIntRx ||| rtDeviceFlagDmaRx) = true
  tx : s.serialTx ≠ none ↔ anySet s.openFlag (rtDeviceFlagIntTx ||| rtDeviceFlagDmaTx) = true
  closed : s.refCount = 0#8 → s.freed.Perm (List.range s.allocated) ∧ s.rxIrq = false

lemma Inv.sound (h : Inv s) : Sound s := by
  refine ⟨?_, ?_, fun hclosed => ?_⟩
  · rw [Option.ne_none_iff_isSome, h.rx]
    rfl
  · rw [Option.ne_none_iff_isSome, h.tx]
    rfl
  · obtain ⟨hrx, htx⟩ := h.closed (.inl hclosed)
    have hheap := h.heap
    unfold Heap at hheap
    rw [hrx, htx] at hheap
    unfold txObjects at hheap
    rw [Option.toList_none, List.append_nil, List.append_nil] at hheap
    refine ⟨hheap, eq_false_of_ne_true fun hirq => ?_⟩
    rcases h.irq hirq with hsome | hsome
    · exact absurd (hsome.symm.trans (congrArg Option.isSome hrx)) Bool.false_ne_true.symm
    · exact absurd (hsome.symm.trans (congrArg Option.isSome htx)) Bool.false_ne_true.symm

/-- **A device that is opened and closed in any order** is sound in every state, and uses no object for
another, if no open takes a mode away from it, the last close finds the transmitter in the mode it was
allocated for, and there are less than 256 references. -/
theorem lifecycle_sound (flag : BitVec 16) (as : List Action) (s : SerialDevice)
    (hwithin : Along step Within (rtHwSerialRegister flag) as)
    (hrun : exec step (rtHwSerialRegister flag) as = some s) : Sound s ∧ s.fault = false := by
  have hinv : Inv s := exec_inv_of_along (C := Within) (fun s a s' h hc hs => inv_step h hc hs) as _ s
    (inv_rtHwSerialRegister flag) hwithin hrun
  exact ⟨hinv.sound, hinv.fault⟩

instance (s : SerialDevice) (oflag : BitVec 16) : Decidable (Keeps s oflag) :=
  inferInstanceAs (Decidable (callsOpen s oflag = true → supports s.flag oflag = true →
    (s.serialRx.isSome = true → anySet oflag rxModes = true) ∧
      (s.serialTx.isSome = true → anySet oflag txModes = true)))

instance (s : SerialDevice) (oflag : BitVec 16) : Decidable (Counts s oflag) :=
  inferInstanceAs (Decidable (s.refCount = 255#8 →
    (callsOpen s oflag = true → supports s.flag oflag = true) →
      s.serialRx = none ∧ s.serialTx = none ∧ anySet oflag (rxModes ||| txModes) = false))

instance (s : SerialDevice) (a : Action) : Decidable (Within s a) :=
  match a with
  | .openDevice oflag _ => inferInstanceAs (Decidable (isBusy s = false → Keeps s oflag ∧ Counts s oflag))
  | .closeDevice => inferInstanceAs (Decidable (s.refCount = 1#8 → TxMatches s))

/-- A device that is opened twice for reading with interrupts, and closed twice. -/
def openedTwice : List Action :=
  [.openDevice 0x103#16 .eok, .openDevice 0x143#16 .eok, .closeDevice, .closeDevice]

theorem lifecycle_sound_openedTwice :
    ∃ s, exec step (rtHwSerialRegister 0x103#16) openedTwice = some s ∧ Sound s ∧ s.fault = false := by
  have hrun : ∃ s ∈ exec step (rtHwSerialRegister 0x103#16) openedTwice, True := by decide +kernel
  obtain ⟨s, hs, -⟩ := hrun
  exact ⟨s, hs, lifecycle_sound 0x103#16 openedTwice s (by decide +kernel) hs⟩

/-- A device that is opened for reading with interrupts is opened for writing. -/
def modeLost : List Action := [.openDevice 0x103#16 .eok, .openDevice 0x043#16 .eok]

/-- The receiver is still there but not in `open_flag`; when the device is closed it is not freed, and the
interrupt stays enabled. -/
theorem lifecycle_leaks :
    (∃ s, exec step (rtHwSerialRegister 0x103#16) modeLost = some s ∧ ¬ Sound s) ∧
      ∃ s, exec step (rtHwSerialRegister 0x103#16) (modeLost ++ [.closeDevice, .closeDevice]) = some s ∧
        s.refCount = 0#8 ∧ s.allocated = 1 ∧ s.freed = [] ∧ s.rxIrq = true := by
  have hlost : ∃ s ∈ exec step (rtHwSerialRegister 0x103#16) modeLost, s.serialRx = some 0 ∧
      anySet s.openFlag (rtDeviceFlagIntRx ||| rtDeviceFlagDmaRx) = false := by decide +kernel
  have hclosed : ∃ s ∈ exec step (rtHwSerialRegister 0x103#16)
      (modeLost ++ [.closeDevice, .closeDevice]), s.refCount = 0#8 ∧ s.allocated = 1 ∧ s.freed = [] ∧
        s.rxIrq = true := by decide +kernel
  obtain ⟨s, hs, hrx, hflag⟩ := hlost
  obtain ⟨s', hs', hend⟩ := hclosed
  refine ⟨⟨s, hs, fun hsound => ?_⟩, s', hs', hend⟩
  have hset := hsound.rx.mp (by rw [hrx]; exact Option.some_ne_none 0)
  exact absurd (hflag.symm.trans hset) Bool.false_ne_true

end N32L43x.Serial.Device
