import N32L43x.Lib.Bits
import N32L43x.Lib.Run
import Mathlib.Algebra.Order.Group.Nat
import Mathlib.Tactic.IntervalCases

/-!
The receive interrupt and the overruns of its FIFO.  The FIFO holds three frames; its register has the
number of frames, the flags for full and overrun, which are cleared by writing ones to them, and the bit
that releases the oldest frame.  `can_recvmsg_rtmsg` sets that bit with a read and a write of the whole
register, and so writes the flags back; frames may arrive between any two accesses.
-/

namespace N32L43x.Can.Overrun

open N32L43x.Lib.Bits N32L43x.Lib.Run

/-! ### The FIFO and the handler -/

/-- Where `recvmsg` was called from. -/
inductive Caller where
  /-- the frame indication at the head of `can_rx_isr` -/
  | rxInd
  /-- the overrun indication, which goes on to receive a frame as well -/
  | rxofInd
deriving DecidableEq

/-- Where `can_rx_isr` is; each point ends with one access to the register. -/
inductive Pc where
  | idle
  /-- `CAN_GetFlagSTS(FFMP)` -/
  | rxFlag
  /-- `CAN_PendingMessage` -/
  | rxPending
  /-- the check of `can_recvmsg_rtmsg` that the FIFO is not empty -/
  | recv (caller : Caller)
  /-- the mailbox is read -/
  | readBox (caller : Caller)
  /-- `RFF |= RFFOM`: the read; the frame that was read out before -/
  | relRead (frame : ℕ) (caller : Caller)
  /-- `RFF |= RFFOM`: the write, with the value read -/
  | relWrite (frame : ℕ) (value : BitVec 32) (caller : Caller)
  | fullFlag
  | fullClear
  | ovrFlag
  | ovrClear
  /-- `rt_hw_can_isr(RT_CAN_EVENT_RXOF_IND)`, for so many overruns -/
  | report (overruns : ℕ)
deriving DecidableEq

/-- A receive FIFO with its handler, and a record of what happened. -/
structure Fifo where
  /-- the frames, by the order of their arrival -/
  frames : List ℕ
  /-- `FFULL` -/
  ffull : Bool
  /-- `FFOVR` -/
  ffovr : Bool
  pc : Pc
  /-- the frames that have arrived -/
  arrived : ℕ
  /-- the overruns so far -/
  overruns : ℕ
  /-- the overruns not reported yet -/
  unreported : ℕ
  /-- the FIFO was full and the handler has not cleared the flag since -/
  fullPending : Bool
  /-- the overruns each `RT_CAN_EVENT_RXOF_IND` was for, the latest first -/
  reports : List ℕ
  /-- the frames released that had not been read -/
  lostUnread : ℕ

/-- The FIFO after reset. -/
def Fifo.init : Fifo :=
  { frames := [], ffull := false, ffovr := false, pc := .idle, arrived := 0, overruns := 0
    unreported := 0, fullPending := false, reports := [], lostUnread := 0 }

/-- `CAN_RFF0_FFMP0`, `CAN_RFF0_FFULL0`, `CAN_RFF0_FFOVR0` and `CAN_RFF0_RFFOM0`. -/
def rffFfmp : BitVec 32 := 3
def rffFfull : BitVec 32 := bit 32 3
def rffFfovr : BitVec 32 := bit 32 4
def rffRffom : BitVec 32 := bit 32 5

/-- What a read of the register gives. -/
def rff (s : Fifo) : BitVec 32 :=
  BitVec.ofNat 32 s.frames.length ||| (if s.ffull then rffFfull else 0) |||
    (if s.ffovr then rffFfovr else 0)

/-- A write of the register: ones clear the flags, and one releases the oldest frame. -/
def writeRff (s : Fifo) (value : BitVec 32) : Fifo :=
  { s with
    ffull := s.ffull && !anySet value rffFfull
    ffovr := s.ffovr && !anySet value rffFfovr
    frames := if anySet value rffRffom then s.frames.tail else s.frames }

/-- A frame arrives.  With three frames in the FIFO, which is not locked, it takes the place of the last
of them. -/
def arrive (s : Fifo) : Fifo :=
  let s := { s with arrived := s.arrived + 1 }
  if s.frames.length < 3 then
    let filled := s.frames.length + 1 == 3
    { s with
      frames := s.frames ++ [s.arrived]
      ffull := s.ffull || filled
      fullPending := s.fullPending || filled }
  else
    { s with
      frames := s.frames.dropLast ++ [s.arrived]
      ffovr := true
      overruns := s.overruns + 1
      unreported := s.unreported + 1 }

/-- Where the handler goes on after a frame is received. -/
def Caller.back : Caller → Pc
  | .rxInd => .fullFlag
  | .rxofInd => .idle

/-- The next access of `can_rx_isr`, of `rt_hw_can_isr` and of `can_recvmsg_rtmsg` under it. -/
def rxIsr (s : Fifo) : Fifo :=
  match s.pc with
  | .idle => { s with pc := .rxFlag }
  | .rxFlag => { s with pc := if anySet (rff s) rffFfmp then .rxPending else .fullFlag }
  | .rxPending => { s with pc := if anySet (rff s) rffFfmp then .recv .rxInd else .fullFlag }
  | .recv caller => { s with pc := if anySet (rff s) rffFfmp then .readBox caller else caller.back }
  | .readBox caller => { s with pc := .relRead (s.frames.headD 0) caller }
  | .relRead frame caller => { s with pc := .relWrite frame (rff s) caller }
  | .relWrite frame value caller =>
    { writeRff s (value ||| rffRffom) with
      pc := caller.back
      lostUnread := if s.frames.head? = some frame then s.lostUnread else s.lostUnread + 1 }
  | .fullFlag => { s with pc := if anySet (rff s) rffFfull then .fullClear else .ovrFlag }
  | .fullClear => { writeRff s rffFfull with pc := .ovrFlag, fullPending := false }
  | .ovrFlag => { s with pc := if anySet (rff s) rffFfovr then .ovrClear else .idle }
  | .ovrClear => { writeRff s rffFfovr with pc := .report s.unreported, unreported := 0 }
  | .report overruns => { s with pc := .recv .rxofInd, reports := overruns :: s.reports }

/-- What can happen next: a frame arrives, or the handler makes its next access. -/
inductive Action where
  | arrive
  | rxIsr
deriving DecidableEq

/-- The system. -/
def step (s : Fifo) : Action → Option Fifo
  | .arrive => some (arrive s)
  | .rxIsr => some (rxIsr s)

/-! ### The law -/

/-- The overruns that the handler is about to report. -/
def Pc.reporting : Pc → ℕ
  | .report overruns => overruns
  | _ => 0

/-- The overruns of some reports together. -/
def reported : List ℕ → ℕ
  | [] => 0
  | overruns :: reports => overruns + reported reports

/-- The overruns are accounted for: one that is not reported is still flagged, and so is a full FIFO that
the handler has not seen; each is in one report, and no report is for none; no frame was released
unread. -/
structure Accounted (s : Fifo) : Prop where
  flagged : 0 < s.unreported → s.ffovr = true
  full : s.fullPending = true → s.ffull = true
  once : s.overruns = s.unreported + s.pc.reporting + reported s.reports
  some : ∀ overruns ∈ s.reports, 0 < overruns
  read : s.lostUnread = 0

/-- The handler is not about to write a flag back. -/
def Pc.Spares : Pc → Prop
  | .relWrite _ value _ => anySet value rffFfull = false ∧ anySet value rffFfovr = false
  | _ => True

/-- A step that is not a release that writes a flag back. -/
def Spares (s : Fifo) : Action → Prop
  | .arrive => True
  | .rxIsr => s.pc.Spares

/-- The overruns there are at the handler's check for one are reported in this very run of it, whatever
frames arrive between its accesses. -/
def ReportsNow (s : Fifo) : Prop :=
  ∀ i j k : ℕ, ∃ s' overruns,
    exec step s (List.replicate i .arrive ++ .rxIsr :: (List.replicate j .arrive ++
      .rxIsr :: (List.replicate k .arrive ++ [.rxIsr]))) = Option.some s' ∧
    s'.reports = overruns :: s.reports ∧ s.unreported ≤ overruns

/-- What the handler owes: the overruns are accounted for, and reported by the run of it that looks for
them. -/
structure Lawful (s : Fifo) : Prop where
  accounted : Accounted s
  prompt : s.pc = .ovrFlag → 0 < s.unreported → ReportsNow s

/-! ### The bits of the register -/

lemma length_bits {n : ℕ} (h : n ≤ 3) :
    (anySet (BitVec.ofNat 32 n) rffFfmp = true ↔ n ≠ 0) ∧
      anySet (BitVec.ofNat 32 n) rffFfull = false ∧ anySet (BitVec.ofNat 32 n) rffFfovr = false := by
  interval_cases n <;> decide

section Rff

variable {s : Fifo} (h : s.frames.length ≤ 3)
include h

lemma anySet_rff_ffmp : anySet (rff s) rffFfmp = true ↔ s.frames ≠ [] := by
  have hlen := (length_bits h).1
  rw [ne_eq, List.length_eq_zero_iff] at hlen
  have hfull : anySet (if s.ffull then rffFfull else 0) rffFfmp = false := by
    cases s.ffull <;> decide
  have hovr : anySet (if s.ffovr then rffFfovr else 0) rffFfmp = false := by
    cases s.ffovr <;> decide
  rw [rff, anySet_or, anySet_or, hfull, hovr, Bool.or_false, Bool.or_false]
  exact hlen

lemma anySet_rff_ffull : anySet (rff s) rffFfull = s.ffull := by
  have hfull : anySet (if s.ffull then rffFfull else 0) rffFfull = s.ffull := by
    cases s.ffull <;> decide
  have hovr : anySet (if s.ffovr then rffFfovr else 0) rffFfull = false := by
    cases s.ffovr <;> decide
  rw [rff, anySet_or, anySet_or, (length_bits h).2.1, hfull, hovr, Bool.false_or, Bool.or_false]

lemma anySet_rff_ffovr : anySet (rff s) rffFfovr = s.ffovr := by
  have hfull : anySet (if s.ffull then rffFfull else 0) rffFfovr = false := by
    cases s.ffull <;> decide
  have hovr : anySet (if s.ffovr then rffFfovr else 0) rffFfovr = s.ffovr := by
    cases s.ffovr <;> decide
  rw [rff, anySet_or, anySet_or, (length_bits h).2.2, hfull, hovr, Bool.false_or, Bool.false_or]

end Rff

/-- A release takes the oldest frame, and clears the flags that were read as set. -/
lemma writeRff_release (s : Fifo) (value : BitVec 32) :
    writeRff s (value ||| rffRffom) =
      { s with
        ffull := s.ffull && !anySet value rffFfull
        ffovr := s.ffovr && !anySet value rffFfovr
        frames := s.frames.tail } := by
  have hfull : anySet rffRffom rffFfull = false := by decide
  have hovr : anySet rffRffom rffFfovr = false := by decide
  have hrel : anySet rffRffom rffRffom = true := by decide
  rw [writeRff, anySet_or, anySet_or, anySet_or, hfull, hovr, hrel, Bool.or_false, Bool.or_false,
    Bool.or_true, if_pos rfl]

/-- `CAN_ClearFlag` for the full flag leaves the rest alone. -/
lemma writeRff_full (s : Fifo) : writeRff s rffFfull = { s with ffull := false } := by
  have hfull : anySet rffFfull rffFfull = true := by decide
  have hovr : anySet rffFfull rffFfovr = false := by decide
  have hrel : anySet rffFfull rffRffom = false := by decide
  simp [writeRff, hfull, hovr, hrel]

/-- `CAN_ClearFlag` for the overrun flag leaves the rest alone. -/
lemma writeRff_ovr (s : Fifo) : writeRff s rffFfovr = { s with ffovr := false } := by
  have hfull : anySet rffFfovr rffFfull = false := by decide
  have hovr : anySet rffFfovr rffFfovr = true := by decide
  have hrel : anySet rffFfovr rffRffom = false := by decide
  simp [writeRff, hfull, hovr, hrel]

/-! ### The invariant -/

/-- What the handler knows at each of its points. -/
def Pc.Knows (s : Fifo) : Pc → Prop
  | .readBox _ => s.frames ≠ []
  | .relRead frame _ => s.frames.head? = some frame
  | .relWrite frame value _ =>
    s.frames.head? = some frame ∧ (anySet value rffFfull = true → s.ffull = true) ∧
      (anySet value rffFfovr = true → s.ffovr = true)
  | .ovrClear => s.ffovr = true
  | .report overruns => 0 < overruns
  | _ => True

/-- The invariant: the flags are the ones that are pending, and what the handler knows is so. -/
structure Inv (s : Fifo) : Prop where
  accounted : Accounted s
  depth : s.frames.length ≤ 3
  ovr : s.ffovr = true → 0 < s.unreported
  full : s.ffull = true → s.fullPending = true
  knows : s.pc.Knows s

lemma inv_init : Inv Fifo.init where
  accounted :=
    { flagged := fun h => absurd h (lt_irrefl _)
      full := fun h => by cases h
      once := rfl
      some := fun _ h => by cases h
      read := rfl }
  depth := by decide
  ovr := fun h => by cases h
  full := fun h => by cases h
  knows := trivial

lemma head?_append_of_ne_nil {l : List ℕ} (h : l ≠ []) (n : ℕ) : (l ++ [n]).head? = l.head? := by
  cases l with
  | nil => exact absurd rfl h
  | cons m l => rfl

/-- The frame that an overrun takes the place of is not the oldest. -/
lemma head?_dropLast_append {l : List ℕ} (h : 2 ≤ l.length) (n : ℕ) :
    (l.dropLast ++ [n]).head? = l.head? := by
  match l with
  | [] => simp at h
  | [m] => simp at h
  | m :: m' :: l => rfl

/-- What an arriving frame leaves as it is, and what it adds to. -/
structure Arrived (s s' : Fifo) : Prop where
  pc : s'.pc = s.pc
  head : s.frames ≠ [] → s'.frames ≠ [] ∧ s'.frames.head? = s.frames.head?
  ffull : s.ffull = true → s'.ffull = true
  ffovr : s.ffovr = true → s'.ffovr = true
  reports : s'.reports = s.reports
  unreported : s.unreported ≤ s'.unreported

lemma arrived_arrive (s : Fifo) : Arrived s (arrive s) := by
  simp only [arrive]
  split
  · next hlt =>
    refine ⟨rfl, fun hne => ⟨by simp, head?_append_of_ne_nil hne _⟩, fun hf => ?_, id, rfl, le_rfl⟩
    simp [hf]
  · next hfull =>
    refine ⟨rfl, fun hne => ⟨by simp, head?_dropLast_append (by omega) _⟩, id, fun _ => rfl, rfl, ?_⟩
    exact Nat.le_succ _

lemma Arrived.knows {s s' : Fifo} (h : Arrived s s') {pc : Pc} (hpc : pc.Knows s) : pc.Knows s' := by
  cases pc with
  | readBox caller => exact (h.head hpc).1
  | relRead frame caller =>
    have hne : s.frames ≠ [] := by
      rintro hnil
      simp [Pc.Knows, hnil] at hpc
    exact (h.head hne).2.trans hpc
  | relWrite frame value caller =>
    obtain ⟨hhead, hfull, hovr⟩ := hpc
    have hne : s.frames ≠ [] := by
      rintro hnil
      simp [hnil] at hhead
    exact ⟨(h.head hne).2.trans hhead, h.ffull ∘ hfull, h.ffovr ∘ hovr⟩
  | ovrClear => exact h.ffovr hpc
  | report overruns => exact hpc
  | idle => trivial
  | rxFlag => trivial
  | rxPending => trivial
  | recv caller => trivial
  | fullFlag => trivial
  | fullClear => trivial
  | ovrFlag => trivial

/-- **A frame that arrives** is stored, or overruns the FIFO and is flagged. -/
lemma Inv.arrive {s : Fifo} (h : Inv s) : Inv (arrive s) := by
  have hknows := (arrived_arrive s).knows h.knows
  obtain ⟨⟨hflagged, hpending, honce, hsome, hread⟩, hdepth, hovr, hfull, -⟩ := h
  simp only [Overrun.arrive] at hknows ⊢
  split at hknows
  · next hlt =>
    rw [if_pos hlt]
    refine ⟨⟨hflagged, ?_, honce, hsome, hread⟩, ?_, hovr, ?_, hknows⟩
    · simp only [Bool.or_eq_true]
      exact Or.imp_left hpending
    · simp only [List.length_append, List.length_singleton]
      omega
    · simp only [Bool.or_eq_true]
      exact Or.imp_left hfull
  · next hlt =>
    rw [if_neg hlt]
    refine ⟨⟨fun _ => rfl, hpending, ?_, hsome, hread⟩, ?_, fun _ => Nat.succ_pos _, hfull, hknows⟩
    · simp only
      omega
    · simp only [List.length_append, List.length_dropLast, List.length_singleton]
      omega

/-- A point of the handler that touches nothing keeps the invariant. -/
lemma Inv.goto {s : Fifo} (h : Inv s) {pc : Pc} (hfrom : s.pc.reporting = 0) (hto : pc.reporting = 0)
    (hknows : pc.Knows s) : Inv { s with pc := pc } := by
  obtain ⟨⟨hflagged, hpending, honce, hsome, hread⟩, hdepth, hovr, hfull, -⟩ := h
  refine ⟨⟨hflagged, hpending, ?_, hsome, hread⟩, hdepth, hovr, hfull, ?_⟩
  · rw [hto]
    rw [hfrom] at honce
    exact honce
  · cases pc <;> exact hknows

lemma Caller.back_reporting (caller : Caller) : caller.back.reporting = 0 := by
  cases caller <;> rfl

lemma Caller.back_knows (caller : Caller) (s : Fifo) : caller.back.Knows s := by
  cases caller <;> trivial

/-- **A release that spares the flags** takes the frame that was read. -/
lemma Inv.release {s : Fifo} (h : Inv s) {frame : ℕ} {value : BitVec 32} {caller : Caller}
    (hpc : s.pc = .relWrite frame value caller) (hspares : s.pc.Spares) : Inv (rxIsr s) := by
  have hknows := h.knows
  obtain ⟨⟨hflagged, hpending, honce, hsome, hread⟩, hdepth, hovr, hfull, -⟩ := h
  rw [hpc] at hknows hspares honce
  obtain ⟨hhead, -, -⟩ := hknows
  obtain ⟨hsfull, hsovr⟩ := hspares
  simp only [rxIsr, hpc, writeRff_release, hhead, if_true, hsfull, hsovr, Bool.not_false,
    Bool.and_true]
  refine ⟨⟨hflagged, hpending, ?_, hsome, hread⟩, ?_, hovr, hfull, ?_⟩
  · rw [caller.back_reporting]
    exact honce
  · simp only [List.length_tail]
    omega
  · cases caller <;> trivial

/-- **The next access of the handler** keeps the invariant, unless it writes a flag back. -/
lemma Inv.rxIsr {s : Fifo} (h : Inv s) (hspares : s.pc.Spares) : Inv (rxIsr s) := by
  have hknows := h.knows
  rcases hpc : s.pc with _ | _ | _ | caller | caller | ⟨frame, caller⟩ | ⟨frame, value, caller⟩ | _ |
    _ | _ | _ | overruns
  case relWrite => exact h.release hpc hspares
  all_goals
    rw [hpc] at hknows
    simp only [Overrun.rxIsr, hpc]
  case idle => exact h.goto (by rw [hpc]; rfl) rfl trivial
  case rxFlag =>
    split
    · exact h.goto (by rw [hpc]; rfl) rfl trivial
    · exact h.goto (by rw [hpc]; rfl) rfl trivial
  case rxPending =>
    split
    · exact h.goto (by rw [hpc]; rfl) rfl trivial
    · exact h.goto (by rw [hpc]; rfl) rfl trivial
  case recv =>
    split
    · next hset => exact h.goto (by rw [hpc]; rfl) rfl ((anySet_rff_ffmp h.depth).1 hset)
    · exact h.goto (by rw [hpc]; rfl) caller.back_reporting (caller.back_knows s)
  case readBox =>
    refine h.goto (by rw [hpc]; rfl) rfl ?_
    cases hframes : s.frames with
    | nil => exact absurd hframes hknows
    | cons frame frames => simp [Pc.Knows, hframes]
  case relRead =>
    refine h.goto (by rw [hpc]; rfl) rfl ⟨hknows, ?_, ?_⟩
    · rw [anySet_rff_ffull h.depth]
      exact id
    · rw [anySet_rff_ffovr h.depth]
      exact id
  case fullFlag =>
    split
    · exact h.goto (by rw [hpc]; rfl) rfl trivial
    · exact h.goto (by rw [hpc]; rfl) rfl trivial
  case fullClear =>
    rw [writeRff_full]
    obtain ⟨⟨hflagged, hpending, honce, hsome, hread⟩, hdepth, hovr, hfull, -⟩ := h
    rw [hpc] at honce
    refine ⟨⟨hflagged, fun h => ?_, honce, hsome, hread⟩, hdepth, hovr, fun h => ?_, trivial⟩
    · cases h
    · cases h
  case ovrFlag =>
    split
    · next hset =>
      rw [anySet_rff_ffovr h.depth] at hset
      exact h.goto (by rw [hpc]; rfl) rfl hset
    · exact h.goto (by rw [hpc]; rfl) rfl trivial
  case ovrClear =>
    rw [writeRff_ovr]
    obtain ⟨⟨hflagged, hpending, honce, hsome, hread⟩, hdepth, hovr, hfull, -⟩ := h
    rw [hpc] at honce
    refine ⟨⟨fun h => absurd h (lt_irrefl _), hpending, ?_, hsome, hread⟩, hdepth, fun h => ?_, hfull,
      hovr hknows⟩
    · simp only [Pc.reporting] at honce ⊢
      omega
    · cases h
  case report =>
    obtain ⟨⟨hflagged, hpending, honce, hsome, hread⟩, hdepth, hovr, hfull, -⟩ := h
    rw [hpc] at honce
    refine ⟨⟨hflagged, hpending, ?_, ?_, hread⟩, hdepth, hovr, hfull, trivial⟩
    · simp only [Pc.reporting, reported] at honce ⊢
      omega
    · intro n hn
      rcases List.mem_cons.1 hn with rfl | hn
      · exact hknows
      · exact hsome n hn

/-- **A release that writes a flag back** clears it before the handler has seen it. -/
lemma Inv.not_accounted {s : Fifo} (h : Inv s) (hbad : ¬ s.pc.Spares) : ¬ Accounted (Overrun.rxIsr s) := by
  have hknows := h.knows
  rcases hpc : s.pc with _ | _ | _ | caller | caller | ⟨frame, caller⟩ | ⟨frame, value, caller⟩ | _ |
    _ | _ | _ | overruns
  case relWrite =>
    rw [hpc] at hknows hbad
    obtain ⟨-, hfull, hovr⟩ := hknows
    intro hacc
    have hflagged := hacc.flagged
    have hpending := hacc.full
    simp only [Overrun.rxIsr, hpc, writeRff_release] at hflagged hpending
    apply hbad
    constructor
    · by_contra hset
      rw [Bool.not_eq_false] at hset
      have := hpending (h.full (hfull hset))
      simp [hset] at this
    · by_contra hset
      rw [Bool.not_eq_false] at hset
      have := hflagged (h.ovr (hovr hset))
      simp [hset] at this
  all_goals
    rw [hpc] at hbad
    exact absurd trivial hbad

/-! ### Runs -/

lemma Inv.step {s s' : Fifo} {a : Action} (h : Inv s) (hspares : Spares s a)
    (hstep : Overrun.step s a = some s') : Inv s' := by
  cases a with
  | arrive =>
    obtain rfl := Option.some.inj hstep
    exact h.arrive
  | rxIsr =>
    obtain rfl := Option.some.inj hstep
    exact h.rxIsr hspares

/-- Every sequence of arrivals and accesses is possible. -/
lemma exec_step (s : Fifo) (as : List Action) : ∃ s', exec step s as = some s' := by
  induction as generalizing s with
  | nil => exact ⟨s, rfl⟩
  | cons a as ih =>
    cases a with
    | arrive => exact ih (arrive s)
    | rxIsr => exact ih (rxIsr s)

lemma Arrived.refl (s : Fifo) : Arrived s s := ⟨rfl, fun h => ⟨h, rfl⟩, id, id, rfl, le_rfl⟩

lemma Arrived.trans {s s' s'' : Fifo} (h : Arrived s s') (h' : Arrived s' s'') : Arrived s s'' where
  pc := h'.pc.trans h.pc
  head := fun hne =>
    have hne' := (h.head hne).1
    ⟨(h'.head hne').1, (h'.head hne').2.trans (h.head hne).2⟩
  ffull := h'.ffull ∘ h.ffull
  ffovr := h'.ffovr ∘ h.ffovr
  reports := h'.reports.trans h.reports
  unreported := h.unreported.trans h'.unreported

/-- Frames that arrive before the next access. -/
lemma exec_arrivals {s : Fifo} (h : Inv s) (n : ℕ) (as : List Action) :
    ∃ s', exec step s (List.replicate n .arrive ++ as) = exec step s' as ∧ Inv s' ∧ Arrived s s' := by
  induction n generalizing s with
  | zero => exact ⟨s, rfl, h, Arrived.refl s⟩
  | succ n ih =>
    obtain ⟨s', hexec, hinv, harrived⟩ := ih h.arrive
    exact ⟨s', hexec, hinv, (arrived_arrive s).trans harrived⟩

/-- **An overrun that the handler looks for is reported by that run of it.** -/
lemma reportsNow_of_inv {s : Fifo} (h : Inv s) (hpc : s.pc = .ovrFlag) (hsome : 0 < s.unreported) :
    ReportsNow s := by
  intro i j k
  obtain ⟨s₁, hexec₁, hinv₁, harr₁⟩ := exec_arrivals h i
    (.rxIsr :: (List.replicate j .arrive ++ .rxIsr :: (List.replicate k .arrive ++ [.rxIsr])))
  have hpc₁ : s₁.pc = .ovrFlag := harr₁.pc.trans hpc
  have hset : anySet (rff s₁) rffFfovr = true := by
    rw [anySet_rff_ffovr hinv₁.depth]
    exact harr₁.ffovr (h.accounted.flagged hsome)
  -- the flag is found, and cleared
  have hread : rxIsr s₁ = { s₁ with pc := .ovrClear } := by
    simp only [rxIsr, hpc₁, hset, if_true]
  have hinv₁' : Inv { s₁ with pc := .ovrClear } := by
    rw [← hread]
    exact hinv₁.rxIsr (by rw [hpc₁]; trivial)
  obtain ⟨s₂, hexec₂, hinv₂, harr₂⟩ := exec_arrivals hinv₁' j
    (.rxIsr :: (List.replicate k .arrive ++ [.rxIsr]))
  have hpc₂ : s₂.pc = .ovrClear := harr₂.pc
  have hclear : rxIsr s₂ = { s₂ with ffovr := false, pc := .report s₂.unreported, unreported := 0 } := by
    simp only [rxIsr, hpc₂, writeRff_ovr]
  have hinv₂' := hinv₂.rxIsr (by rw [hpc₂]; trivial)
  rw [hclear] at hinv₂'
  obtain ⟨s₃, hexec₃, -, harr₃⟩ := exec_arrivals hinv₂' k [.rxIsr]
  have hpc₃ : s₃.pc = .report s₂.unreported := harr₃.pc
  refine ⟨rxIsr s₃, s₂.unreported, ?_, ?_, harr₁.unreported.trans harr₂.unreported⟩
  · rw [hexec₁]
    change exec step (rxIsr s₁) _ = _
    rw [hread, hexec₂]
    change exec step (rxIsr s₂) _ = _
    rw [hclear, hexec₃]
    rfl
  · simp only [rxIsr, hpc₃]
    rw [harr₃.reports, harr₂.reports, harr₁.reports]

lemma Inv.lawful {s : Fifo} (h : Inv s) : Lawful s := ⟨h.accounted, reportsNow_of_inv h⟩

/-- **The overruns are accounted for**, each is reported once by the run of the handler that looks for
it, and no flag is lost and no frame released unread, in exactly the sequences of arrivals and handler
accesses in which no release writes a flag back. -/
theorem lawful_iff_spares (as : List Action) :
    (∀ bs, bs <+: as → ∀ s, exec step Fifo.init bs = some s → Lawful s) ↔
      Along step Spares Fifo.init as := by
  obtain ⟨s, hexec⟩ := exec_step Fifo.init as
  refine states_iff_along (I := Inv) ?_ ?_ (fun _ h => h.lawful) as Fifo.init s inv_init hexec
  · intro s a s' hinv hspares hstep
    exact hinv.step hspares hstep
  · intro s a s' hinv hbad hstep hlawful
    cases a with
    | arrive => exact hbad trivial
    | rxIsr =>
      obtain rfl := Option.some.inj hstep
      exact hinv.not_accounted hbad hlawful.accounted

/-- Four frames arrive before the interrupt is served: the release of the first clears the full flag and
the overrun flag, and the overrun is not reported. -/
theorem not_lawful_four : ¬ ∀ (as : List Action) (s : Fifo),
    exec step Fifo.init as = some s → Lawful s := by
  intro h
  obtain ⟨s, hexec, hclear, hunreported⟩ : ∃ s, exec step Fifo.init
      (List.replicate 4 .arrive ++ List.replicate 7 .rxIsr) = some s ∧
      s.ffovr = false ∧ 0 < s.unreported := ⟨_, rfl, by decide, by decide⟩
  have hflagged := (h _ s hexec).accounted.flagged hunreported
  rw [hclear] at hflagged
  cases hflagged

end N32L43x.Can.Overrun
