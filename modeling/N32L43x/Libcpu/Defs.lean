import N32L43x.Lib.Stack
import Mathlib.Data.List.OfFn

/-!
The context switch of the Cortex-M4 port: `context_gcc.S` instruction by instruction, the stack of a new
thread from `cpuport.c`, and of the processor what they rely on, which is how it takes an exception and
returns from one.  The processor has an FPU whose registers it stacks lazily (`FPCCR.LSPEN`, set at
reset).  Memory is read and written in aligned words.
-/

namespace N32L43x.Libcpu

open N32L43x.Lib.Memory (Addr)
open N32L43x.Lib.Stack

abbrev Word := BitVec 32

abbrev Mem := Addr → Word

/-! ### Registers -/

/-- `struct exception_stack_frame`: the registers that the processor stacks. -/
structure ExceptionFrame where
  r0 : Word
  r1 : Word
  r2 : Word
  r3 : Word
  r12 : Word
  lr : Word
  pc : Word
  psr : Word
deriving DecidableEq

def ExceptionFrame.words (f : ExceptionFrame) : List Word :=
  [f.r0, f.r1, f.r2, f.r3, f.r12, f.lr, f.pc, f.psr]

def ExceptionFrame.ofWords (ws : List Word) : ExceptionFrame where
  r0 := ws.getD 0 0
  r1 := ws.getD 1 0
  r2 := ws.getD 2 0
  r3 := ws.getD 3 0
  r12 := ws.getD 4 0
  lr := ws.getD 5 0
  pc := ws.getD 6 0
  psr := ws.getD 7 0

/-- Registers of a row, from the words of a block. -/
def row {n : ℕ} (ws : List Word) : Fin n → Word := fun i => ws.getD i 0

/-- The registers of the processor, and the state of an exception. -/
structure Cpu where
  /-- `r0`–`r3`, `r12`, `lr`, `pc`, `xpsr` -/
  core : ExceptionFrame
  /-- `r4`–`r11` -/
  high : Fin 8 → Word
  /-- `s0`–`s15` -/
  fpLow : Fin 16 → Word
  /-- `s16`–`s31`, which are `d8`–`d15` -/
  fpHigh : Fin 16 → Word
  fpscr : Word
  psp : Word
  msp : Word
  /-- `CONTROL.SPSEL` -/
  spsel : Bool
  /-- `CONTROL.FPCA`: there is a floating-point context. -/
  fpca : Bool
  primask : Bool
  /-- Handler mode. -/
  handler : Bool
  /-- `FPCCR.LSPACT`: `s0`–`s15` and `fpscr` have a place on the stack and are not there yet. -/
  lspact : Bool
  /-- `FPCAR`: the place. -/
  fpcar : Addr

/-- The registers of a thread with a floating-point context. -/
structure FpContext where
  low : Fin 16 → Word
  high : Fin 16 → Word
  fpscr : Word

/-- What a thread finds in the processor. -/
structure Context where
  core : ExceptionFrame
  high : Fin 8 → Word
  sp : Word
  primask : Bool
  fp : Option FpContext

/-- The context of the code that runs on the process stack. -/
def Cpu.context (c : Cpu) : Context where
  core := c.core
  high := c.high
  sp := c.psp
  primask := c.primask
  fp := if c.fpca then some ⟨c.fpLow, c.fpHigh, c.fpscr⟩ else none

/-- The processor after code of a thread that leaves a context. -/
def Cpu.withContext (c : Cpu) (x : Context) : Cpu :=
  { c with
    core := x.core
    high := x.high
    psp := x.sp
    primask := x.primask
    fpca := x.fp.isSome
    fpLow := (x.fp.map FpContext.low).getD c.fpLow
    fpHigh := (x.fp.map FpContext.high).getD c.fpHigh
    fpscr := (x.fp.map FpContext.fpscr).getD c.fpscr }

/-- The stack pointer is that of a word, and bit 9 of `xpsr` reads as zero. -/
def Context.Valid (x : Context) : Prop := x.sp.toNat % 4 = 0 ∧ x.core.psr.getLsbD 9 = false

instance (x : Context) : Decidable x.Valid := inferInstanceAs (Decidable (_ ∧ _))

/-! ### Exceptions -/

/-- `CCR.STKALIGN`, or a frame with floating-point registers: the frame is at a multiple of eight. -/
def forcealign (stkalign extended : Bool) : Bool := extended || stkalign

/-- The bit of the stack pointer that is cleared for that. -/
def spmask (align : Bool) : Word := if align then 4 else 0

/-- Bytes of the frame. -/
def framesize (extended : Bool) : Word := if extended then 0x68 else 0x20

/-- `EXC_RETURN` for a return to thread mode. -/
def excReturn (extended process : Bool) : Word :=
  0xFFFFFFE9 ||| (if extended then 0 else 0x10) ||| (if process then 4 else 0)

/-- `EXC_RETURN[4]` is clear: the frame has floating-point registers. -/
def Cpu.extended (c : Cpu) : Bool := !c.core.lr.getLsbD 4

/-- `EXC_RETURN[2]`: the frame is on the process stack. -/
def Cpu.process (c : Cpu) : Bool := c.core.lr.getLsbD 2

/-- An exception in thread mode: the registers are stacked, and there is room for those of the FPU. -/
def exceptionEntry (stkalign : Bool) (c : Cpu) (m : Mem) : Cpu × Mem :=
  let align := forcealign stkalign c.fpca
  let sp := if c.spsel then c.psp else c.msp
  let frameptr := (sp - framesize c.fpca) &&& ~~~spmask align
  let psr := (c.core.psr &&& ~~~0x200) ||| (if sp.getLsbD 2 && align then 0x200 else 0)
  ({ c with
      core := { c.core with lr := excReturn c.fpca c.spsel }
      psp := if c.spsel then frameptr else c.psp
      msp := if c.spsel then c.msp else frameptr
      spsel := false
      fpca := false
      handler := true
      lspact := c.fpca
      fpcar := if c.fpca then frameptr + 0x20 else c.fpcar },
    store m frameptr { c.core with psr := psr }.words)

/-- The return from an exception to thread mode. -/
def exceptionReturn (stkalign : Bool) (c : Cpu) (m : Mem) : Cpu :=
  let frameptr := if c.process then c.psp else c.msp
  let frame := ExceptionFrame.ofWords (load m frameptr 8)
  let align := frame.psr.getLsbD 9 && forcealign stkalign c.extended
  let sp := (frameptr + framesize c.extended) ||| spmask align
  { c with
    core := { frame with psr := frame.psr &&& ~~~0x200 }
    fpLow := if c.extended && !c.lspact then row (load m (frameptr + 0x20) 16) else c.fpLow
    fpscr := if c.extended && !c.lspact then m (frameptr + 0x60) else c.fpscr
    psp := if c.process then sp else c.psp
    msp := if c.process then c.msp else sp
    spsel := c.process
    fpca := c.extended
    handler := false
    lspact := false }

/-- An instruction of the FPU in handler mode: what was not yet stacked is stacked first. -/
def Cpu.fpStack (c : Cpu) (m : Mem) : Mem :=
  if c.lspact then store m c.fpcar (List.ofFn c.fpLow ++ [c.fpscr]) else m

def Cpu.fpUsed (c : Cpu) : Cpu := { c with lspact := false, fpca := true }

/-! ### The program -/

/-- Where things are: the variables of the port, and `sp` and the stack of every thread. -/
structure Places (Tid : Type*) where
  /-- `rt_thread_switch_interrupt_flag` -/
  switchFlag : Addr
  /-- `rt_interrupt_from_thread` -/
  fromThread : Addr
  /-- `rt_interrupt_to_thread` -/
  toThread : Addr
  /-- `&thread->sp` -/
  sp : Tid → Addr
  stackAddr : Tid → Addr
  stackSize : Tid → ℕ
  /-- The first word of the vector table, which is the start of the main stack. -/
  mainStack : Addr
  stkalign : Bool

variable {Tid : Type*}

/-- `rt_hw_context_switch` and `rt_hw_context_switch_interrupt`.  That PendSV is pending then is a
variable of the machine. -/
def rtHwContextSwitch (p : Places Tid) (from' to' : Word) (c : Cpu) (m : Mem) : Cpu × Mem :=
  let m₁ :=
    if m p.switchFlag = 1 then m
    else Function.update (Function.update m p.switchFlag 1) p.fromThread from'
  ({ c with core := { c.core with r0 := 0xE000ED04, r1 := 0x10000000, r2 := p.toThread, r3 := 1 } },
    Function.update m₁ p.toThread to')

/-- `rt_hw_context_switch_to`. -/
def rtHwContextSwitchTo (p : Places Tid) (to' : Word) (c : Cpu) (m : Mem) : Cpu × Mem :=
  ({ c with
      core := { c.core with r0 := 0 }
      fpca := false
      msp := p.mainStack
      primask := false },
    Function.update (Function.update (Function.update m p.toThread to') p.fromThread 0) p.switchFlag 1)

/-- `PendSV_Handler`, the part that saves the context of the thread `rt_interrupt_from_thread` names. -/
def saveFrom (p : Places Tid) (c : Cpu) (m : Mem) : Cpu × Mem :=
  -- VSTMDBEQ r1!, {d8 - d15}
  let c₁ := if c.extended then c.fpUsed else c
  let p₁ := if c.extended then push (c.fpStack m) c.psp (List.ofFn c.fpHigh) else (m, c.psp)
  -- STMFD r1!, {r4 - r11}
  let p₂ := push p₁.1 p₁.2 (List.ofFn c.high)
  let r4 : Word := if c.extended then 1 else 0
  -- STMFD r1!, {r4}
  let p₃ := push p₂.1 p₂.2 [r4]
  ({ c₁ with high := fun i => if i.val = 0 then r4 else c.high i },
    Function.update p₃.1 (p₃.1 p.fromThread) p₃.2)

/-- `switch_to_thread`. -/
def switchToThread (p : Places Tid) (c : Cpu) (m : Mem) : Cpu × Mem :=
  let p₁ := pop m (m (m p.toThread)) 1
  let r3 := p₁.1.getD 0 0
  -- LDMFD r1!, {r4 - r11}
  let p₂ := pop m p₁.2 8
  -- VLDMIANE r1!, {d8 - d15}
  let m₃ := if r3 ≠ 0 then c.fpStack m else m
  let p₃ := pop m₃ p₂.2 16
  let c₃ := if r3 ≠ 0 then { c.fpUsed with fpHigh := row p₃.1 } else c
  let lr := (c.core.lr ||| 0x10) &&& (if r3 ≠ 0 then ~~~0x10 else ~~~0)
  ({ c₃ with
      core := { c.core with lr := lr }
      high := row p₂.1
      psp := if r3 ≠ 0 then p₃.2 else p₂.2 },
    m₃)

/-- `PendSV_Handler`. -/
def pendSVHandler (p : Places Tid) (c : Cpu) (m : Mem) : Cpu × Mem :=
  let r2 := c.primask
  let s :=
    if m p.switchFlag = 0 then (c, m)
    else
      let m₁ := Function.update m p.switchFlag 0
      let s₁ := if m₁ p.fromThread = 0 then (c, m₁) else saveFrom p c m₁
      switchToThread p s₁.1 s₁.2
  -- pendsv_exit
  ({ s.1 with primask := r2, core := { s.1.core with lr := s.1.core.lr ||| 4 } }, s.2)

/-- The registers a new thread starts with. -/
def initFrame (tentry parameter texit : Word) : ExceptionFrame :=
  { r0 := parameter, r1 := 0, r2 := 0, r3 := 0, r12 := 0, lr := texit, pc := tentry, psr := 0x01000000 }

/-- `rt_hw_stack_init`: the memory, and the stack pointer of the new thread. -/
def rtHwStackInit (m : Mem) (tentry parameter : Word) (stackAddr : Addr) (texit : Word) : Mem × Addr :=
  let stk := ((stackAddr + 4) &&& ~~~7) - 68
  let m₁ := store m stk (List.replicate 17 0xdeadbeef)
  let m₂ := store m₁ (stk + 36) (initFrame tentry parameter texit).words
  (Function.update m₂ stk 0, stk)

/-- How a thread starts: `entry` and `parameter`. -/
structure Start where
  entry : Word
  parameter : Word

/-- `_thread_init`, what it writes to the stack and to `sp`. -/
def threadInit [DecidableEq Tid] (p : Places Tid) (threadExit : Word) (m : Mem) (t : Tid) (b : Start) :
    Mem :=
  let s := rtHwStackInit m b.entry b.parameter
    (p.stackAddr t + BitVec.ofNat 32 (p.stackSize t) - 4) threadExit
  Function.update s.1 (p.sp t) s.2

end N32L43x.Libcpu
