import N32L43x.Lib.Run
import N32L43x.Libcpu.Frame

/-!
The processor running threads: their code, exceptions, switch requests of the scheduler in threads and in
exceptions, and PendSV, in any order the processor allows.  Beside it threads that have a processor each
and share the memory that is theirs to see; a run of the one is to be a run of the other.
-/

namespace N32L43x.Libcpu

open N32L43x.Lib.Memory (Addr)
open N32L43x.Lib.Stack

variable {Tid : Type*}

/-! ### The places -/

section Places

variable (p : Places Tid)

/-- A variable of the port, or `sp` of a thread. -/
def Places.Kernel (a : Addr) : Prop :=
  a = p.switchFlag ∨ a = p.fromThread ∨ a = p.toThread ∨ ∃ t, a = p.sp t

def Places.OnStack (t : Tid) (a : Addr) : Prop :=
  (p.stackAddr t).toNat ≤ a.toNat ∧ a.toNat < (p.stackAddr t).toNat + p.stackSize t

/-- A word of the frame of an exception that comes before the first switch. -/
def Places.OnMain (a : Addr) : Prop :=
  p.mainStack.toNat ≤ a.toNat + 36 ∧ a.toNat < p.mainStack.toNat

end Places

/-- Places that do not overlap, with room on every stack for a context. -/
structure Layout (Tid : Type*) extends Places Tid where
  flag_ne_from : switchFlag ≠ fromThread
  flag_ne_to : switchFlag ≠ toThread
  from_ne_to : fromThread ≠ toThread
  sp_injective : Function.Injective sp
  sp_ne_flag : ∀ t, sp t ≠ switchFlag
  sp_ne_from : ∀ t, sp t ≠ fromThread
  sp_ne_to : ∀ t, sp t ≠ toThread
  sp_ne_zero : ∀ t, sp t ≠ 0
  stack_room : ∀ t, 216 ≤ stackSize t
  stack_end : ∀ t, (stackAddr t).toNat + stackSize t < 0x100000000
  kernel_apart : ∀ {a t}, toPlaces.Kernel a → ¬ toPlaces.OnStack t a
  stacks_apart : ∀ {a t u}, toPlaces.OnStack t a → toPlaces.OnStack u a → t = u
  main_room : 108 ≤ mainStack.toNat
  main_apart : ∀ {a t}, toPlaces.OnMain a → ¬ toPlaces.OnStack t a
  main_not_kernel : ∀ {a}, toPlaces.OnMain a → ¬ toPlaces.Kernel a

/-- A stack pointer with room below it for a context with floating-point registers. -/
def Places.Fits (p : Places Tid) (t : Tid) (sp : Addr) : Prop :=
  (p.stackAddr t).toNat + 208 ≤ sp.toNat ∧ sp.toNat ≤ (p.stackAddr t).toNat + p.stackSize t

/-! ### The machine -/

structure Machine (Tid : Type*) where
  cpu : Cpu
  mem : Mem
  /-- `rt_cpu_self()->current_thread` -/
  currentThread : Tid
  /-- PendSV is pending. -/
  pending : Bool
  /-- `PendSV_Handler` was entered and has not yet disabled interrupts. -/
  active : Bool

inductive Action (Tid : Type*) where
  /-- The thread runs code, which leaves a context and a memory. -/
  | exec (x : Context) (m : Mem)
  /-- The scheduler makes another thread the current one, in a thread or in an exception. -/
  | request (t : Tid)
  | enter
  /-- A handler runs code, which keeps `r4`–`r11` and `s16`–`s31`. -/
  | isr (core : ExceptionFrame) (m : Mem)
  /-- A handler uses the FPU. -/
  | isrFp (low : Fin 16 → Word) (fpscr : Word)
  | accept
  | pendSV
  | leave

/-- One step.  PendSV has the lowest priority: it follows the other handlers, and the processor is not back
in the thread before it. -/
def step (p : Places Tid) (s : Machine Tid) : Action Tid → Option (Machine Tid)
  | .exec x m =>
    if s.cpu.handler = false ∧ s.cpu.spsel = true ∧ x.Valid then
      some { s with cpu := s.cpu.withContext x, mem := m }
    else none
  | .request t =>
    if s.cpu.handler = true ∨ s.cpu.spsel = true then
      let r := rtHwContextSwitch p (p.sp s.currentThread) (p.sp t) s.cpu s.mem
      some { s with cpu := r.1, mem := r.2, currentThread := t, pending := true }
    else none
  | .enter =>
    if s.cpu.handler = false ∧ s.cpu.primask = false then
      let r := exceptionEntry p.stkalign s.cpu s.mem
      some { s with cpu := r.1, mem := r.2 }
    else none
  | .isr core m =>
    if s.cpu.handler = true then
      some { s with cpu := { s.cpu with core := { core with lr := s.cpu.core.lr } }, mem := m }
    else none
  | .isrFp low fpscr =>
    if s.cpu.handler = true then
      some { s with
        cpu := { s.cpu.fpUsed with fpLow := low, fpscr := fpscr }
        mem := s.cpu.fpStack s.mem }
    else none
  | .accept =>
    if s.cpu.handler = true ∧ s.pending = true ∧ s.active = false then
      some { s with pending := false, active := true }
    else none
  | .pendSV =>
    if s.active = true then
      let r := pendSVHandler p s.cpu s.mem
      some { s with cpu := r.1, mem := r.2, active := false }
    else none
  | .leave =>
    if s.cpu.handler = true ∧ s.pending = false ∧ s.active = false then
      some { s with cpu := exceptionReturn p.stkalign s.cpu s.mem }
    else none

/-- `rt_system_scheduler_start`, which switches to the first thread. -/
def rtSystemSchedulerStart (p : Places Tid) (c : Cpu) (m : Mem) (t : Tid) : Machine Tid where
  cpu := (rtHwContextSwitchTo p (p.sp t) c m).1
  mem := (rtHwContextSwitchTo p (p.sp t) c m).2
  currentThread := t
  pending := true
  active := false

/-- The thread whose stack the processor uses, or has used before the exception. -/
def Runs (p : Places Tid) (c : Cpu) (t : Tid) : Prop :=
  (if c.handler then c.process else c.spsel) = true ∧ (p.stackAddr t).toNat < c.psp.toNat ∧
    c.psp.toNat ≤ (p.stackAddr t).toNat + p.stackSize t

/-- What the code of threads and handlers leaves alone: the variables of the port, what is saved of the
threads that do not run, and the frame of an exception. -/
inductive Reserved (p : Places Tid) (s : Machine Tid) (a : Addr) : Prop where
  | kernel (h : p.Kernel a)
  | saved (t : Tid) (hruns : ¬ Runs p s.cpu t)
      (h : Within (s.mem (p.sp t)) (savedWords s.mem (s.mem (p.sp t))) a)
  | frame (hhandler : s.cpu.handler = true) (hprocess : s.cpu.process = true)
      (h : Within s.cpu.psp (frameWords s.cpu.extended) a)

/-- Code that leaves that alone, and a stack pointer that stays within the stack. -/
def Obeys (p : Places Tid) (s : Machine Tid) : Action Tid → Prop
  | .exec x m => (∀ a, Reserved p s a → m a = s.mem a) ∧ ∀ t, Runs p s.cpu t → p.Fits t x.sp
  | .isr _ m => ∀ a, Reserved p s a → m a = s.mem a
  | _ => True

/-! ### Threads with a processor each -/

structure Virtual (Tid : Type*) where
  context : Tid → Context
  mem : Mem
  /-- The thread that runs, if one does. -/
  running : Option Tid
  /-- The thread the scheduler has chosen. -/
  current : Tid

/-- What is seen of a run. -/
inductive Label (Tid : Type*) where
  /-- Code of the thread that runs. -/
  | run (x : Context) (m : Mem) (x' : Context) (m' : Mem)
  | isr (m m' : Mem)
  | request (t : Tid)
  | switch

/-- What threads can see: not the variables of the port, nor a stack below its stack pointer. -/
def Virtual.Visible (p : Places Tid) (v : Virtual Tid) (a : Addr) : Prop :=
  ¬ p.Kernel a ∧ ¬ p.OnMain a ∧ ∀ t, p.OnStack t a → (v.context t).sp.toNat ≤ a.toNat

variable [DecidableEq Tid]

open Classical in
/-- Code runs in the context and the memory it has left, and the thread that runs changes at a switch. -/
noncomputable def Virtual.step (p : Places Tid) (v : Virtual Tid) : Label Tid → Option (Virtual Tid)
  | .run x m x' m' =>
    match v.running with
    | some t =>
      if v.context t = x ∧ ∀ a, v.Visible p a → m a = v.mem a then
        some { v with context := Function.update v.context t x', mem := m' }
      else none
    | none => none
  | .isr m m' => if ∀ a, v.Visible p a → m a = v.mem a then some { v with mem := m' } else none
  | .request t => some { v with current := t }
  | .switch => some { v with running := some v.current }

omit [DecidableEq Tid] in
/-- What a step of the machine shows. -/
def label (p : Places Tid) (s : Machine Tid) (a : Action Tid) (s' : Machine Tid) : List (Label Tid) :=
  match a with
  | .exec _ _ => [.run s.cpu.context s.mem s'.cpu.context s'.mem]
  | .request t =>
    (if s.cpu.handler then [] else [.run s.cpu.context s.mem s'.cpu.context s'.mem]) ++ [.request t]
  | .isr _ _ => [.isr s.mem s'.mem]
  | .pendSV => if s.mem p.switchFlag = 0 then [] else [.switch]
  | _ => []

/-- Where the stack of a new thread starts. -/
def Places.top (p : Places Tid) (t : Tid) : Addr :=
  (p.stackAddr t + BitVec.ofNat 32 (p.stackSize t)) &&& ~~~7

/-- The context a thread starts in. -/
def Start.context (p : Places Tid) (threadExit : Word) (t : Tid) (b : Start) : Context where
  core := initFrame b.entry b.parameter threadExit
  high := fun _ => 0xdeadbeef
  sp := p.top t
  primask := false
  fp := none

end N32L43x.Libcpu
