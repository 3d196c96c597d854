import N32L43x.Lib.Run
import N32L43x.Gpio.Defs
import N32L43x.Gpio.Spec
import N32L43x.Gpio.Isolation
import N32L43x.Gpio.Handlers
import N32L43x.Pm.Defs
import N32L43x.Pm.Select
import N32L43x.Pm.SleepMode
import N32L43x.Pm.Tickless
import N32L43x.Can.Defs
import N32L43x.Can.Frame
import N32L43x.Can.Filter
import N32L43x.Can.Tx
import N32L43x.Lib.Calendar
import N32L43x.Libc.Ctime
import N32L43x.Rtc.Defs
import N32L43x.Rtc.RoundTrip
import N32L43x.I2c.Defs
import N32L43x.I2c.Framing
import N32L43x.Sched.Defs
import N32L43x.Sched.ReadyQueue
import N32L43x.Sched.Schedule
import N32L43x.Sched.Runs
import N32L43x.Lib.Circular
import N32L43x.Lib.Ordered
import N32L43x.Timer.Defs
import N32L43x.Timer.Order
import N32L43x.Timer.Firing
import N32L43x.Mem.Blocks
import N32L43x.Mem.Release
import N32L43x.Mem.Alloc
import N32L43x.Mem.Heap
import N32L43x.Mem.Store
import N32L43x.Mem.Chain
import N32L43x.Mem.Resize
import N32L43x.Mem.Programs
import N32L43x.Mem.Kservice
import N32L43x.Mem.Adequate
import N32L43x.Ipc.Err
import N32L43x.Lib.Links
import N32L43x.Mq.Defs
import N32L43x.Mq.Spec
import N32L43x.Mq.Nodes
import N32L43x.Mq.Refine
import N32L43x.Ipc.Kernel
import N32L43x.Ipc.Frame
import N32L43x.Lib.Count
import N32L43x.Sem.Defs
import N32L43x.Sem.Conserve
import N32L43x.Mutex.Defs
import N32L43x.Mutex.Frame
import N32L43x.Mutex.Calls
import N32L43x.Mutex.Core
import N32L43x.Mutex.Steps
import N32L43x.Mutex.Detach
import N32L43x.Mutex.Owner
import N32L43x.Mutex.Ceiling
import N32L43x.Pm.Credit
import N32L43x.Pm.Pairing
import N32L43x.Finsh.Defs
import N32L43x.Finsh.Line
import N32L43x.Finsh.Safety
import N32L43x.Ipc.Timed
import N32L43x.Ipc.Timeout
import N32L43x.Ipc.ResumeAll
import N32L43x.Sem.Control
import N32L43x.Timer.Within
import N32L43x.Timer.Jump
import N32L43x.Ipc.Wait
import N32L43x.Lib.Atomic
import N32L43x.Lib.Ring
import N32L43x.Mb.Defs
import N32L43x.Mb.Refine
import N32L43x.Event.Defs
import N32L43x.Event.Complete
import N32L43x.Ringbuffer.Defs
import N32L43x.Ringbuffer.Refine
import N32L43x.Serial.Fifo
import N32L43x.Waitqueue.Defs
import N32L43x.Waitqueue.Wakeup
import N32L43x.Completion.Defs
import N32L43x.Completion.Conserve
import N32L43x.Dataqueue.Defs
import N32L43x.Dataqueue.Refine
import N32L43x.Mempool.Conserve
import N32L43x.Serial.Device
import N32L43x.Rbb.Defs
import N32L43x.Serial.Lifecycle
import N32L43x.Rbb.Lists
import N32L43x.Rbb.Disjoint
import N32L43x.Rbb.Queue
import N32L43x.Rbb.Extraction
import N32L43x.Workqueue.Defs
import N32L43x.Workqueue.Executions
import N32L43x.Workqueue.Flags
import N32L43x.Workqueue.Sync
import N32L43x.Lib.Dll
import N32L43x.Memheap.Defs
import N32L43x.Memheap.Links
import N32L43x.Memheap.Lists
import N32L43x.Memheap.Blocks
import N32L43x.Memheap.Shape
import N32L43x.Memheap.Calls
import N32L43x.Memheap.Sound
import N32L43x.Memheap.Requests
import N32L43x.Libc.Utc
import N32L43x.Gpio.ErrorAtomic
import N32L43x.Gpio.Pins
import N32L43x.Gpio.PinCheck
import N32L43x.Pm.Arm
import N32L43x.Wdt.Control
import N32L43x.Wdt.Timeout
import N32L43x.Can.Config
import N32L43x.Can.Dispatch
import N32L43x.Can.Overrun
import N32L43x.Pm.Validate
import N32L43x.Timer.Tidy
import N32L43x.Timer.Terminates
import N32L43x.Timer.Frame
import N32L43x.Delay.Defs
import N32L43x.Delay.Inv
import N32L43x.Delay.Thread
import N32L43x.Delay.Steps
import N32L43x.Delay.Kept
import N32L43x.Object.Defs
import N32L43x.Object.Heap
import N32L43x.Object.Atomic
import N32L43x.Object.Pools
import N32L43x.Klibc.Kstring
import N32L43x.Object.Names
import N32L43x.Object.Find
import N32L43x.Finsh.Editor
import N32L43x.Finsh.Split
import N32L43x.Finsh.Tab
import N32L43x.Libc.Normalise
import N32L43x.Lib.Answers
import N32L43x.Ipc.Answers
import N32L43x.Mb.Answers
import N32L43x.Mq.Answers
import N32L43x.Dataqueue.Answers
import N32L43x.Ipc.Unambiguous
import N32L43x.Serial.Dma
import N32L43x.Klibc.Bounded
import N32L43x.Klibc.Kmemory
import N32L43x.Lib.Memory
import N32L43x.Klibc.Vsnprintf.Defs
import N32L43x.Klibc.Vsnprintf.Text
import N32L43x.Klibc.Vsnprintf.Truncation
import N32L43x.Klibc.Vsnprintf.Number
import N32L43x.Klibc.Vsnprintf.Standard
import N32L43x.Klibc.Vsnprintf.Compare
import N32L43x.Klibc.Vsnprintf.Conforms
import N32L43x.Condvar.Defs
import N32L43x.Condvar.Inv
import N32L43x.Condvar.Steps
import N32L43x.Condvar.Queue
import N32L43x.Condvar.Kept
import N32L43x.Condvar.Bookkeeping
import N32L43x.Condvar.Wakeups
import N32L43x.Mutex.Fixpoint
import N32L43x.Mutex.Restore
import N32L43x.Mutex.Order
import N32L43x.Lib.Stack
import N32L43x.Libcpu.Defs
import N32L43x.Libcpu.Frame
import N32L43x.Libcpu.Machine
import N32L43x.Libcpu.Switch
import N32L43x.Libcpu.Refine
import N32L43x.Serial.DmaTx
import N32L43x.Defunct.Defs
import N32L43x.Defunct.Reclaim
import N32L43x.Defunct.Runs
import N32L43x.Sched.RoundRobin
import N32L43x.Sched.Preempt
