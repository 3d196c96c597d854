import N32L43x.Dataqueue.Answers
import N32L43x.Mb.Answers
import N32L43x.Mq.Answers

/-!
What the calls of a message queue, a mailbox and a data queue return.  It says whether the call had its
effect, as long as nobody wakes blocked callers with `RT_ERROR`: this number is positive.
-/

namespace N32L43x.Ipc

open N32L43x.Lib N32L43x.Lib.Answers N32L43x.Lib.Links N32L43x.Lib.Run

/-- **The calls say whether they had their effect.**  Take any run of senders, receivers and timeouts in
which no reset, detach or deletion wakes a blocked caller.  What the agents see is a run of an object on
which a call has its effect at one moment and then returns `RT_EOK`, or the number of the bytes it has
stored, or has none and returns a negative number; and the object holds what the queue holds. -/
theorem calls_unambiguous {Ag : Type*} [DecidableEq Ag] (enqueue : List Ag → Ag → List Ag) :
    (∀ (msgSize poolSize : ℕ) (garbage : ℕ → Mq.MqMessage) (q₀ q : Mq.Mq Ag) (evs : List (Mq.Event Ag)),
      Mq.rtMqInit msgSize poolSize garbage = some q₀ →
      Along (Mq.eventStep enqueue) Mq.WakesNobody q₀ evs → exec (Mq.eventStep enqueue) q₀ evs = some q →
      ∃ t, exec (Answers.step (Mq.applies q₀.maxMsgs) []) (Object.init [])
          (observe (Mq.eventStep enqueue) Mq.eventLabel q₀ evs) = some t ∧
        (∃ ql, Links (fun n => (q.node n).next) q.msgQueueHead ql ∧
          t.value = ql.map fun n => Mq.content (q.node n)) ∧
        ∀ ag res, q.pc ag = .done res → Mq.Says (t.pend ag) res) ∧
    (∀ (msgPool : ℕ → Mb.Word) (size : ℕ) (mb : Mb.Mailbox Ag) (evs : List (Mb.Event Ag)),
      Along (Mb.eventStep enqueue) Mb.WakesNobody (Mb.rtMbInit msgPool size) evs →
      exec (Mb.eventStep enqueue) (Mb.rtMbInit msgPool size) evs = some mb →
      ∃ t, exec (Answers.step (answering (Mb.apply mb.size) Mb.Result.answer) []) (Object.init [])
          (observe (Mb.eventStep enqueue) Mb.eventLabel (Mb.rtMbInit msgPool size) evs) = some t ∧
        t.value = Mb.mails mb ∧ ∀ ag res, mb.pc ag = .done res → Mb.Says (t.pend ag) res) ∧
    (∀ (queue : ℕ → Dataqueue.RtDataItem) (size lwm : ℕ) (q : Dataqueue.RtDataQueue Ag)
        (as : List (Dataqueue.Action Ag)), 0 < size % 0x10000 →
      Along Dataqueue.step Dataqueue.WakesNobody (Dataqueue.rtDataQueueInit queue size lwm) as →
      exec Dataqueue.step (Dataqueue.rtDataQueueInit queue size lwm) as = some q →
      ∃ t, exec (Answers.step (Dataqueue.transfer (Dataqueue.capacity (size % 0x10000))) []) (Object.init [])
          (observe Dataqueue.step Dataqueue.answerLabel (Dataqueue.rtDataQueueInit queue size lwm) as) =
            some t ∧
        Dataqueue.OnRing q (Dataqueue.capacity (size % 0x10000)) t.value ∧
        ∀ ag res, q.pc ag = .done res → Dataqueue.Says (t.pend ag) res) :=
  ⟨fun _ _ _ _ _ evs hinit hC hrun => Mq.answers_run enqueue hinit evs hC hrun,
    fun msgPool size _ evs hC hrun => Mb.answers_run enqueue msgPool size evs hC hrun,
    fun queue _ lwm _ as hpos hC hrun => Dataqueue.answers_run queue lwm hpos as hC hrun⟩

/-! ### Some runs -/

/-- In order of arrival. -/
def fifo (list : List Bool) (ag : Bool) : List Bool := list ++ [ag]

/-- A receiver waits at a message queue, another agent sends a message of one byte, and the queue is reset
when nobody waits any more. -/
def sentMeanwhile : List (Mq.Event Bool) :=
  [.act (.call true (.recv 8 (-1))), .act (.run true 0 true), .act (.call false (.send [7] 0))] ++
    List.replicate 4 (.act (.run false 0 true)) ++ List.replicate 4 (.act (.run true 0 true)) ++
    [.reset 1 1]

/-- A receiver waits at a mailbox, and another agent sends a mail. -/
def mailedMeanwhile : List (Mb.Event Bool) :=
  [.act (.call true (.recv (-1))), .act (.run true ⟨0, true, true⟩), .act (.call false (.send 7#32 0)),
    .act (.run false ⟨0, true, true⟩), .act (.run true ⟨0, true, true⟩), .detach 1 1]

/-- An agent waits at a data queue, and another one pushes an item. -/
def pushedMeanwhile : List (Dataqueue.Action Bool) :=
  [.call true (.pop (-1)), .run true ⟨true, true⟩, .call false (.push ⟨7#32, 4#32⟩ 0),
    .run false ⟨true, true⟩, .run true ⟨true, true⟩, .run false ⟨true, true⟩, .call false .reset,
    .run false ⟨true, true⟩, .run false ⟨true, true⟩]

theorem calls_unambiguous_meanwhile :
    (∃ q₀ q, Mq.rtMqInit 8 64 (fun _ => ⟨none, 0, fun _ => 0⟩) = some q₀ ∧
      exec (Mq.eventStep fifo) q₀ sentMeanwhile = some q ∧ q.pc true = .done (.bytes [7]) ∧
      ∃ t, exec (Answers.step (Mq.applies q₀.maxMsgs) []) (Object.init [])
          (observe (Mq.eventStep fifo) Mq.eventLabel q₀ sentMeanwhile) = some t ∧
        Mq.Says (t.pend true) (.bytes [7])) ∧
    (∃ mb, exec (Mb.eventStep fifo) (Mb.rtMbInit (fun _ => 0#32) 2) mailedMeanwhile = some mb ∧
      mb.pc true = .done (.ok (.mail 7#32)) ∧
      ∃ t, exec (Answers.step (answering (Mb.apply mb.size) Mb.Result.answer) []) (Object.init [])
          (observe (Mb.eventStep fifo) Mb.eventLabel (Mb.rtMbInit (fun _ => 0#32) 2) mailedMeanwhile) =
            some t ∧
        Mb.Says (t.pend true) (.ok (.mail 7#32))) ∧
    (∃ q, exec Dataqueue.step (Dataqueue.rtDataQueueInit (fun _ => ⟨0#32, 0#32⟩) 2 0) pushedMeanwhile = some q ∧
      q.pc true = .done (.ok (.popped ⟨7#32, 4#32⟩)) ∧
      ∃ t, exec (Answers.step (Dataqueue.transfer (Dataqueue.capacity 2)) []) (Object.init [])
          (observe Dataqueue.step Dataqueue.answerLabel (Dataqueue.rtDataQueueInit (fun _ => ⟨0#32, 0#32⟩) 2 0)
            pushedMeanwhile) = some t ∧
        Dataqueue.Says (t.pend true) (.ok (.popped ⟨7#32, 4#32⟩))) := by
  obtain ⟨hmq, hmb, hdq⟩ := calls_unambiguous fifo
  refine ⟨?_, ?_, ?_⟩
  · have hrun : ∀ q₀ ∈ Mq.rtMqInit 8 64 (fun _ => ⟨none, 0, fun _ => 0⟩),
        Along (Mq.eventStep fifo) Mq.WakesNobody q₀ sentMeanwhile ∧
          ∃ q ∈ exec (Mq.eventStep fifo) q₀ sentMeanwhile, q.pc true = .done (.bytes [7]) := by
      decide +kernel
    obtain ⟨q₀, hq₀⟩ := Option.isSome_iff_exists.mp
      (show (@Mq.rtMqInit Bool 8 64 fun _ => ⟨none, 0, fun _ => 0⟩).isSome by decide +kernel)
    obtain ⟨hC, q, hq, hpc⟩ := hrun q₀ hq₀
    obtain ⟨t, ht, -, hsays⟩ := hmq 8 64 _ q₀ q sentMeanwhile hq₀ hC hq
    exact ⟨q₀, q, hq₀, hq, hpc, t, ht, hsays true _ hpc⟩
  · have hC : Along (Mb.eventStep fifo) Mb.WakesNobody (Mb.rtMbInit (fun _ => 0#32) 2) mailedMeanwhile := by
      decide +kernel
    obtain ⟨mb, hrun, hpc⟩ : ∃ mb ∈ exec (Mb.eventStep fifo) (Mb.rtMbInit (fun _ => 0#32) 2) mailedMeanwhile,
        mb.pc true = .done (.ok (.mail 7#32)) := ⟨_, rfl, rfl⟩
    obtain ⟨t, ht, -, hsays⟩ := hmb _ 2 mb mailedMeanwhile hC hrun
    exact ⟨mb, hrun, hpc, t, ht, hsays true _ hpc⟩
  · have hC : Along Dataqueue.step Dataqueue.WakesNobody
        (Dataqueue.rtDataQueueInit (fun _ => ⟨0#32, 0#32⟩) 2 0) pushedMeanwhile := by
      decide +kernel
    obtain ⟨q, hrun, hpc⟩ : ∃ q ∈ exec Dataqueue.step (Dataqueue.rtDataQueueInit (fun _ => ⟨0#32, 0#32⟩) 2 0)
        pushedMeanwhile, q.pc true = .done (.ok (.popped ⟨7#32, 4#32⟩)) := ⟨_, rfl, rfl⟩
    obtain ⟨t, ht, -, hsays⟩ := hdq _ 2 0 q pushedMeanwhile (by decide) hC hrun
    exact ⟨q, hrun, hpc, t, ht, hsays true _ hpc⟩

/-- A receiver waits at a message queue that is reset. -/
def resetMeanwhile : List (Mq.Event Bool) :=
  [.act (.call true (.recv 8 (-1))), .act (.run true 0 true), .reset 1 0, .act (.run true 0 true),
    .act (.run true 0 true)]

/-- A receiver waits at a mailbox that is detached. -/
def detachedMeanwhile : List (Mb.Event Bool) :=
  [.act (.call true (.recv (-1))), .act (.run true ⟨0, true, true⟩), .detach 1 0,
    .act (.run true ⟨0, true, true⟩), .act (.run true ⟨0, true, true⟩)]

/-- An agent waits at a data queue that another one resets. -/
def emptiedMeanwhile : List (Dataqueue.Action Bool) :=
  [.call true (.pop (-1)), .run true ⟨true, true⟩, .call false .reset, .run false ⟨true, true⟩,
    .run false ⟨true, true⟩, .run true ⟨true, true⟩, .run true ⟨true, true⟩]

/-- A call that is woken by a reset or a detach returns `1`: a receiver from a message queue as if it had
one byte, though its buffer is as it was; a receiver from a mailbox and a pop a number that is neither
`RT_EOK` nor negative. -/
theorem reset_answers_one :
    (∃ q₀ q, Mq.rtMqInit 8 64 (fun _ => ⟨none, 0, fun _ => 0⟩) = some q₀ ∧
      exec (Mq.eventStep fifo) q₀ (resetMeanwhile.take 4) = some q ∧ q.pc true = .done (.err rtError) ∧
      (Mq.Result.err rtError).answer = ⟨1, none⟩ ∧
      exec (Answers.step (Mq.applies q₀.maxMsgs) []) (Object.init [])
        (observe (Mq.eventStep fifo) Mq.eventLabel q₀ resetMeanwhile) = none) ∧
    (∃ mb, exec (Mb.eventStep fifo) (Mb.rtMbInit (fun _ => 0#32) 2) (detachedMeanwhile.take 4) = some mb ∧
      mb.pc true = .done (.error rtError) ∧ rtError.value = 1 ∧
      exec (Answers.step (answering (Mb.apply mb.size) Mb.Result.answer) []) (Object.init [])
        (observe (Mb.eventStep fifo) Mb.eventLabel (Mb.rtMbInit (fun _ => 0#32) 2) detachedMeanwhile) =
          none) ∧
    ∃ q, exec Dataqueue.step (Dataqueue.rtDataQueueInit (fun _ => ⟨0#32, 0#32⟩) 2 0)
        (emptiedMeanwhile.take 6) = some q ∧ q.pc true = .done (.error rtError) ∧
      exec (Answers.step (Dataqueue.transfer (Dataqueue.capacity 2)) []) (Object.init [])
        (observe Dataqueue.step Dataqueue.answerLabel (Dataqueue.rtDataQueueInit (fun _ => ⟨0#32, 0#32⟩) 2 0)
          emptiedMeanwhile) = none := by
  refine ⟨?_, ?_, ?_⟩
  · have hrun : ∀ q₀ ∈ Mq.rtMqInit 8 64 (fun _ => ⟨none, 0, fun _ => 0⟩),
        ∃ q ∈ exec (Mq.eventStep fifo) q₀ (resetMeanwhile.take 4), q.pc true = .done (.err rtError) ∧
          (exec (Answers.step (Mq.applies q₀.maxMsgs) []) (Object.init [])
            (observe (Mq.eventStep fifo) Mq.eventLabel q₀ resetMeanwhile)).isNone := by
      decide +kernel
    obtain ⟨q₀, hq₀⟩ := Option.isSome_iff_exists.mp
      (show (@Mq.rtMqInit Bool 8 64 fun _ => ⟨none, 0, fun _ => 0⟩).isSome by decide +kernel)
    obtain ⟨q, hq, hpc, hnone⟩ := hrun q₀ hq₀
    exact ⟨q₀, q, hq₀, hq, hpc, rfl, Option.isNone_iff_eq_none.mp hnone⟩
  · exact ⟨_, rfl, rfl, rfl, rfl⟩
  · exact ⟨_, rfl, rfl, rfl⟩

end N32L43x.Ipc
