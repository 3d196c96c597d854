import N32L43x.Mq.Defs

/-!
What the message queue is for: a bounded sequence of messages on which every call takes effect at
once, at some moment between its start and its return.
-/

namespace N32L43x.Mq

open N32L43x.Ipc

/-- A call without the time it may wait. -/
inductive AbsOp
  | send (msg : Msg)
  | urgent (msg : Msg)
  | recv (size : ℕ)

/-- An agent of the specification: it has called, or the call has had its effect and will return
the result. -/
inductive AbsPc
  | idle
  | called (op : AbsOp)
  | done (res : Result)

/-- The sequence of messages, the first one to be received next, and the agents. -/
structure AbsQueue (Ag : Type*) where
  queue : List Msg
  pend : Ag → AbsPc

/-- What is seen of a run: calls and returns, and the moments calls take effect or fail. -/
inductive Label (Ag : Type*)
  | call (ag : Ag) (op : AbsOp)
  | commit (ag : Ag)
  | fail (ag : Ag) (e : IpcErr)
  | ret (ag : Ag) (res : Result)

variable {Ag : Type*} [DecidableEq Ag]

/-- The effect of a call on a sequence of at most `maxMsgs` messages, and what it returns: a send
appends, an urgent send prepends, a receive removes the head and delivers the bytes of it that its
buffer has room for. -/
def AbsOp.apply (maxMsgs : ℕ) (queue : List Msg) : AbsOp → Option (List Msg × Result)
  | .send msg => if queue.length < maxMsgs then some (queue ++ [msg], .ok) else none
  | .urgent msg => if queue.length < maxMsgs then some (msg :: queue, .ok) else none
  | .recv size =>
    match queue with
    | [] => none
    | msg :: queue => some (queue, .bytes (msg.take size))

def AbsQueue.setPend (t : AbsQueue Ag) (ag : Ag) (pc : AbsPc) : AbsQueue Ag :=
  { t with pend := Function.update t.pend ag pc }

/-- The bounded queue. -/
def absStep (maxMsgs : ℕ) (t : AbsQueue Ag) : Label Ag → Option (AbsQueue Ag)
  | .call ag op =>
    match t.pend ag with
    | .idle => some (t.setPend ag (.called op))
    | _ => none
  | .commit ag =>
    match t.pend ag with
    | .called op =>
      (op.apply maxMsgs t.queue).map fun (queue, res) =>
        { t with queue := queue }.setPend ag (.done res)
    | _ => none
  | .fail ag e =>
    match t.pend ag with
    | .called _ => some (t.setPend ag (.done (.err e)))
    | _ => none
  | .ret ag res =>
    match t.pend ag with
    | .done res' => if res = res' then some (t.setPend ag .idle) else none
    | _ => none

/-- The call an operation is. -/
def Op.abs : Op → AbsOp
  | .send buffer _ => .send buffer
  | .urgent buffer => .urgent buffer
  | .recv size _ => .recv size

/-- What is seen of an agent that goes on from `pc` to `pc'`: the return of a call, a failure when it
is decided, and the moment a message is linked or unlinked. -/
def runLabel (ag : Ag) (pc pc' : Pc) : List (Label Ag) :=
  match pc, pc' with
  | .done res, _ => [.ret ag res]
  | _, .done (.err e) => [.fail ag e]
  | _, .done .ok => [.commit ag]
  | _, .recvTaken _ _ => [.commit ag]
  | _, _ => []

/-- What is seen of a step. -/
def label (q : Mq Ag) (a : Action Ag) (q' : Mq Ag) : List (Label Ag) :=
  match a with
  | .call ag op => [.call ag op.abs]
  | .expire _ => []
  | .run ag _ _ => runLabel ag (q.pc ag) (q'.pc ag)

end N32L43x.Mq
