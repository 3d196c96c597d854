import N32L43x.I2c.Defs
import Mathlib.Data.List.Count

/-!
The framing of a transfer.  Each message should put START, its address, its data and exactly one STOP
on the bus, the last byte of a read should not be acknowledged, and no error exit should leave the bus
held.  The main result says for which messages and which readings this is so: a read of one byte
has neither a STOP nor a disabled acknowledge, and no exit on a timeout after START sends a STOP.
-/

namespace N32L43x.I2c

/-! ### The property -/

/-- The commands that go to the bus. -/
def Command.onBus : Command → Bool
  | .ack _ | .nackPosCurrent => false
  | _ => true

def Command.isRecv : Command → Bool
  | .recv _ => true
  | _ => false

/-- Whether the acknowledge was enabled at the last byte that was read. -/
def lastAck : List Command → Option Bool :=
  let rec go (enabled : Bool) (last : Option Bool) : List Command → Option Bool
    | [] => last
    | .ack enable :: cs => go enable last cs
    | .recv _ :: cs => go enabled (some enabled) cs
    | _ :: cs => go enabled last cs
  go true none

/-- The data of a message: as many bytes as were asked for, or the bytes that were given. -/
def IsData (msg : RtI2cMsg) (cs : List Command) : Prop :=
  if msg.isRead then cs.length = msg.len.toNat ∧ ∀ c ∈ cs, c.isRecv = true
  else cs = msg.bytes.map .send

/-- START, the address, the data and exactly one STOP, with the last byte of a read not
acknowledged. -/
def Framed (msg : RtI2cMsg) (cs : List Command) : Prop :=
  (∃ rest, cs.filter Command.onBus = .start :: .addr (addrByte msg.addr msg.isRead) :: rest ∧
    rest.count .stop = 1 ∧ IsData msg (rest.filter (· ≠ .stop))) ∧
  (msg.isRead = true → lastAck cs = some false)

/-- A message that was transferred is framed, and one that was not leaves the bus free. -/
def CallOk (call : Call) : Prop :=
  if call.code = 0 then Framed call.msg call.commands
  else .start ∈ call.commands → .stop ∈ call.commands

/-! ### The condition -/

/-- The next `k` waits for an event end before their timeouts. -/
def Answered : ℕ → List Reading → Prop
  | 0, _ => True
  | k + 1, rs =>
    match waitLoop false longTimeout rs with
    | none => True
    | some (none, _) => False
    | some (some _, rs) => Answered k rs

/-- The condition on one message: the bus does not become idle in time; or it does, every event
after START comes in time, and a read has two bytes at least. -/
def MsgAnswered (msg : RtI2cMsg) (rs : List Reading) : Prop :=
  match waitLoop true longTimeout rs with
  | some (some _, rs) =>
    if msg.isRead then Answered 2 rs ∧ 2 ≤ msg.len.toNat else Answered (msg.len.toNat + 3) rs
  | _ => True

/-- The condition on all messages that are transferred. -/
def XferAnswered : List RtI2cMsg → List Reading → Prop
  | [], _ => True
  | msg :: msgs, rs =>
    MsgAnswered msg rs ∧ ∀ cs rs', rtI2cMsg msg rs = some (.done (), cs, rs') → XferAnswered msgs rs'

/-! ### Running a piece of code -/

lemma bind_eq_some {α β : Type} {x : I2cM α} {f : α → I2cM β} {rs rs' : List Reading} {o : Outcome β}
    {cs : List Command} (h : (x >>= f) rs = some (o, cs, rs')) :
    (∃ code, x rs = some (.failed code, cs, rs') ∧ o = .failed code) ∨
    ∃ a cs₁ rs₁ cs₂, x rs = some (.done a, cs₁, rs₁) ∧ f a rs₁ = some (o, cs₂, rs') ∧
      cs = cs₁ ++ cs₂ := by
  simp only [bind] at h
  rcases hx : x rs with _ | ⟨_ | _, cs₁, rs₁⟩
  · rw [hx] at h
    cases h
  · rename_i a
    rw [hx] at h
    simp only at h
    rcases hf : f a rs₁ with _ | ⟨o₂, cs₂, rs₂⟩
    · rw [hf] at h
      cases h
    · rw [hf] at h
      simp only [Option.some.injEq, Prod.mk.injEq] at h
      obtain ⟨rfl, rfl, rfl⟩ := h
      exact .inr ⟨a, cs₁, rs₁, cs₂, rfl, hf, rfl⟩
  · rename_i code
    rw [hx] at h
    simp only [Option.some.injEq, Prod.mk.injEq] at h
    obtain ⟨rfl, rfl, rfl⟩ := h
    exact .inl ⟨code, rfl, rfl⟩

lemma emit_bind_eq_some {β : Type} {c : Command} {x : I2cM β} {rs rs' : List Reading} {o : Outcome β}
    {cs : List Command} (h : (emit c >>= fun _ => x) rs = some (o, cs, rs')) :
    ∃ cs', cs = c :: cs' ∧ x rs = some (o, cs', rs') := by
  obtain ⟨code, hc, -⟩ | ⟨a, cs₁, rs₁, cs₂, he, hx, rfl⟩ := bind_eq_some h
  · cases hc
  · cases he
    exact ⟨cs₂, rfl, hx⟩

/-- A wait either times out or lets the code go on. -/
lemma wait_bind_eq_some {β : Type} {cond : Bool} {timeout code : ℕ} {f : ℕ → I2cM β}
    {rs rs' : List Reading} {o : Outcome β} {cs : List Command}
    (h : (waitWhile cond timeout code >>= f) rs = some (o, cs, rs')) :
    (waitLoop cond timeout rs = some (none, rs') ∧ o = .failed code ∧ cs = []) ∨
    ∃ t rs₁, waitLoop cond timeout rs = some (some t, rs₁) ∧ f t rs₁ = some (o, cs, rs') := by
  obtain ⟨code', hc, rfl⟩ | ⟨a, cs₁, rs₁, cs₂, hw, hf, rfl⟩ := bind_eq_some h
  · left
    unfold waitWhile at hc
    split at hc
    · cases hc
    · cases hc
      exact ⟨‹_›, rfl, rfl⟩
    · cases hc
  · right
    unfold waitWhile at hw
    split at hw
    · cases hw
    · cases hw
    · cases hw
      exact ⟨a, rs₁, ‹_›, hf⟩

lemma answered_succ {rs rs' : List Reading} {t : ℕ} (k : ℕ)
    (h : waitLoop false longTimeout rs = some (some t, rs')) : Answered (k + 1) rs ↔ Answered k rs' := by
  rw [Answered, h]

lemma not_answered_succ {rs rs' : List Reading} (k : ℕ)
    (h : waitLoop false longTimeout rs = some (none, rs')) : ¬Answered (k + 1) rs := by
  rw [Answered, h]
  exact id

/-! ### Writing -/

/-- The bytes are all sent if the waits are answered, else the function returns. -/
lemma sendLoop_spec {bs : List (BitVec 8)} {rs rs' : List Reading} {o : Outcome Unit}
    {cs : List Command} (h : sendLoop bs rs = some (o, cs, rs')) :
    (o = .done () ∧ cs = bs.map .send ∧ ∀ k, Answered (bs.length + k) rs ↔ Answered k rs') ∨
    (o = .failed 7 ∧ .stop ∉ cs ∧ ∀ k, ¬Answered (bs.length + k) rs) := by
  induction bs generalizing rs cs with
  | nil =>
    cases h
    exact .inl ⟨rfl, rfl, fun k => by rw [List.length_nil, Nat.zero_add]⟩
  | cons b bs ih =>
    obtain ⟨cs, rfl, h₁⟩ := emit_bind_eq_some h
    have hlen (k : ℕ) : (b :: bs).length + k = bs.length + k + 1 := by
      rw [List.length_cons]
      omega
    obtain ⟨hw, rfl, rfl⟩ | ⟨t, rs₁, hw, h₂⟩ := wait_bind_eq_some h₁
    · refine .inr ⟨rfl, by simp, fun k => ?_⟩
      rw [hlen]
      exact not_answered_succ _ hw
    · obtain ⟨ho, hcs, hk⟩ | ⟨ho, hcs, hk⟩ := ih h₂
      · refine .inl ⟨ho, by rw [hcs, List.map_cons], fun k => ?_⟩
        rw [hlen, answered_succ _ hw, hk]
      · refine .inr ⟨ho, by simpa using hcs, fun k => ?_⟩
        rw [hlen, answered_succ _ hw]
        exact hk k

/-- The commands of a write whose events all come in time. -/
def writeCommands (slaveAddress : BitVec 16) (bytes : List (BitVec 8)) : List Command :=
  [.ack true, .start, .addr (addrByte slaveAddress false)] ++ bytes.map .send ++ [.stop]

lemma rtI2cWrite_spec {a : BitVec 16} {bs : List (BitVec 8)} {rs rs' : List Reading}
    {o : Outcome Unit} {cs : List Command} (h : rtI2cWrite a bs rs = some (o, cs, rs')) :
    (waitLoop true longTimeout rs = some (none, rs') ∧ o = .failed 4 ∧ cs = []) ∨
    ∃ t rs₁, waitLoop true longTimeout rs = some (some t, rs₁) ∧
      ((Answered (bs.length + 3) rs₁ ∧ o = .done () ∧ cs = writeCommands a bs) ∨
        (¬Answered (bs.length + 3) rs₁ ∧ o.code ≠ 0 ∧ .start ∈ cs ∧ .stop ∉ cs)) := by
  obtain hbusy | ⟨t, rs₁, hw₁, h₁⟩ := wait_bind_eq_some h
  · exact .inl hbusy
  refine .inr ⟨t, rs₁, hw₁, ?_⟩
  obtain ⟨cs₁, rfl, h₂⟩ := emit_bind_eq_some h₁
  obtain ⟨cs₂, rfl, h₃⟩ := emit_bind_eq_some h₂
  obtain ⟨hw, rfl, rfl⟩ | ⟨t, rs₂, hw₂, h₄⟩ := wait_bind_eq_some h₃
  · exact .inr ⟨not_answered_succ _ hw, nofun, by simp, by simp⟩
  obtain ⟨cs₃, rfl, h₅⟩ := emit_bind_eq_some h₄
  obtain ⟨hw, rfl, rfl⟩ | ⟨t, rs₃, hw₃, h₆⟩ := wait_bind_eq_some h₅
  · refine .inr ⟨?_, nofun, by simp, by simp⟩
    rw [answered_succ _ hw₂]
    exact not_answered_succ _ hw
  have hans : Answered (bs.length + 3) rs₁ ↔ Answered (bs.length + 1) rs₃ := by
    rw [answered_succ _ hw₂, answered_succ _ hw₃]
  obtain ⟨code, hs, rfl⟩ | ⟨_, cs₄, rs₄, cs₅, hs, h₇, rfl⟩ := bind_eq_some h₆
  · obtain ⟨ho, -, -⟩ | ⟨ho, hcs, hk⟩ := sendLoop_spec hs
    · cases ho
    · cases ho
      exact .inr ⟨by rw [hans]; exact hk 1, nofun, by simp, by simpa using hcs⟩
  obtain ⟨-, rfl, hk⟩ | ⟨ho, -, -⟩ := sendLoop_spec hs
  · obtain ⟨hw, rfl, rfl⟩ | ⟨t, rs₅, hw₅, h₈⟩ := wait_bind_eq_some h₇
    · refine .inr ⟨?_, nofun, by simp, by simp⟩
      rw [hans, hk 1]
      exact not_answered_succ _ hw
    · cases h₈
      refine .inl ⟨?_, rfl, by simp [writeCommands]⟩
      rw [hans, hk 1, answered_succ _ hw₅]
      trivial
  · cases ho

/-! ### Reading -/

/-- The commands of the data loop for the bytes it reads: before the last of several bytes the
acknowledge is disabled and STOP is asked for. -/
def recvCommands : List (BitVec 8) → List Command
  | [] => []
  | b :: bs => .recv b :: ((if bs.length = 1 then [.ack false, .stop] else []) ++ recvCommands bs)

lemma recvLoop_spec {n : ℕ} {rs rs' : List Reading} {o : Outcome Unit} {cs : List Command}
    (h : recvLoop n rs = some (o, cs, rs')) :
    o = .done () ∧ ∃ bs : List (BitVec 8), bs.length = n ∧ cs = recvCommands bs := by
  induction rs generalizing n cs with
  | nil =>
    cases n with
    | zero =>
      cases h
      exact ⟨rfl, [], rfl, rfl⟩
    | succ n => cases h
  | cons r rs ih =>
    cases n with
    | zero =>
      cases h
      exact ⟨rfl, [], rfl, rfl⟩
    | succ n =>
      rw [recvLoop] at h
      split at h
      · split at h
        · cases h
        · rename_i o' cs' rs'' hrec
          cases h
          obtain ⟨ho, bs, hlen, rfl⟩ := ih hrec
          refine ⟨ho, r.dat :: bs, by rw [List.length_cons, hlen], ?_⟩
          rw [recvCommands, hlen]
      · exact ih h

/-- One STOP for two bytes or more, none for fewer. -/
lemma count_stop_recvCommands (bs : List (BitVec 8)) :
    (recvCommands bs).count .stop = if 2 ≤ bs.length then 1 else 0 := by
  induction bs with
  | nil => rfl
  | cons b bs ih =>
    have hb : Command.recv b ≠ .stop := nofun
    rw [recvCommands, List.count_cons_of_ne hb, List.count_append, ih, List.length_cons]
    by_cases h1 : bs.length = 1
    · simp [h1]
    · have h2 : 2 ≤ bs.length + 1 ↔ 2 ≤ bs.length := by omega
      simp [h1, h2]

lemma filter_recvCommands (bs : List (BitVec 8)) :
    ((recvCommands bs).filter Command.onBus).filter (· ≠ .stop) = bs.map .recv := by
  induction bs with
  | nil => rfl
  | cons b bs ih =>
    rw [recvCommands]
    by_cases h1 : bs.length = 1
    · simpa [h1, Command.onBus] using ih
    · simpa [h1, Command.onBus] using ih

/-- Where nothing is read, the last acknowledge stays. -/
lemma lastAck_of_no_recv (enabled : Bool) (last : Option Bool) (cs : List Command)
    (hcs : ∀ c ∈ cs, c.isRecv = false) : lastAck.go enabled last cs = last := by
  induction cs generalizing enabled with
  | nil => rfl
  | cons c cs ih =>
    obtain ⟨hc, hcs'⟩ := List.forall_mem_cons.1 hcs
    cases c with
    | recv b => cases hc
    | ack enable => exact ih enable hcs'
    | start | addr | send | stop | nackPosCurrent => exact ih enabled hcs'

/-- The last of two bytes or more is read with the acknowledge disabled, a single one as it is
set. -/
lemma lastAck_recvCommands {bs : List (BitVec 8)} (hbs : bs ≠ []) (enabled : Bool)
    (last : Option Bool) {cs : List Command} (hcs : ∀ c ∈ cs, c.isRecv = false) :
    lastAck.go enabled last (recvCommands bs ++ cs) =
      some (if 2 ≤ bs.length then false else enabled) := by
  induction bs generalizing enabled last with
  | nil => exact absurd rfl hbs
  | cons b bs ih =>
    rw [recvCommands, List.cons_append, lastAck.go]
    rcases bs with _ | ⟨b', bs⟩
    · simp [recvCommands, lastAck_of_no_recv _ _ cs hcs]
    · by_cases h1 : (b' :: bs).length = 1
      · rw [if_pos h1]
        simp only [List.cons_append, List.nil_append, lastAck.go]
        rw [ih nofun]
        simp
      · rw [if_neg h1, List.nil_append, ih nofun]
        simp only [List.length_cons] at h1 ⊢
        have h2 : 2 ≤ bs.length + 1 := by omega
        simp [h2]

/-- The commands of a read up to the data, and after it. -/
def readCommands (slaveAddress : BitVec 16) (bs : List (BitVec 8)) (tail : List Command) :
    List Command :=
  [.ack true, .start, .addr (addrByte slaveAddress true)] ++ (recvCommands bs ++ tail)

lemma rtI2cRead_spec {a : BitVec 16} {n : ℕ} {rs rs' : List Reading} {o : Outcome Unit}
    {cs : List Command} (h : rtI2cRead a n rs = some (o, cs, rs')) :
    (waitLoop true longTimeout rs = some (none, rs') ∧ o = .failed 9 ∧ cs = []) ∨
    ∃ t rs₁, waitLoop true longTimeout rs = some (some t, rs₁) ∧
      ((Answered 2 rs₁ ∧ ∃ bs : List (BitVec 8), bs.length = n ∧
          ((o = .done () ∧ cs = readCommands a bs [.ack true, .nackPosCurrent]) ∨
            (o = .failed 7 ∧ cs = readCommands a bs []))) ∨
        (¬Answered 2 rs₁ ∧ o.code ≠ 0 ∧ .start ∈ cs ∧ .stop ∉ cs)) := by
  obtain hbusy | ⟨t, rs₁, hw₁, h₁⟩ := wait_bind_eq_some h
  · exact .inl hbusy
  refine .inr ⟨t, rs₁, hw₁, ?_⟩
  obtain ⟨cs₁, rfl, h₂⟩ := emit_bind_eq_some h₁
  obtain ⟨cs₂, rfl, h₃⟩ := emit_bind_eq_some h₂
  obtain ⟨hw, rfl, rfl⟩ | ⟨t, rs₂, hw₂, h₄⟩ := wait_bind_eq_some h₃
  · exact .inr ⟨not_answered_succ _ hw, nofun, by simp, by simp⟩
  obtain ⟨cs₃, rfl, h₅⟩ := emit_bind_eq_some h₄
  obtain ⟨hw, rfl, rfl⟩ | ⟨t, rs₃, hw₃, h₆⟩ := wait_bind_eq_some h₅
  · refine .inr ⟨?_, nofun, by simp, by simp⟩
    rw [answered_succ _ hw₂]
    exact not_answered_succ _ hw
  have hans : Answered 2 rs₁ := by
    rw [answered_succ _ hw₂, answered_succ _ hw₃]
    trivial
  refine .inl ⟨hans, ?_⟩
  obtain ⟨code, hr, rfl⟩ | ⟨_, cs₄, rs₄, cs₅, hr, h₇, rfl⟩ := bind_eq_some h₆
  · cases (recvLoop_spec hr).1
  obtain ⟨-, bs, hlen, rfl⟩ := recvLoop_spec hr
  refine ⟨bs, hlen, ?_⟩
  obtain ⟨hw, rfl, rfl⟩ | ⟨t, rs₅, hw₅, h₈⟩ := wait_bind_eq_some h₇
  · exact .inr ⟨rfl, rfl⟩
  · obtain ⟨cs₆, rfl, h₉⟩ := emit_bind_eq_some h₈
    cases h₉
    exact .inl ⟨rfl, rfl⟩

/-! ### One message -/

lemma framed_writeCommands {msg : RtI2cMsg} (hr : msg.isRead = false) :
    Framed msg (writeCommands msg.addr msg.bytes) := by
  have hall : (msg.bytes.map Command.send).filter Command.onBus = msg.bytes.map .send := by
    rw [List.filter_eq_self]
    simp [Command.onBus]
  have hdata : (msg.bytes.map Command.send).filter (· ≠ .stop) = msg.bytes.map .send := by
    rw [List.filter_eq_self]
    simp
  refine ⟨⟨msg.bytes.map .send ++ [.stop], ?_, ?_, ?_⟩, fun h => ?_⟩
  · rw [writeCommands, List.filter_append, List.filter_append, hall, hr]
    rfl
  · rw [List.count_append, List.count_eq_zero.2 (by simp)]
    rfl
  · rw [IsData, hr, if_neg Bool.false_ne_true, List.filter_append, hdata]
    simp
  · rw [hr] at h
    cases h

section Read

variable {msg : RtI2cMsg} {bs : List (BitVec 8)} (hr : msg.isRead = true)
  (hlen : bs.length = msg.len.toNat)

lemma stop_mem_readCommands (a : BitVec 16) {tail : List Command} (htail : .stop ∉ tail) :
    .stop ∈ readCommands a bs tail ↔ 2 ≤ bs.length := by
  have hcount := count_stop_recvCommands bs
  rw [readCommands, List.mem_append, List.mem_append, ← List.count_pos_iff (l := recvCommands bs),
    hcount]
  by_cases h : 2 ≤ bs.length
  · simp [h]
  · simp [h, htail]

include hr hlen

/-- A read that ends without an error is framed if it reads two bytes at least. -/
lemma framed_readCommands :
    Framed msg (readCommands msg.addr bs [.ack true, .nackPosCurrent]) ↔ 2 ≤ msg.len.toNat := by
  have hbus : (readCommands msg.addr bs [.ack true, .nackPosCurrent]).filter Command.onBus =
      .start :: .addr (addrByte msg.addr msg.isRead) :: (recvCommands bs).filter Command.onBus := by
    have htail : [Command.ack true, .nackPosCurrent].filter Command.onBus = [] := rfl
    rw [readCommands, List.filter_append, List.filter_append, htail, List.append_nil, hr]
    rfl
  have hcount : ((recvCommands bs).filter Command.onBus).count .stop =
      if 2 ≤ bs.length then 1 else 0 := by
    rw [List.count_filter rfl, count_stop_recvCommands]
  constructor
  · rintro ⟨⟨rest, hrest, hstop, -⟩, -⟩
    rw [hbus, List.cons.injEq, List.cons.injEq] at hrest
    rw [← hrest.2.2, hcount] at hstop
    by_contra h
    rw [if_neg (hlen ▸ h)] at hstop
    cases hstop
  · intro h
    rw [← hlen] at h
    refine ⟨⟨_, hbus, by rw [hcount, if_pos h], ?_⟩, fun _ => ?_⟩
    · rw [IsData, if_pos hr, filter_recvCommands]
      refine ⟨by rw [List.length_map, hlen], ?_⟩
      simp [Command.isRecv]
    · have hbs : bs ≠ [] := by
        rintro rfl
        simp at h
      have hcs : ∀ c ∈ [.ack true, .nackPosCurrent], Command.isRecv c = false := by
        simp [Command.isRecv]
      have hgo := lastAck_recvCommands hbs true none hcs
      rw [if_pos h] at hgo
      exact hgo

end Read

lemma rtI2cMsg_done {msg : RtI2cMsg} {rs rs' : List Reading} {o : Outcome Unit} {cs : List Command}
    (h : rtI2cMsg msg rs = some (o, cs, rs')) (hcode : o.code = 0) : o = .done () := by
  rw [rtI2cMsg] at h
  split at h
  · obtain ⟨-, rfl, -⟩ | ⟨_, _, -, ⟨-, _, -, ⟨rfl, -⟩ | ⟨rfl, -⟩⟩ | ⟨-, hne, -⟩⟩ := rtI2cRead_spec h
    · cases hcode
    · rfl
    · cases hcode
    · exact absurd hcode hne
  · obtain ⟨-, rfl, -⟩ | ⟨_, _, -, ⟨-, rfl, -⟩ | ⟨-, hne, -⟩⟩ := rtI2cWrite_spec h
    · cases hcode
    · rfl
    · exact absurd hcode hne

/-- An error exit after START without a STOP. -/
lemma not_callOk {msg : RtI2cMsg} {code : ℕ} {cs : List Command} (hcode : code ≠ 0)
    (hstart : .start ∈ cs) (hstop : .stop ∉ cs) : ¬CallOk ⟨msg, code, cs⟩ := by
  rw [CallOk, if_neg hcode]
  exact fun h => hstop (h hstart)

/-- **One message**: it is as it should be if and only if the condition holds. -/
theorem callOk_iff {msg : RtI2cMsg} {rs rs' : List Reading} {o : Outcome Unit} {cs : List Command}
    (h : rtI2cMsg msg rs = some (o, cs, rs')) :
    CallOk ⟨msg, o.code, cs⟩ ↔ MsgAnswered msg rs := by
  unfold MsgAnswered
  rw [rtI2cMsg] at h
  rcases hr : msg.isRead with _ | _
  · rw [hr, if_neg Bool.false_ne_true] at h
    have hbytes : msg.bytes.length = msg.len.toNat := by simp [RtI2cMsg.bytes]
    obtain ⟨hw, rfl, rfl⟩ | ⟨t, rs₁, hw, ⟨hans, rfl, rfl⟩ | ⟨hans, hne, hstart, hstop⟩⟩ :=
      rtI2cWrite_spec h
    · simp [hw, CallOk, Outcome.code]
    · rw [hbytes] at hans
      simpa [hw, hans, CallOk, Outcome.code] using framed_writeCommands hr
    · rw [hbytes] at hans
      simpa [hw, hans] using not_callOk hne hstart hstop
  · rw [hr, if_pos rfl] at h
    obtain ⟨hw, rfl, rfl⟩ | ⟨t, rs₁, hw, ⟨hans, bs, hlen, ho⟩ | ⟨hans, hne, hstart, hstop⟩⟩ :=
      rtI2cRead_spec h
    · simp [hw, CallOk, Outcome.code]
    · rcases ho with ⟨rfl, rfl⟩ | ⟨rfl, rfl⟩
      · simpa [hw, hans, CallOk, Outcome.code] using framed_readCommands hr hlen
      · have hstart : .start ∈ readCommands msg.addr bs [] := by simp [readCommands]
        have hstop : .stop ∈ readCommands msg.addr bs [] ↔ 2 ≤ bs.length :=
          stop_mem_readCommands msg.addr List.not_mem_nil
        rw [hlen] at hstop
        simpa [hw, hans, CallOk, Outcome.code, hstart] using hstop
    · simpa [hw, hans] using not_callOk hne hstart hstop

/-! ### Transfers -/

lemma xferLoop_iff {i : ℕ} {msgs : List RtI2cMsg} {rs : List Reading} {calls : List Call} {ret : ℤ}
    (h : rtI2cXfer.loop i msgs rs = some (calls, ret)) :
    (∀ call ∈ calls, CallOk call) ↔ XferAnswered msgs rs := by
  induction msgs generalizing i rs calls with
  | nil =>
    cases h
    simp [XferAnswered]
  | cons msg msgs ih =>
    rw [rtI2cXfer.loop] at h
    rw [XferAnswered]
    rcases hmsg : rtI2cMsg msg rs with _ | ⟨o, cs, rs'⟩
    · rw [hmsg] at h
      cases h
    rw [hmsg] at h
    simp only at h
    rw [← callOk_iff hmsg]
    by_cases hcode : o.code ≠ 0
    · -- the transfer ends with this message
      rw [if_pos hcode] at h
      cases h
      have hfail : ∀ cs' rs'', some (o, cs, rs') = some (.done (), cs', rs'') → XferAnswered msgs rs'' := by
        intro cs' rs'' hdone
        cases hdone
        exact absurd rfl hcode
      rw [List.forall_mem_singleton]
      exact ⟨fun hok => ⟨hok, hfail⟩, fun hok => hok.1⟩
    · rw [if_neg hcode] at h
      obtain rfl := rtI2cMsg_done hmsg (not_not.1 hcode)
      rcases hrest : rtI2cXfer.loop (i + 1) msgs rs' with _ | ⟨calls', ret'⟩
      · rw [hrest] at h
        cases h
      · rw [hrest] at h
        cases h
        have hnext : (∀ cs' rs'', some (Outcome.done (), cs, rs') = some (.done (), cs', rs'') →
            XferAnswered msgs rs'') ↔ XferAnswered msgs rs' := by
          constructor
          · intro hall
            exact hall cs rs' rfl
          · intro hx cs' rs'' hdone
            cases hdone
            exact hx
        rw [List.forall_mem_cons, hnext, ih hrest]

/-- **Framing of a transfer.**  In every transfer that returns, each message that was transferred is
framed and each that was not leaves the bus free, if and only if every message either found the bus
busy or had all its events in time, and no read was of a single byte. -/
theorem xfer_framed_iff (msgs : List RtI2cMsg) (rs : List Reading) {calls : List Call} {ret : ℤ}
    (h : rtI2cXfer msgs rs = some (calls, ret)) :
    (∀ call ∈ calls, CallOk call) ↔ XferAnswered msgs rs :=
  xferLoop_iff h

/-- A write of one byte with every event at the first reading. -/
theorem xfer_framed_write :
    ∃ calls, rtI2cXfer [⟨0xA0#16, 0#16, 1#16, fun _ => 0x55#8⟩]
      [⟨false, 0⟩, ⟨true, 0⟩, ⟨true, 0⟩, ⟨true, 0⟩, ⟨true, 0⟩] = some (calls, 1) ∧
      ∀ call ∈ calls, CallOk call :=
  ⟨_, rfl, (xfer_framed_iff [⟨0xA0#16, 0#16, 1#16, fun _ => 0x55#8⟩]
    [⟨false, 0⟩, ⟨true, 0⟩, ⟨true, 0⟩, ⟨true, 0⟩, ⟨true, 0⟩] rfl).2 ⟨trivial, fun _ _ _ => trivial⟩⟩

/-- A read of one byte returns without an error, but it issued no STOP. -/
theorem xfer_framed_fails :
    ¬∀ msgs rs calls ret, (∀ msg ∈ msgs, 1 ≤ msg.len.toNat) →
      rtI2cXfer msgs rs = some (calls, ret) → ∀ call ∈ calls, CallOk call := by
  intro h
  have hcall := h [⟨0xA0#16, 1#16, 1#16, fun _ => 0#8⟩]
    [⟨false, 0⟩, ⟨true, 0⟩, ⟨true, 0⟩, ⟨true, 0x55#8⟩, ⟨false, 0⟩] _ _ (by decide) rfl _
    List.mem_cons_self
  obtain ⟨⟨rest, hrest, hstop, -⟩, -⟩ := hcall
  change [Command.start, Command.addr _, Command.recv 0x55#8] = _ at hrest
  cases hrest
  exact absurd hstop (by decide)

end N32L43x.I2c
