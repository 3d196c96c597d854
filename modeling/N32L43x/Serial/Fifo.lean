import N32L43x.Lib.Run
import N32L43x.Serial.RxFifo

/-!
The receive FIFO is a queue that keeps the last bytes: an interrupt drops the oldest ones when there are
more, and the readers take the others in the order they came.
-/

namespace N32L43x.Serial

open N32L43x.Lib

variable {bufsz : ℕ} {fifo : RtSerialRxFifo} {queue : List Byte}

lemma nextIndex_eq (h16 : bufsz < 0x10000) {index : ℕ} (h : index < bufsz) :
    nextIndex bufsz index = (index + 1) % bufsz := by
  simp only [nextIndex]
  rw [Nat.mod_eq_of_lt (show index + 1 < 0x10000 by omega), Ring.mod_eq_ite (by omega)]
  split <;> split <;> omega

/-- The FIFO holds these bytes.  Only a buffer of one byte can be full with both indices the same. -/
structure Holds (bufsz : ℕ) (fifo : RtSerialRxFifo) (queue : List Byte) : Prop where
  bound : bufsz < 0x10000
  get_lt : fifo.getIndex < bufsz
  length_le : queue.length ≤ capacity bufsz
  put : fifo.putIndex = (fifo.getIndex + queue.length) % bufsz
  full : fifo.isFull = true → queue.length = capacity bufsz
  single : bufsz = 1 → queue ≠ [] → fifo.isFull = true
  contents : Ring.contents fifo.buffer bufsz fifo.getIndex queue.length = queue

lemma holds_init (h1 : 1 ≤ bufsz) (h16 : bufsz < 0x10000) : Holds bufsz rxFifoInit [] := by
  refine ⟨h16, h1, Nat.zero_le _, (Nat.zero_mod _).symm, ?_, ?_, rfl⟩
  · intro h
    cases h
  · intro _ h
    exact absurd rfl h

lemma Holds.put_lt (h : Holds bufsz fifo queue) : fifo.putIndex < bufsz := by
  rw [h.put]
  exact Nat.mod_lt _ (by have := h.get_lt; omega)

lemma Holds.put_eq_ite (h : Holds bufsz fifo queue) : fifo.putIndex =
    if fifo.getIndex + queue.length < bufsz then fifo.getIndex + queue.length
    else fifo.getIndex + queue.length - bufsz := by
  have hget := h.get_lt
  have hlen := h.length_le
  unfold capacity at hlen
  rw [h.put]
  exact Ring.mod_eq_ite (by omega)

/-- `_serial_int_rx` finds no data if and only if there is none. -/
lemma Holds.empty_iff (h : Holds bufsz fifo queue) :
    (fifo.getIndex = fifo.putIndex ∧ fifo.isFull = false) ↔ queue = [] := by
  have hput := h.put_eq_ite
  have hget := h.get_lt
  have hlen := h.length_le
  unfold capacity at hlen
  constructor
  · rintro ⟨heq, hfull⟩
    by_contra hne
    have hpos := List.length_pos_iff.mpr hne
    have hbufsz : bufsz ≠ 1 := by
      intro h1
      rw [h.single h1 hne] at hfull
      cases hfull
    split at hput <;> omega
  · rintro rfl
    rw [List.length_nil, Nat.add_zero, if_pos hget] at hput
    refine ⟨hput.symm, ?_⟩
    by_contra hfull
    have hcap := h.full (by simpa using hfull)
    unfold capacity at hcap
    rw [List.length_nil] at hcap
    omega

lemma Holds.recvedLen (h : Holds bufsz fifo queue) :
    serialFifoCalcRecvedLen bufsz fifo = queue.length := by
  have hput := h.put_eq_ite
  have hget := h.get_lt
  have hlen := h.length_le
  have hempty := h.empty_iff
  unfold serialFifoCalcRecvedLen
  unfold capacity at hlen
  by_cases hq : queue = []
  · obtain ⟨heq, hfull⟩ := hempty.mpr hq
    rw [if_pos heq.symm, if_pos hfull, hq, List.length_nil]
  · have hpos := List.length_pos_iff.mpr hq
    by_cases heq : fifo.putIndex = fifo.getIndex
    · have hfull : fifo.isFull ≠ false := fun hfull => hq (hempty.mp ⟨heq.symm, hfull⟩)
      rw [if_pos heq, if_neg hfull]
      split at hput <;> omega
    · rw [if_neg heq]
      split at hput <;> split <;> omega

lemma Holds.unread (h : Holds bufsz fifo queue) : unread bufsz fifo = queue := by
  unfold Serial.unread
  rw [h.recvedLen, h.contents]

/-- **One byte.**  It is the last one, and the oldest one goes when there are more than fit. -/
lemma Holds.store (h : Holds bufsz fifo queue) (ch : Byte) :
    Holds bufsz (store bufsz fifo ch)
      ((queue ++ [ch]).drop (queue.length + 1 - capacity bufsz)) := by
  have hget := h.get_lt
  have hput := h.put_eq_ite
  have hputlt := h.put_lt
  have hlen := h.length_le
  have hcap : capacity bufsz = max (bufsz - 1) 1 := rfl
  have hnext : nextIndex bufsz fifo.putIndex = (fifo.getIndex + (queue.length + 1)) % bufsz := by
    rw [nextIndex_eq h.bound hputlt, h.put, Nat.mod_add_mod, Nat.add_assoc]
  have hwritten : Ring.Written fifo.buffer (Function.update fifo.buffer fifo.putIndex ch) bufsz
      ((fifo.getIndex + queue.length) % bufsz) [ch] := by
    rw [← h.put]
    exact Ring.written_update hputlt ch
  -- the buffer is overrun when the next position is the read index
  have hover : nextIndex bufsz fifo.putIndex = fifo.getIndex ↔
      capacity bufsz < queue.length + 1 ∨ bufsz = 1 := by
    rw [hnext]
    by_cases h1 : bufsz = 1
    · subst h1
      rw [Nat.mod_one]
      exact ⟨fun _ => .inr rfl, fun _ => by omega⟩
    · rw [Ring.mod_eq_ite (by omega)]
      split <;> omega
  have hdrop := Ring.contents_written hwritten
    (show queue.length + 1 - capacity bufsz ≤ queue.length + [ch].length by simp)
    (show queue.length + [ch].length ≤ bufsz + (queue.length + 1 - capacity bufsz) by simp; omega)
  rw [h.contents, List.length_singleton] at hdrop
  have hlength : ((queue ++ [ch]).drop (queue.length + 1 - capacity bufsz)).length =
      queue.length + 1 - (queue.length + 1 - capacity bufsz) := by simp
  unfold Serial.store
  simp only
  split
  · rename_i heq
    have hcase := hover.mp heq
    have hfull : queue.length + 1 - (queue.length + 1 - capacity bufsz) = capacity bufsz := by omega
    have hget' : nextIndex bufsz fifo.getIndex =
        (fifo.getIndex + (queue.length + 1 - capacity bufsz)) % bufsz := by
      rw [nextIndex_eq h.bound hget]
      by_cases h1 : bufsz = 1
      · subst h1
        rw [Nat.mod_one, Nat.mod_one]
      · congr 1
        omega
    refine ⟨h.bound, ?_, ?_, ?_, ?_, ?_, ?_⟩
    · rw [hget']
      exact Nat.mod_lt _ (by omega)
    · rw [hlength]
      omega
    · rw [hlength]
      simp only
      rw [hnext, hget', Nat.mod_add_mod]
      congr 1
      omega
    · intro _
      rw [hlength, hfull]
    · intro _ _
      rfl
    · simp only
      rw [hlength, hget']
      exact hdrop
  · rename_i hne
    have hcase := fun hc => hne (hover.mpr hc)
    have hroom : queue.length + 1 - capacity bufsz = 0 := by
      by_contra hc
      exact hcase (.inl (by omega))
    rw [hroom, Nat.add_zero, Nat.mod_eq_of_lt hget, Nat.sub_zero] at hdrop
    rw [hroom, List.drop_zero] at hlength ⊢
    refine ⟨h.bound, hget, ?_, ?_, ?_, ?_, ?_⟩
    · rw [hlength]
      omega
    · rw [hlength]
      exact hnext
    · intro hfull
      have hbefore := h.full hfull
      omega
    · intro h1
      exact absurd (.inr h1) hcase
    · simp only
      rw [hlength]
      exact hdrop

lemma drop_append_drop (queue bytes : List Byte) (ch : Byte) (n : ℕ) :
    let kept := (queue ++ [ch]).drop (queue.length + 1 - n)
    (kept ++ bytes).drop ((kept ++ bytes).length - n) =
      (queue ++ ch :: bytes).drop ((queue ++ ch :: bytes).length - n) := by
  intro kept
  have hle : queue.length + 1 - n ≤ (queue ++ [ch]).length := by simp
  have hkept : kept ++ bytes = (queue ++ ch :: bytes).drop (queue.length + 1 - n) := by
    rw [← List.drop_append_of_le_length hle, List.append_assoc, List.singleton_append]
  rw [hkept, List.drop_drop]
  congr 1
  simp only [List.length_drop, List.length_append, List.length_cons]
  omega

/-- **One interrupt.** -/
lemma Holds.isrLoop (dats : List (BitVec 16)) : ∀ {fifo : RtSerialRxFifo} {queue : List Byte},
    Holds bufsz fifo queue → Holds bufsz (isrLoop bufsz fifo dats)
      ((queue ++ dats.map received).drop ((queue ++ dats.map received).length - capacity bufsz)) := by
  induction dats with
  | nil =>
    intro fifo queue h
    have hlen := h.length_le
    have hnone : (queue ++ List.map received []).length - capacity bufsz = 0 := by
      rw [List.map_nil, List.append_nil]
      omega
    rw [hnone, List.drop_zero, List.map_nil, List.append_nil]
    exact h
  | cons dat dats ih =>
    intro fifo queue h
    have hstored := ih (h.store (received dat))
    have hdrop := drop_append_drop queue (dats.map received) (received dat) (capacity bufsz)
    rw [hdrop] at hstored
    exact hstored

/-- What `rx_indicate` is told is the number of bytes unread, in a buffer of more than one byte. -/
lemma Holds.rxIndicate (h : Holds bufsz fifo queue) (hsz : 2 ≤ bufsz) (dats : List (BitVec 16)) :
    let (fifo', rxLength) := rtHwSerialIsr bufsz fifo dats
    rxLength = if (Serial.unread bufsz fifo').length = 0 then none
      else some (Serial.unread bufsz fifo').length := by
  have hafter := h.isrLoop dats
  have hput := hafter.put_eq_ite
  have hget := hafter.get_lt
  have hlen := hafter.length_le
  have hcap : capacity bufsz = max (bufsz - 1) 1 := rfl
  simp only [rtHwSerialIsr, hafter.unread]
  have hlength : ∀ n m : ℕ, n = m → (if n = 0 then none else some n) =
      if m = 0 then none else some m := fun n m hnm => by rw [hnm]
  apply hlength
  split at hput <;> split <;> omega

/-- **One pass of a reader** takes the oldest byte. -/
lemma Holds.serialIntRx (h : Holds bufsz fifo queue) :
    match serialIntRx bufsz fifo with
    | none => queue = []
    | some (fifo', ch) => ∃ rest, queue = ch :: rest ∧ Holds bufsz fifo' rest := by
  have hget := h.get_lt
  have hempty := h.empty_iff
  cases queue with
  | nil =>
    have hnone := hempty.mpr rfl
    simp only [Serial.serialIntRx, if_pos hnone]
  | cons oldest rest =>
    have hsome := mt hempty.mp (List.cons_ne_nil oldest rest)
    simp only [Serial.serialIntRx, if_neg hsome]
    have hlen := h.length_le
    have hcontents := h.contents
    rw [List.length_cons, Ring.contents_succ, Nat.mod_eq_of_lt hget] at hcontents
    obtain ⟨hhead, htail⟩ := List.cons.inj hcontents
    rw [List.length_cons] at hlen
    rw [hhead]
    refine ⟨rest, rfl, h.bound, ?_, ?_, ?_, ?_, ?_, ?_⟩
    · simp only
      rw [nextIndex_eq h.bound hget]
      exact Nat.mod_lt _ (by omega)
    · omega
    · simp only
      rw [nextIndex_eq h.bound hget, Nat.mod_add_mod, h.put, List.length_cons]
      congr 1
      omega
    · intro hfull
      cases hfull
    · intro h1 hne
      have hpos := List.length_pos_iff.mpr hne
      unfold capacity at hlen
      omega
    · simp only
      rw [nextIndex_eq h.bound hget]
      exact htail

/-! ### Runs -/

variable {Rd : Type*} [DecidableEq Rd] {s s' : System Rd} {q q' : Queue Rd}

/-- The bytes that the interrupts received. -/
def receivedBytes : Event Rd → List Byte
  | .received bytes => bytes
  | _ => []

/-- The bytes that the readers took. -/
def takenBytes : Event Rd → List Byte
  | .taken _ ch => [ch]
  | _ => []

/-- The bytes that left the queue for a reader. -/
def returnedPast (q : Queue Rd) : List Byte :=
  (q.past.filter fun p => p.1 = .returned).map Prod.snd

/-- A step of the specification accounts for every byte. -/
lemma specStep_bytes {n : ℕ} {e : Event Rd} (h : specStep n q e = some q') :
    q'.past.map Prod.snd ++ q'.unread = q.past.map Prod.snd ++ q.unread ++ receivedBytes e ∧
      returnedPast q' = returnedPast q ++ takenBytes e := by
  cases e with
  | received bytes =>
    obtain rfl := Option.some.inj h
    constructor
    · simp only [receivedBytes, List.map_append, List.map_map, List.append_assoc]
      congr 1
      exact (congrArg (· ++ _) (List.map_id _)).trans (List.take_append_drop ..)
    · simp only [returnedPast, takenBytes, List.append_nil, List.filter_append, List.map_append]
      have hnone : (((q.unread ++ bytes).take ((q.unread ++ bytes).length - n)).map
          fun ch => (Fate.dropped, ch)).filter (fun p => p.1 = .returned) = [] := by
        apply List.filter_eq_nil_iff.mpr
        intro p hp
        obtain ⟨ch, -, rfl⟩ := List.mem_map.mp hp
        simp
      rw [hnone, List.map_nil, List.append_nil]
  | taken rd ch =>
    simp only [specStep] at h
    split at h
    · cases h
    rename_i oldest rest hq
    split at h
    · rename_i hch
      obtain rfl := Option.some.inj h
      simp [receivedBytes, takenBytes, returnedPast, hq, hch]
    · cases h
  | returned rd data =>
    simp only [specStep] at h
    split at h
    · obtain rfl := Option.some.inj h
      simp [receivedBytes, takenBytes, returnedPast]
    · cases h

/-- So does a run. -/
lemma specRun_bytes {n : ℕ} (events : List (Event Rd)) : ∀ {q q' : Queue Rd},
    Run.exec (specStep n) q events = some q' →
    q'.past.map Prod.snd ++ q'.unread =
        q.past.map Prod.snd ++ q.unread ++ events.flatMap receivedBytes ∧
      returnedPast q' = returnedPast q ++ events.flatMap takenBytes := by
  induction events with
  | nil =>
    intro q q' h
    obtain rfl : q = q' := by simpa [Run.exec] using h
    simp
  | cons e events ih =>
    intro q q' h
    rcases he : specStep n q e with _ | t
    · rw [Run.exec_cons_none he] at h
      cases h
    · rw [Run.exec_cons_some he] at h
      obtain ⟨hbytes, hreturned⟩ := specStep_bytes he
      obtain ⟨hbytes', hreturned'⟩ := ih h
      rw [hbytes', hreturned', hbytes, hreturned]
      simp only [List.flatMap_cons, List.append_assoc, and_self]

/-- The FIFO and the calls, and the queue of the specification. -/
structure Refines (bufsz : ℕ) (s : System Rd) (q : Queue Rd) : Prop where
  holds : Holds bufsz s.fifo q.unread
  given : ∀ rd, q.given rd = (s.call rd).elim [] Call.data

/-- What the loop of a call does next. -/
lemma Holds.next (h : Holds bufsz fifo queue) (call : Call) :
    next bufsz fifo call = (fifo, none) ∨
      ∃ fifo' ch rest length, next bufsz fifo call = (fifo', some (ch, ⟨call.data ++ [ch], length⟩)) ∧
        queue = ch :: rest ∧ Holds bufsz fifo' rest := by
  have hread := h.serialIntRx
  unfold Serial.next
  split
  · exact .inl rfl
  · rename_i length hlength
    rcases hrx : Serial.serialIntRx bufsz fifo with _ | ⟨fifo', ch⟩
    · exact .inl rfl
    · rw [hrx] at hread
      obtain ⟨rest, hqueue, hholds⟩ := hread
      exact .inr ⟨fifo', ch, rest, length, rfl, hqueue, hholds⟩

lemma Refines.next (h : Refines bufsz s q) {rd : Rd} {call : Call} (hcall : s.call rd = some call) :
    ∃ q', Run.exec (specStep (capacity bufsz)) q
        (match (next bufsz s.fifo call).2 with
          | none => [.returned rd call.data]
          | some (ch, _) => [.taken rd ch]) = some q' ∧
      Refines bufsz ⟨(next bufsz s.fifo call).1,
        Function.update s.call rd ((next bufsz s.fifo call).2.map Prod.snd)⟩ q' := by
  have hgiven := h.given rd
  rw [hcall] at hgiven
  rcases h.holds.next call with hnext | ⟨fifo', ch, rest, length, hnext, hqueue, hholds⟩
  · rw [hnext]
    refine ⟨{ q with given := Function.update q.given rd [] }, ?_, h.holds, ?_⟩
    · simp only [Run.exec, specStep, hgiven, Option.elim_some, if_true]
    · intro rd'
      by_cases hrd : rd' = rd
      · subst hrd
        simp only [Function.update_self, Option.map_none, Option.elim_none]
      · simp only [Function.update_of_ne hrd, h.given]
  · rw [hnext]
    refine ⟨⟨q.past ++ [(.returned, ch)], rest, Function.update q.given rd (q.given rd ++ [ch])⟩,
      ?_, hholds, ?_⟩
    · simp only [Run.exec, specStep, hqueue, if_true]
    · intro rd'
      by_cases hrd : rd' = rd
      · subst hrd
        simp only [Function.update_self, Option.map_some, Option.elim_some, hgiven]
      · simp only [Function.update_of_ne hrd, h.given]

lemma Refines.step (h : Refines bufsz s q) {a : Action Rd} (hs : step bufsz s a = some s') :
    ∃ q', Run.exec (specStep (capacity bufsz)) q (label bufsz s a s') = some q' ∧
      Refines bufsz s' q' := by
  cases a with
  | interrupt dats =>
    obtain rfl := Option.some.inj hs
    exact ⟨_, rfl, h.holds.isrLoop dats, h.given⟩
  | read rd length =>
    simp only [Serial.step] at hs
    split at hs
    · rename_i hcall
      obtain rfl := Option.some.inj hs
      refine ⟨q, rfl, h.holds, ?_⟩
      intro rd'
      rw [h.given]
      by_cases hrd : rd' = rd
      · subst hrd
        simp only [Function.update_self, hcall, Option.elim_none, Option.elim_some]
      · simp only [Function.update_of_ne hrd]
    · cases hs
  | next rd =>
    simp only [Serial.step] at hs
    split at hs
    · cases hs
    · rename_i call hcall
      obtain rfl := Option.some.inj hs
      simp only [label, hcall]
      exact h.next hcall

end N32L43x.Serial
