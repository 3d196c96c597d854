import N32L43x.Dataqueue.Answers
import N32L43x.Lib.Run

/-!
Transmission by DMA in `components/drivers/serial/dev_serial.c`.  A writer puts its buffer into a data
queue and starts the DMA itself if nobody has; the interrupt at the end of a transfer takes the buffer out
and goes on with the next one.  Between the two halves of a write anything may happen.
-/

namespace N32L43x.Serial

open N32L43x.Lib.Run N32L43x.Dataqueue N32L43x.Ipc

/-- Where a writer stands in `_serial_dma_tx`. -/
inductive TxPc
  | idle
  /-- in `rt_data_queue_push` -/
  | pushing (item : RtDataItem)
  /-- before the critical section -/
  | check (item : RtDataItem)
  /-- before `dma_transmit` -/
  | transmit (item : RtDataItem)

/-- `struct rt_serial_tx_dma`, the writers and the channel.  In the queue the agent `none` is the
interrupt. -/
structure TxDma (Wr : Type*) where
  dataQueue : RtDataQueue (Option Wr)
  activated : Bool
  pc : Wr → TxPc
  /-- What the channel transmits. -/
  channel : Option RtDataItem
  /-- A transfer was started while another one was going on. -/
  clash : Bool
  /-- What was put into the queue so far. -/
  pushed : List RtDataItem
  /-- The transfers so far. -/
  started : List RtDataItem
  /-- The buffers `tx_complete` was called with; it gets an undefined one if the queue was empty. -/
  completed : List (Option RtDataItem)

variable {Wr : Type*} [DecidableEq Wr]

omit [DecidableEq Wr] in
/-- After `rt_serial_open`. -/
def txDmaInit (queue : ℕ → RtDataItem) : TxDma Wr where
  dataQueue := rtDataQueueInit queue 8 4
  activated := false
  pc := fun _ => .idle
  channel := none
  clash := false
  pushed := []
  started := []
  completed := []

def TxDma.setPc (s : TxDma Wr) (w : Wr) (pc : TxPc) : TxDma Wr :=
  { s with pc := Function.update s.pc w pc }

omit [DecidableEq Wr] in
/-- `dma_transmit`. -/
def TxDma.dmaTransmit (s : TxDma Wr) (item : RtDataItem) : TxDma Wr :=
  { s with
    channel := some item
    clash := s.clash || s.channel.isSome
    started := s.started ++ [item] }

omit [DecidableEq Wr] in
/-- `rt_data_queue_peek`. -/
def rtDataQueuePeek {Ag : Type*} (q : RtDataQueue Ag) : Option RtDataItem :=
  if q.isEmpty then none else some (q.queue q.getIndex)

/-- What a pop delivers. -/
def popped : Pc → Option RtDataItem
  | .done (.ok (.popped item)) => some item
  | _ => none

/-- After `rt_data_queue_push` has gone on. -/
def afterPush (s : TxDma Wr) (w : Wr) (item : RtDataItem) (q : RtDataQueue (Option Wr)) : TxDma Wr :=
  match q.pc (some w) with
  | .done (.ok _) =>
    { s with dataQueue := Dataqueue.setPc q (some w) .idle, pushed := s.pushed ++ [item] }.setPc w (.check item)
  | .done (.error _) => { s with dataQueue := Dataqueue.setPc q (some w) .idle }.setPc w .idle
  | _ => { s with dataQueue := q }

/-- `rt_hw_serial_isr` with `RT_SERIAL_EVENT_TX_DMADONE`, with the queue after the pop. -/
def txDmaDone (s : TxDma Wr) (q : RtDataQueue (Option Wr)) : TxDma Wr :=
  let lastDataPtr := popped (q.pc none)
  let s := { s with dataQueue := Dataqueue.setPc q none .idle, channel := none }
  let s :=
    match rtDataQueuePeek s.dataQueue with
    | some item => { s with activated := true }.dmaTransmit item
    | none => { s with activated := false }
  { s with completed := s.completed ++ [lastDataPtr] }

inductive TxAction (Wr : Type*)
  /-- `rt_serial_write` with a buffer -/
  | write (w : Wr) (item : RtDataItem)
  /-- a writer goes on in `rt_data_queue_push` -/
  | push (w : Wr) (env : Env)
  /-- the critical section -/
  | check (w : Wr)
  | transmit (w : Wr)
  /-- the channel is done, and the interrupt handler runs -/
  | dmaDone (env : Env)

def txStep (s : TxDma Wr) : TxAction Wr → Option (TxDma Wr)
  | .write w item =>
    match s.pc w with
    | .idle =>
      if item.dataSize = 0 then none
      else some ({ s with dataQueue := Dataqueue.setPc s.dataQueue (some w) (.pushEntry item (-1)) }.setPc w
        (.pushing item))
    | _ => none
  | .push w env =>
    match s.pc w with
    | .pushing item => (runAgent s.dataQueue (some w) env).map (afterPush s w item)
    | _ => none
  | .check w =>
    match s.pc w with
    | .check item =>
      if s.activated then some (s.setPc w .idle)
      else some ({ s with activated := true }.setPc w (.transmit item))
    | _ => none
  | .transmit w =>
    match s.pc w with
    | .transmit item => some ((s.dmaTransmit item).setPc w .idle)
    | _ => none
  | .dmaDone env =>
    match s.channel with
    | some _ => (popLoop s.dataQueue none 0 env).map (txDmaDone s)
    | none => none

/-! ### What is to hold, and when it does -/

/-- Buffers are transmitted in the order in which they were put into the queue, each once and alone, and
reported in this order; when nobody writes and nothing is transmitted, all of them were. -/
structure InOrder (s : TxDma Wr) : Prop where
  started : s.started <+: s.pushed
  alone : s.clash = false
  completed : s.completed ++ (s.channel.toList.map some) = s.started.map some
  all : (∀ w, s.pc w = .idle) → s.channel = none → s.started = s.pushed

/-- A writer that starts the DMA finds its own buffer at the head of the queue. -/
def AtHead (s : TxDma Wr) : TxAction Wr → Prop
  | .transmit w => ∀ item, s.pc w = .transmit item → rtDataQueuePeek s.dataQueue = some item
  | _ => True

/-! ### The queue -/

section Queue

variable {Ag : Type*} [DecidableEq Ag] {q q' : RtDataQueue Ag} {ag : Ag} {items : List RtDataItem}
  {item : RtDataItem} {env : Env}

/-- A call to push with no time limit. -/
def Pushing (q : RtDataQueue Ag) (ag : Ag) (item : RtDataItem) : Prop :=
  q.pc ag = .pushEntry item (-1) ∨ q.pc ag = .pushWait item (-1)

/-- The queue of the driver, with these items. -/
structure Queued (q : RtDataQueue Ag) (items : List RtDataItem) : Prop where
  size : q.size = 8
  ring : OnRing q (capacity 8) items

lemma Queued.setPc (h : Queued q items) (pc : Pc) : Queued (Dataqueue.setPc q ag pc) items :=
  ⟨h.size, h.ring.setPc⟩

omit [DecidableEq Ag] in
lemma Queued.congr (h : Queued q items) (hs : SameData q q') : Queued q' items :=
  ⟨hs.size.trans h.size, hs.onRing h.ring⟩

omit [DecidableEq Ag] in
lemma Queued.peek (h : Queued q items) : rtDataQueuePeek q = items.head? := by
  unfold rtDataQueuePeek
  cases hempty : q.isEmpty
  · obtain ⟨rest, hitems, -⟩ := h.ring.take hempty (by
      rw [h.size]
      exact nextIndex_capacity h.ring.get_lt)
    rw [hitems]
    rfl
  · have hnil := List.eq_nil_of_length_eq_zero (h.ring.isEmpty.mp hempty)
    rw [hnil]
    rfl

/-- How a push goes on: it stores the item, or fails, or waits. -/
lemma Queued.push (h : Queued q items) (hpc : Pushing q ag item) (hs : runAgent q ag env = some q') :
    (∀ other, other ≠ ag → q'.pc other = q.pc other) ∧
      (q'.pc ag = .done (.ok .pushed) ∧ Queued q' (items ++ [item]) ∨
        (∃ e, q'.pc ag = .done (.error e)) ∧ Queued q' items ∨
        q'.pc ag = .pushWait item (-1) ∧ Queued q' items) := by
  have hloop : (∀ other, other ≠ ag → (pushLoop q ag item (-1) env).pc other = q.pc other) ∧
      ((pushLoop q ag item (-1) env).pc ag = .done (.ok .pushed) ∧
          Queued (pushLoop q ag item (-1) env) (items ++ [item]) ∨
        (∃ e, (pushLoop q ag item (-1) env).pc ag = .done (.error e)) ∧
          Queued (pushLoop q ag item (-1) env) items ∨
        (pushLoop q ag item (-1) env).pc ag = .pushWait item (-1) ∧
          Queued (pushLoop q ag item (-1) env) items) := by
    unfold pushLoop
    split
    · rw [if_neg (by decide)]
      have herror : Queued (setError q ag .eok) items := h.congr ⟨rfl, rfl, rfl, rfl, rfl, rfl, rfl⟩
      dsimp only
      split
      · refine ⟨fun other hne => Function.update_of_ne hne _ _, .inr (.inr ⟨Function.update_self .., ?_⟩)⟩
        refine Queued.setPc (herror.congr ?_) _
        exact ⟨rfl, rfl, rfl, rfl, rfl, rfl, rfl⟩
      · refine ⟨fun other hne => Function.update_of_ne hne _ _, .inr (.inl ⟨⟨_, Function.update_self ..⟩, ?_⟩)⟩
        exact herror.setPc _
    · rename_i hroom
      have hnext := nextIndex_capacity h.ring.put_lt
      rw [← h.size] at hnext
      have hput := h.ring.put (eq_false_of_ne_true hroom) (by rw [hnext, h.size]) item
      have hitems : Queued (put q item) (items ++ [item]) := ⟨h.size, hput⟩
      have hdeq := sameData_dequeuePop (put q item) env.ready
      have hstored := hitems.congr hdeq
      refine ⟨fun other hne => ?_, .inl ⟨Function.update_self .., hstored.setPc _⟩⟩
      refine (Function.update_of_ne hne _ _).trans ?_
      rw [hdeq.pc]
      rfl
  unfold runAgent at hs
  rcases hpc with hpc | hpc <;> rw [hpc] at hs <;> dsimp only at hs
  · obtain rfl := Option.some.inj hs
    exact hloop
  · split at hs
    · cases hs
    split at hs
    · obtain rfl := Option.some.inj hs
      exact ⟨fun other hne => Function.update_of_ne hne _ _,
        .inr (.inl ⟨⟨_, Function.update_self ..⟩, h.setPc _⟩)⟩
    · obtain rfl := Option.some.inj hs
      exact hloop

/-- A pop from the interrupt takes the first item, if there is one. -/
lemma Queued.pop {x : RtDataItem} (h : Queued q (x :: items)) (hs : popLoop q ag 0 env = some q') :
    (∀ other, other ≠ ag → q'.pc other = q.pc other) ∧ q'.pc ag = .done (.ok (.popped x)) ∧
      Queued q' items := by
  have hsome : q.isEmpty = false := by
    cases hempty : q.isEmpty
    · rfl
    · exact absurd (h.ring.isEmpty.mp hempty) (by simp)
  have hnext := nextIndex_capacity h.ring.get_lt
  rw [← h.size] at hnext
  obtain ⟨rest, hitems, htake⟩ := h.ring.take hsome (by rw [hnext, h.size])
  obtain ⟨rfl, rfl⟩ := List.cons.inj hitems
  have hwoken : SameData (take q)
      (if rtDataQueueLen (take q) ≤ (take q).lwm then dequeuePush (take q) env.ready else take q) := by
    split
    · exact sameData_dequeuePush ..
    · exact ⟨rfl, rfl, rfl, rfl, rfl, rfl, rfl⟩
  unfold popLoop at hs
  rw [if_neg (by rw [hsome]; decide)] at hs
  obtain rfl := Option.some.inj hs
  refine ⟨fun other hne => ?_, Function.update_self .., ?_⟩
  · refine (Function.update_of_ne hne _ _).trans ?_
    rw [hwoken.pc]
    rfl
  · have hrest : Queued (take q) items := ⟨h.size, htake⟩
    exact (hrest.congr hwoken).setPc _

end Queue

/-! ### Phases -/

variable {s s' : TxDma Wr} {items : List RtDataItem}

/-- Nobody is about to start a transfer. -/
def NoneStarts (s : TxDma Wr) : Prop := ∀ w item, s.pc w ≠ .transmit item

/-- Who is responsible for the first item. -/
inductive Phase (s : TxDma Wr) (items : List RtDataItem) : Prop where
  /-- nothing is transmitted, and if there are items a writer will look -/
  | idle (channel : s.channel = none) (activated : s.activated = false) (none : NoneStarts s)
      (looks : items ≠ [] → ∃ w item, s.pc w = .check item)
  /-- a writer is about to start the transfer -/
  | claimed (channel : s.channel = none) (activated : s.activated = true) (w : Wr) (item : RtDataItem)
      (starts : s.pc w = .transmit item) (only : ∀ w' item', s.pc w' = .transmit item' → w' = w)
  /-- the first item is transmitted -/
  | busy (item : RtDataItem) (channel : s.channel = some item) (activated : s.activated = true)
      (none : NoneStarts s) (head : items.head? = some item)

/-- The queue, and what was taken out of it. -/
structure Sending (s : TxDma Wr) (items taken : List RtDataItem) : Prop where
  queued : Queued s.dataQueue items
  pushing : ∀ w item, s.pc w = .pushing item → Pushing s.dataQueue (some w) item
  pushed : s.pushed = taken ++ items
  completed : s.completed = taken.map some
  started : s.started = taken ++ s.channel.toList
  alone : s.clash = false
  phase : Phase s items

omit [DecidableEq Wr] in
lemma Sending.inOrder {taken : List RtDataItem} (h : Sending s items taken) : InOrder s := by
  refine ⟨?_, h.alone, ?_, ?_⟩
  · rw [h.started, h.pushed]
    refine List.prefix_append_right_inj _ |>.mpr ?_
    cases h.phase with
    | idle channel => simp [channel]
    | claimed channel => simp [channel]
    | busy item channel _ _ head =>
      obtain ⟨rest, rfl⟩ := List.head?_eq_some_iff.mp head
      rw [channel]
      exact ⟨rest, rfl⟩
  · rw [h.completed, h.started, List.map_append]
  · intro hidle hchannel
    rw [h.started, h.pushed, hchannel]
    cases h.phase with
    | idle _ _ _ looks =>
      by_contra hne
      obtain ⟨w, item, hw⟩ := looks fun hnil => hne (by rw [hnil]; rfl)
      rw [hidle w] at hw
      cases hw
    | claimed _ _ w item starts =>
      rw [hidle w] at starts
      cases starts
    | busy item channel =>
      rw [hchannel] at channel
      cases channel

/-! ### Steps -/

variable {taken : List RtDataItem} {w : Wr} {item : RtDataItem} {env : Env} {pc : TxPc}

lemma setPc_other {w' : Wr} (hne : w' ≠ w) : (s.setPc w pc).pc w' = s.pc w' := Function.update_of_ne hne _ _

lemma setPc_self : (s.setPc w pc).pc w = pc := Function.update_self ..

lemma NoneStarts.setPc (h : NoneStarts s) (hpc : ∀ item, pc ≠ .transmit item) : NoneStarts (s.setPc w pc) := by
  intro w' item
  by_cases hw : w' = w
  · subst hw
    rw [setPc_self]
    exact hpc item
  · rw [setPc_other hw]
    exact h w' item

/-- A writer that is not to look and not to start a transfer goes on, and does not start one next. -/
lemma Phase.setPc (h : Phase s items) (hcheck : ∀ item, s.pc w ≠ .check item)
    (hstart : ∀ item, s.pc w ≠ .transmit item) (hpc : ∀ item, pc ≠ .transmit item) :
    Phase (s.setPc w pc) items := by
  cases h with
  | idle channel activated none looks =>
    refine .idle channel activated (none.setPc hpc) fun hne => ?_
    obtain ⟨w', item', hw'⟩ := looks hne
    have hother : w' ≠ w := by
      rintro rfl
      exact hcheck item' hw'
    exact ⟨w', item', by rw [setPc_other hother, hw']⟩
  | claimed channel activated w' item' starts only =>
    have hother : w' ≠ w := by
      rintro rfl
      exact hstart item' starts
    refine .claimed channel activated w' item' (by rw [setPc_other hother, starts]) fun v i hv => ?_
    by_cases hvw : v = w
    · subst hvw
      rw [setPc_self] at hv
      exact absurd hv (hpc i)
    · rw [setPc_other hvw] at hv
      exact only v i hv
  | busy item' channel activated none head => exact .busy item' channel activated (none.setPc hpc) head

/-- One more item, whose writer will look. -/
lemma Phase.append (h : Phase s items) (hstart : ∀ item, s.pc w ≠ .transmit item) :
    Phase (s.setPc w (.check item)) (items ++ [item]) := by
  have hpc : ∀ item', TxPc.check item ≠ .transmit item' := fun _ he => by cases he
  cases h with
  | idle channel activated none looks =>
    exact .idle channel activated (none.setPc hpc) fun _ => ⟨w, item, setPc_self⟩
  | claimed channel activated w' item' starts only =>
    have hother : w' ≠ w := by
      rintro rfl
      exact hstart item' starts
    refine .claimed channel activated w' item' (by rw [setPc_other hother, starts]) fun v i hv => ?_
    by_cases hvw : v = w
    · subst hvw
      rw [setPc_self] at hv
      cases hv
    · rw [setPc_other hvw] at hv
      exact only v i hv
  | busy item' channel activated none head =>
    refine .busy item' channel activated (none.setPc hpc) ?_
    obtain ⟨rest, rfl⟩ := List.head?_eq_some_iff.mp head
    rfl

omit [DecidableEq Wr] in
/-- The state with another queue. -/
lemma Phase.queue (h : Phase s items) (q : RtDataQueue (Option Wr)) (pushed : List RtDataItem) :
    Phase { s with dataQueue := q, pushed := pushed } items := by
  cases h with
  | idle channel activated none looks => exact .idle channel activated none looks
  | claimed channel activated w item starts only => exact .claimed channel activated w item starts only
  | busy item channel activated none head => exact .busy item channel activated none head

/-- What other writers are pushing is left alone. -/
lemma Sending.pushing_setPc (h : Sending s items taken) {q : RtDataQueue (Option Wr)} {pc : TxPc}
    (hq : ∀ w', w' ≠ w → q.pc (some w') = s.dataQueue.pc (some w'))
    (hpc : ∀ item, pc = .pushing item → Pushing q (some w) item) (w' : Wr) (item : RtDataItem)
    (hw' : (s.setPc w pc).pc w' = .pushing item) : Pushing q (some w') item := by
  by_cases hw : w' = w
  · subst hw
    rw [setPc_self] at hw'
    exact hpc item hw'
  · rw [setPc_other hw] at hw'
    have hp := h.pushing w' item hw'
    unfold Pushing at hp ⊢
    rw [hq w' hw]
    exact hp

lemma Sending.write (h : Sending s items taken) (hs : txStep s (.write w item) = some s') :
    Sending s' items taken := by
  simp only [txStep] at hs
  split at hs
  case h_2 => cases hs
  case h_1 hpc =>
    split at hs
    · cases hs
    obtain rfl := Option.some.inj hs
    refine ⟨h.queued.setPc _, h.pushing_setPc (fun w' hw' => ?_) fun i hi => ?_, h.pushed, h.completed,
      h.started, h.alone, (h.phase.queue _ s.pushed).setPc ?_ ?_ ?_⟩
    · exact Function.update_of_ne (fun he => hw' (Option.some.inj he)) _ _
    · cases hi
      exact .inl (Function.update_self ..)
    · intro i hi
      cases hpc.symm.trans hi
    · intro i hi
      cases hpc.symm.trans hi
    · intro i hi
      cases hi

lemma Sending.push (h : Sending s items taken) (hs : txStep s (.push w env) = some s') :
    ∃ items', Sending s' items' taken := by
  simp only [txStep] at hs
  split at hs
  case h_2 => cases hs
  case h_1 item hpc =>
    obtain ⟨q, hq, rfl⟩ := Option.map_eq_some_iff.mp hs
    obtain ⟨hother, hcases⟩ := h.queued.push (h.pushing w item hpc) hq
    have hpush : ∀ i, s.pc w ≠ .check i := fun i hi => by cases hpc.symm.trans hi
    have hstart : ∀ i, s.pc w ≠ .transmit i := fun i hi => by cases hpc.symm.trans hi
    have hothers : ∀ (pc : Pc) (w' : Wr), w' ≠ w →
        (Dataqueue.setPc q (some w) pc).pc (some w') = s.dataQueue.pc (some w') := fun pc w' hw' =>
      (Function.update_of_ne (fun he => hw' (Option.some.inj he)) _ _).trans
        (hother _ fun he => hw' (Option.some.inj he))
    unfold afterPush
    rcases hcases with ⟨hdone, hqueued⟩ | ⟨⟨e, herror⟩, hqueued⟩ | ⟨hwait, hqueued⟩
    · rw [hdone]
      refine ⟨items ++ [item], hqueued.setPc _, h.pushing_setPc (hothers _) fun i hi => ?_, ?_, h.completed,
        h.started, h.alone, (h.phase.queue _ (s.pushed ++ [item])).append hstart⟩
      · cases hi
      · show s.pushed ++ [item] = taken ++ (items ++ [item])
        rw [h.pushed, List.append_assoc]
    · rw [herror]
      refine ⟨items, hqueued.setPc _, h.pushing_setPc (hothers _) fun i hi => ?_, h.pushed, h.completed,
        h.started, h.alone, (h.phase.queue _ s.pushed).setPc hpush hstart ?_⟩
      · cases hi
      · intro i hi
        cases hi
    · rw [hwait]
      refine ⟨items, hqueued, fun w' i hw' => ?_, h.pushed, h.completed, h.started, h.alone,
        h.phase.queue q s.pushed⟩
      by_cases hw : w' = w
      · subst hw
        obtain rfl := TxPc.pushing.inj (hpc.symm.trans hw')
        exact .inr hwait
      · have hp := h.pushing w' i hw'
        unfold Pushing at hp ⊢
        dsimp only
        rw [hother _ fun he => hw (Option.some.inj he)]
        exact hp

lemma Sending.check (h : Sending s items taken) (hs : txStep s (.check w) = some s') :
    Sending s' items taken := by
  simp only [txStep] at hs
  split at hs
  case h_2 => cases hs
  case h_1 item hpc =>
    have hpushing : ∀ {pc : TxPc}, (∀ i, pc ≠ .pushing i) → ∀ w' i, (s.setPc w pc).pc w' = .pushing i →
        Pushing s.dataQueue (some w') i := fun hne =>
      h.pushing_setPc (fun _ _ => rfl) fun i hi => absurd hi (hne i)
    split at hs
    case isTrue hactive =>
      obtain rfl := Option.some.inj hs
      refine ⟨h.queued, hpushing (fun i hi => by cases hi), h.pushed, h.completed, h.started, h.alone, ?_⟩
      have hidle : ∀ i, TxPc.idle ≠ .transmit i := fun i hi => by cases hi
      cases h.phase with
      | idle channel activated =>
        cases hactive.symm.trans activated
      | claimed channel activated w' item' starts only =>
        have hother : w' ≠ w := by
          rintro rfl
          cases hpc.symm.trans starts
        refine .claimed channel activated w' item' (by rw [setPc_other hother, starts]) fun v i hv => ?_
        by_cases hvw : v = w
        · subst hvw
          rw [setPc_self] at hv
          cases hv
        · rw [setPc_other hvw] at hv
          exact only v i hv
      | busy item' channel activated none head =>
        exact .busy item' channel activated (none.setPc hidle) head
    case isFalse hactive =>
      obtain rfl := Option.some.inj hs
      refine ⟨h.queued, hpushing (fun i hi => by cases hi), h.pushed, h.completed, h.started, h.alone, ?_⟩
      cases h.phase with
      | idle channel activated none looks =>
        refine .claimed channel rfl w item setPc_self fun v i hv => ?_
        by_contra hvw
        have hv' : s.pc v = .transmit i := (Function.update_of_ne hvw _ _).symm.trans hv
        exact none v i hv'
      | claimed channel activated => exact absurd activated hactive
      | busy item' channel activated => exact absurd activated hactive

omit [DecidableEq Wr] in
/-- A writer that is about to start a transfer is the one that has claimed it. -/
lemma Sending.claims (h : Sending s items taken) (hw : s.pc w = .transmit item) :
    s.channel = none ∧ s.activated = true ∧ ∀ w' item', s.pc w' = .transmit item' → w' = w := by
  cases h.phase with
  | idle _ _ none => exact absurd hw (none w item)
  | claimed channel activated w' item' starts only =>
    obtain rfl := only w item hw
    exact ⟨channel, activated, only⟩
  | busy _ _ _ none => exact absurd hw (none w item)

lemma Sending.transmit (h : Sending s items taken) (hC : AtHead s (.transmit w))
    (hs : txStep s (.transmit w) = some s') : Sending s' items taken := by
  simp only [txStep] at hs
  split at hs
  case h_2 => cases hs
  case h_1 item hpc =>
    obtain rfl := Option.some.inj hs
    obtain ⟨hchannel, hactive, honly⟩ := h.claims hpc
    have hhead : items.head? = some item := h.queued.peek.symm.trans (hC item hpc)
    refine ⟨h.queued, ?_, h.pushed, h.completed, ?_, ?_, .busy item rfl hactive ?_ hhead⟩
    · have hidle : ∀ i, TxPc.idle = .pushing i → Pushing s.dataQueue (some w) i := fun i hi => by cases hi
      exact fun w' i hw' => h.pushing_setPc (fun _ _ => rfl) hidle w' i hw'
    · show s.started ++ [item] = taken ++ [item]
      rw [h.started, hchannel]
      simp
    · show (s.clash || s.channel.isSome) = false
      rw [h.alone, hchannel]
      rfl
    · intro v i hv
      by_cases hvw : v = w
      · subst hvw
        have hv' : TxPc.idle = .transmit i := (Function.update_self ..).symm.trans hv
        cases hv'
      · have hv' : s.pc v = .transmit i := (Function.update_of_ne hvw _ _).symm.trans hv
        exact hvw (honly v i hv')

lemma Sending.dmaDone (h : Sending s items taken) (hs : txStep s (.dmaDone env) = some s') :
    ∃ items' taken', Sending s' items' taken' := by
  simp only [txStep] at hs
  split at hs
  case h_2 => cases hs
  case h_1 x hchannel =>
    obtain ⟨q, hq, rfl⟩ := Option.map_eq_some_iff.mp hs
    obtain ⟨hnone, rest, rfl⟩ : NoneStarts s ∧ ∃ rest, items = x :: rest := by
      cases h.phase with
      | idle channel => cases hchannel.symm.trans channel
      | claimed channel => cases hchannel.symm.trans channel
      | busy item channel _ none head =>
        obtain rfl := Option.some.inj (hchannel.symm.trans channel)
        exact ⟨none, List.head?_eq_some_iff.mp head⟩
    obtain ⟨hother, hpopped, hqueued⟩ := h.queued.pop hq
    have hqueued' : Queued (Dataqueue.setPc q none .idle) rest := hqueued.setPc _
    have hpushing : ∀ w i, s.pc w = .pushing i → Pushing (Dataqueue.setPc q none .idle) (some w) i := by
      intro w i hw
      have hp := h.pushing w i hw
      have hset : (Dataqueue.setPc q none .idle).pc (some w) = q.pc (some w) :=
        Function.update_of_ne (Option.some_ne_none w) Pc.idle q.pc
      have hpc := hset.trans (hother _ (Option.some_ne_none w))
      unfold Pushing at hp ⊢
      rw [hpc]
      exact hp
    have hlog : s.completed ++ [popped (q.pc none)] = (taken ++ [x]).map some := by
      rw [h.completed, hpopped, List.map_append]
      rfl
    have hpushed : s.pushed = taken ++ [x] ++ rest := by rw [h.pushed, List.append_assoc]; rfl
    have hstarted : s.started = taken ++ [x] := by rw [h.started, hchannel]; rfl
    refine ⟨rest, taken ++ [x], ?_⟩
    unfold txDmaDone
    dsimp only
    rw [hqueued'.peek]
    cases rest with
    | nil =>
      refine ⟨hqueued', hpushing, hpushed, hlog, ?_, h.alone, .idle rfl rfl hnone fun hne => absurd rfl hne⟩
      rw [hstarted]
      simp
    | cons y rest =>
      refine ⟨hqueued', hpushing, hpushed, hlog, ?_, ?_, .busy y rfl rfl hnone rfl⟩
      · show s.started ++ [y] = _
        rw [hstarted]
        rfl
      · show (s.clash || false) = false
        rw [h.alone]
        rfl

/-- A writer that starts the DMA with another buffer than the first spoils the order. -/
lemma Sending.transmit_bad (h : Sending s items taken) (hC : ¬ AtHead s (.transmit w))
    (hs : txStep s (.transmit w) = some s') : ¬ InOrder s' := by
  simp only [txStep] at hs
  split at hs
  case h_2 => cases hs
  case h_1 item hpc =>
    obtain rfl := Option.some.inj hs
    intro hord
    have hstarted : s.started ++ [item] <+: s.pushed := hord.started
    rw [h.started, (h.claims hpc).1, Option.toList_none, List.append_nil, h.pushed,
      List.prefix_append_right_inj] at hstarted
    obtain ⟨rest, hrest⟩ := hstarted
    refine hC fun item' hpc' => ?_
    obtain rfl := TxPc.transmit.inj (hpc.symm.trans hpc')
    rw [h.queued.peek, ← hrest]
    rfl

/-! ### Runs -/

omit [DecidableEq Wr] in
lemma sending_txDmaInit (queue : ℕ → RtDataItem) : Sending (txDmaInit queue : TxDma Wr) [] [] where
  queued := ⟨rfl, Nat.zero_lt_succ _, Nat.zero_le _, rfl, iff_of_true rfl rfl,
    iff_of_false (fun hc => by cases hc) (Nat.succ_ne_zero _).symm, rfl⟩
  pushing := fun _ _ h => by cases h
  pushed := rfl
  completed := rfl
  started := rfl
  alone := rfl
  phase := .idle rfl rfl (fun _ _ h => by cases h) fun hne => absurd rfl hne

lemma Sending.step {a : TxAction Wr} (h : Sending s items taken) (hC : AtHead s a)
    (hs : txStep s a = some s') : ∃ items taken, Sending s' items taken := by
  cases a with
  | write w item => exact ⟨_, _, h.write hs⟩
  | push w env =>
    obtain ⟨items', h'⟩ := h.push hs
    exact ⟨items', _, h'⟩
  | check w => exact ⟨_, _, h.check hs⟩
  | transmit w => exact ⟨_, _, h.transmit hC hs⟩
  | dmaDone env => exact h.dmaDone hs

/-- **The driver transmits in order exactly as long as the writer that starts the DMA has its buffer at
the head of the queue.** -/
theorem tx_in_order_iff (queue : ℕ → RtDataItem) (as : List (TxAction Wr))
    (hrun : exec txStep (txDmaInit queue) as = some s') :
    (∀ bs, bs <+: as → ∀ t, exec txStep (txDmaInit queue) bs = some t → InOrder t) ↔
      Along txStep AtHead (txDmaInit queue) as := by
  refine states_iff_along (I := fun s => ∃ items taken, Sending s items taken) ?_ ?_ ?_ as _ s'
    ⟨[], [], sending_txDmaInit queue⟩ hrun
  · rintro s a s' ⟨items, taken, h⟩ hC hs
    exact h.step hC hs
  · rintro s a s' ⟨items, taken, h⟩ hC hs
    cases a with
    | transmit w => exact h.transmit_bad hC hs
    | write w item => exact absurd trivial hC
    | push w env => exact absurd trivial hC
    | check w => exact absurd trivial hC
    | dmaDone env => exact absurd trivial hC
  · rintro s ⟨items, taken, h⟩
    exact h.inOrder

section Two

instance AtHead.decidable (s : TxDma Wr) : ∀ a, Decidable (AtHead s a)
  | .transmit w =>
    match h : s.pc w with
    | .transmit item =>
      decidable_of_iff (rtDataQueuePeek s.dataQueue = some item)
        ⟨fun hp _ hi => hp.trans (congrArg some (TxPc.transmit.inj (h.symm.trans hi))), fun hp => hp item h⟩
    | .idle | .pushing _ | .check _ => isTrue fun _ hi => by cases h.symm.trans hi
  | .write _ _ | .push _ _ | .check _ | .dmaDone _ => isTrue trivial

def bufferA : RtDataItem := ⟨0x20000000, 5⟩

def bufferB : RtDataItem := ⟨0x20000100, 7⟩

/-- Nobody waits for room. -/
def noWaiter : Env := ⟨true, true⟩

/-- Two writers; the second one writes while the first buffer is transmitted. -/
def takeTurns : List (TxAction Bool) :=
  [.write false bufferA, .push false noWaiter, .check false, .transmit false, .write true bufferB,
    .push true noWaiter, .check true, .dmaDone noWaiter, .dmaDone noWaiter]

theorem tx_in_order_iff_takeTurns :
    ∃ s : TxDma Bool, exec txStep (txDmaInit fun _ => bufferA) takeTurns = some s ∧ InOrder s ∧
      s.started = [bufferA, bufferB] := by
  have hrun : Along txStep AtHead (txDmaInit fun _ => bufferA) takeTurns ∧
      ∃ s ∈ exec txStep (txDmaInit fun _ => bufferA) takeTurns, s.started = [bufferA, bufferB] := by
    decide +kernel
  obtain ⟨hC, s, hs, hstarted⟩ := hrun
  exact ⟨s, hs, (tx_in_order_iff _ _ hs).mpr hC _ List.prefix_rfl s hs, hstarted⟩

/-- The second writer gets to the critical section first: its buffer is sent twice, and the first one,
which is reported instead, never. -/
example : ∃ s ∈ exec txStep (txDmaInit fun _ => bufferA : TxDma Bool)
    [.write false bufferA, .push false noWaiter, .write true bufferB, .push true noWaiter, .check true,
      .transmit true, .check false, .dmaDone noWaiter, .dmaDone noWaiter],
    s.started = [bufferB, bufferB] ∧ s.completed = [some bufferA, some bufferB] := by
  decide +kernel

/-- The buffer of a single writer is done before it gets to the critical section: it is sent twice. -/
example : ∃ s ∈ exec txStep (txDmaInit fun _ => bufferA : TxDma Unit)
    [.write () bufferA, .push () noWaiter, .check (), .transmit (), .write () bufferB, .push () noWaiter,
      .dmaDone noWaiter, .dmaDone noWaiter, .check (), .transmit ()],
    s.started = [bufferA, bufferB, bufferB] := by
  decide +kernel

end Two

end N32L43x.Serial
