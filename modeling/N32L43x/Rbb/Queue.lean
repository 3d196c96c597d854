import N32L43x.Rbb.Lists

/-!
Block queues: the blocks in front of a ring block buffer that `rt_rbb_blk_queue_get` hands over together, and
the two functions that add up the lengths of such blocks.

All three loops go along `blk_list`.  What they take is a part of the list, which `following` gives.
-/

namespace N32L43x.Rbb

open N32L43x.Lib.Links

/-! ### The code -/

/-- The sum of two numbers of type `rt_size_t`. -/
def sizeAdd (a b : ℕ) : ℕ := (a + b) % 0x100000000

/-- `struct rt_rbb_blk_queue`. -/
structure RtRbbBlkQueue where
  blocks : Option ℕ
  blkNum : ℕ

/-- The variables of `rt_rbb_blk_queue_get`. -/
structure QueueGet where
  rbb : RtRbb
  lastBlock : Option ℕ
  dataTotalSize : ℕ
  blkQueue : RtRbbBlkQueue

/-- The end of a turn: the block is added to the queue. -/
def takeBlock (g : QueueGet) (node : ℕ) : QueueGet where
  rbb := setStatus g.rbb node .get
  lastBlock := some node
  dataTotalSize := sizeAdd g.dataTotalSize (g.rbb.blkSet node).size
  blkQueue := { g.blkQueue with blkNum := g.blkQueue.blkNum + 1 }

/-- A turn of the loop of `rt_rbb_blk_queue_get`, `none` for `break`. -/
def queueGetTurn (queueDataLen : ℕ) (g : QueueGet) (node : ℕ) : Option QueueGet :=
  match g.lastBlock with
  | none =>
    if (g.rbb.blkSet node).status = .put then some (takeBlock { g with blkQueue := ⟨some node, 0⟩ } node)
    else some g
  | some lastBlock =>
    if (g.rbb.blkSet node).status ≠ .put ∨ (g.rbb.blkSet lastBlock).buf > (g.rbb.blkSet node).buf ∨
        sizeAdd g.dataTotalSize (g.rbb.blkSet node).size > queueDataLen then none
    else some (takeBlock g node)

/-- `rt_slist_next`.  What the link of a null node reads as is not used. -/
def slistNext (rbb : RtRbb) : Option ℕ → Option ℕ
  | none => none
  | some node => (rbb.blkSet node).next

/-- The loop, if it ends within `fuel` turns.  The second result tells whether the link of a null node has
been read: that comes before the condition of the loop ends it. -/
def queueGetLoop (queueDataLen : ℕ) : ℕ → QueueGet → Option ℕ → Option ℕ → Option (QueueGet × Bool)
  | 0, _, _, _ => none
  | _ + 1, g, none, _ => some (g, true)
  | fuel + 1, g, some node, tmp =>
    match queueGetTurn queueDataLen g node with
    | none => some (g, false)
    | some g => queueGetLoop queueDataLen fuel g tmp (slistNext g.rbb tmp)

/-- `rt_rbb_blk_queue_get`. -/
def rtRbbBlkQueueGet (rbb : RtRbb) (queueDataLen : ℕ) (blkQueue : RtRbbBlkQueue) :
    Option (QueueGet × Bool) :=
  match rbb.blkList with
  | none => some (⟨rbb, none, 0, blkQueue⟩, false)
  | some node =>
    queueGetLoop queueDataLen (rbb.blkMaxNum + 2) ⟨rbb, none, 0, blkQueue⟩ (some node)
      (slistNext rbb (some node))

/-- The loop of `rt_rbb_blk_queue_len`, with the turns that are left. -/
def queueLenLoop (rbb : RtRbb) : ℕ → Option ℕ → ℕ → Option ℕ
  | 0, _, dataTotalSize => some dataTotalSize
  | _ + 1, none, _ => none
  | n + 1, some blk, dataTotalSize =>
    queueLenLoop rbb n (rbb.blkSet blk).next (sizeAdd dataTotalSize (rbb.blkSet blk).size)

/-- `rt_rbb_blk_queue_len`. -/
def rtRbbBlkQueueLen (rbb : RtRbb) (blkQueue : RtRbbBlkQueue) : Option ℕ :=
  queueLenLoop rbb blkQueue.blkNum blkQueue.blocks 0

/-- `rt_rbb_blk_queue_buf`. -/
def rtRbbBlkQueueBuf (rbb : RtRbb) (blkQueue : RtRbbBlkQueue) : Option ℕ :=
  blkQueue.blocks.map fun blk => (rbb.blkSet blk).buf

/-- The loop of `rt_rbb_next_blk_queue_len`, if it ends within `fuel` turns. -/
def nextLenLoop (rbb : RtRbb) : ℕ → Option ℕ → Option ℕ → ℕ → Option ℕ
  | 0, _, _, _ => none
  | _ + 1, none, _, dataLen => some dataLen
  | fuel + 1, some node, none, dataLen =>
    if (rbb.blkSet node).status ≠ .put then nextLenLoop rbb fuel (rbb.blkSet node).next none dataLen
    else nextLenLoop rbb fuel (rbb.blkSet node).next (some node) (sizeAdd dataLen (rbb.blkSet node).size)
  | fuel + 1, some node, some lastBlock, dataLen =>
    if (rbb.blkSet node).status ≠ .put ∨ (rbb.blkSet lastBlock).buf > (rbb.blkSet node).buf then some dataLen
    else nextLenLoop rbb fuel (rbb.blkSet node).next (some node) (sizeAdd dataLen (rbb.blkSet node).size)

/-- `rt_rbb_next_blk_queue_len`. -/
def rtRbbNextBlkQueueLen (rbb : RtRbb) : Option ℕ :=
  nextLenLoop rbb (rbb.blkMaxNum + 1) rbb.blkList none 0

/-! ### What the loops take -/

variable {rbb : RtRbb} {blkSet blkSet' : ℕ → RtRbbBlk} {bs run rest : List ℕ}
  {queueDataLen last total fuel node : ℕ}

/-- A block ends the run of blocks whose last one is `last`. -/
def Stops (blkSet : ℕ → RtRbbBlk) (queueDataLen last total i : ℕ) : Prop :=
  (blkSet i).status ≠ .put ∨ (blkSet last).buf > (blkSet i).buf ∨
    sizeAdd total (blkSet i).size > queueDataLen

instance : Decidable (Stops blkSet queueDataLen last total node) :=
  inferInstanceAs (Decidable ((blkSet node).status ≠ .put ∨ (blkSet last).buf > (blkSet node).buf ∨
    sizeAdd total (blkSet node).size > queueDataLen))

/-- The blocks that are taken behind `last`, with the length that has been added up so far. -/
def following (blkSet : ℕ → RtRbbBlk) (queueDataLen : ℕ) : ℕ → ℕ → List ℕ → List ℕ
  | _, _, [] => []
  | last, total, i :: bs =>
    if Stops blkSet queueDataLen last total i then []
    else i :: following blkSet queueDataLen i (sizeAdd total (blkSet i).size) bs

/-- The blocks that are taken: the first one that is put, and those that follow it. -/
def taken (blkSet : ℕ → RtRbbBlk) (queueDataLen : ℕ) : List ℕ → List ℕ
  | [] => []
  | i :: bs =>
    if (blkSet i).status = .put then i :: following blkSet queueDataLen i (sizeAdd 0 (blkSet i).size) bs
    else taken blkSet queueDataLen bs

/-- The lengths of blocks, added up as the loops do it. -/
def addUp (blkSet : ℕ → RtRbbBlk) : ℕ → List ℕ → ℕ
  | total, [] => total
  | total, i :: bs => addUp blkSet (sizeAdd total (blkSet i).size) bs

/-- The blocks change their status. -/
def handOver : RtRbb → List ℕ → RtRbb
  | rbb, [] => rbb
  | rbb, i :: bs => handOver (setStatus rbb i .get) bs

/-- A block is not changed but for its status, and not even that if it is none of the blocks. -/
lemma handOver_spec (rbb : RtRbb) (bs : List ℕ) :
    (∀ i, nxt (handOver rbb bs) i = nxt rbb i ∧
      ((handOver rbb bs).blkSet i).size = (rbb.blkSet i).size ∧
      ((handOver rbb bs).blkSet i).buf = (rbb.blkSet i).buf) ∧
    (∀ i ∈ bs, ((handOver rbb bs).blkSet i).status = .get) ∧
    ∀ i ∉ bs, ((handOver rbb bs).blkSet i).status = (rbb.blkSet i).status := by
  induction bs generalizing rbb with
  | nil => exact ⟨fun i => ⟨rfl, rfl, rfl⟩, fun i hi => absurd hi List.not_mem_nil, fun i _ => rfl⟩
  | cons n bs ih =>
    obtain ⟨hsame, hget, hother⟩ := ih (setStatus rbb n .get)
    obtain ⟨hsame', hself, hother'⟩ := setStatus_spec rbb n .get
    have hsize : ∀ i, ((setStatus rbb n .get).blkSet i).size = (rbb.blkSet i).size := by
      intro i
      have hfinish := (hsame' i).2.1
      have hbuf := (hsame' i).2.2
      unfold RtRbbBlk.finish at hfinish
      omega
    refine ⟨fun i => ?_, fun i hi => ?_, fun i hi => ?_⟩
    · exact ⟨(hsame i).1.trans (hsame' i).1, (hsame i).2.1.trans (hsize i),
        (hsame i).2.2.trans (hsame' i).2.2⟩
    · by_cases hin : i ∈ bs
      · exact hget i hin
      · obtain rfl : i = n := (List.mem_cons.mp hi).resolve_right hin
        exact (hother i hin).trans hself
    · have hne : i ≠ n := fun heq => hi (heq ▸ List.mem_cons_self)
      refine (hother i fun hin => hi (List.mem_cons_of_mem n hin)).trans ?_
      rw [hother' i hne]

/-- Only the blocks themselves matter, and where the last one starts. -/
lemma following_congr (h : ∀ i ∈ bs, area (blkSet' i) = area (blkSet i))
    (hlast : (blkSet' last).buf = (blkSet last).buf) :
    following blkSet' queueDataLen last total bs = following blkSet queueDataLen last total bs := by
  induction bs generalizing last total with
  | nil => rfl
  | cons i bs ih =>
    have hi := h i List.mem_cons_self
    simp only [area, Prod.mk.injEq] at hi
    have hstops : Stops blkSet' queueDataLen last total i ↔ Stops blkSet queueDataLen last total i := by
      unfold Stops
      rw [hi.1, hi.2.1, hi.2.2, hlast]
    have hrest := @ih i (sizeAdd total (blkSet i).size)
      (fun j hj => h j (List.mem_cons_of_mem i hj)) hi.2.2
    simp only [following, hstops, hi.2.1, hrest]

lemma addUp_congr (h : ∀ i ∈ bs, (blkSet' i).size = (blkSet i).size) :
    addUp blkSet' total bs = addUp blkSet total bs := by
  induction bs generalizing total with
  | nil => rfl
  | cons i bs ih =>
    unfold addUp
    rw [h i List.mem_cons_self, ih fun j hj => h j (List.mem_cons_of_mem i hj)]

/-- What is taken is a beginning of what follows, and the next block, if there is one, stops it. -/
lemma following_spec (blkSet : ℕ → RtRbbBlk) (queueDataLen last total : ℕ) (bs : List ℕ) :
    ∃ post, bs = following blkSet queueDataLen last total bs ++ post ∧
      (∀ i ∈ following blkSet queueDataLen last total bs, (blkSet i).status = .put) ∧
      (last :: following blkSet queueDataLen last total bs).IsChain (fun i j =>
        (blkSet i).buf ≤ (blkSet j).buf) ∧
      ∀ stop ∈ post.head?, Stops blkSet queueDataLen
        ((last :: following blkSet queueDataLen last total bs).getLast (List.cons_ne_nil _ _))
        (addUp blkSet total (following blkSet queueDataLen last total bs)) stop := by
  induction bs generalizing last total with
  | nil => exact ⟨[], rfl, by simp [following], by simp [following], by simp⟩
  | cons i bs ih =>
    by_cases hstop : Stops blkSet queueDataLen last total i
    · have hnil : following blkSet queueDataLen last total (i :: bs) = [] := if_pos hstop
      rw [hnil]
      refine ⟨i :: bs, rfl, by simp, by simp, fun stop hmem => ?_⟩
      obtain rfl : i = stop := by simpa using hmem
      exact hstop
    · have hcons : following blkSet queueDataLen last total (i :: bs) =
          i :: following blkSet queueDataLen i (sizeAdd total (blkSet i).size) bs := if_neg hstop
      obtain ⟨post, hbs, hput, hchain, hpost⟩ := ih i (sizeAdd total (blkSet i).size)
      rw [hcons]
      unfold Stops at hstop
      push Not at hstop
      refine ⟨post, ?_, fun j hj => ?_, ?_, fun stop hmem => ?_⟩
      · rw [List.cons_append, ← hbs]
      · rcases List.mem_cons.mp hj with rfl | hj
        · exact hstop.1
        · exact hput j hj
      · exact List.isChain_cons_cons.mpr ⟨hstop.2.1, hchain⟩
      · rw [List.getLast_cons (List.cons_ne_nil _ _)]
        exact hpost stop hmem

/-- The blocks taken are a part of the list: no block in front of them is put, and the block behind them
stops the loop. -/
lemma taken_spec (blkSet : ℕ → RtRbbBlk) (queueDataLen : ℕ) (bs : List ℕ) :
    (taken blkSet queueDataLen bs = [] ∧ ∀ i ∈ bs, (blkSet i).status ≠ .put) ∨
    ∃ pre first run post, bs = pre ++ (first :: run) ++ post ∧
      taken blkSet queueDataLen bs = first :: run ∧ (∀ i ∈ pre, (blkSet i).status ≠ .put) ∧
      (∀ i ∈ first :: run, (blkSet i).status = .put) ∧
      (first :: run).IsChain (fun i j => (blkSet i).buf ≤ (blkSet j).buf) ∧
      ∀ stop ∈ post.head?, Stops blkSet queueDataLen ((first :: run).getLast (List.cons_ne_nil _ _))
        (addUp blkSet 0 (first :: run)) stop := by
  induction bs with
  | nil => exact .inl ⟨rfl, fun i hi => absurd hi List.not_mem_nil⟩
  | cons i bs ih =>
    by_cases hput : (blkSet i).status = .put
    · right
      obtain ⟨post, hbs, hall, hchain, hpost⟩ :=
        following_spec blkSet queueDataLen i (sizeAdd 0 (blkSet i).size) bs
      refine ⟨[], i, following blkSet queueDataLen i (sizeAdd 0 (blkSet i).size) bs, post, ?_, if_pos hput,
        fun j hj => absurd hj List.not_mem_nil, fun j hj => ?_, hchain, hpost⟩
      · rw [List.nil_append, List.cons_append, ← hbs]
      · rcases List.mem_cons.mp hj with rfl | hj
        · exact hput
        · exact hall j hj
    · have hrun : taken blkSet queueDataLen (i :: bs) = taken blkSet queueDataLen bs := if_neg hput
      rw [hrun]
      refine ih.imp (fun h => ⟨h.1, fun j hj => ?_⟩) ?_
      · rcases List.mem_cons.mp hj with rfl | hj
        · exact hput
        · exact h.2 j hj
      · rintro ⟨pre, first, run, post, hbs, htaken, hpre, hrest⟩
        refine ⟨i :: pre, first, run, post, by rw [hbs]; rfl, htaken, fun j hj => ?_, hrest⟩
        rcases List.mem_cons.mp hj with rfl | hj
        · exact hput
        · exact hpre j hj

/-! ### The loops -/

lemma area_setStatus_of_ne {i n : ℕ} (hne : i ≠ n) (status : RtRbbStatus) :
    area ((setStatus rbb n status).blkSet i) = area (rbb.blkSet i) := by
  rw [(setStatus_spec rbb n status).2.2 i hne]

lemma size_setStatus (rbb : RtRbb) (n : ℕ) (status : RtRbbStatus) (i : ℕ) :
    ((setStatus rbb n status).blkSet i).size = (rbb.blkSet i).size := by
  have hfinish := ((setStatus_spec rbb n status).1 i).2.1
  have hbuf := ((setStatus_spec rbb n status).1 i).2.2
  unfold RtRbbBlk.finish at hfinish
  omega

lemma links_setStatus {h : Option ℕ} (hlinks : Links (nxt rbb) h bs) (n : ℕ) (status : RtRbbStatus) :
    Links (nxt (setStatus rbb n status)) h bs :=
  hlinks.congr fun i _ => ((setStatus_spec rbb n status).1 i).1

/-- `tmp` is the node behind the one it is read from. -/
lemma slistNext_head (hlinks : Links (nxt rbb) bs.head? bs) : slistNext rbb bs.head? = bs.tail.head? := by
  cases bs with
  | nil => rfl
  | cons i bs => exact hlinks.2.head

lemma links_tail (hlinks : Links (nxt rbb) bs.head? bs) : Links (nxt rbb) bs.tail.head? bs.tail := by
  cases bs with
  | nil => exact hlinks
  | cons i bs => exact hlinks.2.head ▸ hlinks.2

/-- The loop behind the first block: it takes `following`, and reads the link of a null node if that is all
there is. -/
lemma queueGetLoop_taking (queueDataLen : ℕ) {g : QueueGet} (hlast : g.lastBlock = some last) (hnd : bs.Nodup)
    (hlinks : Links (nxt g.rbb) bs.head? bs) (hfuel : bs.length < fuel) :
    ∃ lastBlock, queueGetLoop queueDataLen fuel g bs.head? bs.tail.head? =
      some (⟨handOver g.rbb (following g.rbb.blkSet queueDataLen last g.dataTotalSize bs), lastBlock,
        addUp g.rbb.blkSet g.dataTotalSize (following g.rbb.blkSet queueDataLen last g.dataTotalSize bs),
        ⟨g.blkQueue.blocks, g.blkQueue.blkNum +
          (following g.rbb.blkSet queueDataLen last g.dataTotalSize bs).length⟩⟩,
        decide (following g.rbb.blkSet queueDataLen last g.dataTotalSize bs = bs)) := by
  induction bs generalizing g last fuel with
  | nil =>
    obtain ⟨fuel, rfl⟩ := Nat.exists_eq_succ_of_ne_zero (Nat.ne_of_gt hfuel)
    exact ⟨g.lastBlock, rfl⟩
  | cons node bs ih =>
    obtain ⟨fuel, rfl⟩ := Nat.exists_eq_succ_of_ne_zero (Nat.ne_of_gt (Nat.zero_lt_of_lt hfuel))
    by_cases hstop : Stops g.rbb.blkSet queueDataLen last g.dataTotalSize node
    · have hturn : queueGetTurn queueDataLen g node = none := by
        unfold queueGetTurn
        rw [hlast]
        exact if_pos hstop
      have hrun : following g.rbb.blkSet queueDataLen last g.dataTotalSize (node :: bs) = [] := if_pos hstop
      refine ⟨g.lastBlock, ?_⟩
      rw [List.head?_cons, queueGetLoop, hturn, hrun]
      rfl
    · have hturn : queueGetTurn queueDataLen g node = some (takeBlock g node) := by
        unfold queueGetTurn
        rw [hlast]
        exact if_neg hstop
      obtain ⟨hnode, hnd'⟩ := List.nodup_cons.mp hnd
      have hlinks' : Links (nxt (takeBlock g node).rbb) bs.head? bs :=
        links_setStatus (links_tail hlinks) node .get
      obtain ⟨lastBlock, hloop⟩ := @ih node fuel (takeBlock g node) rfl hnd' hlinks'
        (Nat.lt_of_succ_lt_succ hfuel)
      have hfollow : following (takeBlock g node).rbb.blkSet queueDataLen node
          (takeBlock g node).dataTotalSize bs = following g.rbb.blkSet queueDataLen node
            (sizeAdd g.dataTotalSize (g.rbb.blkSet node).size) bs :=
        following_congr (fun i hi => area_setStatus_of_ne (fun heq : i = node => hnode (heq ▸ hi)) .get)
          ((setStatus_spec g.rbb node .get).1 node).2.2
      have hrun : following g.rbb.blkSet queueDataLen last g.dataTotalSize (node :: bs) =
          node :: following g.rbb.blkSet queueDataLen node
            (sizeAdd g.dataTotalSize (g.rbb.blkSet node).size) bs := if_neg hstop
      rw [hfollow] at hloop
      refine ⟨lastBlock, ?_⟩
      rw [List.head?_cons, List.tail_cons, queueGetLoop, hturn, hrun]
      show queueGetLoop queueDataLen fuel (takeBlock g node) bs.head?
        (slistNext (takeBlock g node).rbb bs.head?) = _
      rw [slistNext_head hlinks', hloop]
      refine congrArg some (Prod.ext ?_ (by simp))
      have hadd : addUp (takeBlock g node).rbb.blkSet (takeBlock g node).dataTotalSize
          (following g.rbb.blkSet queueDataLen node
            (sizeAdd g.dataTotalSize (g.rbb.blkSet node).size) bs) =
          addUp g.rbb.blkSet g.dataTotalSize (node :: following g.rbb.blkSet queueDataLen node
            (sizeAdd g.dataTotalSize (g.rbb.blkSet node).size) bs) :=
        addUp_congr fun i _ => size_setStatus g.rbb node .get i
      have hnum : ∀ k, (takeBlock g node).blkQueue.blkNum + k = g.blkQueue.blkNum + (k + 1) := by
        intro k
        show g.blkQueue.blkNum + 1 + k = _
        omega
      rw [hadd, hnum, List.length_cons]
      rfl

lemma taken_sublist (blkSet : ℕ → RtRbbBlk) (queueDataLen : ℕ) (bs : List ℕ) :
    (taken blkSet queueDataLen bs).Sublist bs := by
  induction bs with
  | nil => exact List.Sublist.slnil
  | cons i bs ih =>
    unfold taken
    split
    · obtain ⟨post, hbs, -⟩ := following_spec blkSet queueDataLen i (sizeAdd 0 (blkSet i).size) bs
      refine List.Sublist.cons_cons i ?_
      exact (List.sublist_append_left _ post).trans (hbs ▸ List.Sublist.refl _)
    · exact ih.cons i

/-- The queue as the caller has it at the end. -/
def queueOf (blkQueue : RtRbbBlkQueue) (run : List ℕ) : RtRbbBlkQueue :=
  if run = [] then blkQueue else ⟨run.head?, run.length⟩

lemma queueOf_cons (blkQueue : RtRbbBlkQueue) (node : ℕ) (run : List ℕ) :
    queueOf blkQueue (node :: run) = ⟨some node, 1 + run.length⟩ := by
  unfold queueOf
  rw [if_neg (List.cons_ne_nil node run), List.head?_cons, List.length_cons, Nat.add_comm]

/-- The whole loop. -/
lemma queueGetLoop_eq (queueDataLen : ℕ) (blkQueue : RtRbbBlkQueue) (hnd : bs.Nodup)
    (hlinks : Links (nxt rbb) bs.head? bs) (hfuel : bs.length < fuel) :
    ∃ lastBlock followed, queueGetLoop queueDataLen fuel ⟨rbb, none, 0, blkQueue⟩ bs.head? bs.tail.head? =
      some (⟨handOver rbb (taken rbb.blkSet queueDataLen bs), lastBlock,
        addUp rbb.blkSet 0 (taken rbb.blkSet queueDataLen bs),
        queueOf blkQueue (taken rbb.blkSet queueDataLen bs)⟩, followed) ∧
      (followed = true ↔ taken rbb.blkSet queueDataLen bs <:+ bs) := by
  induction bs generalizing fuel with
  | nil =>
    obtain ⟨fuel, rfl⟩ := Nat.exists_eq_succ_of_ne_zero (Nat.ne_of_gt hfuel)
    exact ⟨none, true, rfl, iff_of_true rfl List.nil_suffix⟩
  | cons node bs ih =>
    obtain ⟨fuel, rfl⟩ := Nat.exists_eq_succ_of_ne_zero (Nat.ne_of_gt (Nat.zero_lt_of_lt hfuel))
    obtain ⟨hnode, hnd'⟩ := List.nodup_cons.mp hnd
    rw [List.head?_cons, List.tail_cons, queueGetLoop]
    by_cases hput : (rbb.blkSet node).status = .put
    · obtain ⟨g, hg⟩ : ∃ g, g = takeBlock ⟨rbb, none, 0, ⟨some node, 0⟩⟩ node := ⟨_, rfl⟩
      have hturn : queueGetTurn queueDataLen ⟨rbb, none, 0, blkQueue⟩ node = some g := by
        rw [hg]
        exact if_pos hput
      have hrbb : g.rbb = setStatus rbb node .get := by rw [hg]; rfl
      have htotal : g.dataTotalSize = sizeAdd 0 (rbb.blkSet node).size := by rw [hg]; rfl
      have hlinks' : Links (nxt g.rbb) bs.head? bs := hrbb ▸ links_setStatus (links_tail hlinks) node .get
      obtain ⟨lastBlock, hloop⟩ := queueGetLoop_taking queueDataLen
        (by rw [hg]; rfl : g.lastBlock = some node) hnd' hlinks' (Nat.lt_of_succ_lt_succ hfuel)
      have hfollow : following g.rbb.blkSet queueDataLen node g.dataTotalSize bs =
          following rbb.blkSet queueDataLen node (sizeAdd 0 (rbb.blkSet node).size) bs := by
        rw [htotal, hrbb]
        exact following_congr
          (fun i hi => area_setStatus_of_ne (fun heq : i = node => hnode (heq ▸ hi)) .get)
          ((setStatus_spec rbb node .get).1 node).2.2
      have hadd : addUp g.rbb.blkSet g.dataTotalSize
          (following rbb.blkSet queueDataLen node (sizeAdd 0 (rbb.blkSet node).size) bs) =
          addUp rbb.blkSet (sizeAdd 0 (rbb.blkSet node).size)
            (following rbb.blkSet queueDataLen node (sizeAdd 0 (rbb.blkSet node).size) bs) := by
        rw [htotal]
        exact addUp_congr fun i _ => by rw [hrbb]; exact size_setStatus rbb node .get i
      have hrun : taken rbb.blkSet queueDataLen (node :: bs) =
          node :: following rbb.blkSet queueDataLen node (sizeAdd 0 (rbb.blkSet node).size) bs := if_pos hput
      rw [hfollow, hadd, hrbb] at hloop
      refine ⟨lastBlock, decide (following rbb.blkSet queueDataLen node
        (sizeAdd 0 (rbb.blkSet node).size) bs = bs), ?_, ?_⟩
      · rw [hturn, hrun]
        have hqueue : queueOf blkQueue (node ::
            following rbb.blkSet queueDataLen node (sizeAdd 0 (rbb.blkSet node).size) bs) =
            ⟨g.blkQueue.blocks, g.blkQueue.blkNum +
              (following rbb.blkSet queueDataLen node (sizeAdd 0 (rbb.blkSet node).size) bs).length⟩ := by
          subst hg
          exact queueOf_cons blkQueue node _
        rw [← slistNext_head hlinks', ← hqueue] at hloop
        exact hloop
      · rw [decide_eq_true_iff, hrun]
        constructor
        · intro heq
          simp only [heq, List.suffix_rfl]
        · intro hsuffix
          obtain ⟨post, hbs, -⟩ :=
            following_spec rbb.blkSet queueDataLen node (sizeAdd 0 (rbb.blkSet node).size) bs
          rcases List.suffix_cons_iff.mp hsuffix with heq | hsuffix
          · exact (List.cons.inj heq).2
          · exact absurd (hsuffix.subset List.mem_cons_self) hnode
    · have hturn : queueGetTurn queueDataLen ⟨rbb, none, 0, blkQueue⟩ node =
          some ⟨rbb, none, 0, blkQueue⟩ := if_neg hput
      have hrun : taken rbb.blkSet queueDataLen (node :: bs) = taken rbb.blkSet queueDataLen bs := if_neg hput
      have hlinks' : Links (nxt rbb) bs.head? bs := links_tail hlinks
      obtain ⟨lastBlock, followed, hloop, hiff⟩ := ih hnd' hlinks' (Nat.lt_of_succ_lt_succ hfuel)
      refine ⟨lastBlock, followed, ?_, ?_⟩
      · rw [hturn, hrun]
        show queueGetLoop queueDataLen fuel _ bs.head? (slistNext rbb bs.head?) = _
        rw [slistNext_head hlinks', hloop]
      · rw [hrun, hiff, List.suffix_cons_iff]
        refine ⟨Or.inr, Or.rec (fun heq => absurd ?_ hnode) id⟩
        have hmem : node ∈ taken rbb.blkSet queueDataLen bs := heq ▸ List.mem_cons_self
        exact (taken_sublist rbb.blkSet queueDataLen bs).subset hmem

/-- **`rt_rbb_blk_queue_get`.** -/
lemma Base.queueGet {s : System} {fs : List ℕ} (h : Base s fs) (queueDataLen : ℕ) (blkQueue : RtRbbBlkQueue) :
    ∃ g followed, rtRbbBlkQueueGet s.rbb queueDataLen blkQueue = some (g, followed) ∧
      g.rbb = handOver s.rbb (taken s.rbb.blkSet queueDataLen s.live) ∧
      g.dataTotalSize = addUp s.rbb.blkSet 0 (taken s.rbb.blkSet queueDataLen s.live) ∧
      g.blkQueue = queueOf blkQueue (taken s.rbb.blkSet queueDataLen s.live) ∧
      (followed = true ↔ s.live ≠ [] ∧ taken s.rbb.blkSet queueDataLen s.live <:+ s.live) := by
  unfold rtRbbBlkQueueGet
  have hhead := h.lists.blk.head
  cases hlive : s.live with
  | nil =>
    rw [hlive] at hhead
    rw [hhead]
    exact ⟨_, false, rfl, rfl, rfl, rfl, by simp⟩
  | cons node bs =>
    have hlinks := h.lists.blk
    have hlength := h.length_live
    have hnd := (List.nodup_append.mp h.lists.nodup).1
    rw [hlive] at hhead hlinks hlength hnd
    rw [hhead] at hlinks ⊢
    obtain ⟨lastBlock, followed, hloop, hiff⟩ := queueGetLoop_eq queueDataLen blkQueue hnd
      hlinks (hlength.trans (Nat.lt_succ_self _))
    have hnext : slistNext s.rbb (some node) = bs.head? := hlinks.2.head
    refine ⟨⟨handOver s.rbb (taken s.rbb.blkSet queueDataLen (node :: bs)), lastBlock,
      addUp s.rbb.blkSet 0 (taken s.rbb.blkSet queueDataLen (node :: bs)),
      queueOf blkQueue (taken s.rbb.blkSet queueDataLen (node :: bs))⟩, followed, ?_, rfl, rfl, rfl, ?_⟩
    · show queueGetLoop queueDataLen _ _ (some node) (slistNext s.rbb (some node)) = _
      rw [hnext]
      exact hloop
    · rw [hiff]
      simp

lemma handOver_append (rbb : RtRbb) (bs : List ℕ) (i : ℕ) :
    handOver rbb (bs ++ [i]) = setStatus (handOver rbb bs) i .get := by
  induction bs generalizing rbb with
  | nil => rfl
  | cons n bs ih => exact ih (setStatus rbb n .get)

/-- Blocks in use are handed over. -/
lemma Base.handOver {s : System} {fs : List ℕ} (h : Base s fs) (hbs : ∀ i ∈ bs, i ∈ s.live) :
    Base ⟨handOver s.rbb bs, s.live⟩ fs := by
  induction bs using List.reverseRecOn with
  | nil => exact h
  | append_singleton bs i ih =>
    rw [handOver_append]
    exact (ih fun j hj => hbs j (List.mem_append_left _ hj)).setStatus
      (hbs i (List.mem_append_right _ List.mem_cons_self)) (by decide)

/-! ### The lengths -/

/-- With no bound on the length the third condition of the loop never holds. -/
lemma stops_unbounded : Stops blkSet 0xFFFFFFFF last total node ↔
    (blkSet node).status ≠ .put ∨ (blkSet last).buf > (blkSet node).buf := by
  have hle : ¬ sizeAdd total (blkSet node).size > 0xFFFFFFFF := by
    unfold sizeAdd
    omega
  unfold Stops
  tauto

lemma nextLenLoop_taking (hlinks : Links (nxt rbb) bs.head? bs) (hfuel : bs.length < fuel) :
    nextLenLoop rbb fuel bs.head? (some last) total =
      some (addUp rbb.blkSet total (following rbb.blkSet 0xFFFFFFFF last total bs)) := by
  induction bs generalizing last total fuel with
  | nil =>
    obtain ⟨fuel, rfl⟩ := Nat.exists_eq_succ_of_ne_zero (Nat.ne_of_gt hfuel)
    rfl
  | cons node bs ih =>
    obtain ⟨fuel, rfl⟩ := Nat.exists_eq_succ_of_ne_zero (Nat.ne_of_gt (Nat.zero_lt_of_lt hfuel))
    have hnext : (rbb.blkSet node).next = bs.head? := hlinks.2.head
    rw [List.head?_cons, nextLenLoop, hnext]
    by_cases hstop : Stops rbb.blkSet 0xFFFFFFFF last total node
    · have hrun : following rbb.blkSet 0xFFFFFFFF last total (node :: bs) = [] := if_pos hstop
      rw [if_pos (stops_unbounded.mp hstop), hrun]
      rfl
    · have hrun : following rbb.blkSet 0xFFFFFFFF last total (node :: bs) =
          node :: following rbb.blkSet 0xFFFFFFFF node (sizeAdd total (rbb.blkSet node).size) bs :=
        if_neg hstop
      rw [if_neg fun hcond => hstop (stops_unbounded.mpr hcond), hrun,
        ih (links_tail hlinks) (Nat.lt_of_succ_lt_succ hfuel)]
      rfl

/-- The loop of `rt_rbb_next_blk_queue_len` counts what `rt_rbb_blk_queue_get` takes without a bound. -/
lemma nextLenLoop_eq (hlinks : Links (nxt rbb) bs.head? bs) (hfuel : bs.length < fuel) :
    nextLenLoop rbb fuel bs.head? none 0 = some (addUp rbb.blkSet 0 (taken rbb.blkSet 0xFFFFFFFF bs)) := by
  induction bs generalizing fuel with
  | nil =>
    obtain ⟨fuel, rfl⟩ := Nat.exists_eq_succ_of_ne_zero (Nat.ne_of_gt hfuel)
    rfl
  | cons node bs ih =>
    obtain ⟨fuel, rfl⟩ := Nat.exists_eq_succ_of_ne_zero (Nat.ne_of_gt (Nat.zero_lt_of_lt hfuel))
    have hnext : (rbb.blkSet node).next = bs.head? := hlinks.2.head
    rw [List.head?_cons, nextLenLoop, hnext]
    have hlinks' : Links (nxt rbb) bs.head? bs := links_tail hlinks
    by_cases hput : (rbb.blkSet node).status = .put
    · have hrun : taken rbb.blkSet 0xFFFFFFFF (node :: bs) =
          node :: following rbb.blkSet 0xFFFFFFFF node (sizeAdd 0 (rbb.blkSet node).size) bs := if_pos hput
      rw [if_neg (not_not.mpr hput), hrun,
        nextLenLoop_taking hlinks' (Nat.lt_of_succ_lt_succ hfuel)]
      rfl
    · have hrun : taken rbb.blkSet 0xFFFFFFFF (node :: bs) = taken rbb.blkSet 0xFFFFFFFF bs := if_neg hput
      rw [if_pos hput, hrun, ih hlinks' (Nat.lt_of_succ_lt_succ hfuel)]

/-- The blocks of a queue follow each other on `blk_list`, whatever comes behind them. -/
lemma queueLenLoop_eq (total : ℕ) (hlinks : Links (nxt rbb) (run ++ rest).head? (run ++ rest)) :
    queueLenLoop rbb run.length (run ++ rest).head? total = some (addUp rbb.blkSet total run) := by
  induction run generalizing total with
  | nil =>
    rw [List.length_nil, queueLenLoop]
    rfl
  | cons i run ih =>
    have hnext : (rbb.blkSet i).next = (run ++ rest).head? := hlinks.2.head
    rw [List.length_cons, List.cons_append, List.head?_cons, queueLenLoop, hnext, ih _ (links_tail hlinks)]
    rfl

end N32L43x.Rbb
