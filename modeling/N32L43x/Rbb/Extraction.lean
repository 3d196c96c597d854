import N32L43x.Rbb.Disjoint
import N32L43x.Rbb.Queue

/-!
What a block queue is meant to be: blocks that follow each other in `blk_list` and in the buffer, and no more
of them than the caller has asked for.
-/

namespace N32L43x.Rbb

open N32L43x.Lib.Links N32L43x.Lib.Run

variable {blkSet : ℕ → RtRbbBlk} {bs pre run post fs : List ℕ} {s s' : System}
  {queueDataLen bufSize last total stop : ℕ}

/-! ### Programs -/

/-- The calls, with `rt_rbb_blk_queue_get` among them.  `rt_rbb_blk_queue_free` is some calls of
`rt_rbb_blk_free`. -/
inductive QueueAction
  | call (a : Action)
  | queueGet (queueDataLen : ℕ) (blkQueue : RtRbbBlkQueue)

def queueStep (s : System) : QueueAction → Option System
  | .call a => step s a
  | .queueGet queueDataLen blkQueue =>
    (rtRbbBlkQueueGet s.rbb queueDataLen blkQueue).map fun r => { s with rbb := r.1.rbb }

/-- What the assertions of the calls ask for; a length has 32 bits. -/
def QueueAsserted (s : System) : QueueAction → Prop
  | .call a => Asserted s a
  | .queueGet queueDataLen _ => queueDataLen < 0x100000000

/-- The blocks do not come to overlap. -/
def QueueWithin (s : System) : QueueAction → Prop
  | .call a => Within s a
  | .queueGet queueDataLen _ => queueDataLen < 0x100000000

instance (s : System) (a : QueueAction) : Decidable (QueueAsserted s a) :=
  match a with
  | .call a => inferInstanceAs (Decidable (Asserted s a))
  | .queueGet queueDataLen _ => inferInstanceAs (Decidable (queueDataLen < 0x100000000))

instance (s : System) (a : QueueAction) : Decidable (QueueWithin s a) :=
  match a with
  | .call a => inferInstanceAs (Decidable (Within s a))
  | .queueGet queueDataLen _ => inferInstanceAs (Decidable (queueDataLen < 0x100000000))

lemma base_queueStep (h : Base s fs) {a : QueueAction} (ha : QueueAsserted s a) :
    ∃ s' fs', queueStep s a = some s' ∧ Base s' fs' := by
  cases a with
  | call a => exact base_step h ha
  | queueGet queueDataLen blkQueue =>
    obtain ⟨g, followed, hget, hrbb, -⟩ := h.queueGet queueDataLen blkQueue
    refine ⟨_, fs, ?_, h.handOver fun i hi => (taken_sublist s.rbb.blkSet queueDataLen s.live).subset hi⟩
    show (rtRbbBlkQueueGet s.rbb queueDataLen blkQueue).map _ = _
    rw [hget, ← hrbb]
    rfl

/-- Blocks in use are handed over. -/
lemma Inv.handOver (h : Inv s fs) (hbs : ∀ i ∈ bs, i ∈ s.live) : Inv ⟨handOver s.rbb bs, s.live⟩ fs := by
  induction bs using List.reverseRecOn with
  | nil => exact h
  | append_singleton bs i ih =>
    rw [handOver_append]
    exact (ih fun j hj => hbs j (List.mem_append_left _ hj)).setStatus
      (hbs i (List.mem_append_right _ List.mem_cons_self)) (by decide)

lemma inv_queueStep (h : Inv s fs) {a : QueueAction} (ha : QueueWithin s a) :
    ∃ s' fs', queueStep s a = some s' ∧ Inv s' fs' := by
  cases a with
  | call a => exact inv_step h ha
  | queueGet queueDataLen blkQueue =>
    obtain ⟨g, followed, hget, hrbb, -⟩ := h.base.queueGet queueDataLen blkQueue
    refine ⟨_, fs, ?_, h.handOver fun i hi => (taken_sublist s.rbb.blkSet queueDataLen s.live).subset hi⟩
    show (rtRbbBlkQueueGet s.rbb queueDataLen blkQueue).map _ = _
    rw [hget, ← hrbb]
    rfl

/-! ### The predicted length -/

lemma links_of_append {rbb : RtRbb} (hlinks : Links (nxt rbb) (pre ++ bs).head? (pre ++ bs)) :
    Links (nxt rbb) bs.head? bs := by
  induction pre with
  | nil => exact hlinks
  | cons i pre ih => exact ih (links_tail hlinks)

lemma Base.lengths (h : Base s fs) (hput : ∃ i < s.rbb.blkMaxNum, (s.rbb.blkSet i).status = .put)
    (blkQueue : RtRbbBlkQueue) :
    ∃ g followed, rtRbbBlkQueueGet s.rbb 0xFFFFFFFF blkQueue = some (g, followed) ∧
      rtRbbNextBlkQueueLen s.rbb = some g.dataTotalSize ∧
      rtRbbBlkQueueLen g.rbb g.blkQueue = some g.dataTotalSize := by
  obtain ⟨g, followed, hget, hrbb, htotal, hqueue, -⟩ := h.queueGet 0xFFFFFFFF blkQueue
  have hlinks := h.lists.blk
  rw [hlinks.head] at hlinks
  refine ⟨g, followed, hget, ?_, ?_⟩
  · unfold rtRbbNextBlkQueueLen
    rw [h.lists.blk.head, htotal]
    exact nextLenLoop_eq hlinks h.length_live
  · rcases taken_spec s.rbb.blkSet 0xFFFFFFFF s.live with ⟨-, hno⟩ | ⟨pre, first, run, post, hlive, htaken, -⟩
    · obtain ⟨i, hi, hiput⟩ := hput
      have hmem := h.mem_live hi (by rw [hiput]; decide)
      exact absurd hiput (hno i hmem)
    · rw [hrbb, htotal, hqueue, htaken]
      unfold rtRbbBlkQueueLen queueOf
      rw [if_neg (List.cons_ne_nil _ _)]
      obtain ⟨hsame, -⟩ := handOver_spec s.rbb (first :: run)
      have hlinks' : Links (nxt (Rbb.handOver s.rbb (first :: run))) ((first :: run) ++ post).head?
          ((first :: run) ++ post) := by
        rw [hlive, List.append_assoc] at hlinks
        exact (links_of_append hlinks).congr fun i _ => (hsame i).1
      have hloop := queueLenLoop_eq 0 hlinks'
      rw [addUp_congr fun i _ => (hsame i).2.1] at hloop
      exact hloop

/-- **The length of the next block queue** is what `rt_rbb_blk_queue_get` returns if it is given no bound, and
what `rt_rbb_blk_queue_len` says of the queue. -/
theorem next_length_predicted (bufSize blkMaxNum : ℕ) (blockSet : ℕ → RtRbbBlk) (as : List QueueAction)
    (hasserted : Along queueStep QueueAsserted (System.init bufSize blkMaxNum blockSet) as) :
    ∃ s, exec queueStep (System.init bufSize blkMaxNum blockSet) as = some s ∧
      ((∃ i < s.rbb.blkMaxNum, (s.rbb.blkSet i).status = .put) → ∀ blkQueue,
        ∃ g followed, rtRbbBlkQueueGet s.rbb 0xFFFFFFFF blkQueue = some (g, followed) ∧
          rtRbbNextBlkQueueLen s.rbb = some g.dataTotalSize ∧
          rtRbbBlkQueueLen g.rbb g.blkQueue = some g.dataTotalSize) := by
  have hstep : ∀ (s : System) (a : QueueAction), (∃ fs, Base s fs) → QueueAsserted s a →
      ∃ s', queueStep s a = some s' ∧ ∃ fs, Base s' fs := by
    rintro s a ⟨fs, h⟩ ha
    obtain ⟨s', fs', hs, h'⟩ := base_queueStep h ha
    exact ⟨s', hs, fs', h'⟩
  obtain ⟨s, hs, fs, h⟩ :=
    exec_total_of_along hstep as _ (base_init bufSize blkMaxNum blockSet) hasserted
  exact ⟨s, hs, h.lengths⟩

/-- A block of four bytes is put and another one is not. -/
theorem next_length_predicted_four :
    ∃ s, exec queueStep (System.init 10 4 fun _ => ⟨.get, 0, 0, none⟩)
        [.call (.alloc 4), .call (.alloc 4), .call (.put 3)] = some s ∧
      ((∃ i < s.rbb.blkMaxNum, (s.rbb.blkSet i).status = .put) → ∀ blkQueue,
        ∃ g followed, rtRbbBlkQueueGet s.rbb 0xFFFFFFFF blkQueue = some (g, followed) ∧
          rtRbbNextBlkQueueLen s.rbb = some g.dataTotalSize ∧
          rtRbbBlkQueueLen g.rbb g.blkQueue = some g.dataTotalSize) :=
  next_length_predicted 10 4 (fun _ => ⟨.get, 0, 0, none⟩) _ (by decide +kernel)

/-! ### The bytes of a queue -/

/-- The sizes of blocks, added up. -/
def sizes (blkSet : ℕ → RtRbbBlk) : List ℕ → ℕ
  | [] => 0
  | i :: bs => (blkSet i).size + sizes blkSet bs

/-- Each block starts where the one before it ends, blocks without bytes left aside. -/
def Adjacent (blkSet : ℕ → RtRbbBlk) : ℕ → List ℕ → Prop
  | _, [] => True
  | buf, i :: bs =>
    ((blkSet i).size = 0 ∨ (blkSet i).buf = buf) ∧ Adjacent blkSet (buf + (blkSet i).size) bs

lemma sizes_append (blkSet : ℕ → RtRbbBlk) (l r : List ℕ) :
    sizes blkSet (l ++ r) = sizes blkSet l + sizes blkSet r := by
  induction l with
  | nil => simp [sizes]
  | cons i l ih => simp [sizes, ih, Nat.add_assoc]

/-- The loops add up without overflow if the sum has 32 bits. -/
lemma addUp_eq (h : total + sizes blkSet bs < 0x100000000) :
    addUp blkSet total bs = total + sizes blkSet bs := by
  induction bs generalizing total with
  | nil => rfl
  | cons i bs ih =>
    simp only [sizes] at h ⊢
    have hadd : sizeAdd total (blkSet i).size = total + (blkSet i).size := by
      unfold sizeAdd
      exact Nat.mod_eq_of_lt (by omega)
    rw [addUp, hadd, ih (by omega), Nat.add_assoc]

/-- Adjacent blocks are one range of bytes. -/
lemma Adjacent.covers {buf : ℕ} (h : Adjacent blkSet buf bs) (addr : ℕ) :
    (∃ i ∈ bs, Covers (blkSet i) addr) ↔ buf ≤ addr ∧ addr < buf + sizes blkSet bs := by
  induction bs generalizing buf with
  | nil =>
    simp only [sizes, List.not_mem_nil, false_and, exists_false, false_iff]
    omega
  | cons i bs ih =>
    have hi : Covers (blkSet i) addr ↔ buf ≤ addr ∧ addr < buf + (blkSet i).size := by
      unfold Covers
      rcases h.1 with hzero | hbuf
      · rw [hzero]
        omega
      · rw [hbuf]
    rw [List.exists_mem_cons_iff, hi, ih h.2]
    simp only [sizes]
    omega

/-- Blocks that rise and do not overlap are adjacent if they are one range of bytes. -/
lemma adjacent_of_covers {buf : ℕ} (hrise : bs.Pairwise fun i j => (blkSet i).buf ≤ (blkSet j).buf)
    (hdisjoint : bs.Pairwise fun i j => ∀ addr, Covers (blkSet i) addr → ¬ Covers (blkSet j) addr)
    (h : ∀ addr, (∃ i ∈ bs, Covers (blkSet i) addr) ↔ buf ≤ addr ∧ addr < buf + sizes blkSet bs) :
    Adjacent blkSet buf bs := by
  induction bs generalizing buf with
  | nil => trivial
  | cons i bs ih =>
    obtain ⟨hrise', hrise⟩ := List.pairwise_cons.mp hrise
    obtain ⟨hdisjoint', hdisjoint⟩ := List.pairwise_cons.mp hdisjoint
    have hfirst : (blkSet i).size = 0 ∨ (blkSet i).buf = buf := by
      by_contra hno
      push Not at hno
      -- the first byte of the range is in a block, and no block starts before this one
      have hbuf : (blkSet i).buf ≤ buf := by
        obtain ⟨j, hj, hcovers⟩ := (h buf).mpr ⟨le_rfl, by simp only [sizes]; omega⟩
        rcases List.mem_cons.mp hj with rfl | hj
        · exact hcovers.1
        · exact (hrise' j hj).trans hcovers.1
      have hstart := (h (blkSet i).buf).mp ⟨i, List.mem_cons_self, le_rfl, by omega⟩
      exact hno.2 (le_antisymm hbuf hstart.1)
    refine ⟨hfirst, ih hrise hdisjoint fun addr => ?_⟩
    have haddr := h addr
    rw [List.exists_mem_cons_iff] at haddr
    simp only [sizes] at haddr
    have hi : Covers (blkSet i) addr ↔ buf ≤ addr ∧ addr < buf + (blkSet i).size := by
      unfold Covers
      rcases hfirst with hzero | hbuf
      · rw [hzero]
        omega
      · rw [hbuf]
    constructor
    · rintro ⟨j, hj, hcovers⟩
      have hnot : ¬ Covers (blkSet i) addr := fun hci => hdisjoint' j hj addr hci hcovers
      have hin := haddr.mp (.inr ⟨j, hj, hcovers⟩)
      rw [hi] at hnot
      omega
    · intro hin
      refine (haddr.mpr (by omega)).resolve_left fun hci => ?_
      rw [hi] at hci
      omega

/-- Blocks in order take no more than what is there behind their start. -/
lemma InOrder.sizes_le (h : InOrder blkSet bs) (hin : ∀ i ∈ bs, (blkSet i).finish ≤ bufSize) (lo : ℕ)
    (hlo : lo ≤ bufSize) (hle : ∀ i ∈ bs, lo ≤ (blkSet i).buf) : lo + sizes blkSet bs ≤ bufSize := by
  induction bs generalizing lo with
  | nil => exact hlo
  | cons i bs ih =>
    obtain ⟨hi, h⟩ := List.pairwise_cons.mp h
    have hfinish := hin i List.mem_cons_self
    have hstart := hle i List.mem_cons_self
    unfold RtRbbBlk.finish at hfinish
    have hrest := ih h (fun j hj => hin j (List.mem_cons_of_mem i hj)) (lo + (blkSet i).size) (by omega)
      fun j hj => by
        have hj' := hi j hj
        unfold RtRbbBlk.finish at hj'
        omega
    simp only [sizes]
    omega

/-- All blocks together fit in the buffer. -/
lemma Layout.sizes_le (h : Layout blkSet bufSize bs) : sizes blkSet bs ≤ bufSize := by
  obtain ⟨l, r, rfl, hl, hr, hlr⟩ := h.split
  -- the blocks behind the end of the buffer come first
  have horder : InOrder blkSet (r ++ l) := List.pairwise_append.mpr ⟨hr, hl, hlr⟩
  have hle := horder.sizes_le (fun i hi => h.inside i (by simpa [or_comm] using hi)) 0 (Nat.zero_le bufSize)
    fun i _ => Nat.zero_le _
  rw [sizes_append] at hle ⊢
  omega

/-! ### The queue -/

/-- The blocks that have gone from `PUT` to `GET`. -/
def moved (s : System) (g : QueueGet) : List ℕ :=
  s.live.filter fun i => decide ((s.rbb.blkSet i).status = .put ∧ (g.rbb.blkSet i).status = .get)

/-- What `rt_rbb_blk_queue_get` is meant to do. -/
structure Extracted (s : System) (queueDataLen : ℕ) (g : QueueGet) (followed : Bool) : Prop where
  le : g.dataTotalSize ≤ queueDataLen
  consecutive : ∃ pre post, s.live = pre ++ moved s g ++ post ∧ ∀ i ∈ pre, (s.rbb.blkSet i).status ≠ .put
  range : ∀ addr, (∃ i ∈ moved s g, Covers (s.rbb.blkSet i) addr) ↔
    ∃ buf ∈ rtRbbBlkQueueBuf g.rbb g.blkQueue, buf ≤ addr ∧ addr < buf + g.dataTotalSize
  others : ∀ i ∉ moved s g, (g.rbb.blkSet i).status = (s.rbb.blkSet i).status
  followed : followed = false

/-- The call comes to an end, and does it. -/
def Extraction (s : System) (queueDataLen : ℕ) (blkQueue : RtRbbBlkQueue) : Prop :=
  ∃ g followed, rtRbbBlkQueueGet s.rbb queueDataLen blkQueue = some (g, followed) ∧
    Extracted s queueDataLen g followed

/-- There is no block, or the blocks that are put, from the first one on and as far as they rise, are adjacent
and not longer than asked for, and another block ends them. -/
def Extractable (s : System) (queueDataLen : ℕ) : Prop :=
  s.live = [] ∨ ∃ pre first run stop post, s.live = pre ++ (first :: run) ++ stop :: post ∧
    (∀ i ∈ pre, (s.rbb.blkSet i).status ≠ .put) ∧
    (∀ i ∈ first :: run, (s.rbb.blkSet i).status = .put) ∧
    (first :: run).IsChain (fun i j => (s.rbb.blkSet i).buf ≤ (s.rbb.blkSet j).buf) ∧
    Adjacent s.rbb.blkSet (s.rbb.blkSet first).buf (first :: run) ∧
    sizes s.rbb.blkSet (first :: run) ≤ queueDataLen ∧
    Stops s.rbb.blkSet queueDataLen ((first :: run).getLast (List.cons_ne_nil _ _))
      (sizes s.rbb.blkSet (first :: run)) stop

/-- What is taken, if it is known what stops it. -/
lemma following_eq (post : List ℕ) (hlen : queueDataLen < 0x100000000) (hput : ∀ i ∈ run, (blkSet i).status = .put)
    (hchain : (last :: run).IsChain fun i j => (blkSet i).buf ≤ (blkSet j).buf)
    (hsizes : total + sizes blkSet run ≤ queueDataLen)
    (hstop : Stops blkSet queueDataLen ((last :: run).getLast (List.cons_ne_nil _ _))
      (total + sizes blkSet run) stop) :
    following blkSet queueDataLen last total (run ++ stop :: post) = run := by
  induction run generalizing last total with
  | nil => exact if_pos hstop
  | cons i run ih =>
    simp only [sizes] at hsizes hstop
    obtain ⟨hle, hchain⟩ := List.isChain_cons_cons.mp hchain
    have hadd : sizeAdd total (blkSet i).size = total + (blkSet i).size := by
      unfold sizeAdd
      exact Nat.mod_eq_of_lt (by omega)
    have hgo : ¬ Stops blkSet queueDataLen last total i := by
      unfold Stops
      rw [hadd, hput i List.mem_cons_self]
      push Not
      exact ⟨rfl, hle, by omega⟩
    have hrun : following blkSet queueDataLen last total (i :: run ++ stop :: post) =
        i :: following blkSet queueDataLen i (sizeAdd total (blkSet i).size) (run ++ stop :: post) := if_neg hgo
    rw [List.getLast_cons (List.cons_ne_nil _ _), ← Nat.add_assoc] at hstop
    rw [hrun, hadd, ih (fun j hj => hput j (List.mem_cons_of_mem i hj)) hchain (by omega) hstop]

lemma taken_append (hpre : ∀ i ∈ pre, (blkSet i).status ≠ .put) :
    taken blkSet queueDataLen (pre ++ bs) = taken blkSet queueDataLen bs := by
  induction pre with
  | nil => rfl
  | cons i pre ih =>
    have hskip : taken blkSet queueDataLen (i :: pre ++ bs) = taken blkSet queueDataLen (pre ++ bs) :=
      if_neg (hpre i List.mem_cons_self)
    rw [hskip, ih fun j hj => hpre j (List.mem_cons_of_mem i hj)]

/-- The blocks that change from `PUT` to `GET` are those that are taken. -/
lemma Base.moved_eq (h : Base s fs) {g : QueueGet}
    (hg : g.rbb = Rbb.handOver s.rbb (taken s.rbb.blkSet queueDataLen s.live)) :
    moved s g = taken s.rbb.blkSet queueDataLen s.live := by
  obtain ⟨-, hget, hother⟩ := handOver_spec s.rbb (taken s.rbb.blkSet queueDataLen s.live)
  have hnd := (List.nodup_append.mp h.lists.nodup).1
  have hmem : ∀ i, i ∉ taken s.rbb.blkSet queueDataLen s.live →
      ¬ ((s.rbb.blkSet i).status = .put ∧ (g.rbb.blkSet i).status = .get) := by
    rintro i hi ⟨hput, hgot⟩
    rw [hg, hother i hi, hput] at hgot
    cases hgot
  unfold moved
  rcases taken_spec s.rbb.blkSet queueDataLen s.live with
    ⟨htaken, -⟩ | ⟨pre, first, run, post, hlive, htaken, -, hput, -⟩
  · rw [htaken] at hmem ⊢
    exact List.filter_eq_nil_iff.mpr fun i _ => by simpa using hmem i List.not_mem_nil
  · have hnd' := hnd
    rw [hlive] at hnd'
    rw [htaken] at hmem hget hg ⊢
    have hout : ∀ l : List ℕ, (∀ i ∈ l, i ∉ first :: run) → l.filter (fun i =>
        decide ((s.rbb.blkSet i).status = .put ∧ (g.rbb.blkSet i).status = .get)) = [] := by
      intro l hl
      refine List.filter_eq_nil_iff.mpr fun i hi => ?_
      simpa using hmem i (hl i hi)
    have hpre := hout pre fun i hi hrun =>
      (List.nodup_append.mp (List.nodup_append.mp hnd').1).2.2 i hi i hrun rfl
    have hpost := hout post fun i hi hrun =>
      (List.nodup_append.mp hnd').2.2 i (List.mem_append_right pre hrun) i hi rfl
    have hrun : (first :: run).filter (fun i => decide ((s.rbb.blkSet i).status = .put ∧
        (g.rbb.blkSet i).status = .get)) = first :: run := by
      refine List.filter_eq_self.mpr fun i hi => ?_
      rw [hg]
      exact decide_eq_true ⟨hput i hi, hget i hi⟩
    rw [hlive, List.filter_append, List.filter_append, hpre, hpost, hrun]
    simp

/-- What the caller reads as the start of the queue. -/
lemma queueBuf_eq {rbb : RtRbb} {blkQueue : RtRbbBlkQueue} {first : ℕ} :
    rtRbbBlkQueueBuf (Rbb.handOver rbb (first :: run)) (queueOf blkQueue (first :: run)) =
      some (rbb.blkSet first).buf :=
  congrArg some ((handOver_spec rbb (first :: run)).1 first).2.2

/-- **Blocks are extracted** where the condition holds, even if some of the blocks overlap. -/
lemma Base.extraction (h : Base s fs) (hlen : queueDataLen < 0x100000000) (blkQueue : RtRbbBlkQueue)
    (hcond : Extractable s queueDataLen) : Extraction s queueDataLen blkQueue := by
  obtain ⟨g, followed, hget, hrbb, htotal, hqueue, hfollowed⟩ := h.queueGet queueDataLen blkQueue
  have hmoved := h.moved_eq hrbb
  have hothers : ∀ i ∉ moved s g, (g.rbb.blkSet i).status = (s.rbb.blkSet i).status := by
    rw [hmoved, hrbb]
    exact (handOver_spec s.rbb _).2.2
  refine ⟨g, followed, hget, ?_⟩
  rcases hcond with hnil | ⟨pre, first, run, stop, post, hlive, hpre, hput, hchain, hadj, hsizes, hstop⟩
  · have hrun : taken s.rbb.blkSet queueDataLen s.live = [] := by rw [hnil]; rfl
    have hzero : g.dataTotalSize = 0 := by rw [htotal, hrun]; rfl
    refine ⟨hzero ▸ Nat.zero_le _, ⟨[], [], ?_, fun i hi => absurd hi List.not_mem_nil⟩, fun addr => ?_,
      hothers, ?_⟩
    · rw [hmoved, hrun, hnil]
      rfl
    · rw [hmoved, hrun, hzero]
      constructor
      · rintro ⟨i, hi, -⟩
        exact absurd hi List.not_mem_nil
      · rintro ⟨buf, -, hle, hlt⟩
        omega
    · exact Bool.eq_false_iff.mpr fun htrue => (hfollowed.mp htrue).1 hnil
  · have hrun : taken s.rbb.blkSet queueDataLen s.live = first :: run := by
      rw [hlive, List.append_assoc, taken_append hpre, List.cons_append]
      simp only [sizes] at hsizes hstop
      have hfirst : sizeAdd 0 (s.rbb.blkSet first).size = (s.rbb.blkSet first).size := by
        unfold sizeAdd
        rw [Nat.zero_add]
        exact Nat.mod_eq_of_lt (by omega)
      have hfollow := following_eq post hlen (fun i hi => hput i (List.mem_cons_of_mem first hi))
        hchain hsizes hstop
      have htaken : taken s.rbb.blkSet queueDataLen (first :: (run ++ stop :: post)) = first ::
          following s.rbb.blkSet queueDataLen first (sizeAdd 0 (s.rbb.blkSet first).size)
            (run ++ stop :: post) := if_pos (hput first List.mem_cons_self)
      rw [htaken, hfirst, hfollow]
    have hsum : g.dataTotalSize = sizes s.rbb.blkSet (first :: run) := by
      rw [htotal, hrun, addUp_eq (by omega), Nat.zero_add]
    rw [hrun] at hmoved hfollowed hqueue hrbb
    refine ⟨hsum ▸ hsizes, ⟨pre, stop :: post, ?_, hpre⟩, fun addr => ?_, hothers, ?_⟩
    · rw [hmoved, hlive]
    · rw [hmoved, hadj.covers, hsum, hqueue, hrbb, queueBuf_eq]
      simp
    · refine Bool.eq_false_iff.mpr fun htrue => ?_
      -- a block behind the queue is not in it
      obtain ⟨front, hfront⟩ := (hfollowed.mp htrue).2
      have hnd := (List.nodup_append.mp h.lists.nodup).1
      rw [hlive] at hfront hnd
      have hlast := congrArg List.getLast? hfront
      have hin : (stop :: post).getLast (List.cons_ne_nil _ _) ∈ first :: run := by
        rw [List.getLast?_append_of_ne_nil _ (List.cons_ne_nil _ _),
          List.getLast?_append_of_ne_nil _ (List.cons_ne_nil _ _),
          List.getLast?_eq_some_getLast (List.cons_ne_nil stop post)] at hlast
        exact List.mem_of_getLast? hlast
      exact (List.nodup_append.mp hnd).2.2 _ (List.mem_append_right pre hin) _
        (List.getLast_mem (List.cons_ne_nil _ _)) rfl

/-- Blocks that do not overlap are extracted only where the condition holds. -/
lemma Inv.extractable (h : Inv s fs) (blkQueue : RtRbbBlkQueue)
    (hextract : Extraction s queueDataLen blkQueue) : Extractable s queueDataLen := by
  obtain ⟨g, followed, hget, hdone⟩ := hextract
  obtain ⟨g', followed', hget', hrbb, htotal, hqueue, hfollowed⟩ := h.base.queueGet queueDataLen blkQueue
  obtain ⟨rfl, rfl⟩ := Prod.mk.inj (Option.some.inj (hget.symm.trans hget'))
  have hmoved := h.base.moved_eq hrbb
  by_cases hnil : s.live = []
  · exact .inl hnil
  right
  have hnot : ¬ taken s.rbb.blkSet queueDataLen s.live <:+ s.live := by
    intro hsuffix
    have htrue := hfollowed.mpr ⟨hnil, hsuffix⟩
    rw [hdone.followed] at htrue
    cases htrue
  rcases taken_spec s.rbb.blkSet queueDataLen s.live with
    ⟨htaken, -⟩ | ⟨pre, first, run, post, hlive, htaken, hpre, hput, hchain, hpost⟩
  · rw [htaken] at hnot
    exact absurd List.nil_suffix hnot
  have hadd : addUp s.rbb.blkSet 0 (first :: run) = sizes s.rbb.blkSet (first :: run) := by
    have hle := (h.layout.remove (taken_sublist s.rbb.blkSet queueDataLen s.live)).sizes_le
    have hsize := h.size
    rw [htaken] at hle
    rw [addUp_eq (by omega), Nat.zero_add]
  have hsum : g.dataTotalSize = sizes s.rbb.blkSet (first :: run) := by rw [htotal, htaken, hadd]
  rw [htaken] at hmoved hqueue hrbb hnot
  cases post with
  | nil =>
    rw [hlive, List.append_nil] at hnot
    exact absurd (List.suffix_append pre _) hnot
  | cons stop post =>
    refine ⟨pre, first, run, stop, post, hlive, hpre, hput, hchain, ?_, ?_, ?_⟩
    · have hsub : (first :: run).Sublist s.live := htaken ▸ taken_sublist s.rbb.blkSet queueDataLen s.live
      refine adjacent_of_covers (List.isChain_iff_pairwise.mp hchain) (h.sound.disjoint.sublist hsub)
        fun addr => ?_
      have hrange := hdone.range addr
      rw [hmoved, hqueue, hrbb, queueBuf_eq, hsum] at hrange
      simpa using hrange
    · exact hsum ▸ hdone.le
    · have hstop := hpost stop rfl
      rw [hadd] at hstop
      exact hstop

/-- **A block queue is extracted** exactly where the condition holds; where blocks overlap, at least there. -/
theorem queue_extracted_iff (bufSize blkMaxNum : ℕ) (blockSet : ℕ → RtRbbBlk) (as : List QueueAction)
    (hasserted : Along queueStep QueueAsserted (System.init bufSize blkMaxNum blockSet) as) :
    ∃ s, exec queueStep (System.init bufSize blkMaxNum blockSet) as = some s ∧
      ∀ queueDataLen < 0x100000000, ∀ blkQueue,
        (Extractable s queueDataLen → Extraction s queueDataLen blkQueue) ∧
        (Along queueStep QueueWithin (System.init bufSize blkMaxNum blockSet) as →
          Extraction s queueDataLen blkQueue → Extractable s queueDataLen) := by
  obtain ⟨s, hs, fs, h⟩ := exec_total_of_along
    (fun s a (h : ∃ fs, Base s fs) ha => by
      obtain ⟨fs, h⟩ := h
      obtain ⟨s', fs', hs, h'⟩ := base_queueStep h ha
      exact ⟨s', hs, fs', h'⟩) as _ (base_init bufSize blkMaxNum blockSet) hasserted
  refine ⟨s, hs, fun queueDataLen hlen blkQueue =>
    ⟨h.extraction hlen blkQueue, fun hwithin hextract => ?_⟩⟩
  obtain ⟨fs', h'⟩ := exec_inv_of_along (I := fun s => ∃ fs, Inv s fs)
    (fun s a s' (h : ∃ fs, Inv s fs) ha hs => by
      obtain ⟨fs, h⟩ := h
      obtain ⟨s'', fs', hs', h'⟩ := inv_queueStep h ha
      obtain rfl : s'' = s' := Option.some.inj (hs'.symm.trans hs)
      exact ⟨fs', h'⟩) as _ s (inv_init bufSize blkMaxNum blockSet) hwithin hs
  exact h'.extractable blkQueue hextract

/-- Two blocks of four bytes are put, and a third one is not. -/
theorem queue_extracted_iff_eight :
    ∃ s, exec queueStep (System.init 16 4 fun _ => ⟨.get, 0, 0, none⟩)
        [.call (.alloc 4), .call (.alloc 4), .call (.alloc 4), .call (.put 3), .call (.put 2)] = some s ∧
      ∀ queueDataLen < 0x100000000, ∀ blkQueue,
        (Extractable s queueDataLen → Extraction s queueDataLen blkQueue) ∧
        (Along queueStep QueueWithin (System.init 16 4 fun _ => ⟨.get, 0, 0, none⟩)
            [.call (.alloc 4), .call (.alloc 4), .call (.alloc 4), .call (.put 3), .call (.put 2)] →
          Extraction s queueDataLen blkQueue → Extractable s queueDataLen) :=
  queue_extracted_iff 16 4 (fun _ => ⟨.get, 0, 0, none⟩) _ (by decide +kernel)

/-- Four blocks of four bytes, of which the first three are put and the second one is freed. -/
def hole : List QueueAction :=
  [.call (.alloc 4), .call (.alloc 4), .call (.alloc 4), .call (.alloc 4), .call (.put 3), .call (.put 2),
    .call (.put 1), .call (.free 2)]

/-- The first and the third block are handed over as one range of eight bytes. -/
theorem queue_not_extracted_hole :
    ∃ s ∈ exec queueStep (System.init 16 4 fun _ => ⟨.get, 0, 0, none⟩) hole,
      ¬ Extraction s 100 ⟨none, 0⟩ := by
  have hrun : ∃ s ∈ exec queueStep (System.init 16 4 fun _ => ⟨.get, 0, 0, none⟩) hole,
      ∃ r ∈ rtRbbBlkQueueGet s.rbb 100 ⟨none, 0⟩, r.1.dataTotalSize = 8 ∧
        rtRbbBlkQueueBuf r.1.rbb r.1.blkQueue = some 0 ∧ moved s r.1 = [3, 1] ∧
        (s.rbb.blkSet 3).size = 4 ∧ (s.rbb.blkSet 3).buf = 0 ∧ (s.rbb.blkSet 1).buf = 8 := by decide +kernel
  obtain ⟨s, hs, r, hr, htotal, hbuf, hmoved, hsize, hbuf3, hbuf1⟩ := hrun
  refine ⟨s, hs, ?_⟩
  rintro ⟨g, followed, hget, hdone⟩
  obtain rfl : r = (g, followed) := Option.some.inj (hr.symm.trans hget)
  -- the byte at 4 is in the range, and in none of the two blocks
  have hrange := (hdone.range 4).mpr ⟨0, hbuf, by omega, by rw [htotal]; omega⟩
  obtain ⟨i, hi, hcovers⟩ := hrange
  rw [hmoved] at hi
  unfold Covers at hcovers
  rcases List.mem_cons.mp hi with rfl | hi
  · omega
  · rw [List.mem_singleton.mp hi] at hcovers
    omega

end N32L43x.Rbb
