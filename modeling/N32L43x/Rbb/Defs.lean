import Mathlib.Data.List.Basic
import Mathlib.Logic.Function.Basic

/-!
The ring block buffer of `components/drivers/ipc/ringblk_buf.c`.  Blocks of any size are cut out of one
buffer in a ring; where the free space is, is read off the first and the last block of `blk_list`.
-/

namespace N32L43x.Rbb

/-- `enum rt_rbb_status`. -/
inductive RtRbbStatus
  | unused
  | inited
  | put
  | get
deriving DecidableEq

/-- `struct rt_rbb_blk`; `buf` is given as an offset into the buffer. -/
structure RtRbbBlk where
  status : RtRbbStatus
  size : ℕ
  buf : ℕ
  next : Option ℕ

/-- `struct rt_rbb`.  The nodes of `blk_set` are numbered; `none` is the null link, and as a value of
`tail` it is the head of `blk_list`. -/
structure RtRbb where
  bufSize : ℕ
  blkSet : ℕ → RtRbbBlk
  blkMaxNum : ℕ
  /-- `blk_list.next` -/
  blkList : Option ℕ
  tail : Option ℕ
  /-- `free_list.next` -/
  freeList : Option ℕ

def setBlk (rbb : RtRbb) (blk : ℕ) (b : RtRbbBlk) : RtRbb :=
  { rbb with blkSet := Function.update rbb.blkSet blk b }

/-- `rt_slist_insert(&rbb->free_list, &blk->list)`. -/
def insertFree (rbb : RtRbb) (blk : ℕ) : RtRbb :=
  { setBlk rbb blk { rbb.blkSet blk with next := rbb.freeList } with freeList := some blk }

/-- One turn of the loop of `rt_rbb_init`. -/
def initBlk (rbb : RtRbb) (i : ℕ) : RtRbb :=
  insertFree (setBlk rbb i { rbb.blkSet i with status := .unused, next := none }) i

/-- `rt_rbb_init` over whatever the block set holds. -/
def rtRbbInit (bufSize blkMaxNum : ℕ) (blockSet : ℕ → RtRbbBlk) : RtRbb :=
  (List.range blkMaxNum).foldl initBlk
    { bufSize := bufSize % 0x100000000
      blkSet := blockSet
      blkMaxNum := blkMaxNum
      blkList := none
      tail := none
      freeList := none }

/-- `find_empty_blk_in_set`.  The loop of `rt_slist_remove` stops at the head of the list: the node to
remove is the first one. -/
def findEmptyBlkInSet (rbb : RtRbb) : Option (RtRbb × ℕ) :=
  match rbb.freeList with
  | none => none
  | some blk => some ({ rbb with freeList := (rbb.blkSet blk).next }, blk)

/-- `node->next`, of a node of `blk_list` or of its head. -/
def nextOf (rbb : RtRbb) : Option ℕ → Option ℕ
  | none => rbb.blkList
  | some blk => (rbb.blkSet blk).next

/-- `node->next = next`. -/
def setNext (rbb : RtRbb) (node next : Option ℕ) : RtRbb :=
  match node with
  | none => { rbb with blkList := next }
  | some blk => setBlk rbb blk { rbb.blkSet blk with next := next }

/-- `list_append`. -/
def listAppend (rbb : RtRbb) (n : ℕ) : RtRbb :=
  { setNext (setNext rbb rbb.tail (some n)) (some n) none with tail := some n }

/-- `while (node->next && node->next != n) node = node->next;`, if it ends within `fuel` turns. -/
def whileNext (rbb : RtRbb) (n : ℕ) : ℕ → Option ℕ → Option (Option ℕ)
  | 0, _ => none
  | fuel + 1, node =>
    match nextOf rbb node with
    | none => some node
    | some m => if m = n then some node else whileNext rbb n fuel (some m)

/-- `list_remove`, if its loop ends. -/
def listRemove (rbb : RtRbb) (n : ℕ) : Option RtRbb :=
  match whileNext rbb n (rbb.blkMaxNum + 1) none with
  | none => none
  | some node =>
    match nextOf rbb node with
    | none => some rbb
    | some m =>
      let rbb := setNext (setNext rbb node (rbb.blkSet m).next) (some n) none
      some (if rbb.tail = some n then { rbb with tail := node } else rbb)

/-- The difference of two addresses as a `rt_size_t`. -/
def addrSub (a b : ℕ) : ℕ := (a + 0x100000000 - b) % 0x100000000

/-- A block is put at the end of `blk_list` and given its bytes; the size has 24 bits. -/
def place (rbb : RtRbb) (blk buf blkSize : ℕ) : RtRbb :=
  let rbb := listAppend rbb blk
  setBlk rbb blk { rbb.blkSet blk with status := .inited, buf := buf, size := blkSize % 0x1000000 }

/-- `rt_rbb_blk_alloc`, and the block it returns.  There is no result where the code takes the head of
`blk_list` for a block. -/
def rtRbbBlkAlloc (rbb : RtRbb) (blkSize : ℕ) : Option (RtRbb × Option ℕ) :=
  match findEmptyBlkInSet rbb with
  | none => some (rbb, none)
  | some (rbb, blk) =>
    match rbb.blkList with
    | some headBlk =>
      match rbb.tail with
      | none => none
      | some tailBlk =>
        let head := rbb.blkSet headBlk
        let tail := rbb.blkSet tailBlk
        if head.buf ≤ tail.buf then
          let empty1 := addrSub rbb.bufSize (tail.buf + tail.size)
          let empty2 := addrSub head.buf 0
          if empty1 ≥ blkSize then some (place rbb blk (tail.buf + tail.size) blkSize, some blk)
          else if empty2 ≥ blkSize then some (place rbb blk 0 blkSize, some blk)
          else some (insertFree rbb blk, none)
        else
          let empty1 := addrSub head.buf (tail.buf + tail.size)
          if empty1 ≥ blkSize then some (place rbb blk (tail.buf + tail.size) blkSize, some blk)
          else some (insertFree rbb blk, none)
    | none =>
      if blkSize ≤ rbb.bufSize then some (place rbb blk 0 blkSize, some blk)
      else some (insertFree rbb blk, none)

def setStatus (rbb : RtRbb) (blk : ℕ) (status : RtRbbStatus) : RtRbb :=
  setBlk rbb blk { rbb.blkSet blk with status := status }

/-- The loop of `rt_rbb_blk_get`, if it ends within `fuel` turns. -/
def findPut (rbb : RtRbb) : ℕ → Option ℕ → Option (Option ℕ)
  | 0, _ => none
  | _ + 1, none => some none
  | fuel + 1, some node =>
    if (rbb.blkSet node).status = .put then some (some node)
    else findPut rbb fuel (rbb.blkSet node).next

/-- `rt_rbb_blk_get`, and the block it returns, if its loop ends. -/
def rtRbbBlkGet (rbb : RtRbb) : Option (RtRbb × Option ℕ) :=
  match findPut rbb (rbb.blkMaxNum + 1) rbb.blkList with
  | none => none
  | some none => some (rbb, none)
  | some (some block) => some (setStatus rbb block .get, some block)

/-- `rt_rbb_blk_free`, if its loop ends. -/
def rtRbbBlkFree (rbb : RtRbb) (block : ℕ) : Option RtRbb :=
  match listRemove rbb block with
  | none => none
  | some rbb => some (insertFree (setStatus rbb block .unused) block)

/-- The buffer, and the blocks that are allocated and not yet freed, the oldest one first. -/
structure System where
  rbb : RtRbb
  live : List ℕ

def System.init (bufSize blkMaxNum : ℕ) (blockSet : ℕ → RtRbbBlk) : System :=
  ⟨rtRbbInit bufSize blkMaxNum blockSet, []⟩

inductive Action
  | alloc (blkSize : ℕ)
  | put (block : ℕ)
  | get
  | free (block : ℕ)
deriving DecidableEq

/-- A call, if it comes to an end. -/
def step (s : System) : Action → Option System
  | .alloc blkSize =>
    (rtRbbBlkAlloc s.rbb blkSize).map fun r => ⟨r.1, s.live ++ r.2.toList⟩
  | .put block => some { s with rbb := setStatus s.rbb block .put }
  | .get => (rtRbbBlkGet s.rbb).map fun r => { s with rbb := r.1 }
  | .free block => (rtRbbBlkFree s.rbb block).map fun rbb => ⟨rbb, s.live.erase block⟩

/-- What the assertions of the calls ask for. -/
def Asserted (s : System) : Action → Prop
  | .alloc blkSize => blkSize < 0x1000000
  | .put block => block < s.rbb.blkMaxNum ∧ (s.rbb.blkSet block).status = .inited
  | .get => True
  | .free block => block < s.rbb.blkMaxNum ∧ (s.rbb.blkSet block).status ≠ .unused

instance (s : System) (a : Action) : Decidable (Asserted s a) :=
  match a with
  | .alloc blkSize => inferInstanceAs (Decidable (blkSize < 0x1000000))
  | .put block =>
    inferInstanceAs (Decidable (block < s.rbb.blkMaxNum ∧ (s.rbb.blkSet block).status = .inited))
  | .get => isTrue trivial
  | .free block =>
    inferInstanceAs (Decidable (block < s.rbb.blkMaxNum ∧ (s.rbb.blkSet block).status ≠ .unused))

end N32L43x.Rbb
