import N32L43x.Mem.Programs

/-!
The heap requests of `rt-thread/src/kservice.c`, on the system heap, which is a small memory heap, and
any program that makes them.  No hook is set.

A pointer is an offset from `heap_ptr`, as for the calls of the heap; where the code computes with
addresses, so do the definitions.
-/

namespace N32L43x.Mem

open N32L43x.Lib.Run

namespace Store

/-- `rt_malloc`. -/
def rtMalloc (s : Store) (size : ℕ) : Option (Store × Option ℕ) := s.rtSmemAlloc size

/-- `rt_realloc`. -/
def rtRealloc (s : Store) (ptr : Option ℕ) (newsize : ℕ) : Option (Store × Option ℕ) :=
  s.rtSmemRealloc ptr newsize

/-- `rt_free`. -/
def rtFree (s : Store) : Option ℕ → Store
  | none => s
  | some p => s.rtSmemFree (some p)

/-- `rt_memset`. -/
def rtMemset (s : Store) (dst count : ℕ) (c : BitVec 8) : Store := s.write dst count fun _ => c

/-- Multiplication of `rt_size_t`. -/
def mul32 (a b : ℕ) : ℕ := a * b % 4294967296

/-- `rt_calloc`. -/
def rtCalloc (s : Store) (count size : ℕ) : Option (Store × Option ℕ) :=
  (s.rtMalloc (mul32 count size)).map fun r =>
    match r.2 with
    | none => (r.1, none)
    | some p => (r.1.rtMemset p (mul32 count size) 0, some p)

/-- `sizeof(void *)`. -/
def sizeofPtr : ℕ := 4

/-- `(n + uintptr_size) & ~uintptr_size`. -/
def ptrAlign (n : ℕ) : ℕ := add32 n (sizeofPtr - 1) / sizeofPtr * sizeofPtr

/-- `align_size` of `rt_malloc_align`. -/
def alignSize (size align : ℕ) : ℕ := add32 (ptrAlign size) (ptrAlign align)

/-- `align_ptr` of `rt_malloc_align`: the address after `ptr` that is a multiple of `align`. -/
def alignPtr (ptr align : BitVec 32) : BitVec 32 :=
  if ptr &&& (align - 1#32) = 0#32 then ptr + align
  else (ptr + (align - 1#32)) &&& ~~~(align - 1#32)

/-- The address of the offset `o`, and the offset of an address. -/
def addrOf (s : Store) (o : ℕ) : ℕ := add32 s.mem.heapPtr o

def offsetOf (s : Store) (addr : ℕ) : ℕ := sub32 addr s.mem.heapPtr

/-- `rt_malloc_align`. -/
def rtMallocAlign (s : Store) (size align : ℕ) : Option (Store × Option ℕ) :=
  (s.rtMalloc (alignSize size align)).map fun r =>
    match r.2 with
    | none => (r.1, none)
    | some p =>
      let ptr := r.1.addrOf p
      let align := ptrAlign align
      let alignPtr := (alignPtr (BitVec.ofNat 32 ptr) (BitVec.ofNat 32 align)).toNat
      -- set the pointer before alignment pointer to the real pointer
      let s := r.1.write (r.1.offsetOf (sub32 alignPtr sizeofPtr)) sizeofPtr (wordByte ptr)
      (s, if alignPtr = 0 then none else some (r.1.offsetOf alignPtr))

/-- `rt_free_align`. -/
def rtFreeAlign (s : Store) : Option ℕ → Store
  | none => s
  | some ptr =>
    let realPtr := wordAt s.byte (ptr - sizeofPtr)
    s.rtFree (if realPtr = 0 then none else some (s.offsetOf realPtr))

end Store

/-! ### Any program -/

/-- What a program was given behind a pointer: the number of bytes it has asked for, and whether the
pointer is one of `rt_malloc_align`. -/
structure Grant where
  bytes : ℕ
  aligned : Bool

/-- The heap and the pointers the program holds. -/
structure Client where
  store : Store
  held : ℕ → Option Grant

namespace Client

inductive Action
  | malloc (size : BitVec 32)
  | realloc (ptr : Option ℕ) (newsize : BitVec 32)
  | calloc (count size : BitVec 32)
  | mallocAlign (size align : BitVec 32)
  | free (ptr : Option ℕ)
  | freeAlign (ptr : Option ℕ)
  | write (o : ℕ) (v : BitVec 8)

/-- The pointer a call has returned, if it is not null, is held from then on. -/
def hold (held : ℕ → Option Grant) (g : Grant) : Option ℕ → ℕ → Option Grant
  | none => held
  | some q => Function.update held q (some g)

/-- A pointer that was handed back is not held any more. -/
def drop (held : ℕ → Option Grant) : Option ℕ → ℕ → Option Grant
  | none => held
  | some q => Function.update held q none

/-- What is held after `rt_realloc` has returned `res`: null leaves the old block as it was, but for a
size that was rounded to `0`, which has released it. -/
def heldAfterRealloc (held : ℕ → Option Grant) (ptr : Option ℕ) (newsize : ℕ) (res : Option ℕ) :
    ℕ → Option Grant :=
  match res with
  | some q => hold (drop held ptr) ⟨newsize, false⟩ (some q)
  | none => if rtAlign newsize = 0 then drop held ptr else held

def step (c : Client) : Action → Option Client
  | .malloc size =>
    (c.store.rtMalloc size.toNat).map fun r => ⟨r.1, hold c.held ⟨size.toNat, false⟩ r.2⟩
  | .realloc ptr newsize =>
    (c.store.rtRealloc ptr newsize.toNat).map fun r =>
      ⟨r.1, heldAfterRealloc c.held ptr newsize.toNat r.2⟩
  | .calloc count size =>
    (c.store.rtCalloc count.toNat size.toNat).map fun r =>
      ⟨r.1, hold c.held ⟨count.toNat * size.toNat, false⟩ r.2⟩
  | .mallocAlign size align =>
    (c.store.rtMallocAlign size.toNat align.toNat).map fun r =>
      ⟨r.1, hold c.held ⟨size.toNat, true⟩ r.2⟩
  | .free ptr => some ⟨c.store.rtFree ptr, drop c.held ptr⟩
  | .freeAlign ptr => some ⟨c.store.rtFreeAlign ptr, drop c.held ptr⟩
  | .write o v => some { c with store := c.store.write o 1 fun _ => v }

/-- The pointer is null, or held and of the given kind. -/
def IsHeld (c : Client) (aligned : Bool) (ptr : Option ℕ) : Prop :=
  ∀ q ∈ ptr, ∃ g, c.held q = some g ∧ g.aligned = aligned

/-- Sizes may be anything, and an alignment is a power of two; a pointer is handed back to the call it
belongs to, and writes are to the bytes that were asked for. -/
def Valid (c : Client) : Action → Prop
  | .malloc _ => True
  | .realloc ptr _ => IsHeld c false ptr
  | .calloc _ _ => True
  | .mallocAlign _ align => align.toNat.isPowerOfTwo
  | .free ptr => IsHeld c false ptr
  | .freeAlign ptr => IsHeld c true ptr
  | .write o _ => ∃ q g, c.held q = some g ∧ q ≤ o ∧ o < q + g.bytes

/-- A call of the heap with this size is refused. -/
def Refused (m : SmallMem) (size : ℕ) : Prop := size = 0 ∨ ∀ o, ¬ Fits m (needed size) o

/-- The sizes the call adds, multiplies and rounds stay below `2 ^ 32`, or it is refused whatever they
have become. -/
def InRange (c : Client) : Action → Prop
  | .malloc size => size.toNat ≤ 4294967288 ∨ Refused c.store.mem size.toNat
  | .calloc count size =>
    count.toNat * size.toNat ≤ 4294967288 ∨
      Refused c.store.mem (Store.mul32 count.toNat size.toNat)
  | .mallocAlign size align =>
    (size.toNat + 3) / 4 * 4 + (align.toNat + 3) / 4 * 4 ≤ 4294967288 ∨
      Refused c.store.mem (Store.alignSize size.toNat align.toNat)
  | _ => True

/-- A result that is not null is a live block with `n` bytes from there on. -/
def Enough (n : ℕ) (r : Store × Option ℕ) : Prop :=
  ∀ q, r.2 = some q → Live r.1.mem q ∧ n ≤ payloadSize r.1.mem q

/-- The `n` bytes at `q` are in the block `p`, behind the place of a pointer. -/
def Within (m : SmallMem) (p q n : ℕ) : Prop :=
  Live m p ∧ p + Store.sizeofPtr ≤ q ∧ q + n ≤ p + payloadSize m p

/-- What is promised of a request. -/
def Adequate (c : Client) : Action → Prop
  | .malloc size => ∃ r, c.store.rtMalloc size.toNat = some r ∧ Enough size.toNat r
  | .realloc ptr newsize =>
    ∃ r, c.store.rtRealloc ptr newsize.toNat = some r ∧ Enough newsize.toNat r
  | .calloc count size =>
    ∃ r, c.store.rtCalloc count.toNat size.toNat = some r ∧ Enough (count.toNat * size.toNat) r
  | .mallocAlign size align =>
    ∃ r, c.store.rtMallocAlign size.toNat align.toNat = some r ∧
      ∀ q, r.2 = some q → r.1.addrOf q % align.toNat = 0 ∧ ∃ p, Within r.1.mem p q size.toNat
  | .freeAlign (some q) =>
    -- the block the pointer is in is released, and no other
    ∃ g p, c.held q = some g ∧ Within c.store.mem p q g.bytes ∧
      c.store.rtFreeAlign (some q) = c.store.rtFree (some p) ∧
      ∀ x, Live (c.store.rtFreeAlign (some q)).mem x ↔ Live c.store.mem x ∧ x ≠ p
  | _ => True

end Client

end N32L43x.Mem
