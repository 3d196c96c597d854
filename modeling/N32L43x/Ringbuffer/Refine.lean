import N32L43x.Ringbuffer.Defs
import N32L43x.Lib.Ring
import N32L43x.Lib.Run

/-!
The ring buffer is a queue of bytes.
-/

namespace N32L43x.Ringbuffer

open N32L43x.Lib N32L43x.Lib.Ring

/-- The buffer holds a queue.  The mirrors differ when it goes round the end of the buffer. -/
structure Holds (rb : RtRingbuffer) (queue : List Byte) : Prop where
  bounds : rb.readIndex < rb.bufferSize ∧ rb.bufferSize < 0x80000000
  length : queue.length ≤ rb.bufferSize
  write : rb.writeIndex = (rb.readIndex + queue.length) % rb.bufferSize
  mirror : rb.readMirror = rb.writeMirror ↔ rb.readIndex + queue.length < rb.bufferSize
  contents : contents rb.bufferPtr rb.bufferSize rb.readIndex queue.length = queue

variable {rb rb' : RtRingbuffer} {queue ptr : List Byte}

/-! ### Copying -/

lemma index_eq {n : ℕ} (h : n < 0x80000000) : index n = n := Nat.mod_eq_of_lt h

lemma rtMemcpy_of_lt {dst : ℕ → Byte} {offset i : ℕ} (h : i < offset ∨ offset + ptr.length ≤ i) :
    rtMemcpy dst offset ptr i = dst i := by
  unfold rtMemcpy
  split
  · rw [List.getElem?_eq_none (by omega)]
    rfl
  · rfl

lemma rtMemcpy_of_mem {dst : ℕ → Byte} {offset j : ℕ} (h : j < ptr.length) :
    rtMemcpy dst offset ptr (offset + j) = ptr[j] := by
  unfold rtMemcpy
  rw [if_pos (Nat.le_add_right ..), Nat.add_sub_cancel_left, List.getElem?_eq_getElem h]
  rfl

lemma written_rtMemcpy (dst : ℕ → Byte) {size offset : ℕ} (h : offset + ptr.length ≤ size) :
    Written dst (rtMemcpy dst offset ptr) size offset ptr := by
  refine ⟨fun j hj => ?_, fun c hc => ?_⟩
  · rw [Nat.mod_eq_of_lt (by omega)]
    exact rtMemcpy_of_mem hj
  · apply rtMemcpy_of_lt
    by_contra hin
    push Not at hin
    apply hc (c - offset) (by omega)
    rw [Nat.mod_eq_of_lt (by omega)]
    omega

/-- In two parts, where `first` bytes fit before the end of the buffer. -/
lemma written_rtMemcpy_two (dst : ℕ → Byte) {size offset first : ℕ} (hfirst : offset + first = size)
    (hle : first ≤ ptr.length) (hfit : ptr.length ≤ size) :
    Written dst (rtMemcpy (rtMemcpy dst offset (ptr.take first)) 0 (ptr.drop first)) size offset ptr := by
  have htake : (ptr.take first).length = first := by simp [hle]
  have hdrop : (ptr.drop first).length = ptr.length - first := by simp
  refine ⟨fun j hj => ?_, fun c hc => ?_⟩
  · by_cases hj' : j < first
    · rw [Nat.mod_eq_of_lt (by omega), rtMemcpy_of_lt (.inr (by omega)),
        rtMemcpy_of_mem (by omega), List.getElem_take]
    · have hmod : (offset + j) % size = 0 + (j - first) := by
        rw [Nat.mod_eq_sub_mod (by omega), Nat.mod_eq_of_lt (by omega)]
        omega
      rw [hmod, rtMemcpy_of_mem (by omega), List.getElem_drop]
      congr 1
      omega
  · have hhigh : c < offset ∨ offset + first ≤ c := by
      by_contra hin
      push Not at hin
      apply hc (c - offset) (by omega)
      rw [Nat.mod_eq_of_lt (by omega)]
      omega
    have hlow : 0 + (ptr.length - first) ≤ c := by
      by_contra hin
      apply hc (first + c) (by omega)
      rw [Nat.mod_eq_sub_mod (by omega), Nat.mod_eq_of_lt (by omega)]
      omega
    rw [rtMemcpy_of_lt (.inr (by omega)), rtMemcpy_of_lt (by omega)]

/-- The bytes are written from the write offset on. -/
structure CopiesIn (rb rb' : RtRingbuffer) (ptr : List Byte) : Prop where
  written : Written rb.bufferPtr rb'.bufferPtr rb.bufferSize rb.writeIndex ptr
  writeIndex : rb'.writeIndex = (rb.writeIndex + ptr.length) % rb.bufferSize
  writeMirror : rb'.writeMirror =
    xor rb.writeMirror (decide (rb.bufferSize ≤ rb.writeIndex + ptr.length))
  bufferSize : rb'.bufferSize = rb.bufferSize
  readIndex : rb'.readIndex = rb.readIndex
  readMirror : rb'.readMirror = rb.readMirror

lemma Holds.write_lt (h : Holds rb queue) : rb.writeIndex < rb.bufferSize := by
  rw [h.write]
  exact Nat.mod_lt _ (Nat.zero_lt_of_lt h.bounds.1)

lemma Holds.copiesIn (h : Holds rb queue) (hfit : ptr.length ≤ rb.bufferSize) :
    CopiesIn rb (copyIn rb ptr) ptr := by
  have hlt := h.write_lt
  have hbound := h.bounds.2
  unfold copyIn
  split
  · rename_i hroom
    refine ⟨written_rtMemcpy _ (by omega), ?_, ?_, rfl, rfl, rfl⟩
    · simp only
      rw [index_eq (by omega), Nat.mod_eq_of_lt (by omega)]
    · simp only
      rw [decide_eq_false (by omega), Bool.xor_false]
  · rename_i hroom
    refine ⟨written_rtMemcpy_two _ (by omega) (by omega) hfit, ?_, ?_, rfl, rfl, rfl⟩
    · simp only
      rw [index_eq (by omega), Nat.mod_eq_sub_mod (by omega), Nat.mod_eq_of_lt (by omega)]
      omega
    · simp only
      rw [decide_eq_true (by omega), Bool.xor_true]

/-- **A write**, after which the first `d` bytes are given up. -/
lemma Holds.written (h : Holds rb queue) {rb₁ : RtRingbuffer} (hcopy : CopiesIn rb rb₁ ptr) {d : ℕ}
    (hd : d ≤ queue.length) (hfit : queue.length + ptr.length ≤ rb.bufferSize + d)
    (hptr : rb'.bufferPtr = rb₁.bufferPtr) (hsize : rb'.bufferSize = rb.bufferSize)
    (hwi : rb'.writeIndex = rb₁.writeIndex) (hwm : rb'.writeMirror = rb₁.writeMirror)
    (hri : rb'.readIndex = (rb.readIndex + d) % rb.bufferSize)
    (hrm : rb'.readMirror = xor rb.readMirror (decide (rb.bufferSize ≤ rb.readIndex + d))) :
    Holds rb' ((queue ++ ptr).drop d) := by
  have hlt := h.write_lt
  have hread := h.bounds.1
  have hlen := h.length
  have hptrlen : ptr.length ≤ rb.bufferSize := by omega
  have hlength : ((queue ++ ptr).drop d).length = queue.length + ptr.length - d := by simp
  have hwrite : rb.writeIndex = if rb.readIndex + queue.length < rb.bufferSize then
      rb.readIndex + queue.length else rb.readIndex + queue.length - rb.bufferSize := by
    rw [h.write, mod_eq_ite (by omega)]
  rw [hcopy.writeIndex, mod_eq_ite (by omega)] at hwi
  have hri' := hri
  rw [mod_eq_ite (by omega)] at hri
  have hmirror := h.mirror
  refine ⟨⟨?_, ?_⟩, ?_, ?_, ?_, ?_⟩
  · rw [hri', hsize]
    exact Nat.mod_lt _ (by omega)
  · rw [hsize]
    exact h.bounds.2
  · rw [hlength, hsize]
    omega
  · rw [hlength, hsize, mod_eq_ite (by split at hri <;> omega)]
    split at hri <;> split at hwi <;> split at hwrite <;> split <;> omega
  · rw [hlength, hsize, hrm, hwm, hcopy.writeMirror]
    cases hr : rb.readMirror <;> cases hw : rb.writeMirror <;>
      by_cases h₁ : rb.bufferSize ≤ rb.readIndex + d <;>
      by_cases h₂ : rb.bufferSize ≤ rb.writeIndex + ptr.length <;>
      simp only [hr, hw, h₁, h₂, decide_true, decide_false, Bool.xor_true, Bool.xor_false,
        Bool.not_true, Bool.not_false, Bool.true_eq_false, Bool.false_eq_true, true_iff,
        false_iff] at hmirror ⊢ <;> split at hri <;> split at hwrite <;> omega
  · rw [hlength, hptr, hsize, hri']
    have hw := hcopy.written
    rw [h.write] at hw
    rw [contents_written hw (by omega) hfit, h.contents]

/-- The bytes at the beginning are given up. -/
lemma Holds.dropped (h : Holds rb queue) {d : ℕ} (hd : d ≤ queue.length)
    (hptr : rb'.bufferPtr = rb.bufferPtr) (hsize : rb'.bufferSize = rb.bufferSize)
    (hwi : rb'.writeIndex = rb.writeIndex) (hwm : rb'.writeMirror = rb.writeMirror)
    (hri : rb'.readIndex = (rb.readIndex + d) % rb.bufferSize)
    (hrm : rb'.readMirror = xor rb.readMirror (decide (rb.bufferSize ≤ rb.readIndex + d))) :
    Holds rb' (queue.drop d) := by
  have hlen := h.length
  have hcopy : CopiesIn rb rb [] := by
    refine ⟨written_nil .., ?_, ?_, rfl, rfl, rfl⟩
    · exact (Nat.mod_eq_of_lt h.write_lt).symm
    · rw [decide_eq_false (by simpa using h.write_lt), Bool.xor_false]
  have hwritten := h.written hcopy hd (by simp; omega) hptr hsize hwi hwm hri hrm
  rwa [List.append_nil] at hwritten

/-! ### Reading -/

lemma Holds.dataLen (h : Holds rb queue) : rtRingbufferDataLen rb = queue.length := by
  have hread := h.bounds.1
  have hlen := h.length
  have hmirror := h.mirror
  have hwrite := h.write
  rw [mod_eq_ite (by omega)] at hwrite
  unfold rtRingbufferDataLen rtRingbufferStatus
  by_cases hsame : rb.readMirror = rb.writeMirror
  · have hlow := hmirror.mp hsame
    rw [if_pos hlow] at hwrite
    by_cases heq : rb.readIndex = rb.writeIndex
    · simp only [heq, hsame, if_true]
      omega
    · simp only [heq, if_false]
      split <;> omega
  · have hhigh : ¬ rb.readIndex + queue.length < rb.bufferSize := fun hlow => hsame (hmirror.mpr hlow)
    rw [if_neg hhigh] at hwrite
    by_cases heq : rb.readIndex = rb.writeIndex
    · simp only [heq, hsame, if_true, if_false]
      omega
    · simp only [heq, if_false]
      split <;> omega

lemma Holds.spaceLen (h : Holds rb queue) :
    rtRingbufferSpaceLen rb = rb.bufferSize - queue.length := by
  unfold rtRingbufferSpaceLen
  rw [h.dataLen]

lemma Holds.bytesAt (h : Holds rb queue) {n : ℕ} (hn : n ≤ queue.length)
    (hfit : rb.readIndex + n ≤ rb.bufferSize) : bytesAt rb.bufferPtr rb.readIndex n = queue.take n := by
  have hcontents := h.contents
  rw [← hcontents, take_contents hn, contents_of_le hfit]
  rfl

/-- In two parts. -/
lemma Holds.bytesAt_two (h : Holds rb queue) {n first : ℕ} (hn : n ≤ queue.length)
    (hfirst : rb.readIndex + first = rb.bufferSize) (hle : first ≤ n) :
    Ringbuffer.bytesAt rb.bufferPtr rb.readIndex first ++
      Ringbuffer.bytesAt rb.bufferPtr 0 (n - first) = queue.take n := by
  have hlen := h.length
  have hread := h.bounds.1
  have hsecond : (rb.readIndex + first) % rb.bufferSize = 0 := by
    rw [hfirst]
    exact Nat.mod_self _
  have hlow : Ring.contents rb.bufferPtr rb.bufferSize 0 (n - first) =
      Ringbuffer.bytesAt rb.bufferPtr 0 (n - first) := contents_of_le (by omega)
  have hn' : n = first + (n - first) := by omega
  have hcontents := h.contents
  rw [h.bytesAt (by omega) (by omega), ← hcontents, take_contents (by omega), take_contents hn, ← hlow]
  conv_rhs => rw [hn', contents_add, hsecond]

/-! ### The calls -/

/-- How many bytes from the first one on may lie together. -/
def RtRingbuffer.together (rb : RtRingbuffer) : ℕ := rb.bufferSize - rb.readIndex

/-- A call does to the buffer what the specification does to the queue. -/
def Refines (rb : RtRingbuffer) (queue : List Byte) (op : Op) : Prop :=
  Holds (call rb op).1 (apply rb.bufferSize rb.together queue op).1 ∧
    (call rb op).2 = (apply rb.bufferSize rb.together queue op).2

lemma Holds.copyIn (h : Holds rb queue) (hfit : queue.length + ptr.length ≤ rb.bufferSize) :
    Holds (Ringbuffer.copyIn rb ptr) (queue ++ ptr) := by
  have hcopy : CopiesIn rb (Ringbuffer.copyIn rb ptr) ptr := h.copiesIn (by omega)
  have hread := h.bounds.1
  refine h.written hcopy (Nat.zero_le _) hfit rfl hcopy.bufferSize rfl rfl ?_ ?_
  · rw [hcopy.readIndex, Nat.add_zero, Nat.mod_eq_of_lt hread]
  · rw [hcopy.readMirror, decide_eq_false (by omega), Bool.xor_false]

lemma Holds.put (h : Holds rb queue) (ptr : List Byte) : Refines rb queue (.put ptr) := by
  have hlen := h.length
  unfold Refines
  simp only [call, apply, rtRingbufferPut, h.spaceLen]
  by_cases hfull : rb.bufferSize - queue.length = 0
  · simp only [hfull, if_true, Nat.min_zero, List.take_zero, List.append_nil]
    exact ⟨h, trivial⟩
  · simp only [hfull, if_false]
    by_cases hmore : rb.bufferSize - queue.length < ptr.length
    · have htake : (ptr.take (rb.bufferSize - queue.length)).length = rb.bufferSize - queue.length := by
        simp [hmore.le]
      simp only [if_pos hmore, Nat.min_eq_right hmore.le, htake]
      exact ⟨h.copyIn (by omega), trivial⟩
    · rw [if_neg hmore, Nat.min_eq_left (by omega), List.take_length]
      exact ⟨h.copyIn (by omega), rfl⟩

/-- `rt_ringbuffer_put_force`, of no more bytes than the buffer has. -/
lemma Holds.putForce_of_le (h : Holds rb queue) (hfit : ptr.length ≤ rb.bufferSize) :
    Holds (rtRingbufferPutForce rb ptr).1
        ((queue ++ ptr).drop (queue.length + ptr.length - rb.bufferSize)) ∧
      (rtRingbufferPutForce rb ptr).2 = ptr.length := by
  have hlen := h.length
  have hread := h.bounds.1
  have hlt := h.write_lt
  have hcopy := h.copiesIn hfit
  have hnot : ¬ ptr.length > rb.bufferSize := by omega
  unfold rtRingbufferPutForce
  simp only [if_neg hnot, h.spaceLen]
  refine ⟨?_, trivial⟩
  by_cases hover : ptr.length > rb.bufferSize - queue.length
  · rw [if_pos hover]
    have hwrite := h.write
    rw [mod_eq_ite (by omega)] at hwrite
    have hwi := hcopy.writeIndex
    rw [mod_eq_ite (by omega)] at hwi
    refine h.written hcopy (by omega) (by omega) rfl hcopy.bufferSize rfl rfl ?_ ?_
    · simp only
      rw [hwi, mod_eq_ite (by omega)]
      split at hwrite <;> split <;> split <;> omega
    · simp only [hcopy.readMirror, hcopy.readIndex, hwi]
      by_cases hround : rb.bufferSize ≤ rb.readIndex + (queue.length + ptr.length - rb.bufferSize)
      · rw [decide_eq_true hround, Bool.xor_true, if_pos]
        refine ⟨?_, ?_⟩ <;> split at hwrite <;> first | omega | (split <;> omega)
      · rw [decide_eq_false hround, Bool.xor_false, if_neg]
        rintro ⟨hwraps, hle⟩
        split at hwrite <;> split at hle <;> omega
  · rw [if_neg hover]
    have hzero : queue.length + ptr.length - rb.bufferSize = 0 := by omega
    rw [hzero, List.drop_zero]
    exact h.copyIn (by omega)

lemma Holds.putForce (h : Holds rb queue) (ptr : List Byte) : Refines rb queue (.putForce ptr) := by
  have hlen := h.length
  unfold Refines
  simp only [call, apply, List.length_append]
  by_cases hlong : ptr.length > rb.bufferSize
  · -- only the last bytes are written
    have hdrop : (ptr.drop (ptr.length - rb.bufferSize)).length = rb.bufferSize := by
      simp
      omega
    have hlast : rtRingbufferPutForce rb ptr =
        rtRingbufferPutForce rb (ptr.drop (ptr.length - rb.bufferSize)) := by
      unfold rtRingbufferPutForce
      simp only [if_pos hlong, hdrop, gt_iff_lt, lt_self_iff_false, if_false]
    obtain ⟨hholds, hret⟩ := h.putForce_of_le hdrop.le
    rw [hlast, hret, hdrop, Nat.min_eq_right hlong.le]
    refine ⟨?_, rfl⟩
    rw [hdrop, Nat.add_sub_cancel] at hholds
    have hqueue : (queue ++ ptr).drop (queue.length + ptr.length - rb.bufferSize) =
        (queue ++ ptr.drop (ptr.length - rb.bufferSize)).drop queue.length := by
      have hsub : queue.length + ptr.length - rb.bufferSize =
          queue.length + (ptr.length - rb.bufferSize) := by omega
      rw [hsub, ← List.drop_drop, List.drop_left, List.drop_left]
    rw [hqueue]
    exact hholds
  · obtain ⟨hholds, hret⟩ := h.putForce_of_le (not_lt.mp hlong)
    rw [hret, Nat.min_eq_left (by omega)]
    exact ⟨hholds, rfl⟩

/-- Removing from the front, in the two ways that `rt_ringbuffer_get` does it. -/
lemma Holds.removed (h : Holds rb queue) {n : ℕ} (hn : n ≤ queue.length) :
    (rb.bufferSize - rb.readIndex > n →
      Holds { rb with readIndex := index (rb.readIndex + n) } (queue.drop n)) ∧
    (¬ rb.bufferSize - rb.readIndex > n →
      Holds { rb with
          readMirror := !rb.readMirror
          readIndex := index (n - (rb.bufferSize - rb.readIndex)) } (queue.drop n)) := by
  have hread := h.bounds.1
  have hbound := h.bounds.2
  have hlen := h.length
  refine ⟨fun hroom => h.dropped hn rfl rfl rfl rfl ?_ ?_, fun hround => h.dropped hn rfl rfl rfl rfl ?_ ?_⟩
  · simp only
    rw [index_eq (by omega), Nat.mod_eq_of_lt (by omega)]
  · simp only
    rw [decide_eq_false (by omega), Bool.xor_false]
  · simp only
    rw [index_eq (by omega), mod_eq_ite (by omega), if_neg (by omega)]
    omega
  · simp only
    rw [decide_eq_true (by omega), Bool.xor_true]

lemma Holds.get (h : Holds rb queue) (length : ℕ) : Refines rb queue (.get length) := by
  have hread := h.bounds.1
  unfold Refines
  simp only [call, apply, rtRingbufferGet, h.dataLen]
  by_cases hempty : queue.length = 0
  · obtain rfl := List.length_eq_zero_iff.mp hempty
    simp only [hempty, if_true, List.drop_nil, List.take_nil, Nat.min_zero]
    exact ⟨h, trivial⟩
  · simp only [hempty, if_false]
    have hmin : (if queue.length < length then queue.length else length) = min length queue.length := by
      split <;> omega
    have hle : min length queue.length ≤ queue.length := Nat.min_le_right ..
    obtain ⟨hroom, hround⟩ := h.removed hle
    have hdrop : queue.drop (min length queue.length) = queue.drop length := by
      rcases Nat.le_total length queue.length with hl | hl
      · rw [Nat.min_eq_left hl]
      · rw [Nat.min_eq_right hl, List.drop_length, List.drop_eq_nil_of_le hl]
    have htake : queue.take (min length queue.length) = queue.take length := by
      rw [← List.take_take, List.take_length]
    rw [hdrop] at hroom hround
    rw [hmin]
    split
    · rename_i hlt
      refine ⟨hroom hlt, ?_⟩
      rw [h.bytesAt hle (by omega), htake]
    · rename_i hlt
      refine ⟨hround hlt, ?_⟩
      rw [h.bytesAt_two hle (by omega) (by omega), htake]

lemma Holds.peek (h : Holds rb queue) : Refines rb queue .peek := by
  have hread := h.bounds.1
  have hlen := h.length
  unfold Refines RtRingbuffer.together
  simp only [call, apply, rtRingbufferPeek, h.dataLen]
  by_cases hempty : queue.length = 0
  · obtain rfl := List.length_eq_zero_iff.mp hempty
    simp only [List.length_nil, if_true, List.drop_nil, List.take_nil, Nat.min_zero]
    exact ⟨h, rfl⟩
  · simp only [hempty, if_false]
    split
    · rename_i hlt
      obtain ⟨hroom, -⟩ := h.removed (Nat.le_refl queue.length)
      rw [List.drop_length] at hroom
      rw [List.drop_eq_nil_of_le (by omega), List.take_of_length_le (by omega), Nat.min_eq_right (by omega)]
      refine ⟨hroom hlt, ?_⟩
      simp only [Option.elim_some]
      rw [h.bytesAt (Nat.le_refl _) (by omega), List.take_length]
    · rename_i hlt
      have hle : rb.bufferSize - rb.readIndex ≤ queue.length := by omega
      obtain ⟨-, hround⟩ := h.removed hle
      rw [Nat.min_eq_left hle]
      refine ⟨?_, ?_⟩
      · have hholds := hround (lt_irrefl _)
        rwa [Nat.sub_self] at hholds
      · simp only [Option.elim_some]
        rw [h.bytesAt hle (by omega)]

/-- A byte is written at the write offset, which moves on. -/
lemma Holds.copiesIn_byte (h : Holds rb queue) (ch : Byte) : CopiesIn rb
    (if rb.writeIndex = rb.bufferSize - 1 then
      { rb with
        bufferPtr := Function.update rb.bufferPtr rb.writeIndex ch
        writeMirror := !rb.writeMirror
        writeIndex := 0 }
    else
      { rb with
        bufferPtr := Function.update rb.bufferPtr rb.writeIndex ch
        writeIndex := index (rb.writeIndex + 1) }) [ch] := by
  have hlt := h.write_lt
  have hbound := h.bounds.2
  split
  · refine ⟨written_update hlt ch, ?_, ?_, rfl, rfl, rfl⟩
    · simp only [List.length_singleton]
      rw [Nat.mod_eq_sub_mod (by omega), Nat.mod_eq_of_lt (by omega)]
      omega
    · simp only [List.length_singleton]
      rw [decide_eq_true (by omega), Bool.xor_true]
  · refine ⟨written_update hlt ch, ?_, ?_, rfl, rfl, rfl⟩
    · simp only [List.length_singleton]
      rw [index_eq (by omega), Nat.mod_eq_of_lt (by omega)]
    · simp only [List.length_singleton]
      rw [decide_eq_false (by omega), Bool.xor_false]

lemma Holds.status_full_iff (h : Holds rb queue) :
    rtRingbufferStatus rb = .full ↔ queue.length = rb.bufferSize := by
  have hread := h.bounds.1
  have hlen := h.length
  have hmirror := h.mirror
  have hwrite := h.write
  rw [mod_eq_ite (by omega)] at hwrite
  unfold rtRingbufferStatus
  constructor
  · intro hfull
    split at hfull
    · rename_i heq
      split at hfull
      · cases hfull
      · rename_i hdiff
        rw [hmirror] at hdiff
        rw [if_neg hdiff] at hwrite
        omega
    · cases hfull
  · intro hfull
    rw [if_neg (by omega)] at hwrite
    rw [if_pos (by omega), if_neg]
    rw [hmirror]
    omega

/-- A byte is written, over the first one if the buffer is full. -/
lemma Holds.written_byte (h : Holds rb queue) {rb₁ : RtRingbuffer} {ch : Byte}
    (hcopy : CopiesIn rb rb₁ [ch]) :
    (rtRingbufferStatus rb = .full → Holds
      { rb₁ with
        readMirror := xor rb.readMirror (decide (rb.bufferSize ≤ rb.writeIndex + 1))
        readIndex := rb₁.writeIndex } ((queue ++ [ch]).drop 1)) ∧
    (¬ rtRingbufferStatus rb = .full → Holds rb₁ (queue ++ [ch])) := by
  have hread := h.bounds.1
  have hlen := h.length
  have hlt := h.write_lt
  rw [h.status_full_iff]
  refine ⟨fun hfull => ?_, fun hfull => ?_⟩
  · have hwrite := h.write
    rw [hfull, Nat.add_mod_right, Nat.mod_eq_of_lt hread] at hwrite
    refine h.written hcopy (by omega) (by simp; omega) rfl hcopy.bufferSize rfl rfl ?_ ?_
    · simp only
      rw [hcopy.writeIndex, hwrite]
      rfl
    · simp only
      rw [hwrite]
  · have hholds := h.written hcopy (Nat.zero_le _) (by simp; omega) rfl hcopy.bufferSize rfl rfl
      (by rw [hcopy.readIndex, Nat.add_zero, Nat.mod_eq_of_lt hread])
      (by rw [hcopy.readMirror, decide_eq_false (by omega), Bool.xor_false])
    rwa [List.drop_zero] at hholds

lemma Holds.putchar (h : Holds rb queue) (ch : Byte) : Refines rb queue (.putchar ch) := by
  have hlen := h.length
  unfold Refines
  simp only [call, apply, rtRingbufferPutchar, h.spaceLen]
  by_cases hfull : rb.bufferSize - queue.length = 0
  · have hroom : ¬ queue.length < rb.bufferSize := by omega
    rw [if_pos hfull, if_neg hroom]
    exact ⟨h, rfl⟩
  · have hroom : queue.length < rb.bufferSize := by omega
    rw [if_neg hfull, if_pos hroom]
    have hcopy := h.copiesIn_byte ch
    have hholds := (h.written_byte hcopy).2 fun hstatus => by
      rw [h.status_full_iff] at hstatus
      omega
    split
    · rename_i hend
      rw [if_pos hend] at hholds
      exact ⟨hholds, rfl⟩
    · rename_i hend
      rw [if_neg hend] at hholds
      exact ⟨hholds, rfl⟩

lemma Holds.putcharForce (h : Holds rb queue) (ch : Byte) : Refines rb queue (.putcharForce ch) := by
  have hlen := h.length
  have hlt := h.write_lt
  have hcopy := h.copiesIn_byte ch
  have hdrop : (queue ++ [ch]).drop ((queue ++ [ch]).length - rb.bufferSize) =
      if rtRingbufferStatus rb = .full then (queue ++ [ch]).drop 1 else queue ++ [ch] := by
    rw [List.length_append, List.length_singleton]
    split
    · rename_i hfull
      have hfull := h.status_full_iff.mp hfull
      congr 1
      omega
    · rename_i hfull
      rw [h.status_full_iff] at hfull
      have hzero : queue.length + 1 - rb.bufferSize = 0 := by omega
      rw [hzero, List.drop_zero]
  unfold Refines
  simp only [call, apply]
  rw [hdrop]
  unfold rtRingbufferPutcharForce
  by_cases hend : rb.writeIndex = rb.bufferSize - 1
  · rw [if_pos hend] at hcopy
    obtain ⟨hfull, hroom⟩ := h.written_byte hcopy
    simp only [if_pos hend]
    split
    · rename_i hstatus
      have hholds := hfull hstatus
      rw [decide_eq_true (by omega), Bool.xor_true] at hholds
      exact ⟨hholds, rfl⟩
    · exact ⟨hroom ‹_›, rfl⟩
  · rw [if_neg hend] at hcopy
    obtain ⟨hfull, hroom⟩ := h.written_byte hcopy
    simp only [if_neg hend]
    split
    · rename_i hstatus
      have hholds := hfull hstatus
      rw [decide_eq_false (by omega), Bool.xor_false] at hholds
      exact ⟨hholds, rfl⟩
    · exact ⟨hroom ‹_›, rfl⟩

lemma Holds.getchar (h : Holds rb queue) : Refines rb queue .getchar := by
  have hread := h.bounds.1
  have hbound := h.bounds.2
  unfold Refines
  simp only [call, apply, rtRingbufferGetchar, h.dataLen]
  by_cases hempty : queue.length = 0
  · obtain rfl := List.length_eq_zero_iff.mp hempty
    simp only [List.length_nil, if_true, List.drop_nil, List.take_nil, Nat.min_zero]
    exact ⟨h, rfl⟩
  · have hle : 1 ≤ queue.length := by omega
    have hbyte := h.bytesAt hle (by omega)
    have hget : Ringbuffer.bytesAt rb.bufferPtr rb.readIndex 1 = [rb.bufferPtr rb.readIndex] := rfl
    simp only [hempty, if_false]
    rw [Nat.min_eq_left hle, ← hbyte, hget]
    split
    · rename_i hend
      refine ⟨h.dropped hle rfl rfl rfl rfl ?_ ?_, rfl⟩
      · simp only
        rw [mod_eq_ite (by omega), if_neg (by omega)]
        omega
      · simp only
        rw [decide_eq_true (by omega), Bool.xor_true]
    · rename_i hend
      refine ⟨h.dropped hle rfl rfl rfl rfl ?_ ?_, rfl⟩
      · simp only
        rw [index_eq (by omega), Nat.mod_eq_of_lt (by omega)]
      · simp only
        rw [decide_eq_false (by omega), Bool.xor_false]

lemma Holds.reset (h : Holds rb queue) : Holds (rtRingbufferReset rb) [] := by
  have hread := h.bounds.1
  exact ⟨⟨by simp only [rtRingbufferReset]; omega, h.bounds.2⟩, Nat.zero_le _, (Nat.zero_mod _).symm,
    ⟨fun _ => by simp only [rtRingbufferReset, List.length_nil]; omega, fun _ => rfl⟩, rfl⟩

lemma Holds.call (h : Holds rb queue) (op : Op) : Refines rb queue op := by
  cases op with
  | put ptr => exact h.put ptr
  | putForce ptr => exact h.putForce ptr
  | get length => exact h.get length
  | peek => exact h.peek
  | putchar ch => exact h.putchar ch
  | putcharForce ch => exact h.putcharForce ch
  | getchar => exact h.getchar
  | dataLen =>
    refine ⟨h, ?_⟩
    simp only [Ringbuffer.call, apply, h.dataLen]
  | reset => exact ⟨h.reset, rfl⟩

lemma copyIn_bufferSize (rb : RtRingbuffer) (ptr : List Byte) :
    (copyIn rb ptr).bufferSize = rb.bufferSize := by
  unfold copyIn
  split <;> rfl

lemma call_bufferSize (rb : RtRingbuffer) (op : Op) : (call rb op).1.bufferSize = rb.bufferSize := by
  cases op with
  | put ptr =>
    simp only [call, rtRingbufferPut]
    split
    · rfl
    · exact copyIn_bufferSize ..
  | putForce ptr =>
    simp only [call, rtRingbufferPutForce]
    split <;> split <;> exact copyIn_bufferSize ..
  | get length =>
    simp only [call, rtRingbufferGet]
    split
    · rfl
    split <;> split <;> rfl
  | peek =>
    simp only [call, rtRingbufferPeek]
    split
    · rfl
    split <;> rfl
  | putchar ch =>
    simp only [call, rtRingbufferPutchar]
    split
    · rfl
    split <;> rfl
  | putcharForce ch =>
    simp only [call, rtRingbufferPutcharForce]
    split <;> split <;> rfl
  | getchar =>
    simp only [call, rtRingbufferGetchar]
    split
    · rfl
    split <;> rfl
  | dataLen => rfl
  | reset => rfl

/-! ### Runs -/

/-- A call of a run: how many bytes lay together, and what it delivered. -/
structure Event where
  op : Op
  together : ℕ
  result : Result

/-- A step of a run. -/
def step (rb : RtRingbuffer) (op : Op) : Option RtRingbuffer := some (call rb op).1

/-- What is seen of it. -/
def label (rb : RtRingbuffer) (op : Op) (_ : RtRingbuffer) : List Event :=
  [⟨op, rb.together, (call rb op).2⟩]

/-- A step of the specification: the call must deliver what the queue says. -/
def specStep (capacity : ℕ) (queue : List Byte) (e : Event) : Option (List Byte) :=
  let (queue', result) := apply capacity e.together queue e.op
  if e.result = result then some queue' else none

/-- The offset of a byte of the queue. -/
def RtRingbuffer.cell (rb : RtRingbuffer) (i : ℕ) : ℕ := (rb.readIndex + i) % rb.bufferSize

/-- Bytes lie together up to the end of the buffer. -/
lemma Holds.together_iff (h : Holds rb queue) (n : ℕ) :
    (∀ i < n, rb.cell i = rb.readIndex + i) ↔ n ≤ rb.together := by
  have hread := h.bounds.1
  unfold RtRingbuffer.cell RtRingbuffer.together
  constructor
  · intro hall
    by_contra hn
    have hend := hall (rb.bufferSize - rb.readIndex) (by omega)
    rw [Nat.add_sub_cancel' hread.le, Nat.mod_self] at hend
    omega
  · intro hn i hi
    exact Nat.mod_eq_of_lt (by omega)

lemma holds_init (pool : ℕ → Byte) {size : ℕ} (h8 : 8 ≤ size) (hsize : size ≤ 32767) :
    Holds (rtRingbufferInit pool size) [] := by
  refine ⟨⟨?_, ?_⟩, Nat.zero_le _, ?_, ⟨fun _ => ?_, fun _ => rfl⟩, rfl⟩
  · simp only [rtRingbufferInit]
    omega
  · simp only [rtRingbufferInit]
    omega
  · simp only [rtRingbufferInit, List.length_nil, Nat.zero_add, Nat.zero_mod]
  · simp only [rtRingbufferInit, List.length_nil]
    omega

/-- A step of a buffer of this capacity is a step of its queue. -/
lemma sim_step {capacity : ℕ} {rb rb' : RtRingbuffer} {queue : List Byte} {op : Op}
    (hR : Holds rb queue ∧ rb.bufferSize = capacity) (hs : step rb op = some rb') :
    ∃ queue', Run.exec (specStep capacity) queue (label rb op rb') = some queue' ∧
      Holds rb' queue' ∧ rb'.bufferSize = capacity := by
  obtain ⟨hholds, rfl⟩ := hR
  obtain ⟨hholds', hresult⟩ := hholds.call op
  cases hs
  refine ⟨_, ?_, hholds', call_bufferSize rb op⟩
  simp only [label, Run.exec, specStep, hresult, if_true]

/-- Every sequence of calls does to the buffer what it does to a queue whose capacity is the size rounded
down to 8, and delivers the same; and how many bytes lie together is what a peek removes at most. -/
theorem ringbuffer_refines (pool : ℕ → Byte) {size : ℕ} (h8 : 8 ≤ size) (hsize : size ≤ 32767)
    (ops : List Op) : ∃ rb queue, Run.exec step (rtRingbufferInit pool size) ops = some rb ∧
      Run.exec (specStep (size - size % 8)) []
        (Run.observe step label (rtRingbufferInit pool size) ops) = some queue ∧
      Holds rb queue ∧ ∀ n, (∀ i < n, rb.cell i = rb.readIndex + i) ↔ n ≤ rb.together := by
  have hrun : ∃ rb, Run.exec step (rtRingbufferInit pool size) ops = some rb ∧ True :=
    Run.exec_total_of_along (fun _ _ _ _ => ⟨_, rfl, trivial⟩) ops _ trivial
      (Run.along_of_forall ops _ fun _ _ => trivial)
  obtain ⟨rb, hrun, -⟩ := hrun
  have hsim : ∀ (rb : RtRingbuffer) (op : Op) (rb' : RtRingbuffer) (queue : List Byte),
      (Holds rb queue ∧ rb.bufferSize = size - size % 8) → step rb op = some rb' →
      ∃ queue', Run.exec (specStep (size - size % 8)) queue (label rb op rb') = some queue' ∧
        Holds rb' queue' ∧ rb'.bufferSize = size - size % 8 :=
    fun _ _ _ _ hR hs => sim_step hR hs
  obtain ⟨queue, hspec, hholds, -⟩ :=
    Run.exec_simulates hsim ops _ rb [] ⟨holds_init pool h8 hsize, rfl⟩ hrun
  exact ⟨rb, queue, hrun, hspec, hholds, hholds.together_iff⟩

/-- A buffer of ten bytes holds eight: a put that fits, a peek, and a forced put that does not. -/
theorem ringbuffer_refines_ten :
    ∃ rb queue, Run.exec step (rtRingbufferInit (fun _ => 0) 10)
        [.put [1, 2, 3, 4, 5], .peek, .putForce [6, 7, 8, 9, 10, 11, 12, 13, 14]] = some rb ∧
      Run.exec (specStep (10 - 10 % 8)) []
        (Run.observe step label (rtRingbufferInit (fun _ => 0) 10)
          [.put [1, 2, 3, 4, 5], .peek, .putForce [6, 7, 8, 9, 10, 11, 12, 13, 14]])
        = some queue ∧
      Holds rb queue ∧ ∀ n, (∀ i < n, rb.cell i = rb.readIndex + i) ↔ n ≤ rb.together :=
  ringbuffer_refines (fun _ => 0) (by decide) (by decide)
    [.put [1, 2, 3, 4, 5], .peek, .putForce [6, 7, 8, 9, 10, 11, 12, 13, 14]]

end N32L43x.Ringbuffer
