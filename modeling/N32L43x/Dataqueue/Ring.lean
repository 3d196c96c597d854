import N32L43x.Lib.Ring
import N32L43x.Dataqueue.Defs

/-!
The ring of a data queue.  An index has 15 bits, so the ring has at most 32768 places, however long the
queue should be.
-/

namespace N32L43x.Dataqueue

open N32L43x.Lib.Ring

variable {Ag : Type*} {q : RtDataQueue Ag} {items : List RtDataItem} {cap : ℕ}

/-- The queue holds these items in a ring of `cap` places, the first one to be popped next. -/
structure OnRing (q : RtDataQueue Ag) (cap : ℕ) (items : List RtDataItem) : Prop where
  get_lt : q.getIndex < cap
  length_le : items.length ≤ cap
  putIndex : q.putIndex = (q.getIndex + items.length) % cap
  isEmpty : q.isEmpty = true ↔ items.length = 0
  isFull : q.isFull = true ↔ items.length = cap
  contents : contents q.queue cap q.getIndex items.length = items

/-- A flag that is set if a condition holds and was not set before. -/
lemma flag_iff {p r : Prop} [Decidable p] {b : Bool} (hb : b = false) (h : p ↔ r) :
    (if p then true else b) = true ↔ r := by
  rw [hb, ← h]
  simp

lemma OnRing.cap_pos (h : OnRing q cap items) : 0 < cap := Nat.zero_lt_of_lt h.get_lt

lemma OnRing.put_lt (h : OnRing q cap items) : q.putIndex < cap := by
  rw [h.putIndex]
  exact Nat.mod_lt _ h.cap_pos

lemma OnRing.putIndex_eq_ite (h : OnRing q cap items) : q.putIndex =
    if q.getIndex + items.length < cap then q.getIndex + items.length
    else q.getIndex + items.length - cap := by
  have hget := h.get_lt
  have hlen := h.length_le
  rw [h.putIndex]
  exact mod_eq_ite (by omega)

lemma OnRing.length_lt (h : OnRing q cap items) (hroom : q.isFull = false) : items.length < cap := by
  apply lt_of_le_of_ne h.length_le
  intro hfull
  cases hroom.symm.trans (h.isFull.mpr hfull)

lemma OnRing.put (h : OnRing q cap items) (hroom : q.isFull = false)
    (hnext : nextIndex q.size q.putIndex = (q.putIndex + 1) % cap) (item : RtDataItem) :
    OnRing (put q item) cap (items ++ [item]) := by
  have hget := h.get_lt
  have hlt := h.length_lt hroom
  have hnext' : nextIndex q.size q.putIndex = (q.getIndex + (items.length + 1)) % cap := by
    rw [hnext, h.putIndex, Nat.mod_add_mod, Nat.add_assoc]
  have hlength : (items ++ [item]).length = items.length + 1 := by simp
  have hfull : nextIndex q.size q.putIndex = q.getIndex ↔ items.length + 1 = cap := by
    rw [hnext', mod_eq_ite (by omega)]
    split <;> omega
  refine ⟨hget, ?_, ?_, ?_, ?_, ?_⟩
  · rw [hlength]
    exact hlt
  · rw [hlength]
    exact hnext'
  · rw [hlength]
    exact iff_of_false (fun hc => by cases hc) (Nat.succ_ne_zero _)
  · rw [hlength]
    exact flag_iff hroom hfull
  · rw [hlength]
    show Lib.Ring.contents (Function.update q.queue q.putIndex item) cap q.getIndex (items.length + 1) = _
    rw [h.putIndex, contents_push_back hlt, h.contents]

lemma OnRing.take (h : OnRing q cap items) (hsome : q.isEmpty = false)
    (hnext : nextIndex q.size q.getIndex = (q.getIndex + 1) % cap) :
    ∃ rest, items = q.queue q.getIndex :: rest ∧ OnRing (take q) cap rest := by
  have hget := h.get_lt
  have heq := h.putIndex_eq_ite
  have hlen := h.length_le
  cases items with
  | nil =>
    cases hsome.symm.trans (h.isEmpty.mpr rfl)
  | cons item rest =>
    have hcontents := h.contents
    rw [List.length_cons, contents_succ, Nat.mod_eq_of_lt hget] at hcontents
    obtain ⟨hhead, htail⟩ := List.cons.inj hcontents
    rw [List.length_cons] at heq hlen
    have hwrap := mod_eq_ite (show q.getIndex + 1 < 2 * cap by omega)
    have hempty : q.putIndex = nextIndex q.size q.getIndex ↔ rest.length = 0 := by
      rw [hnext, hwrap]
      split at heq <;> split <;> omega
    refine ⟨rest, by rw [hhead], ?_, ?_, ?_, ?_, ?_, ?_⟩
    · show nextIndex q.size q.getIndex < cap
      rw [hnext]
      exact Nat.mod_lt _ h.cap_pos
    · show rest.length ≤ cap
      omega
    · show q.putIndex = (nextIndex q.size q.getIndex + rest.length) % cap
      rw [hnext, Nat.mod_add_mod, h.putIndex, List.length_cons]
      congr 1
      omega
    · exact flag_iff hsome hempty
    · refine iff_of_false (fun hc => by cases hc) ?_
      show rest.length ≠ cap
      omega
    · show Lib.Ring.contents q.queue cap (nextIndex q.size q.getIndex) rest.length = rest
      rw [hnext]
      exact htail

lemma OnRing.reset (h : OnRing q cap items) : OnRing
    { q with getIndex := 0, putIndex := 0, isEmpty := true, isFull := false } cap [] := by
  refine ⟨h.cap_pos, Nat.zero_le _, (Nat.zero_mod _).symm, iff_of_true rfl rfl, ?_, rfl⟩
  exact iff_of_false (fun hc => by cases hc) h.cap_pos.ne

/-- How many places the ring has. -/
def capacity (size : ℕ) : ℕ := if size ≤ 0x8000 then size else 0x8000

/-- The next index, as the code has it. -/
lemma nextIndex_capacity {size index : ℕ} (hlt : index < capacity size) :
    nextIndex size index = (index + 1) % capacity size := by
  by_cases hle : size ≤ 0x8000
  · rw [show capacity size = size from if_pos hle] at hlt ⊢
    simp only [nextIndex]
    by_cases hwrap : index + 1 = size
    · rw [hwrap, Nat.mod_self]
      by_cases hsize : size = 0x8000
      · rw [hsize, Nat.mod_self, if_neg (by decide)]
      · rw [Nat.mod_eq_of_lt (by omega), if_pos rfl]
    · rw [Nat.mod_eq_of_lt (show index + 1 < 0x8000 by omega), if_neg hwrap, Nat.mod_eq_of_lt (by omega)]
  · rw [show capacity size = 0x8000 from if_neg hle] at hlt ⊢
    simp only [nextIndex]
    rw [if_neg (by omega)]

end N32L43x.Dataqueue
