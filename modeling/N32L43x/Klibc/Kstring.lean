import Mathlib.Data.UInt
import N32L43x.Lib.CString

/-!
The string functions of `rt-thread/src/klibc/kstring.c` that stop at a count.  A string is the array its
pointer points to, and an access that leaves the array gives `none`.
-/

namespace N32L43x.Klibc

open N32L43x.Lib.CString

/-- `while (--n != 0) *d++ = 0`, with the count that is left. -/
def fillZero : List UInt8 → ℕ → Option (List UInt8)
  | dst, 0 => some dst
  | _ :: dst, n + 1 => (fillZero dst n).map (0 :: ·)
  | [], _ + 1 => none

/-- `rt_strncpy`. -/
def rtStrncpy : List UInt8 → List UInt8 → ℕ → Option (List UInt8)
  | dst, _, 0 => some dst
  | _ :: dst, c :: src, n + 1 =>
    if c = 0 then (fillZero dst n).map (c :: ·) else (rtStrncpy dst src n).map (c :: ·)
  | _, _, _ + 1 => none

/-- `rt_strncmp`.  The difference is kept in a `signed char`. -/
def rtStrncmp : List UInt8 → List UInt8 → ℕ → Option Int8
  | _, _, 0 => some 0
  | c :: cs, d :: ct, count + 1 =>
    let res := (c - d).toInt8
    if res ≠ 0 ∨ c = 0 then some res else rtStrncmp cs ct count
  | _, _, _ + 1 => none

/-- `rt_strcmp`.  A `char` is unsigned on the target. -/
def rtStrcmp : List UInt8 → List UInt8 → Option ℤ
  | c :: cs, d :: ct => if c ≠ 0 ∧ c = d then rtStrcmp cs ct else some ((c.toNat : ℤ) - d.toNat)
  | _, _ => none

/-- The loop of `rt_strnlen`, with `sc - s`. -/
def strnlenLoop (maxlen : ℕ) : List UInt8 → ℕ → Option ℕ
  | c :: sc, len => if c ≠ 0 ∧ len < maxlen then strnlenLoop maxlen sc (len + 1) else some len
  | [], _ => none

/-- `rt_strnlen`. -/
def rtStrnlen (s : List UInt8) (maxlen : ℕ) : Option ℕ := strnlenLoop maxlen s 0

variable {n : ℕ} {text dst cs ct : List UInt8}

lemma fillZero_eq (h : n ≤ dst.length) :
    fillZero dst n = some (List.replicate n 0 ++ dst.drop n) := by
  induction n generalizing dst with
  | zero => simp [fillZero]
  | succ n ih =>
    cases dst with
    | nil => simp at h
    | cons d dst =>
      rw [fillZero, ih (by simpa using h)]
      rfl

/-- What `rt_strncpy` leaves: the characters that fit, zeros, and what was there behind them. -/
lemma rtStrncpy_eq (h0 : 0 ∉ text) (rest : List UInt8) (h : n ≤ dst.length) :
    rtStrncpy dst (text ++ 0 :: rest) n = some (pad n (text.take n) ++ dst.drop n) := by
  induction n generalizing dst text with
  | zero => simp [rtStrncpy, pad]
  | succ n ih =>
    cases dst with
    | nil => simp at h
    | cons d dst =>
      have hle : n ≤ dst.length := by simpa using h
      cases text with
      | nil =>
        rw [List.nil_append, rtStrncpy, if_pos rfl, fillZero_eq hle]
        simp [pad, List.replicate_succ]
      | cons c text =>
        have hc : c ≠ 0 := fun hc => h0 (hc ▸ List.mem_cons_self)
        rw [List.cons_append, rtStrncpy, if_neg hc, ih (fun hm => h0 (List.mem_cons_of_mem c hm)) hle]
        simp [pad]

lemma toInt8_sub_eq_zero (c d : UInt8) : (c - d).toInt8 = 0 ↔ c = d := by
  rw [← sub_eq_zero (a := c) (b := d)]
  exact ⟨fun h => UInt8.toBitVec_inj.mp (congrArg Int8.toBitVec h), fun h => congrArg UInt8.toInt8 h⟩

/-- A count of bytes of the string can be read, or fewer up to its end. -/
def Readable (n : ℕ) (a : List UInt8) : Prop := n ≤ a.length ∨ 0 ∈ a

/-- `rt_strncmp` compares what is in front of the ends of the strings, up to the count. -/
lemma rtStrncmp_eq_zero (hs : Readable n cs) (ht : Readable n ct) :
    ∃ res, rtStrncmp cs ct n = some res ∧
      (res = 0 ↔ (cString cs).take n = (cString ct).take n) := by
  induction n generalizing cs ct with
  | zero => exact ⟨0, by rw [rtStrncmp], by simp⟩
  | succ n ih =>
    cases cs with
    | nil => simp [Readable] at hs
    | cons c cs =>
      cases ct with
      | nil => simp [Readable] at ht
      | cons d ct =>
        by_cases hcd : c = d
        · subst hcd
          by_cases hc : c = 0
          · refine ⟨_, by rw [rtStrncmp, if_pos (Or.inr hc)], ?_⟩
            simp [hc, cString]
          · have hs' : Readable n cs := by
              rcases hs with hs | hs
              · exact .inl (by simpa using hs)
              · exact .inr ((List.mem_cons.mp hs).resolve_left (Ne.symm hc))
            have ht' : Readable n ct := by
              rcases ht with ht | ht
              · exact .inl (by simpa using ht)
              · exact .inr ((List.mem_cons.mp ht).resolve_left (Ne.symm hc))
            obtain ⟨res, hcmp, hiff⟩ := ih hs' ht'
            refine ⟨res, by rw [rtStrncmp, if_neg (by simp [hc]), hcmp], ?_⟩
            simpa [cString, hc] using hiff
        · have hres : (c - d).toInt8 ≠ 0 := fun h => hcd ((toInt8_sub_eq_zero c d).mp h)
          refine ⟨_, by rw [rtStrncmp, if_pos (Or.inl hres)], iff_of_false hres ?_⟩
          intro heq
          by_cases hc : c = 0
          · have hd : d ≠ 0 := fun hd => hcd (hc.trans hd.symm)
            simp [cString, hc, hd] at heq
          · by_cases hd : d = 0
            · simp [cString, hc, hd] at heq
            · simp [cString, hc, hd, hcd] at heq

end N32L43x.Klibc
