import N32L43x.Finsh.Line
import N32L43x.Lib.CommonPrefix

/-!
What a string is completed to: the longest common prefix of the names that begin with it.
-/

namespace N32L43x.Finsh

open N32L43x.Lib.CString N32L43x.Lib.CommonPrefix

variable {names : List CStr} {str text : List UInt8} {p : CStr} {n off : ℕ}

/-! ### Names -/

/-- The names that begin with a string. -/
def matching (names : List CStr) (str : List UInt8) : List (List UInt8) :=
  (names.map Subtype.val).filter fun name => str.isPrefixOf name

lemma mem_matching {name : List UInt8} :
    name ∈ matching names str ↔ (∃ h : 0 ∉ name, ⟨name, h⟩ ∈ names) ∧ str <+: name := by
  unfold matching
  rw [List.mem_filter, List.isPrefixOf_iff_prefix, List.mem_map]
  refine and_congr_left fun _ => ⟨?_, fun ⟨h, hmem⟩ => ⟨_, hmem, rfl⟩⟩
  rintro ⟨name, hmem, rfl⟩
  exact ⟨name.2, hmem⟩

lemma matching_cons_of_prefix {name : CStr} (h : str <+: name.1) :
    matching (name :: names) str = name.1 :: matching names str := by
  unfold matching
  rw [List.map_cons, List.filter_cons_of_pos (List.isPrefixOf_iff_prefix.mpr h)]

lemma matching_cons_of_not {name : CStr} (h : ¬ str <+: name.1) :
    matching (name :: names) str = matching names str := by
  unfold matching
  rw [List.map_cons, List.filter_cons_of_neg (mt List.isPrefixOf_iff_prefix.mp h)]

/-- The string begins what all these names have in common. -/
lemma prefix_commonPrefix_matching (h : matching names str ≠ []) :
    str <+: commonPrefix (matching names str) :=
  (prefix_commonPrefix_iff h).mpr fun _ hname => (mem_matching.mp hname).2

lemma common_eq_take (a b : List UInt8) : common a b = a.take (strCommon a b) := by
  induction a generalizing b with
  | nil => cases b <;> rfl
  | cons c a ih =>
    cases b with
    | nil => rfl
    | cons d b =>
      rw [common, strCommon]
      split
      · rw [List.take_succ_cons, ih]
      · rfl

/-- The beginning of a name that is kept, with one more name. -/
lemma take_min_strCommon (p name : List UInt8) (n : ℕ) :
    p.take (if strCommon p name < n then strCommon p name else n) = common (p.take n) name := by
  rw [common_take, common_eq_take, List.take_take]
  congr 1
  split <;> omega

/-- The loop over the names, behind the first that begins with the string. -/
lemma matchName_foldl_some (hne : str ≠ []) (hlen : str.length ≤ n)
    (hn : n ≤ p.1.length) (hpn : str <+: p.1.take n) (names : List CStr) :
    ∃ m ≤ p.1.length, names.foldl (matchName str) (some p, n) = (some p, m) ∧
      p.1.take m = (matching names str).foldl common (p.1.take n) := by
  have hpos : 0 < str.length := List.length_pos_iff.mpr hne
  induction names generalizing n with
  | nil => exact ⟨n, hn, rfl, rfl⟩
  | cons name names ih =>
    rw [List.foldl_cons]
    by_cases hname : str <+: name.1
    · have hstep : matchName str (some p, n) name = (some p,
          if strCommon p.1 name.1 < n then strCommon p.1 name.1 else n) := by
        have hn0 : n ≠ 0 := by omega
        unfold matchName
        simp only [List.isPrefixOf_iff_prefix.mpr hname, if_true, hn0, if_false, Option.getD_some]
      have htake := take_min_strCommon p.1 name.1 n
      have hpre : str <+: p.1.take (if strCommon p.1 name.1 < n then strCommon p.1 name.1 else n) := by
        rw [htake]
        exact prefix_common_iff.mpr ⟨hpn, hname⟩
      have hle : (if strCommon p.1 name.1 < n then strCommon p.1 name.1 else n) ≤ p.1.length := by
        split <;> omega
      have hlen' := hpre.length_le
      rw [List.length_take_of_le hle] at hlen'
      rw [hstep, matching_cons_of_prefix hname, List.foldl_cons, ← htake]
      exact ih hlen' hle hpre
    · have hstep : matchName str (some p, n) name = (some p, n) := by
        unfold matchName
        simp only [Bool.eq_false_iff.mpr (mt List.isPrefixOf_iff_prefix.mp hname),
          Bool.false_eq_true, if_false]
      rw [hstep, matching_cons_of_not hname]
      exact ih hlen hn hpn

/-- **The completion** of a string is the longest common prefix of the names that begin with it, and it is
taken from one of them. -/
theorem completion_eq (hne : str ≠ []) (names : List CStr) :
    (matching names str = [] ∧ completion names str = none) ∨
    ∃ p : CStr, ∃ n ≤ p.1.length, matching names str ≠ [] ∧ completion names str = some (p, n) ∧
      p.1.take n = commonPrefix (matching names str) := by
  unfold completion
  induction names with
  | nil => exact .inl ⟨rfl, rfl⟩
  | cons name names ih =>
    rw [List.foldl_cons]
    by_cases hname : str <+: name.1
    · right
      -- the first name that begins with the string
      have hself : strCommon name.1 name.1 = name.1.length := by
        have htake := common_eq_take name.1 name.1
        rw [common_self] at htake
        have hlen := congrArg List.length htake
        rw [List.length_take] at hlen
        have hle : strCommon name.1 name.1 ≤ name.1.length := by
          clear * -
          induction name.1 with
          | nil => exact le_refl _
          | cons c a ih =>
            rw [strCommon, if_pos rfl]
            exact Nat.succ_le_succ ih
        omega
      have hstep : matchName str (none, 0) name = (some name, name.1.length) := by
        unfold matchName
        simp only [List.isPrefixOf_iff_prefix.mpr hname, if_true, hself, Nat.lt_irrefl, if_false]
      have hall : name.1.take name.1.length = name.1 := List.take_length
      obtain ⟨m, hm, hfold, htake⟩ := matchName_foldl_some hne hname.length_le (le_refl _)
        (by rw [hall]; exact hname) names
      rw [hstep, hfold, matching_cons_of_prefix hname]
      refine ⟨name, m, hm, List.cons_ne_nil _ _, rfl, ?_⟩
      rw [htake, hall]
      rfl
    · have hstep : matchName str (none, 0) name = (none, 0) := by
        unfold matchName
        simp only [Bool.eq_false_iff.mpr (mt List.isPrefixOf_iff_prefix.mp hname),
          Bool.false_eq_true, if_false]
      rw [hstep, matching_cons_of_not hname]
      exact ih

/-- The beginning that the names share continues the string. -/
lemma completion_spec (hne : str ≠ []) (h : completion names str = some (p, n)) :
    n ≤ p.1.length ∧ ∃ more, p.1.take n = str ++ more := by
  rcases completion_eq hne names with ⟨-, hnone⟩ | ⟨p', n', hle, hmatch, hsome, htake⟩
  · rw [hnone] at h
    cases h
  · rw [hsome] at h
    cases h
    obtain ⟨more, hmore⟩ := prefix_commonPrefix_matching hmatch
    exact ⟨hle, more, htake.trans hmore.symm⟩

/-! ### The line -/

/-- A completion that ends within the line. -/
lemma complete_some (h0 : 0 ∉ text) (hfits : text.length ≤ finshCmdSize) (hoff : off < text.length)
    (hc : completion names (text.drop off) = some (p, n)) (hle : off + n ≤ finshCmdSize) :
    ∃ more, 0 ∉ more ∧ text.length + more.length ≤ finshCmdSize ∧
      p.1.take n = text.drop off ++ more ∧
      complete names (pad (finshCmdSize + 1) text) off =
        some (pad (finshCmdSize + 1) (text ++ more)) := by
  have hlt : text.length < finshCmdSize + 1 := Nat.lt_succ_of_le hfits
  have hstr := strlen_drop_pad h0 hlt hoff.le
  have hcstr := cString_drop_pad h0 hlt hoff.le
  have hne : text.drop off ≠ [] := List.ne_nil_of_length_pos (by rw [List.length_drop]; omega)
  obtain ⟨hn, more, hmore⟩ := completion_spec hne hc
  unfold complete
  simp only [hstr, hcstr, hc, Option.bind_eq_bind, Option.bind_some]
  have hlen : n = text.length - off + more.length := by
    have hl := congrArg List.length hmore
    rw [List.length_take_of_le hn, List.length_append, List.length_drop] at hl
    exact hl
  have h0m : 0 ∉ more := by
    intro hmem
    have hmem' : (0 : UInt8) ∈ p.1.take n := by
      rw [hmore]
      exact List.mem_append_right _ hmem
    exact p.2 (List.mem_of_mem_take hmem')
  refine ⟨more, h0m, by omega, hmore, ?_⟩
  -- the string and zeros are overwritten
  have hsplit : pad (finshCmdSize + 1) text = text.take off ++
      ((text.drop off ++ List.replicate more.length 0) ++
        List.replicate (finshCmdSize + 1 - (text ++ more).length) 0) := by
    have hz : finshCmdSize + 1 - text.length =
        more.length + (finshCmdSize + 1 - (text ++ more).length) := by
      rw [List.length_append]
      omega
    unfold pad
    rw [hz, ← List.replicate_append_replicate, ← List.append_assoc, ← List.append_assoc,
      ← List.append_assoc, List.take_append_drop]
  have htake : (text.take off).length = off := List.length_take_of_le hoff.le
  have hover : (text.drop off ++ List.replicate more.length (0 : UInt8)).length = n := by
    rw [List.length_append, List.length_drop, List.length_replicate]
    omega
  have hfrom : n ≤ (p.1.take n ++ List.replicate (n - p.1.length) (0 : UInt8)).length := by
    rw [List.length_append, List.length_take_of_le hn]
    omega
  have hcpy := memcpy_append (text.take off)
    (List.replicate (finshCmdSize + 1 - (text ++ more).length) 0) hover hfrom
  rw [← hsplit, htake] at hcpy
  have hsrc : (p.1.take n ++ List.replicate (n - p.1.length) (0 : UInt8)).take n = p.1.take n := by
    rw [Nat.sub_eq_zero_of_le hn, List.replicate_zero, List.append_nil, List.take_take, min_self]
  refine hcpy.trans ?_
  rw [hsrc, hmore, ← List.append_assoc (text.take off), ← List.append_assoc (text.take off),
    List.take_append_drop]
  rfl

/-- A completion that fits only adds to the text. -/
lemma complete_of_fits (h0 : 0 ∉ text) (hfits : text.length ≤ finshCmdSize) (off : ℕ)
    (hoff : off < text.length) (h : Fits names (text.drop off) off) :
    ∃ more, 0 ∉ more ∧ text.length + more.length ≤ finshCmdSize ∧
      complete names (pad (finshCmdSize + 1) text) off =
        some (pad (finshCmdSize + 1) (text ++ more)) := by
  rcases hc : completion names (text.drop off) with _ | ⟨p, n⟩
  · have hlt : text.length < finshCmdSize + 1 := Nat.lt_succ_of_le hfits
    refine ⟨[], List.not_mem_nil, hfits, ?_⟩
    unfold complete
    simp only [strlen_drop_pad h0 hlt hoff.le, cString_drop_pad h0 hlt hoff.le, hc,
      Option.bind_eq_bind, Option.bind_some, List.append_nil]
  · obtain ⟨more, h0m, hlen, -, heq⟩ := complete_some h0 hfits hoff hc (h (p, n) hc)
    exact ⟨more, h0m, hlen, heq⟩

/-- What is completed, as far as it fits. -/
lemma fits_iff (names : List CStr) (off : ℕ) (hne : str ≠ []) : Fits names str off ↔
    (matching names str ≠ [] → off + (commonPrefix (matching names str)).length ≤ finshCmdSize) := by
  unfold Fits
  rcases completion_eq hne names with ⟨hnil, hnone⟩ | ⟨p, n, hle, hmatch, hsome, htake⟩
  · rw [hnone, hnil]
    exact iff_of_true nofun fun h => absurd rfl h
  · rw [hsome, ← htake, List.length_take_of_le hle]
    refine ⟨fun h _ => h (p, n) rfl, fun h r hr => ?_⟩
    obtain rfl := Option.some.inj hr
    exact h hmatch

/-- **A completion that fits** replaces the string by what the names have in common. -/
lemma complete_eq (h0 : 0 ∉ text) (hfits : text.length ≤ finshCmdSize) (hoff : off < text.length)
    (h : Fits names (text.drop off) off) : ∃ text', 0 ∉ text' ∧ text'.length ≤ finshCmdSize ∧
      complete names (pad (finshCmdSize + 1) text) off = some (pad (finshCmdSize + 1) text') ∧
      text' = if matching names (text.drop off) = [] then text
        else text.take off ++ commonPrefix (matching names (text.drop off)) := by
  have hne : text.drop off ≠ [] := List.ne_nil_of_length_pos (by rw [List.length_drop]; omega)
  rcases completion_eq hne names with ⟨hnil, hnone⟩ | ⟨p, n, hle, hmatch, hsome, htake⟩
  · have hlt : text.length < finshCmdSize + 1 := Nat.lt_succ_of_le hfits
    refine ⟨text, h0, hfits, ?_, (if_pos hnil).symm⟩
    unfold complete
    simp only [strlen_drop_pad h0 hlt hoff.le, cString_drop_pad h0 hlt hoff.le, hnone,
      Option.bind_eq_bind, Option.bind_some]
  · obtain ⟨more, h0m, hlen, hmore, heq⟩ := complete_some h0 hfits hoff hsome (h (p, n) hsome)
    refine ⟨text ++ more, fun hmem => (List.mem_append.mp hmem).elim h0 h0m, ?_, heq, ?_⟩
    · rw [List.length_append]
      exact hlen
    · rw [if_neg hmatch, ← htake, hmore, ← List.append_assoc, List.take_append_drop]

/-- A completion that does not fit leaves no end of the line, or leaves the line. -/
lemma complete_of_not_fits (h0 : 0 ∉ text)
    (hfits : text.length ≤ finshCmdSize) (hoff : off < text.length)
    (h : ¬ Fits names (text.drop off) off) :
    ∀ line ∈ complete names (pad (finshCmdSize + 1) text) off, strlen line = none := by
  have hlt : text.length < finshCmdSize + 1 := Nat.lt_succ_of_le hfits
  have hstr := strlen_drop_pad h0 hlt hoff.le
  have hcstr := cString_drop_pad h0 hlt hoff.le
  have hne : text.drop off ≠ [] := List.ne_nil_of_length_pos (by rw [List.length_drop]; omega)
  obtain ⟨⟨p, n⟩, hc, hlong⟩ : ∃ r ∈ completion names (text.drop off), ¬ off + r.2 ≤ finshCmdSize := by
    unfold Fits at h
    push Not at h
    obtain ⟨r, hr, hlong⟩ := h
    exact ⟨r, hr, Nat.not_le_of_lt hlong⟩
  obtain ⟨hn, -⟩ := completion_spec hne hc
  intro line hline
  unfold complete at hline
  simp only [hstr, hcstr, Option.bind_eq_bind, Option.bind_some, Option.mem_def.mp hc] at hline
  unfold strncpy memcpy at hline
  have hzero : n - p.1.length = 0 := Nat.sub_eq_zero_of_le hn
  rw [hzero, List.replicate_zero, List.append_nil, length_pad hlt.le] at hline
  split at hline
  · rename_i hle
    simp only at hlong
    have hend : off + n = finshCmdSize + 1 := by omega
    have hdrop : (pad (finshCmdSize + 1) text).drop (finshCmdSize + 1) = [] :=
      List.drop_eq_nil_of_le (length_pad hlt.le).le
    have htake : (pad (finshCmdSize + 1) text).take off = text.take off := by
      unfold pad
      exact List.take_append_of_le_length hoff.le
    obtain rfl := Option.some.inj hline
    rw [hend, hdrop, htake, List.append_nil]
    refine strlen_of_notMem fun hmem => ?_
    rcases List.mem_append.mp hmem with hmem | hmem
    · exact h0 (List.mem_of_mem_take hmem)
    · exact p.2 (List.mem_of_mem_take (List.mem_of_mem_take hmem))
  · cases hline

/-- The last argument is in the string. -/
lemma mshGetArgc_lt (str : List UInt8) (i : ℕ) (r : ℕ × ℕ) (hr : r.1 ≠ 0 → r.2 < i + str.length) :
    (mshGetArgc str i r).1 ≠ 0 → (mshGetArgc str i r).2 < i + str.length := by
  induction str generalizing i r with
  | nil => exact hr
  | cons c str ih =>
    cases str with
    | nil => exact hr
    | cons d str =>
      obtain ⟨argc, lastArgv⟩ := r
      unfold mshGetArgc
      have hsum : i + (c :: d :: str).length = i + 1 + (d :: str).length := by
        simp only [List.length_cons]
        omega
      rw [hsum] at hr ⊢
      refine ih _ _ ?_
      split
      · intro _
        simp only [List.length_cons]
        omega
      · exact hr

end N32L43x.Finsh
