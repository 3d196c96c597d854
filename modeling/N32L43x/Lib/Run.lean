import Mathlib.Logic.Basic
import Mathlib.Data.List.Basic

/-!
Runs of a system given by a partial step function: the state a list of actions leads to, what
holds at every step of a run, and the invariant rule that turns a fact about one step into a
fact about all of them.
-/

namespace N32L43x.Lib.Run

variable {S A : Type*} (step : S → A → Option S)

/-- The state a list of actions leads to, `none` if one of them is not possible. -/
def exec : S → List A → Option S
  | s, [] => some s
  | s, a :: as =>
    match step s a with
    | none => none
    | some s' => exec s' as

/-- `P` holds at every step of a run: of every action and the state it is taken in.  A run ends
at the first action that is not possible. -/
def Along (P : S → A → Prop) : S → List A → Prop
  | _, [] => True
  | s, a :: as =>
    P s a ∧ match step s a with
      | none => True
      | some s' => Along P s' as

instance Along.decidable (P : S → A → Prop) [∀ s a, Decidable (P s a)] :
    ∀ (s : S) (as : List A), Decidable (Along step P s as)
  | _, [] => isTrue trivial
  | s, a :: as =>
    have : Decidable (match step s a with
        | none => True
        | some s' => Along step P s' as) :=
      match step s a with
      | none => isTrue trivial
      | some s' => Along.decidable P s' as
    inferInstanceAs (Decidable (_ ∧ _))

variable {step}

lemma exec_cons_some {s s' : S} {a : A} (h : step s a = some s') (as : List A) :
    exec step s (a :: as) = exec step s' as := by
  simp [exec, h]

lemma exec_cons_none {s : S} {a : A} (h : step s a = none) (as : List A) :
    exec step s (a :: as) = none := by
  simp [exec, h]

lemma along_cons_some {P : S → A → Prop} {s s' : S} {a : A} (h : step s a = some s')
    (as : List A) : Along step P s (a :: as) ↔ P s a ∧ Along step P s' as := by
  simp [Along, h]

lemma along_cons_none {P : S → A → Prop} {s : S} {a : A} (h : step s a = none) (as : List A) :
    Along step P s (a :: as) ↔ P s a := by
  simp [Along, h]

/-- **The invariant rule, for the states of a run.** -/
theorem exec_inv {I : S → Prop} (hstep : ∀ s a s', I s → step s a = some s' → I s') :
    ∀ (as : List A) (s s' : S), I s → exec step s as = some s' → I s'
  | [], s, s', hI, h => by
    obtain rfl : s = s' := by simpa [exec] using h
    exact hI
  | a :: as, s, s', hI, h => by
    rcases hs : step s a with _ | t
    · rw [exec_cons_none hs] at h
      cases h
    · rw [exec_cons_some hs] at h
      exact exec_inv hstep as t s' (hstep s a t hI hs) h

/-- **The invariant rule, for the steps of a run.**  An invariant that every step within `C`
keeps, and that together with `C` gives `P`, gives `P` at every step of a run within `C`. -/
theorem along_of_inv {I : S → Prop} {C P : S → A → Prop}
    (hstep : ∀ s a s', I s → C s a → step s a = some s' → I s')
    (hP : ∀ s a, I s → C s a → P s a) :
    ∀ (as : List A) (s : S), I s → Along step C s as → Along step P s as
  | [], _, _, _ => trivial
  | a :: as, s, hI, hC => by
    rcases hs : step s a with _ | t
    · rw [along_cons_none hs] at hC ⊢
      exact hP s a hI hC
    · rw [along_cons_some hs] at hC ⊢
      exact ⟨hP s a hI hC.1, along_of_inv hstep hP as t (hstep s a t hI hC.1 hs) hC.2⟩

/-- **The invariant rule, for the states of a run within `C`.** -/
theorem exec_inv_of_along {I : S → Prop} {C : S → A → Prop}
    (hstep : ∀ s a s', I s → C s a → step s a = some s' → I s') :
    ∀ (as : List A) (s s' : S), I s → Along step C s as → exec step s as = some s' → I s'
  | [], s, s', hI, _, h => by
    obtain rfl : s = s' := by simpa [exec] using h
    exact hI
  | a :: as, s, s', hI, hC, h => by
    rcases hs : step s a with _ | t
    · rw [exec_cons_none hs] at h
      cases h
    · rw [exec_cons_some hs] at h
      rw [along_cons_some hs] at hC
      exact exec_inv_of_along hstep as t s' (hstep s a t hI hC.1 hs) hC.2 h

/-- **The invariant rule with progress.**  If every action within `C` is possible and keeps the
invariant, every run within `C` goes to its end. -/
theorem exec_total_of_along {I : S → Prop} {C : S → A → Prop}
    (hstep : ∀ s a, I s → C s a → ∃ s', step s a = some s' ∧ I s') :
    ∀ (as : List A) (s : S), I s → Along step C s as → ∃ s', exec step s as = some s' ∧ I s'
  | [], s, hI, _ => ⟨s, rfl, hI⟩
  | a :: as, s, hI, hC => by
    obtain ⟨t, ht, hIt⟩ := hstep s a hI hC.1
    rw [along_cons_some ht] at hC
    rw [exec_cons_some ht]
    exact exec_total_of_along hstep as t hIt hC.2

/-- A condition on the actions alone holds along every run of such actions. -/
theorem along_of_forall {P : A → Prop} : ∀ (as : List A) (s : S), (∀ a ∈ as, P a) →
    Along step (fun _ a => P a) s as
  | [], _, _ => trivial
  | a :: as, s, h => by
    have ha := h a (List.mem_cons_self ..)
    have has : ∀ b ∈ as, P b := fun b hb => h b (List.mem_cons_of_mem a hb)
    rcases hs : step s a with _ | t
    · exact (along_cons_none hs as).mpr ha
    · exact (along_cons_some hs as).mpr ⟨ha, along_of_forall as t has⟩

/-- A weaker property holds along the same runs. -/
theorem Along.imp {P Q : S → A → Prop} (hPQ : ∀ s a, P s a → Q s a) :
    ∀ {as : List A} {s : S}, Along step P s as → Along step Q s as
  | [], _, _ => trivial
  | a :: as, s, hP => by
    rcases hs : step s a with _ | t
    · rw [along_cons_none hs] at hP ⊢
      exact hPQ s a hP
    · rw [along_cons_some hs] at hP ⊢
      exact ⟨hPQ s a hP.1, hP.2.imp hPQ⟩

/-- Two properties along a run hold together along it. -/
theorem Along.and {P Q : S → A → Prop} : ∀ {as : List A} {s : S}, Along step P s as →
    Along step Q s as → Along step (fun s a => P s a ∧ Q s a) s as
  | [], _, _, _ => trivial
  | a :: as, s, hP, hQ => by
    rcases hs : step s a with _ | t
    · rw [along_cons_none hs] at hP hQ ⊢
      exact ⟨hP, hQ⟩
    · rw [along_cons_some hs] at hP hQ ⊢
      exact ⟨⟨hP.1, hQ.1⟩, hP.2.and hQ.2⟩

/-- What holds along a run holds along its beginning. -/
theorem Along.of_append_left {P : S → A → Prop} {bs : List A} : ∀ {as : List A} {s : S},
    Along step P s (as ++ bs) → Along step P s as
  | [], _, _ => trivial
  | a :: as, s, h => by
    rw [List.cons_append] at h
    rcases hs : step s a with _ | t
    · rw [along_cons_none hs] at h ⊢
      exact h
    · rw [along_cons_some hs] at h ⊢
      exact ⟨h.1, h.2.of_append_left⟩

/-- What holds along a run holds along the rest of it. -/
theorem Along.of_append_right {P : S → A → Prop} {s s' : S} {as bs : List A}
    (h : Along step P s (as ++ bs)) (hs : exec step s as = some s') : Along step P s' bs := by
  induction as generalizing s with
  | nil =>
    obtain rfl : s = s' := by simpa [exec] using hs
    exact h
  | cons b as ih =>
    rcases ht : step s b with _ | t
    · rw [exec_cons_none ht] at hs
      cases hs
    · rw [exec_cons_some ht] at hs
      rw [List.cons_append, along_cons_some ht] at h
      exact ih h.2 hs

/-- What holds along the two parts of a run. -/
theorem Along.append {P : S → A → Prop} {s s' : S} {as bs : List A} (ha : Along step P s as)
    (hs : exec step s as = some s') (hb : Along step P s' bs) : Along step P s (as ++ bs) := by
  induction as generalizing s with
  | nil =>
    obtain rfl : s = s' := by simpa [exec] using hs
    exact hb
  | cons a as ih =>
    rcases ht : step s a with _ | t
    · rw [exec_cons_none ht] at hs
      cases hs
    · rw [exec_cons_some ht] at hs
      rw [along_cons_some ht] at ha
      exact (along_cons_some ht (as ++ bs)).mpr ⟨ha.1, ih ha.2 hs⟩

/-- What holds along a run holds of an action that follows a part of it. -/
theorem Along.of_append {P : S → A → Prop} {s s' : S} {as bs : List A} {a : A}
    (h : Along step P s (as ++ a :: bs)) (hs : exec step s as = some s') : P s' a :=
  (h.of_append_right hs).1

/-- Two properties of steps that are equivalent under an invariant, which the steps with the second
one keep, hold of the same runs. -/
theorem along_iff_of_inv {I : S → Prop} {P C : S → A → Prop}
    (hstep : ∀ s a s', I s → C s a → step s a = some s' → I s')
    (hiff : ∀ s a, I s → (P s a ↔ C s a)) :
    ∀ (as : List A) (s : S), I s → (Along step P s as ↔ Along step C s as)
  | [], _, _ => Iff.rfl
  | a :: as, s, hI => by
    rcases hs : step s a with _ | t
    · rw [along_cons_none hs, along_cons_none hs]
      exact hiff s a hI
    · rw [along_cons_some hs, along_cons_some hs, hiff s a hI]
      refine and_congr_right fun hC => ?_
      exact along_iff_of_inv hstep hiff as t (hstep s a t hI hC hs)

/-- **The exact rule.**  If an invariant is kept by the steps within `C`, and a step that is not leads
nowhere or to a state that is not good, the states of a run are good up to its end if and only if its
steps are within `C`. -/
theorem prefixes_iff_along {I Q : S → Prop} {C : S → A → Prop}
    (hstep : ∀ s a, I s → C s a → ∃ s', step s a = some s' ∧ I s')
    (hbad : ∀ s a, I s → ¬ C s a → ∀ s', step s a = some s' → ¬ Q s')
    (hQ : ∀ s, I s → Q s) : ∀ (as : List A) (s : S), I s →
      ((∀ bs, bs <+: as → ∃ s', exec step s bs = some s' ∧ Q s') ↔ Along step C s as)
  | [], s, hI => by
    refine ⟨fun _ => trivial, fun _ bs hbs => ?_⟩
    obtain rfl := List.prefix_nil.mp hbs
    exact ⟨s, rfl, hQ s hI⟩
  | a :: as, s, hI => by
    constructor
    · intro h
      have hC : C s a := by
        by_contra hC
        obtain ⟨s', hs', hgood⟩ := h [a] ⟨as, rfl⟩
        rcases hs : step s a with _ | t
        · rw [exec_cons_none hs] at hs'
          cases hs'
        · rw [exec_cons_some hs] at hs'
          obtain rfl : t = s' := by simpa [exec] using hs'
          exact hbad s a hI hC t hs hgood
      obtain ⟨t, ht, hIt⟩ := hstep s a hI hC
      refine (along_cons_some ht as).mpr ⟨hC, ?_⟩
      refine (prefixes_iff_along hstep hbad hQ as t hIt).mp fun bs hbs => ?_
      have h' := h (a :: bs) (List.cons_prefix_cons.mpr ⟨rfl, hbs⟩)
      rwa [exec_cons_some ht] at h'
    · intro h bs hbs
      obtain ⟨t, ht, hIt⟩ := hstep s a hI h.1
      rw [along_cons_some ht] at h
      cases bs with
      | nil => exact ⟨s, rfl, hQ s hI⟩
      | cons b bs =>
        obtain ⟨rfl, hrest⟩ := List.cons_prefix_cons.mp hbs
        rw [exec_cons_some ht]
        exact (prefixes_iff_along hstep hbad hQ as t hIt).mpr h.2 bs hrest

/-- **The exact rule, for a run that is possible.**  If an invariant is kept by the steps within `C`,
and a step that is not leads to a state that is not good, the states of the run are good if and only if
its steps are within `C`. -/
theorem states_iff_along {I Q : S → Prop} {C : S → A → Prop}
    (hstep : ∀ s a s', I s → C s a → step s a = some s' → I s')
    (hbad : ∀ s a s', I s → ¬ C s a → step s a = some s' → ¬ Q s')
    (hQ : ∀ s, I s → Q s) : ∀ (as : List A) (s s' : S), I s → exec step s as = some s' →
      ((∀ bs, bs <+: as → ∀ t, exec step s bs = some t → Q t) ↔ Along step C s as)
  | [], s, _, hI, _ => by
    refine ⟨fun _ => trivial, fun _ bs hbs t ht => ?_⟩
    obtain rfl := List.prefix_nil.mp hbs
    obtain rfl : s = t := by simpa [exec] using ht
    exact hQ s hI
  | a :: as, s, s', hI, hrun => by
    rcases hs : step s a with _ | u
    · rw [exec_cons_none hs] at hrun
      cases hrun
    rw [exec_cons_some hs] at hrun
    rw [along_cons_some hs]
    constructor
    · intro h
      have hC : C s a := by
        by_contra hC
        refine hbad s a u hI hC hs (h [a] ⟨as, rfl⟩ u ?_)
        rw [exec_cons_some hs]
        rfl
      refine ⟨hC, (states_iff_along hstep hbad hQ as u s' (hstep s a u hI hC hs) hrun).mp ?_⟩
      intro bs hbs t ht
      apply h (a :: bs) (List.cons_prefix_cons.mpr ⟨rfl, hbs⟩)
      rwa [exec_cons_some hs]
    · intro h bs hbs t ht
      cases bs with
      | nil =>
        obtain rfl : s = t := by simpa [exec] using ht
        exact hQ s hI
      | cons b bs =>
        obtain ⟨rfl, hrest⟩ := List.cons_prefix_cons.mp hbs
        rw [exec_cons_some hs] at ht
        exact (states_iff_along hstep hbad hQ as u s' (hstep s b u hI h.1 hs) hrun).mpr h.2 bs hrest t ht

/-- A run whose steps outside `C` lead to states that are bad and final, and that ends in one that is
not bad, is within `C`. -/
theorem along_of_exec {I B : S → Prop} {C : S → A → Prop}
    (hstep : ∀ s a s', I s → C s a → step s a = some s' → I s')
    (hbad : ∀ s a s', I s → ¬ C s a → step s a = some s' → B s')
    (hend : ∀ s a, B s → step s a = none) :
    ∀ (as : List A) (s s' : S), I s → exec step s as = some s' → ¬ B s' → Along step C s as
  | [], _, _, _, _, _ => trivial
  | a :: as, s, s', hI, h, hgood => by
    rcases hs : step s a with _ | t
    · rw [exec_cons_none hs] at h
      cases h
    rw [exec_cons_some hs] at h
    by_cases hC : C s a
    · exact (along_cons_some hs as).mpr
        ⟨hC, along_of_exec hstep hbad hend as t s' (hstep s a t hI hC hs) h hgood⟩
    · have ht := hbad s a t hI hC hs
      cases as with
      | nil =>
        obtain rfl : t = s' := by simpa [exec] using h
        exact absurd ht hgood
      | cons b as =>
        rw [exec_cons_none (hend t b ht)] at h
        cases h

/-! ### Simulation -/

/-- A run may be cut. -/
lemma exec_append_some {s s' : S} {as : List A} (h : exec step s as = some s') (bs : List A) :
    exec step s (as ++ bs) = exec step s' bs := by
  induction as generalizing s with
  | nil =>
    obtain rfl : s = s' := by simpa [exec] using h
    rfl
  | cons a as ih =>
    rcases hs : step s a with _ | t
    · rw [exec_cons_none hs] at h
      cases h
    · rw [exec_cons_some hs] at h
      rw [List.cons_append, exec_cons_some hs]
      exact ih h

variable {T B : Type*}

/-- What is seen of a run: the labels of its steps, in order. -/
def observe (step : S → A → Option S) (lab : S → A → S → List B) : S → List A → List B
  | _, [] => []
  | s, a :: as =>
    match step s a with
    | none => []
    | some s' => lab s a s' ++ observe step lab s' as

lemma observe_cons_some {lab : S → A → S → List B} {s s' : S} {a : A} (h : step s a = some s')
    (as : List A) : observe step lab s (a :: as) = lab s a s' ++ observe step lab s' as := by
  simp [observe, h]

/-- What is seen of a run that is cut. -/
lemma observe_append_some (lab : S → A → S → List B) {s s' : S} {as : List A}
    (h : exec step s as = some s') (bs : List A) :
    observe step lab s (as ++ bs) = observe step lab s as ++ observe step lab s' bs := by
  induction as generalizing s with
  | nil =>
    obtain rfl : s = s' := by simpa [exec] using h
    rfl
  | cons a as ih =>
    rcases hs : step s a with _ | t
    · rw [exec_cons_none hs] at h
      cases h
    · rw [exec_cons_some hs] at h
      rw [List.cons_append, observe_cons_some hs, observe_cons_some hs, ih h, List.append_assoc]

/-- **The simulation rule, for a run within `C`.**  If every step within `C` is matched by a run of the
abstract system over its labels, every run within `C` is matched by one over what is seen of it. -/
theorem exec_simulates_of_along {astep : T → B → Option T} {lab : S → A → S → List B}
    {R : S → T → Prop} {C : S → A → Prop}
    (hstep : ∀ s a s' t, R s t → C s a → step s a = some s' →
      ∃ t', exec astep t (lab s a s') = some t' ∧ R s' t') :
    ∀ (as : List A) (s s' : S) (t : T), R s t → Along step C s as → exec step s as = some s' →
      ∃ t', exec astep t (observe step lab s as) = some t' ∧ R s' t'
  | [], s, s', t, hR, _, h => by
    obtain rfl : s = s' := by simpa [exec] using h
    exact ⟨t, rfl, hR⟩
  | a :: as, s, s', t, hR, hC, h => by
    rcases hs : step s a with _ | r
    · rw [exec_cons_none hs] at h
      cases h
    · rw [exec_cons_some hs] at h
      rw [along_cons_some hs] at hC
      obtain ⟨t₁, ht₁, hR₁⟩ := hstep s a r t hR hC.1 hs
      obtain ⟨t₂, ht₂, hR₂⟩ := exec_simulates_of_along hstep as r s' t₁ hR₁ hC.2 h
      refine ⟨t₂, ?_, hR₂⟩
      have hobs : observe step lab s (a :: as) = lab s a r ++ observe step lab r as := by
        simp [observe, hs]
      rw [hobs, exec_append_some ht₁]
      exact ht₂

/-- **The simulation rule.**  If every step is matched by a run of the abstract system over its
labels, every run is matched by one over what is seen of it. -/
theorem exec_simulates {astep : T → B → Option T} {lab : S → A → S → List B} {R : S → T → Prop}
    (hstep : ∀ s a s' t, R s t → step s a = some s' →
      ∃ t', exec astep t (lab s a s') = some t' ∧ R s' t') (as : List A) (s s' : S) (t : T)
    (hR : R s t) (h : exec step s as = some s') :
    ∃ t', exec astep t (observe step lab s as) = some t' ∧ R s' t' := by
  have hC : Along step (fun _ _ => True) s as := along_of_forall as s fun _ _ => trivial
  exact exec_simulates_of_along (fun s a s' t hR _ hs => hstep s a s' t hR hs) as s s' t hR hC h

end N32L43x.Lib.Run
