import N32L43x.Object.Names

/-!
What `rt_object_find` finds.  The field of an object holds its name cut to a length, and that length is not
the same for a static and for a dynamic object.
-/

namespace N32L43x.Object.Names

open N32L43x.Lib.CString N32L43x.Lib.Run N32L43x.Klibc

/-- The characters that the field of an object holds. -/
def Registration.key (r : Registration) : List UInt8 :=
  r.name.take (if r.isStatic then rtNameMax else rtNameMax - 1)

/-- The name of a dynamic object has lost a character that the search compares. -/
def Registration.Cut (r : Registration) : Prop := r.isStatic = false ∧ rtNameMax ≤ r.name.length

variable {k : Container} {p p' : Program} {a : Action} {r : Registration} {rs later earlier : List Registration}
  {text src : List UInt8} {n object : ℕ} {type : RtObjectClass}

/-! ### The field -/

lemma length_key_le (r : Registration) : r.key.length ≤ rtNameMax := by
  have hmax : rtNameMax - 1 ≤ rtNameMax := Nat.sub_le _ _
  unfold Registration.key
  rw [List.length_take]
  split <;> omega

lemma zero_notMem_key (h : 0 ∉ r.name) : 0 ∉ r.key := fun h0 => h (List.mem_of_mem_take h0)

/-- A name that has not been cut too short is compared as it was given. -/
lemma key_eq_of_not_cut (h : ¬ r.Cut) : r.key = r.name.take rtNameMax := by
  unfold Registration.key
  cases hs : r.isStatic with
  | true => rfl
  | false =>
    have hlen : r.name.length < rtNameMax := not_le.mp fun hle => h ⟨hs, hle⟩
    rw [if_neg (by decide), List.take_of_length_le (by omega), List.take_of_length_le hlen.le]

/-- A name that has been cut is one character shorter than what it is compared with. -/
lemma key_of_cut (h : r.Cut) :
    r.key = r.name.take (rtNameMax - 1) ∧ r.key.length = rtNameMax - 1 := by
  have hkey : r.key = r.name.take (rtNameMax - 1) := by
    unfold Registration.key
    rw [h.1, if_neg (by decide)]
  refine ⟨hkey, ?_⟩
  have hlen := h.2
  rw [hkey, List.length_take]
  omega

lemma key_ne_of_cut (h : r.Cut) : r.key ≠ r.name.take rtNameMax := by
  intro heq
  have hlen := congrArg List.length heq
  have hmax : 0 < rtNameMax := by decide
  rw [(key_of_cut h).2, List.length_take, Nat.min_eq_left h.2] at hlen
  omega

/-- An object with another name is taken for one with the name `text` if its own name has been cut to it. -/
lemma key_eq_iff (hne : r.name.take rtNameMax ≠ text.take rtNameMax) :
    r.key = text.take rtNameMax ↔ r.Cut ∧ r.name.take (rtNameMax - 1) = text := by
  constructor
  · intro heq
    by_cases hcut : r.Cut
    · refine ⟨hcut, ?_⟩
      obtain ⟨hkey, hlen⟩ := key_of_cut hcut
      have hmax : 0 < rtNameMax := by decide
      have hshort : text.length ≤ rtNameMax := by
        rw [heq, List.length_take] at hlen
        omega
      rw [← hkey, heq, List.take_of_length_le hshort]
    · exact absurd ((key_eq_of_not_cut hcut).symm.trans heq) hne
  · rintro ⟨hcut, heq⟩
    obtain ⟨hkey, hlen⟩ := key_of_cut hcut
    have hshort : text.length ≤ rtNameMax := by
      rw [← heq, ← hkey, hlen]
      exact Nat.sub_le _ _
    rw [hkey, heq, List.take_of_length_le hshort]

/-- What is in the field is compared with a name. -/
lemma rtStrncmp_field (hr : 0 ∉ r.name) (htext : 0 ∉ text) (rest : List UInt8) :
    ∃ res, rtStrncmp (pad rtNameMax r.key) (text ++ 0 :: rest) rtNameMax = some res ∧
      (res = 0 ↔ r.key = text.take rtNameMax) := by
  have hfield : Readable rtNameMax (pad rtNameMax r.key) := .inl (length_pad (length_key_le r)).ge
  have hsrc : Readable rtNameMax (text ++ 0 :: rest) := .inr (by simp)
  obtain ⟨res, hcmp, hiff⟩ := rtStrncmp_eq_zero hfield hsrc
  refine ⟨res, hcmp, ?_⟩
  rw [hiff, cString_append htext]
  rw [cString_pad_of_le (zero_notMem_key hr) (length_key_le r), List.take_of_length_le (length_key_le r)]

/-! ### The search -/

/-- The field of the object of a registration holds what the call has put there. -/
def Stored (k : Container) (r : Registration) : Prop :=
  (k.obj r.object).name.bytes = pad rtNameMax r.key ∧ 0 ∉ r.name

/-- The search stops at the first object whose field holds the characters that are compared. -/
lemma findFrom_eq (htext : 0 ∉ text) (rest : List UInt8) (h : ∀ r ∈ rs, Stored k r) :
    findFrom k (text ++ 0 :: rest) (rs.map Registration.object) =
      some ((rs.find? fun r => decide (r.key = text.take rtNameMax)).map Registration.object) := by
  induction rs with
  | nil => rfl
  | cons r rs ih =>
    obtain ⟨hbytes, hr⟩ := h r List.mem_cons_self
    obtain ⟨res, hcmp, hiff⟩ := rtStrncmp_field hr htext rest
    rw [List.map_cons, findFrom, hbytes, hcmp, Option.bind_some]
    by_cases hres : res = 0
    · rw [if_pos hres, List.find?_cons_of_pos (by simpa using hiff.mp hres)]
      rfl
    · rw [if_neg hres, List.find?_cons_of_neg (by simpa using fun heq => hres (hiff.mpr heq)),
        ih fun r hr => h r (List.mem_cons_of_mem _ hr)]

lemma mem_of_findFrom {l : List ℕ} (h : findFrom k src l = some (some object)) : object ∈ l := by
  induction l with
  | nil => simp [findFrom] at h
  | cons o l ih =>
    obtain ⟨res, -, hres⟩ := Option.bind_eq_some_iff.mp h
    split at hres
    · simp only [Option.some.injEq] at hres
      exact hres ▸ List.mem_cons_self
    · exact List.mem_cons_of_mem _ (ih hres)

/-! ### What the calls keep -/

/-- The list of a class is what has been registered for it, each object once, and the fields hold the
names. -/
structure Inv (p : Program) : Prop where
  list : ∀ cls, p.container.objectList cls = (p.registered cls).map Registration.object
  nodup : ∀ cls, (p.container.objectList cls).Nodup
  stored : ∀ cls, ∀ r ∈ p.registered cls, Stored p.container r
  information : ∀ cls, ∀ r ∈ p.registered cls, rtObjectGetInformation ⟨cls, false⟩ = some cls

lemma rtObjectGetInformation_eq {isStatic : Bool} {information : RtObjectClass}
    (h : rtObjectGetInformation ⟨type, isStatic⟩ = some information) : information = type := by
  have hdec := List.find?_some h
  simpa using hdec

lemma Name.copy_bytes {f f' : Name} (h0 : 0 ∈ src) (hn : n ≤ rtNameMax) (h : f.copy src n = some f') :
    f'.bytes = pad n ((cString src).take n) ++ f.bytes.drop n := by
  obtain ⟨rest, hsrc⟩ := exists_cString h0
  obtain ⟨⟨d, hd⟩, -, rfl⟩ := Option.map_eq_some_iff.mp h
  have hcopy := rtStrncpy_eq (zero_notMem_cString src) rest (hn.trans f.length_bytes.ge)
  rw [← hsrc] at hcopy
  exact Option.some.inj (hd.symm.trans hcopy)

/-- The object that is entered is not yet in a list, and its field holds its name. -/
lemma Inv.insert (hI : Inv p) {o : RtObject} (hnew : ∀ cls, r.object ∉ p.container.objectList cls)
    (hinfo : rtObjectGetInformation ⟨type, false⟩ = some type) (h0 : 0 ∉ r.name)
    (hname : o.name.bytes = pad rtNameMax r.key) :
    Inv (p.register (p.container.insert type r.object o) type r) := by
  have hold : ∀ cls, ∀ q ∈ p.registered cls, q.object ≠ r.object := by
    intro cls q hq heq
    refine hnew cls ?_
    rw [hI.list cls, ← heq]
    exact List.mem_map_of_mem hq
  have hmem : ∀ cls, ∀ q ∈ Function.update p.registered type (r :: p.registered type) cls,
      cls = type ∧ q = r ∨ q ∈ p.registered cls := by
    intro cls q hq
    by_cases hcls : cls = type
    · subst hcls
      rw [Function.update_self] at hq
      exact (List.mem_cons.mp hq).imp (⟨rfl, ·⟩) id
    · rw [Function.update_of_ne hcls] at hq
      exact .inr hq
  refine ⟨fun cls => ?_, fun cls => ?_, fun cls q hq => ?_, fun cls q hq => ?_⟩
  · show Function.update p.container.objectList type (r.object :: p.container.objectList type) cls =
      (Function.update p.registered type (r :: p.registered type) cls).map Registration.object
    by_cases hcls : cls = type
    · subst hcls
      rw [Function.update_self, Function.update_self, List.map_cons, hI.list]
    · rw [Function.update_of_ne hcls, Function.update_of_ne hcls, hI.list]
  · show (Function.update p.container.objectList type (r.object :: p.container.objectList type) cls).Nodup
    by_cases hcls : cls = type
    · subst hcls
      rw [Function.update_self]
      exact List.nodup_cons.mpr ⟨hnew cls, hI.nodup cls⟩
    · rw [Function.update_of_ne hcls]
      exact hI.nodup cls
  · unfold Stored
    show (Function.update p.container.obj r.object o q.object).name.bytes = _ ∧ _
    rcases hmem cls q hq with ⟨-, rfl⟩ | hq'
    · rw [Function.update_self]
      exact ⟨hname, h0⟩
    · rw [Function.update_of_ne (hold cls q hq')]
      exact hI.stored cls q hq'
  · rcases hmem cls q hq with ⟨rfl, -⟩ | hq'
    · exact hinfo
    · exact hI.information cls q hq'

lemma Inv.remove (hI : Inv p) (object : ℕ) : Inv (p.unregister (p.container.remove object) object) := by
  have herase : ∀ cls, (p.container.objectList cls).erase object =
      (p.container.objectList cls).filter fun o => decide (o ≠ object) := by
    intro cls
    rw [(hI.nodup cls).erase_eq_filter]
    exact List.filter_congr fun o _ => by by_cases ho : o = object <;> simp [ho]
  have hsub : ∀ cls, ∀ q ∈ (p.unregister (p.container.remove object) object).registered cls,
      q ∈ p.registered cls := fun cls q hq => List.mem_of_mem_filter hq
  refine ⟨fun cls => ?_, fun cls => (hI.nodup cls).erase object, fun cls q hq => ?_,
    fun cls q hq => hI.information cls q (hsub cls q hq)⟩
  · show (p.container.objectList cls).erase object =
      ((p.registered cls).filter fun r => decide (r.object ≠ object)).map Registration.object
    rw [herase, hI.list, List.filter_map]
    rfl
  · obtain ⟨hbytes, h0⟩ := hI.stored cls q (hsub cls q hq)
    refine ⟨?_, h0⟩
    show (Function.update p.container.obj object _ q.object).name.bytes = _
    by_cases heq : q.object = object
    · rw [heq, Function.update_self, ← hbytes, heq]
    · rw [Function.update_of_ne heq, hbytes]

lemma Inv.step (hI : Inv p) (hvalid : Valid p a) (hstep : step p a = some p') : Inv p' := by
  cases a with
  | init object type name =>
    obtain ⟨hnew, h0⟩ := hvalid
    obtain ⟨k, hcall, rfl⟩ := Option.map_eq_some_iff.mp hstep
    obtain ⟨information, hinfo, hfield⟩ := Option.bind_eq_some_iff.mp hcall
    obtain ⟨f, hcopy, rfl⟩ := Option.map_eq_some_iff.mp hfield
    obtain rfl := rtObjectGetInformation_eq hinfo
    refine hI.insert (r := ⟨object, cString name, true⟩) hnew hinfo (zero_notMem_cString name) ?_
    show f.bytes = _
    rw [Name.copy_bytes h0 le_rfl hcopy, List.drop_of_length_le (Name.length_bytes _).le, List.append_nil]
    rfl
  | allocate type name malloc =>
    obtain ⟨hnew, h0⟩ := hvalid
    obtain ⟨k, hcall, rfl⟩ := Option.map_eq_some_iff.mp hstep
    obtain ⟨information, hinfo, hfield⟩ := Option.bind_eq_some_iff.mp hcall
    obtain rfl := rtObjectGetInformation_eq hinfo
    cases malloc with
    | none => exact hI
    | some object =>
      obtain ⟨f, hcopy, rfl⟩ := Option.map_eq_some_iff.mp hfield
      refine hI.insert (r := ⟨object, cString name, false⟩) (hnew object rfl) hinfo
        (zero_notMem_cString name) ?_
      show f.bytes = _
      -- the last byte of the field is the zero that `rt_memset` has left
      rw [Name.copy_bytes h0 (Nat.sub_le _ _) hcopy]
      show pad 7 ((cString name).take 7) ++ [0] = pad 8 ((cString name).take 7)
      have hlen : ((cString name).take 7).length ≤ 7 := List.length_take_le _ _
      unfold pad
      rw [List.append_assoc, Nat.succ_sub hlen, List.replicate_succ']
  | detach object =>
    obtain ⟨k, hcall, rfl⟩ := Option.map_eq_some_iff.mp hstep
    obtain ⟨information, -, rfl⟩ := Option.map_eq_some_iff.mp hcall
    exact hI.remove object
  | delete object =>
    obtain ⟨k, hcall, rfl⟩ := Option.map_eq_some_iff.mp hstep
    unfold rtObjectDelete at hcall
    split at hcall
    · cases hcall
    · obtain ⟨information, -, rfl⟩ := Option.map_eq_some_iff.mp hcall
      exact hI.remove object

lemma inv_of_run {obj : ℕ → RtObject} {as : List Action} (hvalid : Along Names.step Valid (start obj) as)
    (hrun : exec Names.step (start obj) as = some p) : Inv p := by
  have hstart : Inv (start obj) :=
    ⟨fun _ => rfl, fun _ => List.nodup_nil, by simp [start], by simp [start]⟩
  exact exec_inv_of_along (fun p a p' hI hv hs => hI.step hv hs) as _ _ hstart hvalid hrun

/-! ### The law of the search -/

/-- The search for the name of a registration gives its object. -/
def Found (p : Program) (type : RtObjectClass) (r : Registration) : Prop :=
  ∀ (rest : List UInt8) (isStatic : Bool),
    rtObjectFind p.container (r.name ++ 0 :: rest) ⟨type, isStatic⟩ = some (some r.object)

/-- No object of the list has been registered under a name with the same first characters as `name`. -/
def OtherNames (later : List Registration) (name : List UInt8) : Prop :=
  ∀ q ∈ later, q.name.take rtNameMax ≠ name.take rtNameMax

/-- The name of the object has not lost a character, and none of the names of later objects has been cut
to it. -/
def NamesKept (later : List Registration) (r : Registration) : Prop :=
  ¬ r.Cut ∧ ∀ q ∈ later, ¬ (q.Cut ∧ q.name.take (rtNameMax - 1) = r.name)

lemma Inv.rtObjectFind_eq (hI : Inv p) (hr : r ∈ p.registered type) (rest : List UInt8) (isStatic : Bool) :
    rtObjectFind p.container (r.name ++ 0 :: rest) ⟨type, isStatic⟩ =
      some (((p.registered type).find? fun q => decide (q.key = r.name.take rtNameMax)).map
        Registration.object) := by
  have hinfo : rtObjectGetInformation ⟨type, isStatic⟩ = some type := hI.information type r hr
  unfold rtObjectFind
  rw [hinfo]
  show findFrom p.container (r.name ++ 0 :: rest) (p.container.objectList type) = _
  rw [hI.list type, findFrom_eq (hI.stored type r hr).2 rest (hI.stored type)]

lemma Inv.found_iff (hI : Inv p) (hsplit : p.registered type = later ++ r :: earlier)
    (hother : OtherNames later r.name) : Found p type r ↔ NamesKept later r := by
  have hr : r ∈ p.registered type := by rw [hsplit]; simp
  have hlater : (∀ q ∈ later, ¬ q.key = r.name.take rtNameMax) ↔
      ∀ q ∈ later, ¬ (q.Cut ∧ q.name.take (rtNameMax - 1) = r.name) :=
    forall₂_congr fun q hq => not_congr (key_eq_iff (hother q hq))
  constructor
  · intro hfound
    have hfind := (hI.rtObjectFind_eq hr [] false).symm.trans (hfound [] false)
    obtain ⟨q, hq, hobj⟩ := Option.map_eq_some_iff.mp (Option.some.inj hfind)
    -- an object is in the list once, so the registration found is the one asked for
    have hnodup := hI.nodup type
    rw [hI.list type] at hnodup
    obtain rfl : q = r := List.inj_on_of_nodup_map hnodup (List.mem_of_find?_eq_some hq) hr hobj
    have hkey : q.key = q.name.take rtNameMax := by
      have hdec := List.find?_some hq
      simpa using hdec
    refine ⟨fun hcut => key_ne_of_cut hcut hkey, hlater.mp fun s hs hskey => ?_⟩
    have hobjs := hnodup.of_map _
    rw [hsplit] at hq hobjs
    rw [List.find?_append] at hq
    cases hfirst : later.find? fun t => decide (t.key = q.name.take rtNameMax) with
    | none => exact absurd (decide_eq_true hskey) (by simpa using List.find?_eq_none.mp hfirst s hs)
    | some t =>
      rw [hfirst, Option.some_or, Option.some.injEq] at hq
      have hmem : q ∈ later := hq ▸ List.mem_of_find?_eq_some hfirst
      exact (List.nodup_append.mp hobjs).2.2 q hmem q List.mem_cons_self rfl
  · rintro ⟨hcut, hno⟩ rest isStatic
    have hnone : later.find? (fun q => decide (q.key = r.name.take rtNameMax)) = none := by
      rw [List.find?_eq_none]
      exact fun q hq => by simpa using hlater.mpr hno q hq
    rw [hI.rtObjectFind_eq hr, hsplit, List.find?_append, hnone, Option.none_or,
      List.find?_cons_of_pos (by simpa using key_eq_of_not_cut hcut)]
    rfl

/-- Only what is registered is found. -/
lemma Inv.mem_of_find (hI : Inv p) {isStatic : Bool}
    (h : rtObjectFind p.container src ⟨type, isStatic⟩ = some (some object)) :
    ∃ r ∈ p.registered type, r.object = object := by
  unfold rtObjectFind at h
  cases hinfo : rtObjectGetInformation ⟨type, isStatic⟩ with
  | none => simp [hinfo] at h
  | some information =>
    obtain rfl := rtObjectGetInformation_eq hinfo
    rw [hinfo] at h
    have hmem : object ∈ p.container.objectList information := mem_of_findFrom h
    rw [hI.list information] at hmem
    exact List.mem_map.mp hmem

/-- **The search by name.**  A registered object with no later one of its class and its first `RT_NAME_MAX`
characters is found by its name exactly if that name has not been cut, and no name of a later object has been
cut to it.  What is found is always registered. -/
theorem found_iff_names_kept (obj : ℕ → RtObject) (as : List Action) (p : Program)
    (hvalid : Along Names.step Valid (start obj) as) (hrun : exec Names.step (start obj) as = some p)
    (type : RtObjectClass) :
    (∀ later r earlier, p.registered type = later ++ r :: earlier → OtherNames later r.name →
      (Found p type r ↔ NamesKept later r)) ∧
    ∀ src isStatic object, rtObjectFind p.container src ⟨type, isStatic⟩ = some (some object) →
      ∃ r ∈ p.registered type, r.object = object :=
  have hI := inv_of_run hvalid hrun
  ⟨fun _ _ _ hsplit hother => hI.found_iff hsplit hother, fun _ _ _ h => hI.mem_of_find h⟩

/-- Memory that no object has been in. -/
def blank : ℕ → RtObject := fun _ => ⟨Name.zero, ⟨.null, false⟩⟩

/-- A static thread with a name of eight characters, which is `"abcdefgh"`. -/
theorem found_iff_names_kept_static :
    ∃ p, exec Names.step (start blank) [.init 1000 .thread [97, 98, 99, 100, 101, 102, 103, 104, 0]] = some p ∧
      (∀ later r earlier, p.registered .thread = later ++ r :: earlier → OtherNames later r.name →
        (Found p .thread r ↔ NamesKept later r)) ∧
      ∀ src isStatic object, rtObjectFind p.container src ⟨.thread, isStatic⟩ = some (some object) →
        ∃ r ∈ p.registered .thread, r.object = object := by
  obtain ⟨p, hp⟩ := Option.isSome_iff_exists.mp (show (exec Names.step (start blank)
    [.init 1000 .thread [97, 98, 99, 100, 101, 102, 103, 104, 0]]).isSome by decide)
  have hvalid : Valid (start blank) (.init 1000 .thread [97, 98, 99, 100, 101, 102, 103, 104, 0]) :=
    ⟨by simp [start], by decide⟩
  have halong : Along Names.step Valid (start blank)
      [.init 1000 .thread [97, 98, 99, 100, 101, 102, 103, 104, 0]] := by
    refine ⟨hvalid, ?_⟩
    split <;> trivial
  exact ⟨p, hp, found_iff_names_kept blank _ p halong hp .thread⟩

/-- A dynamic thread with the same name is not found by it. -/
theorem not_found_allocated :
    ∃ p, exec Names.step (start blank)
        [.allocate .thread [97, 98, 99, 100, 101, 102, 103, 104, 0] (some 1000)] = some p ∧
      p.registered .thread = [⟨1000, [97, 98, 99, 100, 101, 102, 103, 104], false⟩] ∧
      ¬ Found p .thread ⟨1000, [97, 98, 99, 100, 101, 102, 103, 104], false⟩ := by
  refine ⟨_, rfl, rfl, fun hfound => ?_⟩
  exact absurd (hfound [] false) (by decide)

end N32L43x.Object.Names
