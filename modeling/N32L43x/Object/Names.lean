import N32L43x.Klibc.Kstring
import N32L43x.Lib.Run
import Mathlib.Logic.Function.Basic

/-!
The names of objects, and the search for an object by its name: `rt_object_init`, `rt_object_allocate`,
`rt_object_detach`, `rt_object_delete` and `rt_object_find` of `rt-thread/src/object.c`.

The name is a field of `RT_NAME_MAX` bytes.  A static object is given as many characters, a dynamic object
one less, and the search compares `RT_NAME_MAX` of them.
-/

namespace N32L43x.Object.Names

open N32L43x.Lib.CString N32L43x.Lib.Run N32L43x.Klibc

/-! ### Objects and their lists -/

/-- `RT_NAME_MAX`. -/
def rtNameMax : ℕ := 8

/-- `enum rt_object_class_type`, without `RT_Object_Class_Static`. -/
inductive RtObjectClass
  | null
  | thread
  | semaphore
  | mutex
  | event
  | mailBox
  | messageQueue
  | memHeap
  | memPool
  | device
  | timer
  | module
  | memory
  | channel
  | processGroup
  | session
  | custom
  | unknown
deriving DecidableEq

/-- The field `type`: a class, and the bit `RT_Object_Class_Static`. -/
structure RtObjectType where
  cls : RtObjectClass
  isStatic : Bool

/-- The field `name`. -/
structure Name where
  bytes : List UInt8
  length_bytes : bytes.length = rtNameMax

structure RtObject where
  name : Name
  type : RtObjectType

/-- The objects by their addresses, and `_object_container`. -/
structure Container where
  obj : ℕ → RtObject
  /-- `object_list`, from the head on -/
  objectList : RtObjectClass → List ℕ

/-- The classes in `_object_container`. -/
def objectContainer : List RtObjectClass :=
  [.thread, .semaphore, .mutex, .event, .mailBox, .messageQueue, .memHeap, .memPool, .device, .timer,
    .memory, .custom]

/-- `rt_object_get_information`. -/
def rtObjectGetInformation (type : RtObjectType) : Option RtObjectClass :=
  objectContainer.find? fun cls => decide (cls = type.cls)

/-! ### Calls

A call gives `none` if an assertion fails or an access leaves an array. -/

lemma length_fillZero : ∀ {dst d : List UInt8} {n : ℕ}, fillZero dst n = some d → d.length = dst.length
  | dst, d, 0, h => by
    simp only [fillZero, Option.some.injEq] at h
    rw [h]
  | [], d, n + 1, h => by simp [fillZero] at h
  | c :: dst, d, n + 1, h => by
    obtain ⟨d', hd', rfl⟩ := Option.map_eq_some_iff.mp h
    simp [length_fillZero hd']

lemma length_rtStrncpy :
    ∀ {dst src d : List UInt8} {n : ℕ}, rtStrncpy dst src n = some d → d.length = dst.length
  | dst, src, d, 0, h => by
    simp only [rtStrncpy, Option.some.injEq] at h
    rw [h]
  | [], src, d, n + 1, h => by simp [rtStrncpy] at h
  | c :: dst, [], d, n + 1, h => by simp [rtStrncpy] at h
  | c :: dst, a :: src, d, n + 1, h => by
    rw [rtStrncpy] at h
    split at h
    · obtain ⟨d', hd', rfl⟩ := Option.map_eq_some_iff.mp h
      simp [length_fillZero hd']
    · obtain ⟨d', hd', rfl⟩ := Option.map_eq_some_iff.mp h
      simp [length_rtStrncpy hd']

/-- `rt_strncpy` to the field. -/
def Name.copy (f : Name) (src : List UInt8) (n : ℕ) : Option Name :=
  (rtStrncpy f.bytes src n).attach.map fun d =>
    ⟨d.1, (length_rtStrncpy (Option.mem_def.mp d.2)).trans f.length_bytes⟩

/-- The field after `rt_memset`. -/
def Name.zero : Name := ⟨List.replicate rtNameMax 0, List.length_replicate⟩

/-- `rt_list_insert_after` the head of a list. -/
def Container.insert (k : Container) (information : RtObjectClass) (object : ℕ) (o : RtObject) : Container where
  obj := Function.update k.obj object o
  objectList := Function.update k.objectList information (object :: k.objectList information)

/-- `rt_object_init`. -/
def rtObjectInit (k : Container) (object : ℕ) (type : RtObjectClass) (name : List UInt8) : Option Container :=
  (rtObjectGetInformation ⟨type, false⟩).bind fun information =>
    ((k.obj object).name.copy name rtNameMax).map fun f =>
      k.insert information object ⟨f, ⟨type, true⟩⟩

/-- `rt_object_allocate`, with what the heap has answered. -/
def rtObjectAllocate (k : Container) (type : RtObjectClass) (name : List UInt8) (malloc : Option ℕ) :
    Option Container :=
  (rtObjectGetInformation ⟨type, false⟩).bind fun information =>
    match malloc with
    | none => some k
    | some object =>
      (Name.zero.copy name (rtNameMax - 1)).map fun f => k.insert information object ⟨f, ⟨type, false⟩⟩

/-- `rt_list_remove`, whatever list the object is in, and `type = RT_Object_Class_Null`. -/
def Container.remove (k : Container) (object : ℕ) : Container where
  obj := Function.update k.obj object { k.obj object with type := ⟨.null, false⟩ }
  objectList := fun cls => (k.objectList cls).erase object

/-- `rt_object_detach`. -/
def rtObjectDetach (k : Container) (object : ℕ) : Option Container :=
  (rtObjectGetInformation (k.obj object).type).map fun _ => k.remove object

/-- `rt_object_delete`.  The memory goes back to the heap. -/
def rtObjectDelete (k : Container) (object : ℕ) : Option Container :=
  if (k.obj object).type.isStatic then none
  else (rtObjectGetInformation (k.obj object).type).map fun _ => k.remove object

/-- `rt_object_for_each` with `_match_name`, on what is left of a list. -/
def findFrom (k : Container) (name : List UInt8) : List ℕ → Option (Option ℕ)
  | [] => some none
  | object :: rest =>
    (rtStrncmp (k.obj object).name.bytes name rtNameMax).bind fun res =>
      if res = 0 then some (some object) else findFrom k name rest

/-- `rt_object_find`. -/
def rtObjectFind (k : Container) (name : List UInt8) (type : RtObjectType) : Option (Option ℕ) :=
  match rtObjectGetInformation type with
  | none => some none
  | some information => findFrom k name (k.objectList information)

/-! ### Programs -/

inductive Action
  | init (object : ℕ) (type : RtObjectClass) (name : List UInt8)
  | allocate (type : RtObjectClass) (name : List UInt8) (malloc : Option ℕ)
  | detach (object : ℕ)
  | delete (object : ℕ)

/-- What a program has registered: an object, and the name it has given. -/
structure Registration where
  object : ℕ
  name : List UInt8
  isStatic : Bool

/-- The container, and beside it what is registered for a class, the last one in front. -/
structure Program where
  container : Container
  registered : RtObjectClass → List Registration

/-- An object is registered, or it is no longer. -/
def Program.register (p : Program) (k : Container) (type : RtObjectClass) (r : Registration) : Program where
  container := k
  registered := Function.update p.registered type (r :: p.registered type)

def Program.unregister (p : Program) (k : Container) (object : ℕ) : Program where
  container := k
  registered := fun cls => (p.registered cls).filter fun r => decide (r.object ≠ object)

def step (p : Program) : Action → Option Program
  | .init object type name => (rtObjectInit p.container object type name).map fun k =>
      p.register k type ⟨object, cString name, true⟩
  | .allocate type name malloc => (rtObjectAllocate p.container type name malloc).map fun k =>
      match malloc with
      | none => p
      | some object => p.register k type ⟨object, cString name, false⟩
  | .detach object => (rtObjectDetach p.container object).map fun k => p.unregister k object
  | .delete object => (rtObjectDelete p.container object).map fun k => p.unregister k object

/-- An object is not registered twice, the heap gives out no memory of an object that is in use, what is
taken out has been registered, and a name has an end. -/
def Valid (p : Program) : Action → Prop
  | .init object _ name => (∀ cls, object ∉ p.container.objectList cls) ∧ 0 ∈ name
  | .allocate _ name malloc =>
    (∀ object, malloc = some object → ∀ cls, object ∉ p.container.objectList cls) ∧ 0 ∈ name
  | .detach object => ∃ cls, object ∈ p.container.objectList cls
  | .delete object => ∃ cls, object ∈ p.container.objectList cls

/-- Nothing is registered. -/
def start (obj : ℕ → RtObject) : Program := ⟨⟨obj, fun _ => []⟩, fun _ => []⟩

end N32L43x.Object.Names
