import ScriptHost.Proofs.Script.Growing
import ScriptHost.Proofs.Script.Realm
import ScriptHost.Script.Engine

/-! New engines. What copies need of the built-in objects is read off the heap that every engine begins
with; the rest of a new engine is what its limits say. -/

namespace ScriptHost.ScriptEngine

open Script Script.Host

/-- The engine is as it is when it is made with these limits. -/
structure Fresh (given : EngineLimits) (e : ScriptEngine) : Prop where
  limits : e.limits = given
  quota : e.heap.quota = ScriptEngine.quota given
  used : e.heap.used = baseline
  idle : e.heap.activations = [] ∧ e.heap.depth = 0
  quiet : e.heap.printed = []
  standard : e.heap.Standard

/-! ### Looking at the built-in objects -/

def isOrdinary (o : Object) : Bool :=
  match o.kind with
  | .ordinary => true
  | _ => false

/-- Is the object an array without items? -/
def isEmptyArray (o : Object) : Bool :=
  match o.kind with
  | .array items _ _ => items.isEmpty
  | _ => false

def isIndex : Key → Bool
  | .index _ => true
  | _ => false

def isWritable (p : Property) : Bool :=
  match p.slot with
  | .data _ writable => writable
  | .accessor .. => false

/-- Does the property hold the function that makes big integers? -/
def makesBigInts (h : Heap) (p : Property) : Bool :=
  match p.value? with
  | some (.object f) =>
    match h.kind f with
    | .native (.primitive .bigInt) _ => f < h.objects.size
    | _ => false
  | _ => false

/-- Are the built-in objects as copies need them? -/
def isStandard (h : Heap) : Bool :=
  ((h.objects[Intrinsic.objectPrototype.ref]?).any fun o => isOrdinary o && o.proto.isNone &&
    o.props.all fun (k, p) => k == "__proto__" || (isWritable p && !isIndex k)) &&
  ((h.objects[Intrinsic.arrayPrototype.ref]?).any fun o => isEmptyArray o &&
    o.proto == some Intrinsic.objectPrototype.ref && o.props.all fun (k, _) => !isIndex k) &&
  ((h.objects[Intrinsic.global.ref]?).any fun o => isOrdinary o &&
    o.proto == some Intrinsic.objectPrototype.ref && o.extensible &&
    (o.find? "BigInt").any (makesBigInts h))

variable {h : Heap} {o : Object} {k : Key} {p : Property}

theorem kind_of_isOrdinary (ordinary : isOrdinary o) : o.kind = .ordinary := by
  unfold isOrdinary at ordinary
  split at ordinary
  · assumption
  · cases ordinary

theorem kind_of_isEmptyArray (empty : isEmptyArray o) :
    ∃ length fixed, o.kind = .array #[] length fixed := by
  unfold isEmptyArray at empty
  split at empty
  · rename_i items length fixed kind
    obtain rfl := Array.isEmpty_iff.mp empty
    exact ⟨length, fixed, kind⟩
  · cases empty

theorem slot_of_isWritable (writable : isWritable p) : ∃ v, p.slot = .data v true := by
  unfold isWritable at writable
  split at writable
  · rename_i v kept slot
    obtain rfl : kept = true := writable
    exact ⟨v, slot⟩
  · cases writable

theorem maker_of_makesBigInts (makes : makesBigInts h p) : ∃ f maker constructs,
    p.value? = some (.object f) ∧ h.objects[f]? = some maker ∧
      maker.kind = .native (.primitive .bigInt) constructs := by
  unfold makesBigInts at makes
  split at makes
  · rename_i f value
    split at makes
    · rename_i constructs kind
      have inside : f < h.objects.size := by simpa using makes
      have known := Array.getElem?_eq_getElem inside
      refine ⟨f, h.objects[f], constructs, value, known, ?_⟩
      unfold Heap.kind at kind
      rw [Heap.object_of_known known] at kind
      exact kind
    · cases makes
  · cases makes

theorem mem_of_find? (found : o.find? k = some p) : (k, p) ∈ o.props := by
  unfold Object.find? at found
  split at found
  · rename_i k' p' entry
    obtain rfl := Option.some.inj found
    have same : k' = k := by simpa using Array.find?_some entry
    exact same ▸ Array.mem_of_find?_eq_some entry
  · cases found

theorem standard_of_isStandard (checked : isStandard h) : h.Standard := by
  simp only [isStandard, Bool.and_eq_true, Option.any_eq_true] at checked
  obtain ⟨⟨⟨object, atObject, ⟨ordinary, top⟩, yields⟩, array, atArray, ⟨empty, below⟩, bare⟩, global,
    atGlobal, ⟨⟨simple, inherits⟩, extensible⟩, p, found, makes⟩ := checked
  constructor
  · refine ⟨object, atObject, kind_of_isOrdinary ordinary, by simpa using top, fun k p found usual => ?_⟩
    have held := Array.all_eq_true_iff_forall_mem.mp yields (k, p) (mem_of_find? found)
    obtain ⟨writable, place⟩ : isWritable p ∧ isIndex k = false := by simpa [usual] using held
    refine ⟨slot_of_isWritable writable, ?_⟩
    rintro n rfl
    cases place
  · obtain ⟨length, fixed, kind⟩ := kind_of_isEmptyArray empty
    refine ⟨array, length, fixed, atArray, kind, by simpa using below, fun n => ?_⟩
    cases found : array.find? (.index n) with
    | none => rfl
    | some p =>
      have held := Array.all_eq_true_iff_forall_mem.mp bare (.index n, p) (mem_of_find? found)
      cases held
  · exact ⟨global, atGlobal, kind_of_isOrdinary simple, by simpa using inherits, extensible, p, by
      obtain ⟨f, maker, constructs, rest⟩ := maker_of_makesBigInts makes
      exact ⟨f, maker, constructs, found, rest⟩⟩

/-! ### The heap that engines begin with -/

/-- Is the name free? -/
def isFree (h : Heap) (name : String) : Bool :=
  match h.lookup Intrinsic.global.ref (Key.ofString name) with
  | .missing => true
  | _ => false

theorem lookup_of_isFree {name : String} (free : isFree h name) :
    h.lookup Intrinsic.global.ref (Key.ofString name) = .missing := by
  unfold isFree at free
  split at free
  · assumption
  · cases free

/-- A new engine with the limits that engines have by default. -/
def usual : ScriptEngine where
  handle := 1
  limits := {}
  heap := { Realm.initial with quota := quota {}, used := baseline }

/-- The names of the fields of a result. -/
def fieldNames : Outcome Datum → List String
  | .value (.object fields) => fields.map (·.1)
  | _ => []

/-- An object whose field has a NUL in its name. -/
def severed : Datum := .object [("a\x00b", .null)]

/-- The heap is evaluated once for all that is read off it: that the built-in objects are as copies need
them, that a name is free, and what comes back of a name with a NUL. -/
theorem initial_evaluated : isStandard Realm.initial ∧ isFree usual.heap "v" ∧
    fieldNames (run (.getGlobal "v") (run (.setGlobal ⟨"v", severed⟩) usual).2.2).1 = ["a"] := by
  unfold usual
  generalize placed : Realm.initial = heap
  -- The same heap, with the members of each object put in place together.
  unfold Realm.initial Realm.addPrinters Realm.addObject Realm.addClass Realm.nameFunction at placed
  rw [Realm.addFeatures_eq_placeFeatures, Realm.put_eq_putAt] at placed
  subst placed
  decide +kernel

theorem initial_idle : Realm.initial.activations = [] ∧ Realm.initial.depth = 0 :=
  ⟨congrArg Heap.activations Realm.initial_furnished, congrArg Heap.depth Realm.initial_furnished⟩

theorem fresh_of_create {handle : Nat} {limits : EngineLimits} {e : ScriptEngine}
    (made : (create handle limits).1 = .value e) : Fresh limits e := by
  -- A heap of any name: what else is in the one of a new engine plays no part.
  have furnished (heap : Heap) (idle : heap.activations = [] ∧ heap.depth = 0)
      (quiet : heap.printed = []) (standard : heap.Standard) : Fresh limits
        ⟨handle, limits, { heap with quota := ScriptEngine.quota limits, used := baseline }, #[]⟩ :=
    ⟨rfl, rfl, rfl, idle, quiet, standard.kept fun _ _ known => known⟩
  unfold create at made
  split at made
  · cases made
  · rw [← Outcome.value.inj made]
    exact furnished Realm.initial initial_idle Realm.initial_printed
      (standard_of_isStandard initial_evaluated.1)

theorem create_usual : (create 1 {}).1 = .value usual := by
  unfold create usual
  generalize Realm.initial = heap
  rfl

end ScriptHost.ScriptEngine
