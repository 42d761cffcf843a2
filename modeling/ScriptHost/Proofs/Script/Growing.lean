import Mathlib
import ScriptHost.Proofs.Script.Running
import ScriptHost.Script.Value

/-! The keys of texts. A text that is an index written in the shortest way has the key of the index, and
that is written as the text again; so different texts have different keys.

Heaps grow: objects are added, and properties are added to objects. Where the built-in prototypes are
as every engine begins with them, a property that a new object does not have yet is simply added to
it, at a price known beforehand. -/

namespace ScriptHost.Script

theorem range_of_isDigit {c : Char} (digit : c.isDigit) : 48 ≤ c.toNat ∧ c.toNat ≤ 57 := by
  simpa [Char.isDigit, UInt32.le_iff_toNat_le] using digit

theorem digitChar_of_isDigit {c : Char} (digit : c.isDigit) :
    Nat.digitChar (c.toNat - '0'.toNat) = c := by
  obtain ⟨low, high⟩ := range_of_isDigit digit
  apply Char.toNat_inj.mp
  generalize c.toNat = n at low high ⊢
  interval_cases n <;> rfl

/-- The number that decimal digits spell. -/
def spelled (digits : List Char) : Nat := digits.foldl (fun n c => n * 10 + (c.toNat - '0'.toNat)) 0

theorem spelled_snoc (digits : List Char) (c : Char) :
    spelled (digits ++ [c]) = 10 * spelled digits + (c.toNat - '0'.toNat) := by
  rw [spelled, List.foldl_append, Nat.mul_comm]
  rfl

theorem toDigits_spelled {digits : List Char} (written : digits ≠ []) (all : digits.all Char.isDigit)
    (shortest : digits = ['0'] ∨ digits.head? ≠ some '0') : Nat.toDigits 10 (spelled digits) = digits := by
  induction digits using List.reverseRecOn with
  | nil => exact absurd rfl written
  | append_singleton front c ih =>
    rw [List.all_append, Bool.and_eq_true] at all
    have digit : c.isDigit := by simpa using all.2
    have small : c.toNat - '0'.toNat < 10 := by
      have high := (range_of_isDigit digit).2
      have zero : '0'.toNat = 48 := rfl
      omega
    have last : Nat.toDigits 10 (c.toNat - '0'.toNat) = [c] := by
      rw [Nat.toDigits_of_lt_base small, digitChar_of_isDigit digit]
    cases front with
    | nil => simpa [spelled] using last
    | cons first rest =>
      have led : first ≠ '0' := by simpa using shortest
      have before := ih (List.cons_ne_nil _ _) all.1 (.inr (by simpa using led))
      have positive : 0 < spelled (first :: rest) := by
        rcases Nat.eq_zero_or_pos (spelled (first :: rest)) with zero | positive
        · rw [zero] at before
          exact absurd (List.cons.inj before).1.symm led
        · exact positive
      rw [spelled_snoc, ← Nat.toDigits_append_toDigits (by decide) positive small, before, last]

namespace Key

theorem toString_of_index? {s : String} {n : Nat} (index : index? s = some n) : toString n = s := by
  unfold index? at index
  split at index
  · cases index
  · rename_i length
    dsimp only at index
    split at index
    · rename_i form
      split at index
      · obtain rfl := Option.some.inj index
        have written : s.toList ≠ [] := by
          intro none
          exact length (.inl (by rw [← String.length_toList, none]; rfl))
        have digits := toDigits_spelled written form.1 form.2
        rw [Nat.toString_eq_repr, Nat.repr_eq_ofList_toDigits]
        exact (congrArg String.ofList digits).trans String.ofList_toList
      · cases index
    · cases index

theorem text?_ofString (s : String) : (ofString s).text? = some (.text s) := by
  unfold ofString ofText
  cases index : index? s with
  | none => simp only [index, text?]
  | some n => simp only [index, text?, toString_of_index? index]

theorem ofString_injective : Function.Injective ofString := by
  intro s t same
  have texts := (text?_ofString s).symm.trans ((congrArg text? same).trans (text?_ofString t))
  simpa using texts

theorem isText_ofString (s : String) : (ofString s).isText := by
  unfold ofString ofText
  cases index : index? s <;> simp only [index] <;> rfl

end Key

end ScriptHost.Script

namespace ScriptHost.Script

open Script.Comp

/-! ### Arrays and records -/

/-- An array of these items. -/
def Object.arrayOf (values : List Value) : Object :=
  { kind := .array values.toArray values.length false, proto := some Intrinsic.arrayPrototype.ref }

/-- A plain object with these properties, in the order in which they came. -/
def Object.recordOf (values : List (String × Value)) : Object :=
  { kind := .ordinary, proto := some Intrinsic.objectPrototype.ref
    props := (values.map fun (name, v) => (Key.ofString name, Property.plain v)).toArray }

theorem Object.find?_recordOf (values : List (String × Value)) (name : String) :
    (Object.recordOf values).find? (Key.ofString name) = (values.lookup name).map .plain := by
  unfold Object.recordOf Object.find?
  dsimp only
  rw [List.find?_toArray]
  induction values with
  | nil => rfl
  | cons field rest ih =>
    obtain ⟨other, v⟩ := field
    rw [List.map_cons, List.find?_cons, List.lookup_cons]
    by_cases same : other = name
    · subst same
      simp
    · have keys : Key.ofString other ≠ Key.ofString name := fun both =>
        same (Key.ofString_injective both)
      have differ : (Key.ofString other == Key.ofString name) = false := by simpa using keys
      have names : (name == other) = false := by simpa using Ne.symm same
      simp only [differ, names]
      exact ih

theorem Object.find?_recordOf_none {values : List (String × Value)} {name : String}
    (new : name ∉ values.map (·.1)) : (Object.recordOf values).find? (Key.ofString name) = none := by
  have missing : values.lookup name = none := by
    rw [List.lookup_eq_none_iff]
    intro field member
    have differ : name ≠ field.1 := fun same => new (List.mem_map.mpr ⟨field, member, same.symm⟩)
    simpa using differ
  rw [Object.find?_recordOf, missing]
  rfl

namespace Heap

/-! ### Growth -/

/-- All objects of a heap are in another one too, and are the same there. -/
def Kept (h h' : Heap) : Prop := ∀ (r : Ref) (o : Object), h.objects[r]? = some o → h'.objects[r]? = some o

/-- One heap came of another by memory taken and by objects added; of the older objects no others than
these were changed. -/
structure Grows (h : Heap) (changed : List Ref) (cost : Nat) (h' : Heap) : Prop where
  rest : h' = { h with objects := h'.objects, used := h.used + cost }
  larger : h.objects.size ≤ h'.objects.size
  others : ∀ r ∉ changed, ∀ o : Object, h.objects[r]? = some o → h'.objects[r]? = some o

namespace Grows

variable {h h' h'' : Heap} {changed : List Ref} {m n : Nat} {r : Ref}

theorem refl (h : Heap) (changed : List Ref) : h.Grows changed 0 h :=
  ⟨rfl, Nat.le_refl _, fun _ _ _ known => known⟩

theorem trans (first : h.Grows changed m h') (second : h'.Grows changed n h'') :
    h.Grows changed (m + n) h'' where
  rest := by
    have one := first.rest
    have other := second.rest
    rw [one] at other
    rw [other]
    simp only [Nat.add_assoc]
  larger := Nat.le_trans first.larger second.larger
  others r free o known := second.others r free o (first.others r free o known)

theorem mono (grows : h.Grows [] n h') (changed : List Ref) : h.Grows changed n h' :=
  ⟨grows.rest, grows.larger, fun r _ o known => grows.others r List.not_mem_nil o known⟩

theorem kept (grows : h.Grows [] n h') : Kept h h' :=
  fun r o known => grows.others r List.not_mem_nil o known

/-- What is new may be changed. -/
theorem new (grows : h.Grows [r] n h') (new : h.objects.size ≤ r) : h.Grows [] n h' where
  rest := grows.rest
  larger := grows.larger
  others x _ o known := by
    have old : x < h.objects.size := (Array.getElem?_eq_some_iff.mp known).1
    have apart : x ≠ r := Nat.ne_of_lt (Nat.lt_of_lt_of_le old new)
    exact grows.others x (by simpa using apart) o known

theorem used (grows : h.Grows changed n h') : h'.used = h.used + n := by rw [grows.rest]

theorem quota (grows : h.Grows changed n h') : h'.quota = h.quota := by rw [grows.rest]

end Grows

/-- There is memory for something of this size. -/
def Affords (h : Heap) (size : Nat) : Prop := ∀ limit ∈ h.quota.memory, h.used + size ≤ limit

theorem Affords.mono {h : Heap} {m n : Nat} (affords : h.Affords n) (le : m ≤ n) : h.Affords m :=
  fun limit bound => Nat.le_trans (Nat.add_le_add_left le _) (affords limit bound)

theorem Affords.grown {h h' : Heap} {changed : List Ref} {m n : Nat} (affords : h.Affords (m + n))
    (grows : h.Grows changed m h') : h'.Affords n := by
  intro limit bound
  rw [grows.quota] at bound
  rw [grows.used, Nat.add_assoc]
  exact affords limit bound

/-- The heap with memory taken for something of this size. -/
def spent (h : Heap) (size : Nat) : Heap := { h with used := h.used + size }

theorem grows_spent (h : Heap) (size : Nat) : h.Grows [] size (h.spent size) :=
  ⟨rfl, Nat.le_refl _, fun _ _ _ known => known⟩

theorem grows_allocate (h : Heap) (o : Object) : h.Grows [] 0 (h.allocate o).2 where
  rest := rfl
  larger := by
    show h.objects.size ≤ (h.objects.push o).size
    simp
  others r _ old known := by
    show (h.objects.push o)[r]? = _
    have inside : r < h.objects.size := (Array.getElem?_eq_some_iff.mp known).1
    rw [Array.getElem?_push, if_neg (Nat.ne_of_lt inside)]
    exact known

theorem allocate_known (h : Heap) (o : Object) :
    (h.allocate o).2.objects[h.objects.size]? = some o := by
  show (h.objects.push o)[h.objects.size]? = _
  rw [Array.getElem?_push, if_pos rfl]

theorem grows_modify (h : Heap) (r : Ref) (f : Object → Object) :
    h.Grows [r] 0 (h.modifyObject r f) where
  rest := rfl
  larger := by
    show h.objects.size ≤ (h.objects.modify r f).size
    simp
  others x free old known := by
    show (h.objects.modify r f)[x]? = _
    rw [Array.getElem?_modify, if_neg (by simpa [eq_comm] using free)]
    exact known

theorem modify_known {h : Heap} {r : Ref} {o : Object} (known : h.objects[r]? = some o)
    (f : Object → Object) : (h.modifyObject r f).objects[r]? = some (f o) := by
  show (h.objects.modify r f)[r]? = _
  rw [Array.getElem?_modify, if_pos rfl, known]
  rfl

theorem object_of_known {h : Heap} {r : Ref} {o : Object} (known : h.objects[r]? = some o) :
    h.object r = o := by
  unfold object
  rw [Array.getD_eq_getD_getElem?, known]
  rfl

/-! ### Searching along the prototypes -/

variable {h : Heap} {r proto : Ref} {o : Object} {k : Key} {p : Property}

/-- Objects that hold nothing but their own properties and items. -/
def isSimple (o : Object) : Bool :=
  match o.kind with
  | .ordinary | .array .. => true
  | _ => false

theorem search_own (known : h.objects[r]? = some o) (simple : isSimple o)
    (own : h.ownProperty r k = some p) (limit : Nat) : h.search (limit + 1) r k = .property p := by
  have direct : h.isProxy r = false := by
    unfold isProxy kind
    rw [object_of_known known]
    revert simple
    unfold isSimple
    cases o.kind <;> simp
  rw [search, direct, own]
  rfl

theorem search_proto (known : h.objects[r]? = some o) (simple : isSimple o)
    (own : h.ownProperty r k = none) (limit : Nat) : h.search (limit + 1) r k =
      match o.proto with
      | some proto => h.search limit proto k
      | none => .missing := by
  have direct : h.isProxy r = false ∧ h.endsSearch r k = false := by
    unfold isProxy endsSearch kind
    rw [object_of_known known]
    revert simple
    unfold isSimple
    cases o.kind <;> simp
  rw [search, direct.1, own, direct.2]
  unfold Heap.proto
  rw [object_of_known known]
  rfl

theorem ownProperty_ordinary (known : h.objects[r]? = some o) (kind : o.kind = .ordinary) (k : Key) :
    h.ownProperty r k = o.find? k := by
  unfold ownProperty
  rw [object_of_known known]
  simp only [kind]

theorem ownProperty_item {items : Array Value} {length : Nat} {fixed : Bool}
    (known : h.objects[r]? = some o) (kind : o.kind = .array items length fixed) (n : Nat) :
    h.ownProperty r (.index n) =
      match items[n]? with
      | some v => some (.plain v)
      | none => o.find? (.index n) := by
  unfold ownProperty
  rw [object_of_known known]
  cases found : items[n]? <;> simp only [kind, found]

/-- An object without a prototype has what is its own. -/
theorem search_top (known : h.objects[r]? = some o) (kind : o.kind = .ordinary) (top : o.proto = none)
    (limit : Nat) : h.search (limit + 1) r k = (o.find? k).elim .missing .property := by
  have simple : isSimple o := by simp [isSimple, kind]
  have own := ownProperty_ordinary known kind k
  cases found : o.find? k with
  | none =>
    rw [search_proto known simple (own.trans found), top]
    rfl
  | some p => exact search_own known simple (own.trans found) limit

theorem exists_size_eq (known : h.objects[r]? = some o) : ∃ limit, h.objects.size = limit + r + 1 := by
  have inside := (Array.getElem?_eq_some_iff.mp known).1
  exact ⟨h.objects.size - r - 1, by omega⟩

theorem settled?_own (known : h.objects[r]? = some o) (kind : o.kind = .ordinary)
    (own : o.find? k = some p) : h.settled? r k = p.value? := by
  have unset : unsetName h r k = false := by
    unfold unsetName Heap.kind
    rw [object_of_known known, kind]
  have found : h.lookup r k = .property p :=
    search_own known (by simp [isSimple, kind]) ((ownProperty_ordinary known kind k).trans own) _
  unfold settled?
  rw [unset, found]
  rfl

/-! ### The built-in objects -/

/-- Can a property of this name be added to an object that inherits this one? -/
def Inheritable (k : Key) (p : Property) : Prop :=
  (∃ v, p.slot = .data v true) ∧ ∀ n, k ≠ .index n

/-- The built-in objects that copies are made with are as every engine begins with them: no prototype of
plain objects and arrays has an item, and none has a property, other than one, that objects cannot have
instead; and there is the function that makes big integers. -/
structure Standard (h : Heap) : Prop where
  object : ∃ o, h.objects[Intrinsic.objectPrototype.ref]? = some o ∧ o.kind = .ordinary ∧
    o.proto = none ∧ ∀ k p, o.find? k = some p → k ≠ "__proto__" → Inheritable k p
  array : ∃ o length fixed, h.objects[Intrinsic.arrayPrototype.ref]? = some o ∧
    o.kind = .array #[] length fixed ∧ o.proto = some Intrinsic.objectPrototype.ref ∧
    ∀ n, o.find? (.index n) = none
  global : ∃ o, h.objects[Intrinsic.global.ref]? = some o ∧ o.kind = .ordinary ∧
    o.proto = some Intrinsic.objectPrototype.ref ∧ o.extensible ∧
    ∃ p f maker constructs, o.find? "BigInt" = some p ∧ p.value? = some (.object f) ∧
      h.objects[f]? = some maker ∧ maker.kind = .native (.primitive .bigInt) constructs

theorem Standard.kept (standard : h.Standard) {h' : Heap} (kept : Kept h h') : h'.Standard where
  object := by
    obtain ⟨o, known, rest⟩ := standard.object
    exact ⟨o, kept _ o known, rest⟩
  array := by
    obtain ⟨o, length, fixed, known, rest⟩ := standard.array
    exact ⟨o, length, fixed, kept _ o known, rest⟩
  global := by
    obtain ⟨o, known, kind, proto, extensible, p, f, maker, constructs, found, value, made, native⟩ :=
      standard.global
    exact ⟨o, kept _ o known, kind, proto, extensible, p, f, maker, constructs, found, value,
      kept _ maker made, native⟩

/-! ### Where a property is added -/

theorem index_ne_proto (n : Nat) : Key.index n ≠ "__proto__" := by
  have written : Key.ofString "__proto__" = .name (.text "__proto__") := by decide
  rw [written]
  exact nofun

theorem ownProperty_beyond {values : List Value} (known : h.objects[r]? = some (.arrayOf values))
    {n : Nat} (beyond : values.length ≤ n) : h.ownProperty r (.index n) = none := by
  rw [ownProperty_item known rfl, Array.getElem?_eq_none (by simpa using beyond)]
  rfl

theorem Standard.lookup_item (standard : h.Standard) {values : List Value}
    (known : h.objects[r]? = some (.arrayOf values)) {n : Nat} (beyond : values.length ≤ n) :
    h.lookup r (.index n) = .missing := by
  obtain ⟨array, length, fixed, atArray, arrayKind, arrayProto, arrayBare⟩ := standard.array
  obtain ⟨object, atObject, objectKind, objectProto, objectProps⟩ := standard.object
  obtain ⟨limit, enough⟩ := exists_size_eq atArray
  have first := ownProperty_beyond known beyond
  have second : h.ownProperty Intrinsic.arrayPrototype.ref (.index n) = none := by
    rw [ownProperty_item atArray arrayKind, Array.getElem?_eq_none (Nat.zero_le _)]
    exact arrayBare n
  have third : object.find? (.index n) = none := by
    cases found : object.find? (.index n) with
    | none => rfl
    | some p => exact absurd rfl ((objectProps _ p found (index_ne_proto n)).2 n)
  -- Along the prototypes: the array, the prototype of arrays, that of objects, and there it ends.
  unfold lookup
  rw [enough, search_proto known rfl first]
  show h.search _ Intrinsic.arrayPrototype.ref _ = _
  rw [search_proto atArray (by simp [isSimple, arrayKind]) second, arrayProto]
  have topmost := search_top (k := .index n) atObject objectKind objectProto (limit + 1)
  rw [third] at topmost
  exact topmost

theorem ownProperty_new {values : List (String × Value)}
    (known : h.objects[r]? = some (.recordOf values)) {name : String}
    (new : name ∉ values.map (·.1)) : h.ownProperty r (Key.ofString name) = none := by
  rw [ownProperty_ordinary known rfl, Object.find?_recordOf_none new]

theorem Standard.lookup_field (standard : h.Standard) {values : List (String × Value)}
    (known : h.objects[r]? = some (.recordOf values)) {name : String} (new : name ∉ values.map (·.1))
    (usual : name ≠ "__proto__") :
    h.lookup r (Key.ofString name) = .missing ∨
      ∃ p v, h.lookup r (Key.ofString name) = .property p ∧ p.slot = .data v true := by
  obtain ⟨object, atObject, objectKind, objectProto, objectProps⟩ := standard.object
  obtain ⟨limit, enough⟩ := exists_size_eq atObject
  have inherited : h.lookup r (Key.ofString name) =
      (object.find? (Key.ofString name)).elim .missing .property := by
    unfold lookup
    rw [enough, search_proto known rfl (ownProperty_new known new)]
    exact search_top atObject objectKind objectProto _
  rw [inherited]
  cases found : object.find? (Key.ofString name) with
  | none => exact .inl rfl
  | some p =>
    have other : Key.ofString name ≠ "__proto__" := fun same => usual (Key.ofString_injective same)
    obtain ⟨⟨v, slot⟩, -⟩ := objectProps _ p found other
    exact .inr ⟨p, v, rfl, slot⟩

/-- What the global object has is its own or the prototype's. -/
theorem Standard.lookup_global (standard : h.Standard) (k : Key) :
    ∃ o object, h.objects[Intrinsic.global.ref]? = some o ∧ o.kind = .ordinary ∧ o.extensible ∧
      ∀ h', Kept h h' →
        h'.lookup Intrinsic.global.ref k = ((o.find? k).or object).elim .missing .property := by
  obtain ⟨o, known, kind, proto, extensible, -⟩ := standard.global
  obtain ⟨object, atObject, objectKind, objectProto, -⟩ := standard.object
  refine ⟨o, object.find? k, known, kind, extensible, fun h' kept => ?_⟩
  have atGlobal := kept _ o known
  have atObject := kept _ object atObject
  obtain ⟨limit, enough⟩ := exists_size_eq atObject
  have own := ownProperty_ordinary atGlobal kind k
  have simple : isSimple o := by simp [isSimple, kind]
  unfold lookup
  rw [enough]
  cases found : o.find? k with
  | some p => exact search_own atGlobal simple (own.trans found) _
  | none =>
    rw [search_proto atGlobal simple (own.trans found), proto]
    exact search_top atObject objectKind objectProto _

/-- Ordinary objects take any property, and arrays any item. -/
def Accepts (o : Object) (k : Key) : Prop :=
  o.extensible ∧ (o.kind = .ordinary ∨ ∃ items length n, o.kind = .array items length false ∧ k = .index n)

/-- A property that an object does not have is added to it, unless a prototype forbids that. -/
theorem setPlan_eq_add (known : h.objects[r]? = some o) (accepts : Accepts o k)
    (own : h.ownProperty r k = none)
    (free : h.lookup r k = .missing ∨ ∃ p v, h.lookup r k = .property p ∧ p.slot = .data v true) :
    setPlan h r k = .add := by
  obtain ⟨extensible, simple⟩ := accepts
  have plain : takesPlain h r k = true := by
    unfold takesPlain Heap.kind
    rw [object_of_known known]
    rcases simple with kind | ⟨items, length, n, kind, rfl⟩ <;> simp [kind]
  unfold setPlan Heap.kind
  rw [plain, own, object_of_known known, extensible]
  rcases free with missing | ⟨p, v, found, slot⟩
  · rw [missing]
    rcases simple with kind | ⟨items, length, n, kind, rfl⟩ <;> simp [kind]
  · rw [found]
    rcases simple with kind | ⟨items, length, n, kind, rfl⟩ <;> simp [kind, slot]

theorem addOwn_item {values : List Value} (known : h.objects[r]? = some (.arrayOf values)) (v : Value) :
    (h.addOwn r (.index values.length) v).objects[r]? = some (.arrayOf (values ++ [v])) := by
  unfold addOwn
  rw [modify_known known]
  simp [Object.arrayOf, putItem, Property.plain, Object.find?]

theorem addOwn_field {values : List (String × Value)} (known : h.objects[r]? = some (.recordOf values))
    (name : String) (v : Value) : (h.addOwn r (Key.ofString name) v).objects[r]? =
      some (.recordOf (values ++ [(name, v)])) := by
  unfold addOwn
  rw [modify_known known]
  simp [Object.recordOf]

end Heap

/-! ### Computations that make a heap grow -/

namespace Comp.Takes

variable {time : Option Nat} {h : Heap} {r : Ref} {k : Key} {v : Value}

theorem charge {size : Nat} (affords : h.Affords size) :
    Takes time (charge size) h 1 () (h.spent size) := by
  intro next coroutines frames resumers tripped bound
  have enough : ¬ h.quota.memory.any (· < h.used + size) := by
    cases memory : h.quota.memory with
    | none => simp
    | some limit => simpa using affords limit memory
  unfold Comp.charge
  rw [Nat.add_comm, Machine.run, Machine.step]
  dsimp only
  rw [if_neg enough]
  rfl

theorem newObject {o : Object} (affords : h.Affords (objectSize o.props.size)) :
    Takes time (newObject o) h 2 h.objects.size
      ((h.spent (objectSize o.props.size)).allocate o).2 := by
  unfold Comp.newObject
  exact .cast (by decide) ((charge affords).bind (change (·.allocate o) _))

theorem newPlain (affords : h.Affords 64) : Takes time (Comp.newPlain []) h 2
    (.object h.objects.size) ((h.spent 64).allocate (.recordOf [])).2 := by
  unfold Comp.newPlain
  exact .cast (Nat.add_zero 2) ((newObject affords).bind (.pure _ _))

theorem newArray (affords : h.Affords 64) : Takes time (Comp.newArray []) h 3
    (.object h.objects.size) ((h.spent 64).allocate (.arrayOf [])).2 := by
  have free : h.Affords 0 := affords.mono (Nat.zero_le _)
  have made : Takes time (Comp.newObject (.arrayOf [])) (h.spent 0) 2 h.objects.size
      ((h.spent 64).allocate (.arrayOf [])).2 := newObject affords
  unfold Comp.newArray
  exact .cast (by decide) ((charge free).bind (made.bind (.pure _ _)))

theorem set (plan : setPlan h r k = .add) (affords : h.Affords 32) :
    Takes time (Comp.set r k v) h 3 () ((h.spent 32).addOwn r k v) := by
  have done : Takes time (setFrom r k v (.object r)) h 3 true ((h.spent 32).addOwn r k v) := by
    unfold setFrom
    rw [if_pos (by simp)]
    refine .after_read ?_
    rw [plan]
    exact .cast (by decide) ((charge affords).bind ((update _ _).bind (.pure _ _)))
  unfold Comp.set
  exact .cast (Nat.add_zero 3) (done.bind (.pure _ _))

end Comp.Takes

namespace Heap

theorem grows_addOwn (h : Heap) (r : Ref) (k : Key) (v : Value) :
    h.Grows [r] 32 ((h.spent 32).addOwn r k v) :=
  ((h.grows_spent 32).mono [r]).trans (grows_modify _ _ _)

end Heap

end ScriptHost.Script
