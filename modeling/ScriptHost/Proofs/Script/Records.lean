import ScriptHost.Proofs.Script.Globals

/-! The objects that are made of data. Wherever it stands in the data, an object of theirs becomes a plain
object that has just the fields as its own properties and inherits what every plain object inherits; and
this is what a command goes on with. A field by the name that engines keep for prototypes is the one
exception: it is not added but assigned, which may change the prototype, and is lost. -/

namespace ScriptHost

namespace Script

/-! ### What a record has of its own -/

/-- These are the properties of the object, all of them such as an assignment makes, and its prototype is
that of plain objects. -/
structure Heap.Owns (h : Heap) (r : Ref) (entries : List (String × Value)) : Prop where
  inherits : h.proto r = some Intrinsic.objectPrototype.ref
  own : ∀ k p, h.ownProperty r k = some p ↔
    ∃ name v, (name, v) ∈ entries ∧ k = Key.ofString name ∧ p = .plain v
  listed : (h.listed r).Perm (entries.map fun entry => Key.ofString entry.1)

namespace Heap

variable {h : Heap} {low r : Ref} {fields : List (String × Datum)} {entries : List (String × Value)}

theorem owns_recordOf (known : h.objects[r]? = some (.recordOf entries))
    (once : (entries.map (·.1)).Nodup) : h.Owns r entries where
  inherits := by
    unfold Heap.proto
    rw [object_of_known known]
    rfl
  own k p := by
    rw [ownProperty_ordinary known rfl]
    constructor
    · intro found
      have member := ScriptEngine.mem_of_find? found
      obtain ⟨name, v, inside, rfl, rfl⟩ : ∃ name v, (name, v) ∈ entries ∧ Key.ofString name = k ∧
          Property.plain v = p := by
        simpa [Object.recordOf] using member
      exact ⟨name, v, inside, rfl, rfl⟩
    · rintro ⟨name, v, inside, rfl, rfl⟩
      have found := find?_field once inside
      exact found
  listed := listed_recordOf known once

theorem RepresentsFields.names_eq (each : h.RepresentsFields low fields entries) :
    entries.map (·.1) = fields.map (·.1) := by
  induction fields generalizing entries with
  | nil =>
    cases each
    rfl
  | cons field rest ih =>
    cases each with
    | cons first others => rw [List.map_cons, List.map_cons, ih others]

/-- A copy of an object has the names of its fields and copies of what is in them. -/
theorem Represents.owns (copy : h.Represents low (.object fields) (.object r))
    (ascending : Wire.Ascending fields) : ∃ entries, h.RepresentsFields low fields entries ∧
      entries.map (·.1) = fields.map (·.1) ∧ h.Owns r entries := by
  cases copy with
  | leaf bare => cases bare
  | @object _ entries _ above known each =>
    have once : (entries.map (·.1)).Nodup := by
      rw [each.names_eq]
      exact List.pairwise_map.mpr (ascending.imp fun before => before.ne)
    exact ⟨entries, each, each.names_eq, owns_recordOf known once⟩

end Heap

end Script

namespace ScriptEngine

open Script Script.Host

/-! ### What commands do with copies -/

/-- Gives a global a value. -/
def assign (name : String) (value : Value) : Host Datum := do
  discard (demand do
    Comp.set Intrinsic.global.ref (Key.ofString name) value
    return .undefined)
  return .undefined

/-- Calls a function with some arguments. -/
def callWith (limits : EngineLimits) (f this : Value) (args : List Value) : Host Datum := do
  let v ← demand (Comp.call f this args)
  exportValue (← if limits.settlePromises then settle v else pure v)

theorem setGlobal_eq (a : GlobalAssignment) : setGlobal a = copyIn 0 a.value >>= assign a.name := rfl

theorem call_eq_callWith (limits : EngineLimits) (target : FunctionRef) (args : List Datum) :
    call limits ⟨target, args⟩ = (do
      let (f, this) ← resolve target
      let values ← args.mapM (copyIn 0)
      callWith limits f this values) := rfl

variable {s s₀ t : Session} {ds : List Datum} {d : Datum} {value f this : Value} {values : List Value}

theorem setGlobal_after (copied : after ([d].mapM (copyIn 0)) s = (.ok [value], t)) (name : String) :
    after (setGlobal ⟨name, d⟩) s = after (assign name value) t := by
  rw [List.mapM_cons, List.mapM_nil] at copied
  obtain ⟨v, u, ran, rest⟩ := parts_of_bind_ok copied
  obtain ⟨same, rfl⟩ := Prod.mk.inj rest
  obtain rfl : v = value := (List.cons.inj (Except.ok.inj same)).1
  rw [setGlobal_eq, after_bind_ok ran]

theorem call_after {limits : EngineLimits} {target : FunctionRef}
    (resolved : after (resolve target) s₀ = (.ok (f, this), s))
    (copied : after (ds.mapM (copyIn 0)) s = (.ok values, t)) :
    after (call limits ⟨target, ds⟩) s₀ = after (callWith limits f this values) t := by
  rw [call_eq_callWith, after_bind_ok resolved]
  exact after_bind_ok copied

/-- Where no field has the name that is kept for prototypes, data are copied as they are, and a function
is called with these copies, or a global gets one. In the copies every object of the data, wherever it
stands, is one with just its fields, in each the copy of what was there, and with the prototype of plain
objects. Nothing that was there before has changed. -/
theorem objects_copied_whole
    (ready : Ready s.heap s (Datum.roomOfAll ds) (Datum.bigIntsOfItems ds).length)
    (usual : ∀ d ∈ ds, d.Usual) (importable : ∀ d ∈ ds, d.Importable s.heap.kept?) :
    ∃ values h, s.heap.Grows [] (Datum.roomOfAll ds) h ∧
      h.RepresentsItems s.heap.objects.size ds values ∧
      (∀ fields r, Wire.Ascending fields →
        h.Represents s.heap.objects.size (.object fields) (.object r) →
        ∃ entries, h.RepresentsFields s.heap.objects.size fields entries ∧
          entries.map (·.1) = fields.map (·.1) ∧ h.Owns r entries) ∧
      (∀ name d value, ds = [d] → values = [value] → after (setGlobal ⟨name, d⟩) s =
        after (assign name value) (s.later h (Datum.bigIntsOfItems ds).length)) ∧
      ∀ limits target f this s₀, after (resolve target) s₀ = (.ok (f, this), s) →
        after (call limits ⟨target, ds⟩) s₀ =
          after (callWith limits f this values) (s.later h (Datum.bigIntsOfItems ds).length) := by
  have flawless : Datum.flawOfItems s.heap.kept? 0 ds = none :=
    (Datum.flawOfItems_eq_none_iff ds).mpr importable
  obtain ⟨values, h, copied, grows, copies⟩ := (copyArguments_admits ds ready usual).cast rfl rfl flawless
  refine ⟨values, h, grows, copies, ?_, ?_, ?_⟩
  · intro fields r ascending copy
    exact copy.owns ascending
  · rintro name d value rfl rfl
    exact setGlobal_after copied name
  · intro limits target f this s₀ resolved
    exact call_after resolved copied

/-- Names that mean something to scripts, one that reads as an index, and an object inside of another. -/
def telling : Datum := .object [("1", .null), ("constructor", .object [("toString", .bool true)])]

theorem objects_copied_whole_telling : ∃ outer inner h,
    after (setGlobal ⟨"v", telling⟩) (opening usual false) =
      after (assign "v" (.object outer)) ((opening usual false).later h 0) ∧
    h.proto outer = some Intrinsic.objectPrototype.ref ∧
    h.proto inner = some Intrinsic.objectPrototype.ref ∧
    h.ownProperty outer (Key.ofString "1") = some (.plain .null) ∧
    h.ownProperty outer (Key.ofString "constructor") = some (.plain (.object inner)) ∧
    h.ownProperty inner (Key.ofString "toString") = some (.plain (.bool true)) := by
  have fresh := fresh_of_create create_usual
  -- An engine of any name: what else is in the heap of a new one plays no part.
  generalize ScriptEngine.usual = e at fresh ⊢
  have room : Suffices {} telling := .inr (by decide)
  have able := (fresh.ready room 0 (absurd · (Nat.lt_irrefl 0))).mono
    (by decide : Datum.roomOfAll [telling] ≤ telling.room + 32) (Nat.le_refl 0)
  have usual : telling.Usual := by
    refine ⟨?_, ?_, by decide⟩
    · simp only [telling, Datum.Ordered, Datum.OrderedFields, Wire.Ascending, List.pairwise_cons]
      decide
    · simp [telling, Datum.Short, Datum.ShortFields]
  have importable : telling.Importable (opening e false).heap.kept? := by
    refine ⟨by decide, ?_, ?_⟩
    · intro text member
      cases member
    · intro id member
      cases member
  obtain ⟨values, h, -, copies, whole, assigned, -⟩ := objects_copied_whole able
    (List.forall_mem_singleton.mpr usual) (List.forall_mem_singleton.mpr importable)
  obtain _ | ⟨copy, _ | _⟩ := copies
  cases copy with
  | leaf bare => cases bare
  | @object _ _ outer above known each =>
    obtain ⟨entries, each, -, outerOwns⟩ := whole _ outer usual.ordered.1 (.object above known each)
    obtain _ | ⟨first, _ | ⟨second, _ | _⟩⟩ := each
    cases first with | leaf bare =>
    obtain rfl := Option.some.inj bare
    cases second with
    | leaf bare => cases bare
    | @object _ _ inner above known each =>
      obtain ⟨entries, each, -, innerOwns⟩ := whole _ inner (by simp [Wire.Ascending])
        (.object above known each)
      obtain _ | ⟨third, _ | _⟩ := each
      cases third with | leaf bare =>
      obtain rfl := Option.some.inj bare
      refine ⟨outer, inner, h, assigned "v" telling _ rfl rfl, outerOwns.inherits, innerOwns.inherits,
        (outerOwns.own _ _).mpr ?_, (outerOwns.own _ _).mpr ?_, (innerOwns.own _ _).mpr ?_⟩
      · exact ⟨"1", .null, List.mem_cons_self, rfl, rfl⟩
      · exact ⟨"constructor", .object inner, by simp, rfl, rfl⟩
      · exact ⟨"toString", .bool true, List.mem_cons_self, rfl, rfl⟩

/-- Is the result an object without fields? -/
def isBare : Outcome Datum → Bool
  | .value (.object []) => true
  | _ => false

theorem eq_of_isBare {outcome : Outcome Datum} (bare : isBare outcome) : outcome = .value (.object []) := by
  unfold isBare at bare
  split at bare
  · rfl
  · cases bare

/-- Is the value an object without a property by this name, and with another prototype than a plain one? -/
def lacks (name : String) : Except EngineError Value × Session → Bool
  | (.ok (.object r), t) => (t.heap.ownProperty r (Key.ofString name)).isNone &&
      t.heap.proto r != some Intrinsic.objectPrototype.ref
  | _ => false

theorem exists_of_lacks {name : String} {ended : Except EngineError Value × Session}
    (lacking : lacks name ended) : ∃ r t, ended = (.ok (.object r), t) ∧
      t.heap.ownProperty r (Key.ofString name) = none ∧
      t.heap.proto r ≠ some Intrinsic.objectPrototype.ref := by
  unfold lacks at lacking
  split at lacking
  · rename_i r t
    obtain ⟨missing, other⟩ : t.heap.ownProperty r (Key.ofString name) = none ∧
        t.heap.proto r ≠ some Intrinsic.objectPrototype.ref := by simpa using lacking
    exact ⟨r, t, rfl, missing, other⟩
  · cases lacking

/-- The heap is evaluated for what comes of fields by the name that is kept for prototypes. -/
theorem prototype_evaluated :
    isBare (run (.getGlobal "v")
      (run (.setGlobal ⟨"v", .object [("__proto__", .int 1)]⟩) usual).2.2).1 ∧
    lacks "__proto__" (after (copyIn 0 (.object [("__proto__", .object [])])) (opening usual false)) := by
  unfold usual
  generalize placed : Realm.initial = heap
  -- The same heap, with the members of each object put in place together.
  unfold Realm.initial Realm.addPrinters Realm.addObject Realm.addClass Realm.nameFunction at placed
  rw [Realm.addFeatures_eq_placeFeatures, Realm.put_eq_putAt] at placed
  subst placed
  decide +kernel

/-- In a new engine a field by that name is lost; where an object is in it, this becomes the prototype. -/
theorem prototype_field_lost : (create 1 {}).1 = .value usual ∧ usual.heap.Standard ∧
    (run (.getGlobal "v") (run (.setGlobal ⟨"v", .object [("__proto__", .int 1)]⟩) usual).2.2).1 =
      .value (.object []) ∧
    ∃ r t, after (copyIn 0 (.object [("__proto__", .object [])])) (opening usual false) =
        (.ok (.object r), t) ∧ t.heap.ownProperty r (Key.ofString "__proto__") = none ∧
      t.heap.proto r ≠ some Intrinsic.objectPrototype.ref :=
  ⟨create_usual, (fresh_of_create create_usual).standard, eq_of_isBare prototype_evaluated.1,
    exists_of_lacks prototype_evaluated.2⟩

end ScriptEngine

end ScriptHost
