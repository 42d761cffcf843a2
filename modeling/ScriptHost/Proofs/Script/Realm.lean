import ScriptHost.Script.Realm

/-! All that a new engine's heap has beyond the bare one is objects. Nothing was printed, no code
waits, and none was ever entered, however many built-in functions there are. -/

namespace ScriptHost.Script.Realm

/-- Do two heaps differ in nothing but their objects? -/
def Furnished (before after : Heap) : Prop := after = { before with objects := after.objects }

namespace Furnished

variable {before h : Heap}

theorem refl (h : Heap) : Furnished h h := rfl

theorem trans (first : Furnished before h) {after : Heap} (second : Furnished h after) :
    Furnished before after := by
  unfold Furnished at *
  rw [first] at second
  exact second

/-- Steps that add nothing but objects, one after another. -/
theorem foldl {α : Type} {step : Heap → α → Heap} (start : Furnished before h)
    (adds : ∀ h a, Furnished h (step h a)) (items : List α) :
    Furnished before (items.foldl step h) := by
  induction items generalizing h with
  | nil => exact start
  | cons item rest ih => exact ih (start.trans (adds h item))

theorem put (start : Furnished before h) (r : Ref) (k : Key) (p : Property) :
    Furnished before (put h r k p) := start.trans rfl

theorem allocate (start : Furnished before h) (o : Object) : Furnished before (h.allocate o).2 :=
  start.trans rfl

theorem nameFunction (start : Furnished before h) (i : Intrinsic) (length : Nat) (name : String) :
    Furnished before (nameFunction h i length name) := start.trans rfl

theorem addFeature (start : Furnished before h) (r : Ref) (m : Feature) :
    Furnished before (addFeature h r m) := by
  refine start.trans ?_
  unfold Realm.addFeature
  cases m with
  | method key length f => rfl
  | accessor key get set => cases set <;> rfl
  | value key p => rfl
  | sameAs key other =>
    cases found : (h.object r).find? other with
    | none => simpa only [found] using refl h
    | some p => simpa only [found] using (refl h).put r key p

theorem addFeatures (start : Furnished before h) (r : Ref) (ms : List Feature) :
    Furnished before (addFeatures h r ms) :=
  start.foldl (fun h m => (refl h).addFeature r m) ms

theorem addClass (start : Furnished before h) (known : List (String × Ref)) (c : ClassEntry) :
    Furnished before (addClass (known, h) c).2 := by
  unfold Realm.addClass
  -- The members that are the class's own come last, wherever its function stands.
  have rest {r : Ref} {h : Heap} (made : Furnished before h) : Furnished before
      (if c.isGlobal then Realm.put (Realm.addFeatures h r c.statics) Intrinsic.global.ref
        (Key.ofString c.name) (.hiddenPlain (.object r)) else Realm.addFeatures h r c.statics) := by
    split
    · exact (made.addFeatures r c.statics).put _ _ _
    · exact made.addFeatures r c.statics
  cases c.place with
  | some i =>
    have named := (start.put i.ref "length" (Comp.lengthProperty c.length).2).put i.ref "name"
      (Comp.nameProperty (.text c.name)).2
    cases c.proto with
    | some j => exact rest (((named.put _ _ _).put _ _ _).addFeatures _ c.methods)
    | none => exact rest named
  | none =>
    cases c.proto with
    | some j => exact rest ((((start.allocate _).put _ _ _).put _ _ _).addFeatures _ c.methods)
    | none => exact rest (start.allocate _)

theorem addClasses (start : Furnished before h) (known : List (String × Ref))
    (cs : List ClassEntry) : Furnished before (cs.foldl Realm.addClass (known, h)).2 := by
  induction cs generalizing known h with
  | nil => exact start
  | cons c rest ih => exact ih (start.addClass known c) _

theorem addObject (start : Furnished before h) (name : String) (ms : List Feature) :
    Furnished before (addObject h name ms) :=
  ((start.allocate _).addFeatures _ ms).put _ _ _

theorem shareGlobal (start : Furnished before h) (constructor name : String) :
    Furnished before (initial.shareGlobal h constructor name) := by
  unfold initial.shareGlobal
  dsimp only
  split
  · split
    · exact start.put _ _ _
    · exact start
  · exact start

theorem addPrinters (start : Furnished before h) : Furnished before (addPrinters h) := by
  refine ((start.allocate _).foldl (fun h printer => ?_) printers).put _ _ _
  exact ((refl h).allocate _).put _ _ _

end Furnished

theorem initial_furnished : Furnished bare initial := by
  unfold initial
  -- The tables stay names: it makes no difference what is in them.
  generalize classes = cs
  generalize otherMembers = members
  refine .addPrinters (.shareGlobal (.shareGlobal (.addObject (.addObject (.addObject ?_ _ _) _ _)
    _ _) _ _) _ _)
  refine .foldl (.addClasses (.addFeatures ?_ _ globalMembers) [] cs)
    (fun h member => (Furnished.refl h).addFeatures _ _) members
  refine .put (.put (.put ?_ _ _ _) _ _ _) _ _ _
  exact .nameFunction (.nameFunction (.nameFunction (.nameFunction (.nameFunction (.refl bare)
    _ _ _) _ _ _) _ _ _) _ _ _) _ _ _

theorem initial_printed : initial.printed = [] := congrArg Heap.printed initial_furnished

/-! ### Members put in place together

Member after member rebuilds the whole heap each time. That the members of an object can be put in place
at once, with all functions behind the other objects, is what makes the heap cheap to evaluate. -/

variable {h : Heap} {r : Ref}

/-- The heap with more objects behind those it has. -/
def withObjects (h : Heap) (os : List Object) : Heap := { h with objects := h.objects ++ os.toArray }

/-- The heap with an object in its place and more objects behind all. -/
def withMembers (h : Heap) (r : Ref) (made : Object × List Object) : Heap :=
  { h with objects := ⟨h.objects.toList.set r made.1 ++ made.2⟩ }

/-- The function of a member. -/
def memberFunction (f : Native) (length : Nat) (name : String) : Object where
  kind := .native f false
  proto := some Intrinsic.functionPrototype.ref
  props := #[Comp.lengthProperty length, Comp.nameProperty (.text name)]

/-- An object with one more member, and the member's functions, which stand in place `n` and after it. -/
def withMember (h : Heap) (m : Feature) (n : Nat) (o : Object) : Object × List Object :=
  match m with
  | .method key length f =>
    (o.put key (.hiddenPlain (.object n)), [memberFunction f length (featureName h key)])
  | .accessor key get none =>
    (o.put key ⟨.accessor (.object n) .undefined, false, true⟩,
      [memberFunction get 0 ("get " ++ featureName h key)])
  | .accessor key get (some set) =>
    (o.put key ⟨.accessor (.object n) (.object (n + 1)), false, true⟩,
      [memberFunction get 0 ("get " ++ featureName h key),
        memberFunction set 1 ("set " ++ featureName h key)])
  | .value key p => (o.put key p, [])
  -- A match around the object alone: the functions are known before the object is.
  | .sameAs key other =>
    (match o.find? other with
      | some p => o.put key p
      | none => o, [])

def withFeatures (h : Heap) : List Feature → Nat → Object → Object × List Object
  | [], _, o => (o, [])
  | m :: rest, n, o =>
    let first := withMember h m n o
    let others := withFeatures h rest (n + first.2.length) first.1
    (others.1, first.2 ++ others.2)

/-- All members at once, where there is such an object. -/
def placeFeatures (h : Heap) (r : Ref) (ms : List Feature) : Heap :=
  if r < h.objects.size then withMembers h r (withFeatures h ms h.objects.size (h.object r))
  else ms.foldl (addFeature · r) h

/-- A property put in its place with no look at the other objects. -/
def putAt (h : Heap) (r : Ref) (k : Key) (p : Property) : Heap :=
  { h with objects := ⟨h.objects.toList.modify r (·.put k p)⟩ }

theorem put_eq_putAt : put = putAt := by
  funext h r k p
  have same : h.objects.modify r (·.put k p) = ⟨h.objects.toList.modify r (·.put k p)⟩ :=
    Array.ext' Array.toList_modify
  rw [put, Heap.modifyObject, same, putAt]

theorem allocate_eq_withObjects (h : Heap) (o : Object) : (h.allocate o).2 = withObjects h [o] := by
  rw [Heap.allocate, withObjects, Array.push_eq_append]

theorem withObjects_withObjects (h : Heap) (made more : List Object) :
    withObjects (withObjects h made) more = withObjects h (made ++ more) := by
  simp [withObjects]

theorem object_of_lt (inside : r < h.objects.size) : h.object r = h.objects[r] := by
  unfold Heap.object
  rw [Array.getD_eq_getD_getElem?, Array.getElem?_eq_getElem inside, Option.getD_some]

theorem withMembers_object (inside : r < h.objects.size) : withMembers h r (h.object r, []) = h := by
  rw [withMembers, object_of_lt inside, ← Array.getElem_toList, List.set_getElem_self,
    List.append_nil]

theorem put_withObjects (inside : r < h.objects.size) (os : List Object) (k : Key) (p : Property) :
    put (withObjects h os) r k p = withMembers h r ((h.object r).put k p, os) := by
  have inList : r < h.objects.toList.length := inside
  have objects : (h.objects ++ os.toArray).modify r (·.put k p) =
      ⟨h.objects.toList.set r ((h.object r).put k p) ++ os⟩ := by
    apply Array.ext'
    rw [Array.toList_modify, Array.toList_append, List.modify_eq_set,
      List.getElem?_append_left inList, List.getElem?_eq_getElem inList, object_of_lt inside]
    simp [List.set_append_left _ _ inList]
  rw [put, Heap.modifyObject, withObjects, objects, withMembers]

theorem addFeature_eq_withMember (inside : r < h.objects.size) (m : Feature) :
    addFeature h r m = withMembers h r (withMember h m h.objects.size (h.object r)) := by
  have alone (k : Key) (p : Property) : put h r k p = withMembers h r ((h.object r).put k p, []) := by
    rw [← put_withObjects inside, withObjects, Array.append_empty]
  have afterOne (o : Object) (k : Key) (p : Property) :
      put (h.allocate o).2 r k p = withMembers h r ((h.object r).put k p, [o]) := by
    rw [allocate_eq_withObjects, put_withObjects inside]
  have afterTwo (o o' : Object) (k : Key) (p : Property) :
      put ((h.allocate o).2.allocate o').2 r k p =
        withMembers h r ((h.object r).put k p, [o, o']) := by
    rw [allocate_eq_withObjects, allocate_eq_withObjects, withObjects_withObjects,
      put_withObjects inside, List.singleton_append]
  cases m with
  | method key length f => exact afterOne ..
  | accessor key get set =>
    cases set with
    | none => exact afterOne ..
    | some set =>
      rw [withMember, ← afterTwo]
      simp only [addFeature, addFunction, memberFunction, Heap.allocate, Array.size_push]
  | value key p => exact alone key p
  | sameAs key other =>
    rw [addFeature, withMember]
    cases (h.object r).find? other with
    | none => exact (withMembers_object inside).symm
    | some p => exact alone key p

/-- The members are the same whatever objects the heap has: only its symbols are read, for the names. -/
theorem withFeatures_withMembers (made : Object × List Object) (ms : List Feature) (n : Nat)
    (o : Object) : withFeatures (withMembers h r made) ms n o = withFeatures h ms n o := by
  induction ms generalizing n o with
  | nil => rfl
  | cons m rest ih =>
    have same : withMember (withMembers h r made) m n o = withMember h m n o := by
      cases m with
      | accessor key get set => cases set <;> rfl
      | _ => rfl
    rw [withFeatures, withFeatures, same, ih]

theorem addFeatures_of_lt (inside : r < h.objects.size) (ms : List Feature) :
    addFeatures h r ms = withMembers h r (withFeatures h ms h.objects.size (h.object r)) := by
  induction ms generalizing h with
  | nil => exact (withMembers_object inside).symm
  | cons m rest ih =>
    rw [addFeatures, List.foldl_cons, addFeature_eq_withMember inside, ← addFeatures]
    generalize made : withMember h m h.objects.size (h.object r) = first
    have size : (withMembers h r first).objects.size = h.objects.size + first.2.length := by
      simp [withMembers]
    have still : r < (withMembers h r first).objects.size := by
      rw [size]
      exact Nat.lt_add_right _ inside
    have object : (withMembers h r first).object r = first.1 := by
      rw [object_of_lt still]
      simp [withMembers, inside]
    rw [ih still, size, object, withFeatures_withMembers, withFeatures, made]
    simp [withMembers, List.set_append_left, inside]

theorem addFeatures_eq_placeFeatures : addFeatures = placeFeatures := by
  funext h r ms
  unfold placeFeatures
  split
  · exact addFeatures_of_lt ‹_› ms
  · rfl

end ScriptHost.Script.Realm
