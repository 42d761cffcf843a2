import ScriptHost.Script.Evaluate.Pattern

/-! Classes. -/

namespace ScriptHost.Script.Comp

/-- The private names that a class declares. -/
def hiddenNames (members : List ClassMember) : List Name :=
  dedup (members.filterMap fun m => match m with
    | .method _ (.hidden name) _ | .field _ (.hidden name) _ => some name
    | _ => none)

/-- The private names of a class, each bound to a symbol of its own. -/
def startHidden (names : List Name) : Comp (List Binding) := do
  let bindings ← newBindings (names.map (·, .constant)) none
  forEach bindings fun b => do
    let id ← change fun h => h.newSymbol { description := some b.name }
    setCell b.cell (.symbol id)
  return bindings

/-- What a member of a class leaves to be done when the class is complete. -/
structure ClassPlan where
  fields : List ClassField := []
  methods : List (Key × Property) := []
  /-- The static fields and blocks; a block has no key. -/
  statics : List (Option Key × Option Ref) := []
  staticMethods : List (Key × Property) := []

/-- Joins a private accessor with the other half of it. -/
def joinHidden (methods : List (Key × Property)) (k : Key) (p : Property) : List (Key × Property) :=
  match methods.find? (·.1 == k), p.slot with
  | some (_, ⟨.accessor get set, _, _⟩), .accessor get' set' =>
    let joined := Slot.accessor (if get'.isUndefined then get else get')
      (if set'.isUndefined then set else set')
    methods.map fun q => if q.1 == k then (k, { p with slot := joined }) else q
  | _, _ => methods ++ [(k, p)]

def classMember (constructor proto : Ref) (m : ClassMember) (plan : ClassPlan) (scope : Scope) :
    Comp ClassPlan := do
  match m with
  | .method isStatic key f =>
    let home := if isStatic then constructor else proto
    let k ← keyOf key scope
    match k with
    | .hidden _ =>
      let name ← functionName k
      let p : Property ← match f.info.kind with
        | .getter => do
          let g ← makeClosure f scope ("get " ++ name) (some home)
          pure ⟨.accessor (.object g) .undefined, false, false⟩
        | .setter => do
          let g ← makeClosure f scope ("set " ++ name) (some home)
          pure ⟨.accessor .undefined (.object g), false, false⟩
        | _ => do
          let g ← makeClosure f scope name (some home)
          pure ⟨.data (.object g) false, false, false⟩
      if isStatic then return { plan with staticMethods := joinHidden plan.staticMethods k p }
      else return { plan with methods := joinHidden plan.methods k p }
    | k =>
      addMethod home k f false scope
      return plan
  | .field isStatic key init =>
    let home := if isStatic then constructor else proto
    let k ← keyOf key scope
    let compute ← match init with
      | some f => do pure (some (← makeClosure f scope (← functionName k) (some home)))
      | none => pure none
    if isStatic then return { plan with statics := plan.statics ++ [(some k, compute)] }
    else return { plan with fields := plan.fields ++ [⟨k, compute⟩] }
  | .block f =>
    let g ← makeClosure f scope "" (some constructor)
    return { plan with statics := plan.statics ++ [(none, some g)] }

/-- The prototype of the prototype and of the constructor. -/
def heritageOf (c : ClassDef) (scope : Scope) : Comp (Option Ref × Ref) := do
  match c.heritage with
  | none => return (some Intrinsic.objectPrototype.ref, Intrinsic.functionPrototype.ref)
  | some e =>
    let parent ← value e scope
    match parent with
    | .null => return (none, Intrinsic.functionPrototype.ref)
    | .object r =>
      unless ← read (·.isConstructor parent) do typeError "parent class must be a constructor"
      match ← get r "prototype" with
      | .object proto => return (some proto, r)
      | .null => return (none, r)
      | _ => typeError "parent prototype must be an object or null"
    | _ => typeError "parent class must be a constructor"

/-- Makes a class, under the name that it is given if it has none of its own. -/
def classValue (c : ClassDef) (name : Utf16) (scope : Scope) : Comp Value := do
  let own ← newBindings (c.name.toList.map (·, .constant)) none
  let scope := if own.isEmpty then scope else scope.push (.names own)
  let (protoParent, parent) ← heritageOf c { scope with strict := true }
  let hidden ← startHidden (hiddenNames c.members)
  let scope := { (if hidden.isEmpty then scope else scope.push (.names hidden)) with
    strict := true, completion := none }
  let shown : Utf16 := match c.name with
    | some own => own
    | none => name
  let proto ← newObject { kind := .ordinary, proto := protoParent }
  let code := c.constructor
  let code : Function :=
    { code with info := { code.info with name := shown.display, source := c.source } }
  let r ← newObject {
    kind := .closure { code := code, scope := { scope with file := code.info.file }, home := some proto }
    proto := some parent
    props := #[lengthProperty code.info.length, nameProperty shown,
      ("prototype", .constant (.object proto))] }
  update fun h => h.modifyObject proto (·.put "constructor" (.hiddenPlain (.object r)))
  let plan ← foldList c.members {} fun m plan => classMember r proto m plan scope
  update fun h => match h.kind r with
    | .closure c => h.setKind r (.closure { c with fields := plan.fields, hiddenMethods := plan.methods })
    | _ => h
  own.forM fun b => setCell b.cell (.object r)
  forEach plan.staticMethods fun (k, p) => addHidden r k p
  forEach plan.statics fun (k, compute) => do
    let v ← match compute with
      | some f => call (.object f) (.object r) []
      | none => pure .undefined
    match k with
    | none => pure ()
    | some (.hidden id) => addHidden r (.hidden id) (.plain v)
    | some k => addPlain r k v
  return .object r

end ScriptHost.Script.Comp
