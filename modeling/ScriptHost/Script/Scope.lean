import ScriptHost.Script.Operator

/-! Variables: finding the one that a name means, reading and writing it. -/

namespace ScriptHost.Script

/-- What the heap need not be asked for when a name is looked for. -/
inductive Sighting where
  | binding (b : Binding)
  /-- An object on the way may have a property of the name. -/
  | unsure
  | nowhere

def sight (name : Name) : List Link → Sighting
  | [] => .nowhere
  | .names bindings :: rest =>
    match bindings.find? (·.name == name) with
    | some b => .binding b
    | none => sight name rest
  | .object .. :: _ => .unsure
  | _ :: rest => sight name rest

/-- Where a name leads. -/
inductive Place where
  | variable (b : Binding)
  | property (r : Ref) (isWith : Bool)
  /-- The variables and properties that all scripts share. -/
  | shared
deriving DecidableEq, Repr, Inhabited

namespace Scope

/-- The function around some code: the function object, the target of `new` and the
variable of `this`. -/
def enclosing : List Link → Option (Ref × Value × Cell)
  | [] => none
  | .function callee newTarget this :: _ => some (callee, newTarget, this)
  | _ :: rest => enclosing rest

def moduleOf : List Link → Option Nat
  | [] => none
  | .module index :: _ => some index
  | _ :: rest => moduleOf rest

/-- The scope with one more link. -/
def push (s : Scope) (l : Link) : Scope := { s with links := l :: s.links }

def quiet (s : Scope) : Scope := { s with completion := none }

end Scope

namespace Comp

def locate (name : Name) : List Link → Comp Place
  | [] => return .shared
  | .names bindings :: rest =>
    match bindings.find? (·.name == name) with
    | some b => return .variable b
    | none => locate name rest
  | .object r isWith :: rest => do
    if ← has r name then
      if !isWith then return .property r false
      match ← get r WellKnown.unscopables.key with
      | .object list =>
        if truthy (← get list name) then locate name rest else return .property r true
      | _ => return .property r true
    else locate name rest
  | _ :: rest => locate name rest

def place (name : Name) (scope : Scope) : Comp Place :=
  match sight name scope.links with
  | .binding b => pure (.variable b)
  | .nowhere => pure .shared
  | .unsure => locate name scope.links

/-! ### Reading -/

def notSet {α : Type} (name : Name) : Comp α :=
  raise .referenceError (name ++ " is not initialized")

def notDefined {α : Type} (name : Name) : Comp α :=
  raise .referenceError (name ++ " is not defined")

def readCell (name : Name) (c : Cell) : Comp Value := do
  match ← read (·.cell c) with
  | some v => return v
  | none => notSet name

/-- A variable or property that all scripts share. -/
def readShared (name : Name) (missing : Comp Value) : Comp Value := do
  match ← read fun h =>
    match h.globalNames.find? (·.name == name) with
    | some b => Sum.inl b.cell
    | none => Sum.inr (h.lookup Intrinsic.global.ref name) with
  | .inl c => readCell name c
  | .inr (.property p) => takeProperty p (.object Intrinsic.global.ref)
  | .inr .missing => missing
  | .inr (.elsewhere r) =>
    if ← has r name then getFrom r name (.object Intrinsic.global.ref) else missing

def readPlace (name : Name) (missing : Comp Value) : Place → Comp Value
  | .variable b => readCell name b.cell
  | .property r _ => get r name
  | .shared => readShared name missing

def readName (name : Name) (scope : Scope) : Comp Value := do
  match sight name scope.links with
  | .binding b => readCell name b.cell
  | _ => readPlace name (notDefined name) (← place name scope)

/-! ### Writing -/

def setCell (c : Cell) (v : Value) : Comp Unit := update fun h => h.setCell c (some v)

def readOnly {α : Type} (name : Name) : Comp α := typeError ("'" ++ name ++ "' is read-only")

def writeVariable (b : Binding) (v : Value) (strict : Bool) : Comp Unit := do
  match b.kind with
  | .variable => setCell b.cell v
  | .callee => if strict then readOnly b.name
  | kind =>
    discard (readCell b.name b.cell)
    if kind == .constant then readOnly b.name
    setCell b.cell v

def writePlace (name : Name) (v : Value) (strict : Bool) : Place → Comp Unit
  | .variable b => writeVariable b v strict
  | .property r _ => setValue (.object r) name v strict
  | .shared => do
    match ← read fun h => h.globalNames.find? (·.name == name) with
    | some b => writeVariable b v strict
    | none =>
      let global := Intrinsic.global.ref
      if strict && !(← has global name) then notDefined name
      setValue (.object global) name v strict

def writeName (name : Name) (v : Value) (scope : Scope) : Comp Unit := do
  match sight name scope.links with
  | .binding b => writeVariable b v scope.strict
  | _ => writePlace name v scope.strict (← place name scope)

/-- Gives a lexical name its first value. -/
def startName (name : Name) (v : Value) (scope : Scope) : Comp Unit := do
  match ← place name scope with
  | .variable b => setCell b.cell v
  | _ =>
    match ← read fun h => h.globalNames.find? (·.name == name) with
    | some b => setCell b.cell v
    | none => pure ()

/-- The variable of a function that a function in one of its blocks is copied to. -/
def outerVariable (name : Name) : List Link → Option Binding
  | [] => none
  | .names bindings :: rest =>
    match bindings.find? fun b => b.name == name && b.kind == .variable with
    | some b => some b
    | none => outerVariable name rest
  | .function .. :: _ => none
  | _ :: rest => outerVariable name rest

/-! ### Declaring -/

/-- Fresh variables for names, all with one value or none. -/
def newBindings (names : List (Name × BindingKind)) (v : Option Value) : Comp (List Binding) :=
  change fun h => names.foldr (fun (name, kind) (bindings, h) =>
    let (c, h) := h.newCell v
    (⟨name, c, kind⟩ :: bindings, h)) ([], h)

def lexicalKind (l : Lexical) : BindingKind := if l.constant then .constant else .lexical

/-! ### The function around -/

/-- The value of `this`. -/
def thisValue (scope : Scope) : Comp Value := do
  match Scope.enclosing scope.links with
  | some (_, _, c) =>
    match ← read (·.cell c) with
    | some v => return v
    | none => raise .referenceError "this is not initialized"
  | none =>
    match Scope.moduleOf scope.links with
    | some _ => return .undefined
    | none => return .object Intrinsic.global.ref

/-- The object where `super` begins to look. -/
def superHome (scope : Scope) : Comp (Option Ref) := do
  match Scope.enclosing scope.links with
  | some (callee, _, _) =>
    match ← read fun h => match h.kind callee with
      | .closure c => c.home
      | _ => none with
    | some home => getPrototype home
    | none => return none
  | none => return none

end Comp

end ScriptHost.Script
