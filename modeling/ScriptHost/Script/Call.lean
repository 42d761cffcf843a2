import ScriptHost.Script.Scope

/-! Functions of scripts: making them, and entering them with arguments. -/

namespace ScriptHost.Script

/-- What a built-in function is given. -/
structure Invocation where
  callee : Value
  this : Value
  args : List Value
  /-- What `new` was applied to; undefined in a plain call. -/
  newTarget : Value := .undefined
deriving Inhabited

namespace Invocation

/-- The argument at a place; one that is missing is undefined. -/
def arg (i : Invocation) (n : Nat) : Value := i.args.getD n .undefined

def isConstruct (i : Invocation) : Bool := !i.newTarget.isUndefined

end Invocation

namespace Comp

/-! ### The calls under way -/

/-- What the heap remembers of the calls under way. -/
structure Standing where
  activations : List Activation
  depth : Nat

def standing : Comp Standing := read fun h => ⟨h.activations, h.depth⟩

def restore (s : Standing) : Comp Unit :=
  update fun h => { h with activations := s.activations, depth := s.depth }

def pushActivation (a : Activation) : Comp Unit :=
  update fun h => { h with activations := a :: h.activations, depth := h.depth + 1 }

/-- One more call must fit. -/
def checkDepth : Comp Unit := do
  if ← read fun h => decide (h.quota.calls ≤ h.depth) then rangeError "Maximum call stack size exceeded"

/-- Does a part of a computation inside of a call. Errors that leave it get a trace. -/
def within (a : Activation) (body : Comp Result) : Comp Result := do
  checkDepth
  let before ← standing
  pushActivation a
  match ← attempt body with
  | .ok r =>
    restore before
    return r
  | .error f =>
    match f with
    | .thrown v => update (·.stamp v)
    | _ => pure ()
    restore before
    fault f

/-- Lets a coroutine go on inside of its call. -/
def resumeWithin (a : Activation) (coroutine : Nat) (s : Signal) : Comp Stop := do
  checkDepth
  let before ← standing
  pushActivation a
  let stop ← resume coroutine s
  match stop with
  | .failed (.thrown v) => update (·.stamp v)
  | _ => pure ()
  restore before
  return stop

/-! ### Making functions -/

def prototypeFor (i : FunctionInfo) : Intrinsic :=
  match i.isAsync, i.isGenerator with
  | false, false => .functionPrototype
  | true, false => .asyncFunctionPrototype
  | false, true => .generatorFunctionPrototype
  | true, true => .asyncGeneratorFunctionPrototype

def lengthProperty (n : Nat) : Key × Property :=
  ("length", ⟨.data (.nat n) false, false, true⟩)

def nameProperty (name : Utf16) : Key × Property :=
  ("name", ⟨.data (.string name) false, false, true⟩)

/-- Makes a function object of code in a scope. -/
def makeClosure (f : Function) (scope : Scope) (name : Utf16) (home : Option Ref) : Comp Ref := do
  let i := f.info
  let scope := { scope with strict := i.strict, file := i.file, completion := none }
  let r ← newObject {
    kind := .closure { code := f, scope := scope, home := home }
    proto := some (prototypeFor i).ref
    props := #[lengthProperty i.length, nameProperty name] }
  if i.isGenerator then
    let base := if i.isAsync then Intrinsic.asyncGeneratorPrototype else Intrinsic.generatorPrototype
    let proto ← newObject { kind := .ordinary, proto := some base.ref }
    update fun h => h.modifyObject r (·.put "prototype" ⟨.data (.object proto) true, false, false⟩)
  else if i.kind == .normal && !i.isAsync then
    let proto ← newObject {
      kind := .ordinary, proto := some Intrinsic.objectPrototype.ref
      props := #[("constructor", .hiddenPlain (.object r))] }
    update fun h => h.modifyObject r (·.put "prototype" ⟨.data (.object proto) true, false, false⟩)
  return r

/-- A built-in function that is made while a script runs. -/
def makeNative (f : Native) (length : Nat) (name : Utf16) : Comp Value := do
  return .object (← newObject {
    kind := .native f false, proto := some Intrinsic.functionPrototype.ref
    props := #[lengthProperty length, nameProperty name] })

/-- The function of a function expression, under the name that it is given. -/
def functionValue (f : Function) (scope : Scope) (name : Utf16) : Comp Value := do
  if f.info.name == "" || f.info.kind == .arrow then
    return .object (← makeClosure f scope name none)
  else
    let bindings ← newBindings [(f.info.name, .callee)] none
    let r ← makeClosure f (scope.push (.names bindings)) f.info.name none
    bindings.forM fun b => setCell b.cell (.object r)
    return .object r

/-! ### Entering functions -/

/-- Makes the functions that a block declares and gives them to their names. -/
def startFunctions (functions : List (Name × Function)) (scope : Scope) : Comp Unit :=
  forEach functions fun (name, f) => do
    let shown := if name == Grammar.defaultName then "default" else name
    let r ← makeClosure f scope shown none
    startName name (.object r) scope

/-- The scope inside of a block. -/
def enterBlock (b : Block) (scope : Scope) : Comp Scope := do
  if b.lexicals.isEmpty && b.functions.isEmpty then return scope
  let bindings ← newBindings (b.lexicals.map (fun l => (l.name, lexicalKind l))
    ++ b.functions.map fun f => (f.1, .lexical)) none
  let scope := scope.push (.names bindings)
  startFunctions b.functions scope
  return scope

/-- The variables that the elements of an arguments object share with the parameters. -/
def sharedCells (bindings : List Binding) : List Name → List (Option Cell)
  | [] => []
  | name :: rest =>
    let cell := if rest.contains name then none
      else (bindings.find? (·.name == name)).map (·.cell)
    cell :: sharedCells bindings rest

/-- The object that code knows as `arguments`. -/
def makeArguments (callee : Ref) (args : List Value) (shared : Option (List (Option Cell))) :
    Comp Value := do
  let items := args.zipIdx.map fun (v, i) => (Key.ofNat i, Property.plain v)
  let last : Key × Property := match shared with
    | some _ => ("callee", .hiddenPlain (.object callee))
    | none =>
      let f := Value.object Intrinsic.throwTypeError.ref
      ("callee", ⟨.accessor f f, false, false⟩)
  let more : List (Key × Property) :=
    [("length", .hiddenPlain (.nat args.length)), last,
     (WellKnown.iterator.key, .hiddenPlain (.object Intrinsic.arrayValues.ref))]
  return .object (← newObject {
    kind := .arguments ((shared.getD []).take args.length)
    proto := some Intrinsic.objectPrototype.ref
    props := (items ++ more).toArray })

/-- Sets the names of simple parameters to the arguments, the last one of a name winning. -/
def startSimple (bindings : List Binding) : List Name → List Value → Comp Unit
  | [], _ => pure ()
  | name :: names, args => do
    match bindings.find? (·.name == name) with
    | some b => setCell b.cell (args.headD .undefined)
    | none => pure ()
    startSimple bindings names args.tail

/-- Binds parameters that are patterns or have defaults, from left to right. -/
def startParams (params : List (Pattern × Option Expr)) (args : List Value) (scope : Scope) :
    Comp (List Value) :=
  match params with
  | [] => pure args
  | (p, missing) :: rest => do
    let v ←
      match args.headD .undefined, missing with
      | .undefined, some e =>
        match p with
        | .target (.ident name) => askValue (.named e name scope)
        | _ => askValue (.expr e scope)
      | v, _ => pure v
    discard (ask (.bind p v (some .lexical) scope))
    startParams rest args.tail scope

/-- The value of `this` in a function of sloppy code. -/
def sloppyThis (this : Value) : Comp Value := do
  match this with
  | .undefined | .null => return .object Intrinsic.global.ref
  | this => return .object (← toObject this)

def dedup (names : List Name) : List Name :=
  names.foldr (fun n rest => if rest.contains n then rest else n :: rest) []

/-- Enters a function: binds `this`, the parameters, the variables and the functions of the
body. A function without a value for `this` waits for `super` to give it one. -/
def enter (c : Closure) (callee : Ref) (this : Option Value) (args : List Value)
    (newTarget : Value) : Comp Scope := do
  let f := c.code
  let i := f.info
  let scope ←
    if i.kind == .arrow then pure c.scope
    else
      let this ← match this with
        | some v => if i.strict then pure (some v) else do pure (some (← sloppyThis v))
        | none => pure none
      let cell ← change fun h => h.newCell this
      pure (c.scope.push (.function callee newTarget cell))
  let names := dedup i.paramNames
  let functionNames := f.body.functions.map (·.1)
  let ownArguments := i.usesArguments && i.kind != .arrow && !names.contains "arguments"
  let scope ←
    if i.simple then do
      let extra := if ownArguments && !i.vars.contains "arguments" then ["arguments"] else []
      let all := names ++ extra ++ i.vars.filter (fun n => !names.contains n)
      if all.isEmpty then pure scope
      else
        let bindings ← newBindings (all.map (·, .variable)) (some .undefined)
        startSimple bindings i.paramNames args
        if ownArguments && !functionNames.contains "arguments" then
          let shared := if i.strict then none else some (sharedCells bindings i.paramNames)
          let object ← makeArguments callee args shared
          match bindings.find? (·.name == "arguments") with
          | some b => setCell b.cell object
          | none => pure ()
        pure (scope.push (.names bindings))
    else do
      let bindings ← newBindings (names.map (·, .lexical)) none
      let scope := scope.push (.names (bindings.map fun b => { b with kind := .variable }))
      let scope ←
        if ownArguments then
          let extra ← newBindings [("arguments", .variable)] none
          let object ← makeArguments callee args none
          extra.forM fun b => setCell b.cell object
          pure (scope.push (.names extra))
        else pure scope
      let rest ← startParams f.params args scope
      match f.rest with
      | some p => discard (ask (.bind p (← newArray rest) (some .lexical) scope))
      | none => pure ()
      if i.vars.isEmpty then pure scope
      else
        let vars ← newBindings (i.vars.map (·, .variable)) (some .undefined)
        forEach vars fun v => do
          match sight v.name scope.links with
          | .binding b =>
            if (names.contains v.name || v.name == "arguments") && !functionNames.contains v.name then
              match ← read (·.cell b.cell) with
              | some value => setCell v.cell value
              | none => pure ()
          | _ => pure ()
        pure (scope.push (.names vars))
  let scope ←
    if i.usesEval && !i.strict && i.kind != .program then
      let added ← newObject { kind := .ordinary, proto := none }
      pure (scope.push (.object added false))
    else pure scope
  let scope ←
    if f.body.lexicals.isEmpty then pure scope
    else
      let bindings ← newBindings (f.body.lexicals.map fun l => (l.name, lexicalKind l)) none
      pure (scope.push (.names bindings))
  forEach f.body.functions fun (name, g) => do
    let r ← makeClosure g scope name none
    writeName name (.object r) scope
  return scope

/-! ### Constructing -/

/-- The prototype of what a constructor makes. -/
def prototypeFrom (newTarget : Value) (missing : Intrinsic) : Comp Ref := do
  match newTarget with
  | .object r =>
    match ← get r "prototype" with
    | .object proto => return proto
    | _ => return missing.ref
  | _ => return missing.ref

/-- A fresh object of a kind for a constructor. -/
def newFrom (newTarget : Value) (missing : Intrinsic) (kind : Kind) : Comp Ref := do
  let proto ← prototypeFrom newTarget missing
  newObject { kind := kind, proto := some proto }

/-- Adds a private member to an object. -/
def addHidden (r : Ref) (k : Key) (p : Property) : Comp Unit := do
  if (← read fun h => (h.object r).find? k).isSome then
    typeError "private class field is already defined"
  charge 32
  update fun h => h.modifyObject r (·.put k p)

/-- Gives an object the private methods and the fields of a class. -/
def startFields (constructor : Ref) (object : Ref) : Comp Unit := do
  let (methods, fields) ← read fun h => match h.kind constructor with
    | .closure c => (c.hiddenMethods, c.fields)
    | _ => ([], [])
  forEach methods fun (k, p) => addHidden object k p
  forEach fields fun f => do
    let v ← match f.value with
      | some compute => call (.object compute) (.object object) []
      | none => pure .undefined
    match f.key with
    | .hidden _ => addHidden object f.key (.plain v)
    | k => addPlain object k v

end Comp

end ScriptHost.Script
