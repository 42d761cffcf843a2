import ScriptHost.Script.Evaluate.Statement

/-! Whole programs: scripts, code for `eval`, functions made from text, and modules. -/

namespace ScriptHost.Script.Comp

/-! ### Reading programs -/

/-- Throws an error about the text of a program; its trace begins with the program. -/
def syntaxFault {α : Type} (file message : String) : Comp α := do
  throw (← change fun h =>
    let text := "    at " ++ file ++ ":1:1\n" ++ Heap.trace h.activations
    let (r, h) := h.newPlainError .syntaxError message
    (.object r, h.withTrace r text))

def readProgram (kind : ProgramKind) (strict : Bool) (file source : String)
    (around : Grammar.Around) : Comp Program := do
  match Program.read kind strict file source around with
  | .ok p => return p
  | .error message => syntaxFault file message

/-! ### Scripts -/

def redeclared {α : Type} (name : Name) : Comp α :=
  raise .syntaxError ("redeclaration of '" ++ name ++ "'")

/-- Refuses a script that declares what cannot be declared. -/
def checkShared (p : Program) : Comp Unit := do
  let global := Intrinsic.global.ref
  let body := p.code.body
  let functions := body.functions.map (·.1)
  forEach p.code.info.vars fun name => do
    let (own, extensible, lexical) ← read fun h =>
      (h.ownProperty global name, (h.object global).extensible, h.globalNames.any (·.name == name))
    match own with
    | none => if !extensible then typeError ("cannot define variable '" ++ name ++ "'")
    | some q =>
      if functions.contains name && !q.configurable then
        let free := match q.slot with
          | .data _ writable => writable && q.enumerable
          | .accessor .. => false
        if !free then typeError ("cannot define variable '" ++ name ++ "'")
    if lexical then redeclared name
  forEach body.lexicals fun l => do
    let (fixed, lexical) ← read fun h =>
      ((h.ownProperty global l.name).any (!·.configurable), h.globalNames.any (·.name == l.name))
    if fixed || lexical then redeclared l.name

/-- Declares the variables of a script as properties of the global object. -/
def declareShared (names : List Name) (configurable : Bool) : Comp Unit := do
  let global := Intrinsic.global.ref
  forEach names fun name => do
    unless ← read fun h => (h.ownProperty global name).isSome do
      discard (change fun h => h.define global name
        { value := some .undefined, writable := some true, enumerable := some true,
          configurable := some configurable })

/-- Gives the functions of a script to the global object. -/
def defineShared (functions : List (Name × Function)) (scope : Scope) (configurable : Bool) :
    Comp Unit := do
  let global := Intrinsic.global.ref
  forEach functions fun (name, f) => do
    let r ← makeClosure f scope name none
    let fresh ← read fun h => (h.ownProperty global name).all (·.configurable)
    let d : Definition :=
      if fresh then { value := some (.object r), writable := some true, enumerable := some true,
                      configurable := some configurable }
      else { value := some (.object r) }
    discard (change fun h => h.define global name d)

/-- Runs the statements of a program and gives its value. -/
def runBodyOf (p : Program) (scope : Scope) : Comp Value := do
  let c ← change fun h => h.newCell (some .undefined)
  match ← statements p.code.body.body { scope with completion := some c } with
  | _ => return (← read (·.cell c)).getD .undefined

def asResult (c : Comp Value) : Comp Result := do return .value (← c)

def asValue (c : Comp Result) : Comp Value := do
  match ← c with
  | .value v => return v
  | _ => return .undefined

/-- Runs a script. -/
def runScript (p : Program) : Comp Value := do
  let info := p.code.info
  let scope : Scope := { strict := info.strict, file := info.file }
  asValue <| within ⟨"<eval>", some info.file⟩ <| asResult do
    checkShared p
    declareShared info.vars false
    let bindings ← newBindings (p.code.body.lexicals.map fun l => (l.name, lexicalKind l)) none
    update fun h => { h with globalNames := bindings ++ h.globalNames }
    defineShared p.code.body.functions scope false
    runBodyOf p scope

/-! ### Code from text -/

/-- The place where code from text is said to be. -/
def inputName : String := "<input>"

/-- The object that takes the variables that `eval` adds to a function. -/
def addedVariables : List Link → Option Ref
  | [] => none
  | .object r false :: _ => some r
  | .function .. :: _ => none
  | _ :: rest => addedVariables rest

/-- Runs code in the scope of the call of `eval`. -/
def runIn (p : Program) (outer : Scope) : Comp Value := do
  let info := p.code.info
  let body := p.code.body
  asValue <| within ⟨"<eval>", some info.file⟩ <| asResult do
    let scope := { outer with strict := info.strict, file := info.file }
    if info.strict then
      let vars ← newBindings (info.vars.map (·, .variable)) (some .undefined)
      let lexicals ← newBindings (body.lexicals.map fun l => (l.name, lexicalKind l)) none
      let scope := (scope.push (.names vars)).push (.names lexicals)
      forEach body.functions fun (name, f) => do
        let r ← makeClosure f scope name none
        writeName name (.object r) scope
      runBodyOf p scope
    else
      let lexicals ← newBindings (body.lexicals.map fun l => (l.name, lexicalKind l)) none
      let inner := if lexicals.isEmpty then scope else scope.push (.names lexicals)
      match addedVariables outer.links with
      | some r =>
        forEach info.vars fun name => do
          if (outerVariable name outer.links).isNone then
            unless ← has r name do putPlain r name .undefined
        forEach body.functions fun (name, f) => do
          let g ← makeClosure f inner name none
          writeName name (.object g) scope
      | none =>
        forEach info.vars fun name => do
          if ← read fun h => h.globalNames.any (·.name == name) then redeclared name
        declareShared info.vars true
        defineShared body.functions inner true
      runBodyOf p inner

/-- Code for `eval` called as a plain function. -/
def evalText (source : Value) : Comp Value := do
  match source with
  | .string s =>
    let p ← readProgram .indirectEval false inputName s.display {}
    runIn p {}
  | v => return v

/-- What may be written in code for `eval`, by the function around. -/
def aroundOf (scope : Scope) : Comp Grammar.Around := do
  match Scope.enclosing scope.links with
  | none => return {}
  | some (callee, _, _) =>
    read fun h => match h.kind callee with
      | .closure c =>
        { superDot := c.home.isSome, superCall := c.code.info.kind == .derivedConstructor
          newTarget := true, isFunction := true }
      | _ => {}

/-- Code for `eval` called by its name. -/
def evalHere (source : Value) (scope : Scope) : Comp Value := do
  match source with
  | .string s =>
    let p ← readProgram .directEval scope.strict inputName s.display (← aroundOf scope)
    runIn p scope
  | v => return v

/-- A function made from the texts of its parameters and its body. -/
def functionOf (isAsync isGenerator : Bool) (args : List Value) : Comp Value := do
  let texts ← mapList args toText
  let params := Utf16.intercalate "," texts.dropLast
  let body := texts.getLast?.getD ""
  let head := (if isAsync then "async " else "") ++ "function" ++ (if isGenerator then "*" else "")
  let source : Utf16 := head ++ " anonymous(" ++ params ++ "\n) \x7b\n" ++ body ++ "\n\x7d"
  let p ← readProgram .indirectEval false inputName ("(" ++ source.display ++ ")") {}
  match p.code.body.body with
  | [.expr (.function f)] => return .object (← makeClosure f { file := inputName } "anonymous" none)
  | _ => syntaxFault inputName "invalid function"

/-! ### Modules -/

/-- The path of a module seen from another: only a path that begins with a point is taken
to be relative. -/
def relativePath (base name : String) : String :=
  let folder := (base.splitOn "/").dropLast
  let rec strip (folder : List String) : List String → String
    | "." :: rest => if rest.isEmpty then joinPath folder "." else strip folder rest
    | ".." :: rest =>
      if rest.isEmpty then joinPath folder ".."
      else
        match folder.getLast? with
        | none => joinPath folder (String.intercalate "/" (".." :: rest))
        | some last =>
          if last == "." || last == ".." then joinPath folder (String.intercalate "/" (".." :: rest))
          else strip folder.dropLast rest
    | rest => joinPath folder (String.intercalate "/" rest)
  if name.startsWith "." then strip folder (name.splitOn "/") else name
where
  joinPath (folder : List String) (rest : String) : String :=
    if folder.isEmpty then rest else String.intercalate "/" folder ++ "/" ++ rest

/-- The module of a name that was declared first. -/
def findModule (h : Heap) (name : String) : Option Nat := h.modules.findIdx? (·.name == name)

def moduleOf (h : Heap) (index : Nat) : Module := h.modules.getD index default

def setModule (h : Heap) (index : Nat) (m : Module) : Heap :=
  { h with modules := h.modules.setIfInBounds index m }

def modifyModule (index : Nat) (f : Module → Module) : Comp Unit :=
  update fun h => { h with modules := h.modules.modify index f }

/-- The module that a request means. -/
def requested (base request : String) : Comp Nat := do
  let name := relativePath base request
  match ← read fun h => findModule h name with
  | some index => return index
  | none => raise .referenceError ("could not load module '" ++ name ++ "'")

/-- Declares a module and finds those that it asks for. -/
def declareModule (name source : String) : Comp Nat := do
  let p ← readProgram .module true name source {}
  match p.missingExport? with
  | some missing =>
    raise .syntaxError ("exported variable '" ++ missing ++ "' does not exist")
  | none => pure ()
  let index ← read (·.modules.size)
  update fun h => { h with modules := h.modules.push { name := name, program := p } }
  match ← attempt do
    let found ← mapList p.links.requests (requested name)
    modifyModule index fun m => { m with requested := found }
    return normal with
  | .ok _ => return index
  | .error f =>
    update fun h => { h with modules := h.modules.pop }
    fault f

/-- Makes the variables of a module and of those that it needs. At most `limit` modules
deep. -/
def prepareModule : Nat → Nat → Comp Unit
  | 0, _ => pure ()
  | limit + 1, index => do
    let m ← read fun h => moduleOf h index
    if m.bindings.isEmpty && m.status == .unlinked && !m.linked then
      let body := m.program.code.body
      let vars ← newBindings (m.program.code.info.vars.map (·, .variable)) (some .undefined)
      let lexicals ← newBindings (body.lexicals.map fun l => (l.name, lexicalKind l)) none
      let functions ← newBindings ((body.functions.map (·.1)).filter
        (fun name => !vars.any (·.name == name)) |>.map (·, .lexical)) none
      modifyModule index fun m => { m with bindings := vars ++ lexicals ++ functions, linked := true }
      forEach m.requested (prepareModule limit)

/-- The object of all exports of a module. -/
def namespaceOf (index : Nat) : Comp Ref := do
  match ← read fun h => (moduleOf h index).namespaceObject with
  | some r => return r
  | none =>
    let r ← newObject {
      kind := .namespace index, proto := none, extensible := false
      props := #[(WellKnown.toStringTag.key, .constant (.text "Module"))] }
    modifyModule index fun m => { m with namespaceObject := some r }
    return r

def checkResolved (name : Name) (target : Nat) : Comp Heap.Resolved := do
  let (found, targetName) ← read fun h => (h.resolve target name, (moduleOf h target).name)
  match found with
  | .missing =>
    raise .syntaxError ("Could not find export '" ++ name ++ "' in module '" ++ targetName ++ "'")
  | .ambiguous =>
    raise .syntaxError ("export '" ++ name ++ "' in module '" ++ targetName ++ "' is ambiguous")
  | found => return found

/-- Ties the imports of a module, and of those that it needs, to what they lead to. -/
def linkModule : Nat → Nat → Comp Unit
  | 0, _ => pure ()
  | limit + 1, index => do
    let m ← read fun h => moduleOf h index
    if m.status == .unlinked then
      modifyModule index fun m => { m with status := .linked }
      match ← attempt do
        forEach m.requested (linkModule limit)
        forEach m.program.links.exports fun (_, source) => do
          match source with
          | .other request name => discard (checkResolved name (m.requested.getD request index))
          | .whole request => discard (namespaceOf (m.requested.getD request index))
          | .own _ => pure ()
        let imports ← mapList m.program.links.imports fun i => do
          let target := m.requested.getD i.request index
          match i.source with
          | none =>
            let r ← namespaceOf target
            let c ← change fun h => h.newCell (some (.object r))
            return (⟨i.name, c, .constant⟩ : Binding)
          | some name =>
            match ← checkResolved name target with
            | .binding c => return ⟨i.name, c, .constant⟩
            | .whole other =>
              let r ← namespaceOf other
              let c ← change fun h => h.newCell (some (.object r))
              return ⟨i.name, c, .constant⟩
            | _ => return ⟨i.name, 0, .constant⟩
        modifyModule index fun m => { m with bindings := m.bindings ++ imports }
        let m ← read fun h => moduleOf h index
        let scope : Scope := {
          links := [.names m.bindings, .module index], strict := true, file := m.name }
        forEach m.program.code.body.functions fun (name, f) => do
          let shown := if name == Grammar.defaultName then "default" else name
          let r ← makeClosure f scope shown none
          startName name (.object r) scope
        return normal with
      | .ok _ => pure ()
      | .error f =>
        modifyModule index fun m => { m with status := .unlinked }
        fault f

/-- Ends the evaluation of a module. -/
def finishModule (index : Nat) (promise : Ref) (outcome : Except Value Unit) : Comp Unit := do
  match outcome with
  | .ok _ =>
    modifyModule index fun m => { m with status := .evaluated }
    settleWith promise false .undefined
  | .error e =>
    modifyModule index fun m => { m with status := .evaluated }
    settleWith promise true e

/-- How far the evaluation of a module is. -/
def moduleOutcome (h : Heap) (index : Nat) : PromiseStatus × Value :=
  match (moduleOf h index).promise with
  | some promise =>
    match h.kind promise with
    | .promise status v _ => (status, v)
    | _ => (.pending, .undefined)
  | none => (.fulfilled, .undefined)

/-- Evaluates the modules that one needs, in order. Says whether all of them are through,
up to the first one that failed. -/
def evaluateEach : List Nat → Comp (PromiseStatus × Value)
  | [] => return (.fulfilled, .undefined)
  | index :: rest => do
    let m ← read fun h => moduleOf h index
    if m.status == .linked then discard (ask (.evaluateModule index))
    match ← read fun h => if m.status == .evaluating then (.fulfilled, .undefined) else moduleOutcome h index with
    | (.rejected, e) => return (.rejected, e)
    | (.pending, _) => do
      let (status, v) ← evaluateEach rest
      return if status == .rejected then (status, v) else (.pending, .undefined)
    | (.fulfilled, _) => evaluateEach rest

/-- Performs the evaluation of a module; its promise tells how that ends. Code that waits
goes on as a job, so the promise may still be pending. -/
def evaluateModule (index : Nat) : Comp Value := do
  let m ← read fun h => moduleOf h index
  match m.promise with
  | some promise => return .object promise
  | none =>
    let promise ← newPromise
    modifyModule index fun m => { m with status := .evaluating, promise := some promise }
    match ← evaluateEach m.requested with
    | (.rejected, e) => finishModule index promise (.error e)
    | (.pending, _) => pure ()
    | (.fulfilled, _) =>
      let m ← read fun h => moduleOf h index
      let scope : Scope := {
        links := [.names m.bindings, .module index], strict := true, file := m.name }
      let body := m.program.code.body.body
      let coroutine ← spawn fun s => do
        match s with
        | .next _ => statements body scope
        | .fail e => throw e
        | .leave v => return .returned v
      let frame : Activation := ⟨"<anonymous>", some m.name⟩
      match ← resumeWithin frame coroutine (.next .undefined) with
      | .finished _ => finishModule index promise (.ok ())
      | .failed (.thrown e) | .failed (.interrupted e) | .failed (.leaving e) =>
        finishModule index promise (.error e)
      | .awaiting v | .yielded v | .passed v =>
        modifyModule index fun m => { m with status := .evaluatingAsync }
        let w : Waiting := ⟨coroutine, frame, promise⟩
        let onValue ← makeNative (.continueAsync w false) 1 ""
        let onError ← makeNative (.continueAsync w true) 1 ""
        match ← whenSettled v onValue onError with
        | .ok _ => pure ()
        | .error e => discard (ask (.advance w (.fail e)))
    return .object promise

/-- Links and evaluates a module. -/
def startModule (index : Nat) : Comp Value := do
  let limit ← read (·.modules.size + 1)
  prepareModule limit index
  linkModule limit index
  askValue (.evaluateModule index)

/-- Imports a module for code that is running. -/
def importNow (base : String) (specifier resolve reject : Value) : Comp Unit := do
  match ← attemptValue do
    let name ← toDisplay specifier
    let index ← requested base name
    match ← startModule index with
    | .object promise =>
      let onValue ← makeNative (.finishImport index resolve reject false) 1 ""
      let onError ← makeNative (.finishImport index resolve reject true) 1 ""
      performThen promise onValue onError none
    | _ => pure ()
    return .undefined with
  | .ok _ => pure ()
  | .error e => discard (call reject .undefined [e])

end ScriptHost.Script.Comp
