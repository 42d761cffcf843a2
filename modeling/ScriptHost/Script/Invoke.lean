import ScriptHost.Script.Promise

/-! Calling and constructing. Functions of scripts run their code, at once or as a
coroutine; built-in ones are looked up in a table that is given. -/

namespace ScriptHost.Script

/-- What the built-in functions do. -/
abbrev Builtins := Native → Invocation → Comp Value

namespace Comp

/-- Does the body of a function. -/
def runBody (c : Closure) (scope : Scope) : Comp Result :=
  ask (.stmt (.block ⟨[], [], c.code.body.body⟩) scope)

/-- Begins a coroutine with the code of a function once it is entered. -/
def bodyAfter (enter : Comp Scope) (c : Closure) (s : Signal) : Comp Result := do
  match s with
  | .next _ => runBody c (← enter)
  | .fail e => throw e
  | .leave v => return .returned v

/-- The prototype of the generators that a function makes. -/
def generatorPrototype (callee : Ref) (missing : Intrinsic) : Comp Ref := do
  match ← get callee "prototype" with
  | .object proto => return proto
  | _ => return missing.ref

def callClosure (c : Closure) (callee : Ref) (this : Value) (args : List Value) : Comp Value := do
  let i := c.code.info
  let frame : Activation := ⟨i.name, some i.file⟩
  match i.kind with
  | .constructor | .derivedConstructor =>
    return returnedValue (← within frame (typeError "class constructors must be invoked with 'new'"))
  | _ =>
    let entering := enter c callee (some this) args .undefined
    match i.isAsync, i.isGenerator with
    | false, false => return returnedValue (← within frame do runBody c (← entering))
    | true, false =>
      let promise ← newPromise
      let coroutine ← spawn (bodyAfter entering c)
      discard (ask (.advance ⟨coroutine, frame, promise⟩ (.next .undefined)))
      return .object promise
    | isAsync, true =>
      let made ← within frame do
        let scope ← entering
        let coroutine ← spawn (bodyAfter (pure scope) c)
        let missing : Intrinsic := if isAsync then .asyncGeneratorPrototype else .generatorPrototype
        let proto ← generatorPrototype callee missing
        let kind : Kind :=
          if isAsync then .asyncGenerator coroutine frame .fresh []
          else .generator coroutine frame .waiting
        return .value (.object (← newObject { kind := kind, proto := some proto }))
      match made with
      | .value v => return v
      | _ => return .undefined

/-- What a constructor of a script makes. -/
def constructClosure (c : Closure) (callee : Ref) (args : List Value) (newTarget : Value) :
    Comp Value := do
  let i := c.code.info
  let frame : Activation := ⟨i.name, some i.file⟩
  let made ← within frame do
    match i.kind with
    | .derivedConstructor =>
      let scope ← enter c callee none args newTarget
      match ← runBody c scope with
      | .returned (.object r) => return .value (.object r)
      | .returned .undefined | .value _ => return .value (← thisValue scope)
      | _ => typeError "derived class constructor must return an object or undefined"
    | _ =>
      let r ← newFrom newTarget .objectPrototype .ordinary
      startFields callee r
      let scope ← enter c callee (some (.object r)) args newTarget
      match ← runBody c scope with
      | .returned (.object other) => return .value (.object other)
      | _ => return .value (.object r)
  match made with
  | .value v => return v
  | _ => return .undefined

/-- Does a call of this function show in traces? -/
def showsCall : Native → Bool
  | .console _ | .settle .. | .executor .. | .part .. | .finallyThen .. | .pass ..
  | .continueAsync .. | .continueAsyncGenerator .. | .finishAsyncGenerator .. | .unwrapStep ..
  | .closeAndThrow .. | .finishImport .. | .revoke .. => false
  | _ => true

/-- The name that a trace shows for a built-in function. -/
def nativeName (h : Heap) (r : Ref) : String :=
  match (h.object r).find? "name" with
  | some p =>
    match p.slot with
    | .data (.string s) _ => s.display
    | _ => ""
  | none => ""

def callNative (builtins : Builtins) (f : Native) (callee : Ref) (i : Invocation) : Comp Value := do
  if showsCall f then
    let name ← read fun h => nativeName h callee
    match ← within ⟨name, none⟩ (fun k => builtins f i fun v => k (.value v)) with
    | .value v => return v
    | _ => return .undefined
  else
    checkDepth
    builtins f i

def notFunction {α : Type} : Comp α := typeError "not a function"

/-- Performs a call. -/
def performCall (builtins : Builtins) (f this : Value) (args : List Value) : Comp Value := do
  match f with
  | .object r =>
    match ← read (·.kind r) with
    | .closure c => callClosure c r this args
    | .native n _ => callNative builtins n r ⟨f, this, args, .undefined⟩
    | .bound target this before => become (.call (.object target) this (before ++ args))
    | .proxy _ _ true _ =>
      let (target, handler, method) ← trap r "apply"
      match method with
      | none => become (.call (.object target) this args)
      | some method => call method handler [.object target, this, ← newArray args]
    | _ => notFunction
  | _ => notFunction

/-- Performs a construction. -/
def performConstruct (builtins : Builtins) (f : Value) (args : List Value) (newTarget : Value) :
    Comp Value := do
  match f with
  | .object r =>
    unless ← read (·.isConstructor f) do typeError "not a constructor"
    match ← read (·.kind r) with
    | .closure c => constructClosure c r args newTarget
    | .native n _ => callNative builtins n r ⟨f, .undefined, args, newTarget⟩
    | .bound target _ before =>
      let newTarget := if newTarget == f then .object target else newTarget
      become (.construct (.object target) (before ++ args) newTarget)
    | .proxy .. =>
      let (target, handler, method) ← trap r "construct"
      match method with
      | none => become (.construct (.object target) args newTarget)
      | some method =>
        let made ← call method handler [.object target, ← newArray args, newTarget]
        if made.isObject then return made else typeError "not an object"
    | _ => notFunction
  | _ => notFunction

end Comp

end ScriptHost.Script
