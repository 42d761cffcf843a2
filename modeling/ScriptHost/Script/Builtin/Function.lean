import ScriptHost.Script.Builtin.Object

/-! The built-in functions on functions, and those that make errors. -/

namespace ScriptHost.Script.Comp

/-- The text of a function. -/
def functionText (h : Heap) (r : Ref) : String :=
  match h.kind r with
  | .closure c => c.code.info.source
  | _ => "function " ++ nativeName h r ++ "() \x7b\n    [native code]\n\x7d"

def bindFunction (i : Invocation) : Comp Value := do
  match i.this with
  | .object target =>
    unless ← read (·.isCallable target) do notFunction
    let proto ← getPrototype target
    let r ← newObject { kind := .bound target (i.arg 0) i.args.tail, proto := proto }
    let given := i.args.length - 1
    let length ←
      if (← getOwn target "length").isSome then do
        match ← get target "length" with
        | .number d =>
          match wholeOf d with
          | .finite n => pure (Value.int (max 0 (n - given)))
          | .infinite negative => pure (if negative then .nat 0 else .number d)
        | _ => pure (.nat 0)
      else pure (.nat 0)
    let name ← match ← get target "name" with
      | .string s => pure s
      | _ => pure ""
    update fun h => h.modifyObject r fun o =>
      (o.put "length" ⟨.data length false, false, true⟩).put "name"
        ⟨.data (.string ("bound " ++ name)) false, false, true⟩
    return .object r
  | _ => notFunction

def functionFunction (f : FunctionFunction) (i : Invocation) : Comp Value := do
  match f with
  | .construct => functionOf false false i.args
  | .constructGenerator => functionOf false true i.args
  | .constructAsync => functionOf true false i.args
  | .constructAsyncGenerator => functionOf true true i.args
  | .prototype => return .undefined
  | .apply =>
    unless ← read (·.callable i.this) do notFunction
    let args ← if (i.arg 1).isNone then pure [] else argumentList (i.arg 1)
    call i.this (i.arg 0) args
  | .bind => bindFunction i
  | .call => call i.this (i.arg 0) i.args.tail
  | .toString =>
    match i.this with
    | .object r =>
      unless ← read (·.isCallable r) do notFunction
      return .text (← read fun h => functionText h r)
    | _ => notFunction
  | .hasInstance => return .bool (← ordinaryInstance i.this (i.arg 0))
  | .throwTypeError => typeError "invalid property access"

/-! ### Errors -/

/-- What `new Error` and its kin make. The trace leaves out the call of the constructor. -/
def makeError (kind : ErrorKind) (i : Invocation) : Comp Value := do
  let newTarget := if i.isConstruct then i.newTarget else i.callee
  let r ← newFrom newTarget (Intrinsic.errorPrototypeOf kind) .error
  let put (name : String) (v : Value) : Comp Unit :=
    update fun h => h.modifyObject r (·.put name (.hiddenPlain v))
  let (message, options) :=
    if kind == .aggregateError then (i.arg 1, i.arg 2) else (i.arg 0, i.arg 1)
  unless message.isUndefined do put "message" (.string (← toText message))
  match options with
  | .object o => if ← has o "cause" then put "cause" (← get o "cause")
  | _ => pure ()
  if kind == .aggregateError then put "errors" (← newArray (← listOf (i.arg 0)))
  update fun h => h.withTrace r (Heap.trace h.activations.tail)
  return .object r

def errorText (v : Value) : Comp Value := do
  let r ← requireObject v
  let part (name missing : String) : Comp Utf16 := do
    match ← get r name with
    | .undefined => return missing
    | v => toText v
  let name ← part "name" "Error"
  let message ← part "message" ""
  if name.isEmpty then return .string message
  if message.isEmpty then return .string name
  return .string (name ++ ": " ++ message)

/-- Gives an object the trace of the calls under way. -/
def captureTrace (v : Value) : Comp Value := do
  let r ← requireObject v
  let text ← read fun h => Heap.trace h.activations.tail
  defineOrThrow r "stack" (.ofProperty (.hiddenPlain (.text text)))
  return .undefined

end ScriptHost.Script.Comp
