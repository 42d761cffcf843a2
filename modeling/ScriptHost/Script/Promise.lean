import ScriptHost.Script.Iteration

/-! Promises and jobs. A promise that settles hands its reactions to the queue of jobs;
each job runs when no script does. -/

namespace ScriptHost.Script.Comp

def promiseConstructor : Value := .object Intrinsic.promise.ref

def enqueue (j : Job) : Comp Unit := update fun h => h.enqueue j

/-! ### Settling -/

def newPromise : Comp Ref :=
  newObject { kind := .promise .pending .undefined [], proto := some Intrinsic.promisePrototype.ref }

/-- Gives a pending promise its outcome and hands on its reactions. -/
def settleWith (promise : Ref) (rejects : Bool) (v : Value) : Comp Unit :=
  update fun h =>
    match h.kind promise with
    | .promise .pending _ reactions =>
      let h := h.setKind promise (.promise (if rejects then .rejected else .fulfilled) v [])
      reactions.foldl (fun h (onValue, onError) =>
        h.enqueue (.react (if rejects then onError else onValue) v)) h
    | _ => h

/-- Resolves a promise: with a value, or with what another promise or thenable becomes. -/
def resolvePromise (promise : Ref) (v : Value) : Comp Unit := do
  match v with
  | .object r =>
    if r == promise then
      match ← attemptValue (typeError "promise self resolution") with
      | .ok _ => pure ()
      | .error e => settleWith promise true e
    else
      match ← attemptValue (get r "then") with
      | .error e => settleWith promise true e
      | .ok f =>
        if ← read (·.callable f) then enqueue (.adopt promise v f)
        else settleWith promise false v
  | v => settleWith promise false v

/-- The two functions that settle a promise, of which only the first call counts. -/
def resolversOf (promise : Ref) : Comp (Value × Value) := do
  let called ← change fun h => h.newCell (some (.bool false))
  let resolve ← makeNative (.settle promise called false) 1 ""
  let reject ← makeNative (.settle promise called true) 1 ""
  return (resolve, reject)

/-- What the functions that settle a promise do. -/
def settleOnce (promise : Ref) (called : Cell) (rejects : Bool) (v : Value) : Comp Unit := do
  unless (← read (·.cell called)) == some (.bool true) do
    setCell called (.bool true)
    if rejects then settleWith promise true v else resolvePromise promise v

/-! ### Capabilities -/

/-- A promise of a constructor with the functions that settle it. -/
def newCapability (constructor : Value) : Comp Capability := do
  if constructor == promiseConstructor then
    let promise ← newPromise
    let (resolve, reject) ← resolversOf promise
    return ⟨.object promise, resolve, reject⟩
  unless ← read (·.isConstructor constructor) do typeError "not a constructor"
  let resolve ← change fun h => h.newCell (some .undefined)
  let reject ← change fun h => h.newCell (some .undefined)
  let executor ← makeNative (.executor resolve reject) 2 ""
  let promise ← construct constructor [executor]
  let f ← read fun h => (h.cell resolve).getD .undefined
  let g ← read fun h => (h.cell reject).getD .undefined
  unless ← read (·.callable f) do typeError "not a function"
  unless ← read (·.callable g) do typeError "not a function"
  return ⟨promise, f, g⟩

/-- The promise that a value is, or one that is resolved with it. -/
def promiseResolve (constructor v : Value) : Comp Value := do
  let own ← match v with
    | .object r =>
      match ← read (·.kind r) with
      | .promise .. => pure (sameValue (← get r "constructor") constructor)
      | _ => pure false
    | _ => pure false
  if own then return v
  if constructor == promiseConstructor then
    let promise ← newPromise
    resolvePromise promise v
    return .object promise
  let c ← newCapability constructor
  discard (call c.resolve .undefined [v])
  return c.promise

/-! ### Reactions -/

/-- Has functions called with the outcome of a promise. -/
def performThen (promise : Ref) (onValue onError : Value) (c : Option Capability) : Comp Unit :=
  update fun h =>
    let first : Reaction := ⟨c, onValue, false⟩
    let second : Reaction := ⟨c, onError, true⟩
    match h.kind promise with
    | .promise .pending v reactions =>
      h.setKind promise (.promise .pending v (reactions ++ [(first, second)]))
    | .promise .fulfilled v _ => h.enqueue (.react first v)
    | .promise .rejected v _ => h.enqueue (.react second v)
    | _ => h

/-- Runs one reaction. What a script throws becomes the outcome of the reaction. -/
def react (r : Reaction) (argument : Value) : Comp Unit := do
  let outcome ←
    if ← read (·.callable r.handler) then attemptValue (call r.handler .undefined [argument])
    else pure (if r.rejects then .error argument else .ok argument)
  match r.capability with
  | none => pure ()
  | some c =>
    match outcome with
    | .ok v => discard (call c.resolve .undefined [v])
    | .error e => discard (call c.reject .undefined [e])

/-- Lets a promise become what a thenable becomes. -/
def adopt (promise : Ref) (thenable method : Value) : Comp Unit := do
  let (resolve, reject) ← resolversOf promise
  match ← attemptValue (call method thenable [resolve, reject]) with
  | .ok _ => pure ()
  | .error e => discard (call reject .undefined [e])

/-- Has two functions called with what a value becomes. -/
def whenSettled (v : Value) (onValue onError : Value) : Comp (Except Value Unit) := do
  match ← attemptValue (promiseResolve promiseConstructor v) with
  | .ok (.object promise) =>
    performThen promise onValue onError none
    return .ok ()
  | .ok _ => return .ok ()
  | .error e => return .error e

/-! ### Asynchronous functions -/

/-- Lets an asynchronous function go on until it waits again or ends. -/
def advance (w : Waiting) (s : Signal) : Comp Result := do
  match ← resumeWithin w.frame w.coroutine s with
  | .awaiting v | .yielded v | .passed v =>
    let onValue ← makeNative (.continueAsync w false) 1 ""
    let onError ← makeNative (.continueAsync w true) 1 ""
    match ← whenSettled v onValue onError with
    | .ok _ => return .value .undefined
    | .error e => become (.advance w (.fail e))
  | .finished r =>
    resolvePromise w.promise (returnedValue r)
    return .value .undefined
  | .failed (.leaving v) =>
    resolvePromise w.promise v
    return .value .undefined
  | .failed (.thrown e) | .failed (.interrupted e) =>
    settleWith w.promise true e
    return .value .undefined

/-! ### Asynchronous generators -/

/-- Changes the state of an asynchronous generator. -/
def markGenerator (generator : Ref) (status : AsyncStatus) : Comp Unit :=
  update fun h => match h.kind generator with
    | .asyncGenerator coroutine frame _ queue =>
      h.setKind generator (.asyncGenerator coroutine frame status queue)
    | _ => h

/-- Takes the first request of an asynchronous generator. -/
def takeRequest (generator : Ref) : Comp (Option Request) :=
  change fun h => match h.kind generator with
    | .asyncGenerator coroutine frame status (r :: queue) =>
      (some r, h.setKind generator (.asyncGenerator coroutine frame status queue))
    | _ => (none, h)

/-- Answers the first request of an asynchronous generator. -/
def answerRequest (generator : Ref) (answer : Except Value (Value × Bool)) : Comp Unit := do
  match ← takeRequest generator with
  | some r =>
    match answer with
    | .ok (v, done) => discard (call r.capability.resolve .undefined [← stepObject v done])
    | .error e => discard (call r.capability.reject .undefined [e])
  | none => pure ()

/-- Lets an asynchronous generator go on until it waits, yields or ends. -/
def advanceGenerator (generator : Ref) (s : Signal) : Comp Result := do
  match ← read (·.kind generator) with
  | .asyncGenerator coroutine frame _ _ =>
    markGenerator generator .running
    match ← resumeWithin frame coroutine s with
    | .awaiting v =>
      let onValue ← makeNative (.continueAsyncGenerator generator false) 1 ""
      let onError ← makeNative (.continueAsyncGenerator generator true) 1 ""
      match ← whenSettled v onValue onError with
      | .ok _ => return .value .undefined
      | .error e => become (.advanceGenerator generator (.fail e))
    | .yielded v | .passed v =>
      markGenerator generator .suspended
      answerRequest generator (.ok (v, false))
      become (.drain generator)
    | .finished r =>
      markGenerator generator .finished
      answerRequest generator (.ok (returnedValue r, true))
      become (.drain generator)
    | .failed (.leaving v) =>
      markGenerator generator .finished
      answerRequest generator (.ok (v, true))
      become (.drain generator)
    | .failed (.thrown e) | .failed (.interrupted e) =>
      markGenerator generator .finished
      answerRequest generator (.error e)
      become (.drain generator)
  | _ => return .value .undefined

/-- Serves the next request of an asynchronous generator that stands still. -/
def drain (generator : Ref) : Comp Result := do
  match ← read (·.kind generator) with
  | .asyncGenerator _ _ status (r :: _) =>
    let afterEnd : Comp Result := do
      match r.signal with
      | .next _ =>
        answerRequest generator (.ok (.undefined, true))
        become (.drain generator)
      | .fail e =>
        answerRequest generator (.error e)
        become (.drain generator)
      | .leave v =>
        markGenerator generator .awaitingReturn
        let onValue ← makeNative (.finishAsyncGenerator generator false) 1 ""
        let onError ← makeNative (.finishAsyncGenerator generator true) 1 ""
        match ← whenSettled v onValue onError with
        | .ok _ => return .value .undefined
        | .error e =>
          markGenerator generator .finished
          answerRequest generator (.error e)
          become (.drain generator)
    match status with
    | .running | .awaitingReturn => return .value .undefined
    | .suspended => become (.advanceGenerator generator r.signal)
    | .finished => afterEnd
    | .fresh =>
      match r.signal with
      | .next _ => become (.advanceGenerator generator r.signal)
      | _ =>
        markGenerator generator .finished
        afterEnd
  | _ => return .value .undefined

/-- The promise that answers a request to an asynchronous generator. -/
def requestGenerator (generator : Value) (s : Signal) : Comp Value := do
  let c ← newCapability promiseConstructor
  let known ← read fun h => match generator with
    | .object r =>
      match h.kind r with
      | .asyncGenerator _ _ status _ => some (r, status)
      | _ => none
    | _ => none
  match known with
  | some (r, status) =>
    update fun h => match h.kind r with
      | .asyncGenerator coroutine frame status queue =>
        h.setKind r (.asyncGenerator coroutine frame status (queue ++ [⟨s, c⟩]))
      | _ => h
    unless status == .running || status == .awaitingReturn do discard (ask (.drain r))
    return c.promise
  | none =>
    match ← attemptValue (typeError "not an AsyncGenerator object") with
    | .ok _ => return c.promise
    | .error e =>
      discard (call c.reject .undefined [e])
      return c.promise

end ScriptHost.Script.Comp
