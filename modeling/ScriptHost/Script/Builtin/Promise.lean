import ScriptHost.Script.Builtin.Collection

/-! The built-in functions on promises, and those that promises are made of. -/

namespace ScriptHost.Script.Comp

def newPromiseObject (i : Invocation) : Comp Value := do
  requireNew i
  let executor := i.arg 0
  unless ← read (·.callable executor) do notFunction
  let promise ← newFrom i.newTarget .promisePrototype (.promise .pending .undefined [])
  let (resolve, reject) ← resolversOf promise
  match ← attemptValue (call executor .undefined [resolve, reject]) with
  | .ok _ => pure ()
  | .error e => discard (call reject .undefined [e])
  return .object promise

/-- The constructor that the result of a method of a promise is made with. -/
def speciesOf (r : Ref) (standard : Intrinsic) : Comp Value := do
  match ← get r "constructor" with
  | .undefined => return .object standard.ref
  | .object c =>
    let s ← get c WellKnown.species.key
    if s.isNone then return .object standard.ref
    unless ← read (·.isConstructor s) do typeError "not a constructor"
    return s
  | _ => typeError "not an object"

/-- Has functions called with the outcome of a promise and gives the promise of what they
make of it. -/
def thenPromise (this onValue onError : Value) : Comp Value := do
  match this with
  | .object r =>
    match ← read (·.kind r) with
    | .promise .. =>
      let c ← newCapability (← speciesOf r .promise)
      performThen r onValue onError (some c)
      return c.promise
    | _ => typeError "not a Promise"
  | _ => typeError "not a Promise"

/-- Counts a part of a combined promise as done, and gives whether it was the last. -/
def countDown (remaining : Cell) : Comp Bool :=
  change fun h => match h.cell remaining with
    | some (.number d) =>
      let left := (d.toInt?.getD 1).toNat - 1
      (left == 0, h.setCell remaining (some (.nat left)))
    | _ => (false, h)

/-- Ends a combination with the list of its parts. -/
def finishParts (how : Combination) (values : Ref) (done : Value) : Comp Unit := do
  match how with
  | .any =>
    let (e, _) ← change fun h =>
      let (r, h) := h.newPlainError .aggregateError ""
      ((r, ()), h.modifyObject r fun o =>
        { o with props := #[("errors", .hiddenPlain (.object values))] })
    discard (call done .undefined [.object e])
  | _ => discard (call done .undefined [.object values])

/-- What one part of a combined promise does when it is settled. -/
def settlePart (how : Combination) (called : Cell) (index : Nat) (values : Ref) (done : Value)
    (remaining : Cell) (v : Value) : Comp Value := do
  if (← read (·.cell called)) == some (.bool true) then return .undefined
  setCell called (.bool true)
  let entry ← match how with
    | .all | .any => pure v
    | .fulfilled => newRecord [("status", .text "fulfilled"), ("value", v)]
    | .rejected => newRecord [("status", .text "rejected"), ("reason", v)]
  update fun h => h.modifyObject values fun o => Heap.putItem o index (.plain entry)
  if ← countDown remaining then finishParts how values done
  return .undefined

/-- Makes one promise of many. -/
def combinePromises (f : PromiseFunction) (i : Invocation) : Comp Value := do
  let constructor := i.this
  unless constructor.isObject do typeError "not an object"
  let c ← newCapability constructor
  match ← attemptValue do
    let resolve ← getValue constructor "resolve"
    unless ← read (·.callable resolve) do notFunction
    let s ← iterate (i.arg 0)
    let values ← requireObject (← newArray [])
    let remaining ← change fun h => h.newCell (some (.nat 1))
    forItems s fun n item => do
      let next ← call resolve constructor [item]
      match f with
      | .race => discard (invoke next "then" [c.resolve, c.reject])
      | f =>
        update fun h => h.modifyObject values fun o => Heap.putItem o n (.plain .undefined)
        update fun h => match h.cell remaining with
          | some (.number d) => h.setCell remaining (some (.int (d.toInt?.getD 0 + 1)))
          | _ => h
        let called ← change fun h => h.newCell (some (.bool false))
        let part (how : Combination) (done : Value) : Comp Value :=
          makeNative (.part how called n values done remaining) 1 ""
        match f with
        | .allSettled =>
          let onValue ← part .fulfilled c.resolve
          discard (invoke next "then" [onValue, ← part .rejected c.resolve])
        | .any => discard (invoke next "then" [c.resolve, ← part .any c.reject])
        | _ => discard (invoke next "then" [← part .all c.resolve, c.reject])
    unless f == .race do
      if ← countDown remaining then
        finishParts (if f == .any then .any else .all) values
          (if f == .any then c.reject else c.resolve)
    return .undefined with
  | .ok _ => return c.promise
  | .error e =>
    discard (call c.reject .undefined [e])
    return c.promise

def promiseFunction (f : PromiseFunction) (i : Invocation) : Comp Value := do
  match f with
  | .construct => newPromiseObject i
  | .all | .allSettled | .any | .race => combinePromises f i
  | .reject =>
    unless i.this.isObject do typeError "not an object"
    let c ← newCapability i.this
    discard (call c.reject .undefined [i.arg 0])
    return c.promise
  | .resolve =>
    unless i.this.isObject do typeError "not an object"
    promiseResolve i.this (i.arg 0)
  | .withResolvers =>
    unless i.this.isObject do typeError "not an object"
    let c ← newCapability i.this
    newRecord [("promise", c.promise), ("resolve", c.resolve), ("reject", c.reject)]
  | .try_ =>
    unless i.this.isObject do typeError "not an object"
    let c ← newCapability i.this
    match ← attemptValue (call (i.arg 0) .undefined i.args.tail) with
    | .ok v => discard (call c.resolve .undefined [v])
    | .error e => discard (call c.reject .undefined [e])
    return c.promise
  | .then => thenPromise i.this (i.arg 0) (i.arg 1)
  | .catch => invoke i.this "then" [.undefined, i.arg 0]
  | .finally =>
    match i.this with
    | .object r =>
      let constructor ← speciesOf r .promise
      let action := i.arg 0
      if ← read (·.callable action) then
        let onValue ← makeNative (.finallyThen action constructor false) 1 ""
        let onError ← makeNative (.finallyThen action constructor true) 1 ""
        invoke i.this "then" [onValue, onError]
      else invoke i.this "then" [action, action]
    | _ => typeError "not an object"
  | .species => return i.this

/-- What a reaction of `finally` does: its function first, then what came before. -/
def finallyThen (action constructor : Value) (rejects : Bool) (v : Value) : Comp Value := do
  let answer ← call action .undefined []
  let promise ← promiseResolve constructor answer
  invoke promise "then" [← makeNative (.pass v rejects) 0 ""]

/-! ### Iterators -/

def generatorAnswer (y : Yield) : Comp Value := do
  match y with
  | .item v => stepObject v false
  | .step object => return object
  | .finish v => stepObject v true

def generatorSend (this : Value) (s : Signal) : Comp Value := do
  match this with
  | .object r => generatorAnswer (← sendGenerator r s)
  | _ => typeError "not a Generator object"

def stepAnswer (v : Option Value) : Comp Value :=
  match v with
  | some v => stepObject v false
  | none => stepObject .undefined true

/-- Answers with a promise of the step that an ordinary iterator gives. -/
def adapterSend (this : Value) (send : Value → Value → Comp (Option Value)) (v : Value)
    (isNext : Bool) : Comp Value := do
  let c ← newCapability promiseConstructor
  match ← attemptValue do
    let r ← requireObject this
    match ← read (·.kind r) with
    | .adapter iterator next =>
      match ← send iterator next with
      | none =>
        discard (call c.resolve .undefined [← stepObject v true])
        return .undefined
      | some answer =>
        let o ← requireObject answer
        let done := truthy (← get o "done")
        let item ← get o "value"
        match ← attemptValue (promiseResolve promiseConstructor item) with
        | .ok (.object promise) =>
          let onValue ← makeNative (.unwrapStep done) 1 ""
          let onError ← if done || !isNext then pure .undefined
            else makeNative (.closeAndThrow iterator) 1 ""
          performThen promise onValue onError (some c)
          return .undefined
        | .ok v => return v
        | .error e =>
          if !done && isNext then closeQuietly iterator
          throw e
    | _ => typeError "not an iterator" with
  | .ok _ => return c.promise
  | .error e =>
    discard (call c.reject .undefined [e])
    return c.promise

def iteratorFunction (f : IteratorFunction) (i : Invocation) : Comp Value := do
  let own (step : Ref → Comp (Option Value)) (word : String) : Comp Value := do
    match i.this with
    | .object r => stepAnswer (← step r)
    | _ => badReceiver word
  match f with
  | .itself | .asyncItself => return i.this
  | .arrayNext => own arrayStep "Array Iterator object"
  | .stringNext => own stringStep "String Iterator object"
  | .collectionNext => own collectionStep "iterator of a collection"
  | .generatorNext => generatorSend i.this (.next (i.arg 0))
  | .generatorReturn => generatorSend i.this (.leave (i.arg 0))
  | .generatorThrow => generatorSend i.this (.fail (i.arg 0))
  | .asyncGeneratorNext => requestGenerator i.this (.next (i.arg 0))
  | .asyncGeneratorReturn => requestGenerator i.this (.leave (i.arg 0))
  | .asyncGeneratorThrow => requestGenerator i.this (.fail (i.arg 0))
  | .adapterNext =>
    adapterSend i.this (fun iterator next => do return some (← call next iterator i.args)) .undefined true
  | .adapterReturn =>
    adapterSend i.this (fun iterator _ => do
      match ← getMethod iterator "return" with
      | some f => return some (← call f iterator i.args)
      | none => return none) (i.arg 0) false
  | .adapterThrow =>
    adapterSend i.this (fun iterator _ => do
      match ← getMethod iterator "throw" with
      | some f => return some (← call f iterator i.args)
      | none =>
        closeQuietly iterator
        typeError "iterator does not have a throw method") .undefined true
  | .patternNext | .wrapperNext | .wrapperReturn => return .undefined

end ScriptHost.Script.Comp
