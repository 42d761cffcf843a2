import ScriptHost.Script.Call

/-! Iterators: getting one, taking its steps and closing it. The iterators that are built
in are stepped without making an object for each step. -/

namespace ScriptHost.Script.Comp

/-- An iterator with its method `next`. -/
structure Source where
  iterator : Value
  next : Value
deriving Inhabited

def sourceOf (iterator : Value) : Comp Source := do
  unless iterator.isObject do typeError "not an object"
  return ⟨iterator, ← getValue iterator "next"⟩

/-- The iterator that a method of a value gives. -/
def sourceBy (v method : Value) : Comp Source := do
  unless ← read (·.callable method) do typeError "value is not iterable"
  sourceOf (← call method v [])

def iterate (v : Value) : Comp Source := do
  sourceBy v (← getValue v WellKnown.iterator.key)

/-- The object that a step of an iterator gives. -/
def stepObject (v : Value) (done : Bool) : Comp Value :=
  newRecord [("value", v), ("done", .bool done)]

/-! ### Iterators that are built in -/

def badReceiver {α : Type} (what : String) : Comp α := typeError ("not a " ++ what)

def pairOf (a b : Value) : Comp Value := newArray [a, b]

/-- The next item of an array or of something like one. -/
def arrayStep (iterator : Ref) : Comp (Option Value) := do
  match ← read (·.kind iterator) with
  | .arrayIterator none _ _ => return none
  | .arrayIterator (some target) next kind =>
    let length ← match ← read fun h => match h.kind target with
      | .typed _ _ _ length => some length
      | _ => none with
      | some n => pure n
      | none => lengthOf target
    if next < length then
      update fun h => h.setKind iterator (.arrayIterator (some target) (next + 1) kind)
      match kind with
      | .keys => return some (.nat next)
      | .values => return some (← get target (.ofNat next))
      | .entries => return some (← pairOf (.nat next) (← get target (.ofNat next)))
    else
      update fun h => h.setKind iterator (.arrayIterator none next kind)
      return none
  | _ => badReceiver "Array Iterator object"

def stringStep (iterator : Ref) : Comp (Option Value) := do
  match ← read (·.kind iterator) with
  | .stringIterator [] => return none
  | .stringIterator (point :: rest) =>
    update fun h => h.setKind iterator (.stringIterator rest)
    return some (.string (.ofCodePoint point))
  | _ => badReceiver "String Iterator object"

/-- The entries of a collection. -/
def entriesOf : Kind → Array (Option (Value × Value))
  | .map entries | .set entries | .weakMap entries | .weakSet entries => entries
  | _ => #[]

/-- The first place from `start` on that is no gap, at most `limit` places on. -/
def nextEntry (entries : Array (Option (Value × Value))) : Nat → Nat →
    Option (Nat × Value × Value)
  | 0, _ => none
  | limit + 1, start =>
    match entries[start]? with
    | some (some (k, v)) => some (start, k, v)
    | some none => nextEntry entries limit (start + 1)
    | none => none

def collectionStep (iterator : Ref) : Comp (Option Value) := do
  match ← read (·.kind iterator) with
  | .collectionIterator none _ _ => return none
  | .collectionIterator (some target) start kind =>
    match ← read fun h =>
      let entries := entriesOf (h.kind target)
      nextEntry entries entries.size start with
    | some (place, k, v) =>
      update fun h => h.setKind iterator (.collectionIterator (some target) (place + 1) kind)
      match kind with
      | .keys => return some k
      | .values => return some v
      | .entries => return some (← pairOf k v)
    | none =>
      update fun h => h.setKind iterator (.collectionIterator none start kind)
      return none
  | _ => badReceiver "iterator of a collection"

/-- What a generator does next. -/
inductive Yield where
  | item (v : Value)
  /-- The step of another iterator, passed on as it is. -/
  | step (object : Value)
  | finish (v : Value)
deriving Inhabited

/-- What a function body gives back. -/
def returnedValue : Result → Value
  | .returned v => v
  | _ => .undefined

/-- Sends a signal into a generator. -/
def sendGenerator (generator : Ref) (s : Signal) : Comp Yield := do
  match ← read (·.kind generator) with
  | .generator coroutine frame status =>
    match status with
    | .running => typeError "cannot invoke a running generator"
    | .finished =>
      match s with
      | .next _ => return .finish .undefined
      | .fail e => throw e
      | .leave v => return .finish v
    | .waiting =>
      let mark (status : GeneratorStatus) : Comp Unit :=
        update fun h => h.setKind generator (.generator coroutine frame status)
      checkDepth
      mark .running
      match ← resumeWithin frame coroutine s with
      | .yielded v | .awaiting v =>
        mark .waiting
        return .item v
      | .passed step =>
        mark .waiting
        return .step step
      | .finished r =>
        mark .finished
        return .finish (returnedValue r)
      | .failed (.leaving v) =>
        mark .finished
        return .finish v
      | .failed f =>
        mark .finished
        fault f
  | _ => badReceiver "Generator object"

/-! ### Steps -/

/-- The next item of an iterator, unless it is done. -/
def step (s : Source) : Comp (Option Value) := do
  let known ← read fun h => match s.next, s.iterator with
    | .object f, .object r =>
      match h.kind f with
      | .native (.iterator f) _ => some (f, r)
      | _ => none
    | _, _ => none
  let general : Comp (Option Value) := do
    match ← call s.next s.iterator [] with
    | .object r =>
      if truthy (← get r "done") then return none else return some (← get r "value")
    | _ => typeError "iterator must return an object"
  match known with
  | some (.arrayNext, r) => arrayStep r
  | some (.stringNext, r) => stringStep r
  | some (.collectionNext, r) => collectionStep r
  | some (.generatorNext, r) =>
    match ← sendGenerator r (.next .undefined) with
    | .item v => return some v
    | .finish _ => return none
    | .step object =>
      match object with
      | .object r =>
        if truthy (← get r "done") then return none else return some (← get r "value")
      | _ => typeError "iterator must return an object"
  | _ => general

/-- Tells an iterator that no more steps are wanted. -/
def close (iterator : Value) : Comp Unit := do
  match ← getMethod iterator "return" with
  | some f => unless (← call f iterator []).isObject do typeError "not an object"
  | none => pure ()

/-- Tells an iterator that no more steps are wanted, whatever it has to say to that. -/
def closeQuietly (iterator : Value) : Comp Unit := do
  discard (attemptValue do
    match ← getMethod iterator "return" with
    | some f => call f iterator []
    | none => return .undefined)

/-- Does something for each item of an iterator and says how it ended. -/
def eachItem (s : Source) (f : Nat → Value → Comp Result) : Comp Result :=
  ask (.each s.iterator s.next false 0 fun i v => f i v .done)

/-- Does something for each item of an iterator. -/
def forItems (s : Source) (f : Nat → Value → Comp Unit) : Comp Unit :=
  discard (eachItem s fun i v => do
    f i v
    return .value .undefined)

/-- Adds the items of an iterator to an array. -/
def collect (s : Source) (into : Ref) : Comp Unit :=
  forItems s fun _ v => do
    charge 16
    update fun h => h.addOwn into (.ofNat (match h.kind into with
      | .array _ length _ => length
      | _ => 0)) v

/-- The items of an array that no script can reach. -/
def itemsOf (r : Ref) : Comp (List Value) :=
  read fun h => match h.kind r with
    | .array items _ _ => items.toList
    | _ => []

/-- The items of an iterable value. -/
def listOf (v : Value) : Comp (List Value) := do
  let s ← iterate v
  match ← newArray [] with
  | .object list =>
    collect s list
    itemsOf list
  | _ => return []

/-! ### Performing the task of going over items -/

/-- One step of going over the items of an iterator. -/
def performEach (s : Source) (isAwait : Bool) (index : Nat) (f : Nat → Value → Prog) :
    Comp Result := do
  let item ←
    if isAwait then do
      let answer ← awaitHere (← call s.next s.iterator [])
      match answer with
      | .object r =>
        if truthy (← get r "done") then pure none else pure (some (← get r "value"))
      | _ => typeError "iterator must return an object"
    else step s
  match item with
  | none => return .value .undefined
  | some v =>
    match ← attemptProg (f index v) with
    | .ok (.value _) => become (.each s.iterator s.next isAwait (index + 1) f)
    | .ok r =>
      if isAwait then
        match ← getMethod s.iterator "return" with
        | some f =>
          unless (← awaitHere (← call f s.iterator [])).isObject do typeError "not an object"
        | none => pure ()
      else close s.iterator
      return r
    | .error e =>
      match e with
      | .interrupted _ => pure ()
      | .leaving _ =>
        if isAwait then
          match ← getMethod s.iterator "return" with
          | some f => discard (awaitHere (← call f s.iterator []))
          | none => pure ()
        else close s.iterator
      | .thrown _ =>
        if isAwait then
          discard (attemptValue do
            match ← getMethod s.iterator "return" with
            | some f => awaitHere (← call f s.iterator [])
            | none => return .undefined)
        else closeQuietly s.iterator
      fault e

end ScriptHost.Script.Comp
