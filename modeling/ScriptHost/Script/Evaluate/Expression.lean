import ScriptHost.Script.Invoke

/-! Expressions. Each function does one node and leaves the parts to tasks. -/

namespace ScriptHost.Script

/-- The value of a literal. -/
def Literal.value : Literal → Value
  | .null => .null
  | .bool b => .bool b
  | .number d => .number d
  | .bigInt i => .bigInt i
  | .string s => .string s

namespace Comp

/-- What an expression that can be assigned to refers to. -/
inductive Reference where
  | variable (n : Name) (p : Place)
  /-- A property of a value. The key may still have to be made of another value. -/
  | named (base : Value) (key : Key)
  | computed (base key : Value)
  | hidden (base : Value) (key : Key) (name : Name)
  | ofSuper (this : Value) (home : Option Ref) (key : Key)

/-! ### Parts -/

/-- The value of a part of an expression. Literals and variables are settled at once. -/
def value (e : Expr) (scope : Scope) : Comp Value :=
  match e with
  | .literal l => pure l.value
  | .ident name => readName name scope
  | .this => thisValue scope
  | e => askValue (.expr e scope)

/-- Ends the expression under way, because an optional access found nothing. -/
def giveUp {α : Type} : Comp α := fun _ => .done .gaveUp

/-- The value of what an access goes on from. If it gives up, so does the access. -/
def base (e : Expr) (scope : Scope) : Comp Value :=
  match e with
  | .literal _ | .ident _ | .this => value e scope
  | e => fun k => .request (.expr e scope) fun
    | .value v => k v
    | .gaveUp => .done .gaveUp
    | _ => k .undefined

/-- The value of what an access goes on from, if there is something. -/
def baseOf (e : Expr) (optional : Bool) (scope : Scope) : Comp Value := do
  let v ← base e scope
  if optional && v.isNone then giveUp
  return v

/-- The value of an expression that takes a name if it is a function without one. -/
def namedValue (e : Expr) (name : Utf16) (scope : Scope) : Comp Value :=
  if Grammar.isAnonymous e then askValue (.named e name scope) else value e scope

/-- The arguments of a call. -/
def arguments (items : List Element) (scope : Scope) : Comp (List Value) :=
  match items with
  | [] => pure []
  | .hole :: rest => arguments rest scope
  | .item e :: rest => do
    let v ← value e scope
    return v :: (← arguments rest scope)
  | .spread e :: rest => do
    let vs ← listOf (← value e scope)
    return vs ++ (← arguments rest scope)

/-- The key of a private name. -/
def hiddenKey (name : Name) (scope : Scope) : Comp Key := do
  match ← readName name scope with
  | .symbol id => return .hidden id
  | _ => raise .syntaxError "undefined private field"

def keyOf (k : PropertyKey) (scope : Scope) : Comp Key := do
  match k with
  | .fixed name => return .ofText name
  | .computed e => toKey (← value e scope)
  | .hidden name => hiddenKey name scope

/-! ### Private members -/

def getHidden (v : Value) (k : Key) (name : Name) : Comp Value := do
  match v with
  | .object r =>
    match ← read fun h => (h.object r).find? k with
    | some p =>
      match p.slot with
      | .data v _ => return v
      | .accessor get _ =>
        if get.isUndefined then typeError "no getter for property" else call get v []
    | none => typeError ("private class field '" ++ name ++ "' does not exist")
  | _ => typeError "not an object"

def setHidden (target : Value) (k : Key) (name : Name) (v : Value) : Comp Unit := do
  match target with
  | .object r =>
    match ← read fun h => (h.object r).find? k with
    | some p =>
      match p.slot with
      | .data _ true => update fun h => h.modifyObject r (·.put k { p with slot := .data v true })
      | .data _ false => readOnly name
      | .accessor _ set =>
        if set.isUndefined then typeError "no setter for property"
        else discard (call set target [v])
    | none => typeError ("private class field '" ++ name ++ "' does not exist")
  | _ => typeError "not an object"

/-! ### Access -/

/-- A property under a computed key. -/
def getComputed (v key : Value) : Comp Value := do
  match v with
  | .undefined => typeError "cannot read property of undefined"
  | .null => typeError "cannot read property of null"
  | v => getValue v (← toKey key)

/-- A property of the prototype of the home object, with `this` as the receiver. -/
def getSuper (this : Value) (home : Option Ref) (k : Key) : Comp Value := do
  match home with
  | some home => getFrom home k this
  | none => return .undefined

def reference (e : Expr) (scope : Scope) : Comp Reference := do
  match e with
  | .ident name => return .variable name (← place name scope)
  | .dot object name _ => return .named (← base object scope) name
  | .index object key _ =>
    let b ← base object scope
    return .computed b (← value key scope)
  | .privateDot object name _ =>
    let b ← base object scope
    return .hidden b (← hiddenKey name scope) name
  | .superIndex key =>
    let this ← thisValue scope
    let k ← toKey (← value key scope)
    return .ofSuper this (← superHome scope) k
  | _ => raise .syntaxError "invalid assignment left-hand side"

/-- The reference with its key made, so that it is made only once. -/
def Reference.fixKey : Reference → Comp Reference
  | .computed b key => do
    if b.isNone then discard (getComputed b key)
    return .named b (← toKey key)
  | r => return r

def Reference.get : Reference → Comp Value
  | .variable n p => readPlace n (notDefined n) p
  | .named b k => getValue b k
  | .computed b key => getComputed b key
  | .hidden b k name => getHidden b k name
  | .ofSuper this home k => getSuper this home k

def Reference.set (v : Value) (strict : Bool) : Reference → Comp Unit
  | .variable n p => writePlace n v strict p
  | .named b k => setValue b k v strict
  | .computed b key => do setValue b (← toKey key) v strict
  | .hidden b k name => setHidden b k name v
  | .ofSuper this home k => do
    match home, this with
    | some home, .object _ =>
      unless ← setFrom home k v this do
        if strict then typeError (← read fun h => refusal h home k)
    | _, _ => setValue this k v strict

/-! ### Literals -/

/-- The items of an array literal; a hole has none. -/
def items (list : List Element) (scope : Scope) : Comp (List (Option Value)) :=
  match list with
  | [] => pure []
  | .hole :: rest => return none :: (← items rest scope)
  | .item e :: rest => do
    let v ← value e scope
    return some v :: (← items rest scope)
  | .spread e :: rest => do
    let vs ← listOf (← value e scope)
    return vs.map some ++ (← items rest scope)

def arrayLiteral (list : List Element) (scope : Scope) : Comp Value := do
  let found ← items list scope
  let front := found.takeWhile Option.isSome
  let made ← newArray (front.filterMap id)
  if front.length < found.length then
    match made with
    | .object r =>
      charge (16 * found.length)
      update fun h => h.modifyObject r fun o =>
        let o := found.zipIdx.foldl (fun o (v, i) => match v with
          | some v => Heap.putItem o i (.plain v)
          | none => o) o
        match o.kind with
        | .array items _ fixed => { o with kind := .array items found.length fixed }
        | _ => o
    | _ => pure ()
  return made

/-- Gives a fresh object a plain property. -/
def putPlain (r : Ref) (k : Key) (v : Value) : Comp Unit := do
  charge 32
  update fun h => h.modifyObject r (·.put k (.plain v))

/-- Copies the enumerable properties of a value to an object, some keys left out. -/
def copyProperties (target : Ref) (source : Value) (excluded : List Key) : Comp Unit := do
  unless source.isNone do
    let r ← toObject source
    forEach (← ownKeys r) fun k => do
      unless excluded.contains k do
        match ← getOwn r k with
        | some p => if p.enumerable then putPlain target k (← getFrom r k (.object r))
        | none => pure ()

/-- Adds a method, getter or setter to an object. -/
def addMethod (r : Ref) (k : Key) (f : Function) (enumerable : Bool) (scope : Scope) :
    Comp Unit := do
  let name ← functionName k
  let define (d : Definition) : Comp Unit := defineOrThrow r k
    { d with enumerable := some enumerable, configurable := some true }
  match f.info.kind with
  | .getter =>
    let g ← makeClosure f scope ("get " ++ name) (some r)
    define { get := some (.object g) }
  | .setter =>
    let g ← makeClosure f scope ("set " ++ name) (some r)
    define { set := some (.object g) }
  | _ =>
    let g ← makeClosure f scope name (some r)
    define { value := some (.object g), writable := some true }

def addMember (r : Ref) (m : Member) (scope : Scope) : Comp Unit := do
  match m with
  | .property key e =>
    let k ← keyOf key scope
    if Grammar.isAnonymous e then putPlain r k (← namedValue e (← functionName k) scope)
    else putPlain r k (← value e scope)
  | .method key f => addMethod r (← keyOf key scope) f true scope
  | .spread e => copyProperties r (← value e scope) []
  | .proto e =>
    match ← value e scope with
    | .object proto => discard (setPrototype r (some proto))
    | .null => discard (setPrototype r none)
    | _ => pure ()

def objectLiteral (members : List Member) (scope : Scope) : Comp Value := do
  let r ← newObject { kind := .ordinary, proto := some Intrinsic.objectPrototype.ref }
  forEach members fun m => addMember r m scope
  return .object r

def templateLiteral (first : Utf16) (rest : List (Expr × Utf16)) (scope : Scope) : Comp Value := do
  let text ← foldList rest first fun (e, piece) text => do
    let part ← toText (← value e scope)
    return text ++ part ++ piece
  fits text.size
  return .string text

/-- The object that a tag function gets for a template. -/
def templateObject (site : Nat) (cooked : List (Option Utf16)) (raw : List Utf16) : Comp Value := do
  match ← read fun h => h.templates.lookup (site, raw) with
  | some r => return .object r
  | none =>
    let freeze (r : Ref) : Comp Unit := update fun h =>
      let (_, h) := h.define r "length" { writable := some false }
      h.modifyObject r fun o =>
        let o := Heap.splitItems o 0
        { o with
          extensible := false
          props := o.props.map fun (k, p) => match p.slot with
            | .data v _ => (k, { p with slot := .data v false, configurable := false })
            | _ => (k, p) }
    let texts ← newArray (raw.map .string)
    let made ← newArray (cooked.map fun s => match s with
      | some s => .string s
      | none => .undefined)
    match made, texts with
    | .object r, .object inner =>
      freeze inner
      discard (change fun h => h.define r "raw" { value := some texts })
      freeze r
      update fun h => { h with templates := ((site, raw), r) :: h.templates }
      return made
    | _, _ => return made

/-! ### Calls -/

/-- The function that a call names, with what it gets as `this`. -/
def calleeOf (callee : Expr) (scope : Scope) : Comp (Value × Value) := do
  match callee with
  | .ident name =>
    match ← place name scope with
    | .property r true => return (← get r name, .object r)
    | p => return (← readPlace name (notDefined name) p, .undefined)
  | .dot object name optional =>
    let b ← baseOf object optional scope
    return (← getValue b name, b)
  | .index object key optional =>
    let b ← baseOf object optional scope
    return (← getComputed b (← value key scope), b)
  | .privateDot object name optional =>
    let b ← baseOf object optional scope
    return (← getHidden b (← hiddenKey name scope) name, b)
  | .superIndex _ =>
    let r ← reference callee scope
    return (← r.get, ← thisValue scope)
  | e => return (← base e scope, .undefined)

/-- A call of `super`: the parent makes the object. -/
def superCall (args : List Element) (scope : Scope) : Comp Value := do
  match Scope.enclosing scope.links with
  | some (callee, newTarget, cell) =>
    let parent ← getPrototype callee
    let vs ← arguments args scope
    match parent with
    | some parent =>
      unless ← read (·.isConstructor (.object parent)) do typeError "parent class must be a constructor"
      let made ← askValue (.construct (.object parent) vs newTarget)
      if (← read (·.cell cell)).isSome then
        raise .referenceError "'this' can be initialized only once"
      setCell cell made
      match made with
      | .object r => startFields callee r
      | _ => pure ()
      return made
    | none => typeError "parent class must be a constructor"
  | none => raise .syntaxError "super() is only valid in a derived class constructor"

/-! ### Assignment -/

def assign (target : Pattern) (e : Expr) (scope : Scope) : Comp Value := do
  match target with
  | .target (.ident name) =>
    match sight name scope.links with
    | .unsure =>
      let p ← place name scope
      let v ← namedValue e name scope
      writePlace name v scope.strict p
      return v
    | _ =>
      let v ← namedValue e name scope
      writeName name v scope
      return v
  | .target t =>
    let r ← reference t scope
    let v ← value e scope
    Reference.set v scope.strict r
    return v
  | p =>
    let v ← value e scope
    discard (ask (.bind p v none scope))
    return v

def compound (op : BinaryOp) (target e : Expr) (scope : Scope) : Comp Value := do
  let r ← (← reference target scope).fixKey
  let old ← r.get
  let v ← binary op old (← value e scope)
  Reference.set v scope.strict r
  return v

/-- Does a logical operator need its second operand? -/
def goesOn (op : LogicalOp) (v : Value) : Bool :=
  match op with
  | .and => truthy v
  | .or => !truthy v
  | .coalesce => v.isNone

def logicalAssign (op : LogicalOp) (target e : Expr) (scope : Scope) : Comp Value := do
  let r ← (← reference target scope).fixKey
  let old ← r.get
  if goesOn op old then
    let v ← match target with
      | .ident name => namedValue e name scope
      | _ => value e scope
    Reference.set v scope.strict r
    return v
  else return old

def updateTarget (before up : Bool) (target : Expr) (scope : Scope) : Comp Value := do
  let r ← (← reference target scope).fixKey
  let old ← toNumeric (← r.get)
  let v := increment up old
  Reference.set v scope.strict r
  return if before then v else old

/-! ### Deleting -/

def deleteProperty (v : Value) (k : Key) (strict : Bool) : Comp Value := do
  let r ← toObject v
  if ← delete r k then return .bool true
  if strict then typeError "could not delete property"
  return .bool false

def deleteTarget (e : Expr) (scope : Scope) : Comp Value := do
  match e with
  | .ident name =>
    match ← place name scope with
    | .variable _ => return .bool false
    | .property r _ => return .bool (← delete r name)
    | .shared =>
      if ← read fun h => h.globalNames.any (·.name == name) then return .bool false
      return .bool (← delete Intrinsic.global.ref name)
  | .dot object name optional => deleteProperty (← baseOf object optional scope) name scope.strict
  | .index object key optional =>
    let b ← baseOf object optional scope
    let k ← value key scope
    if b.isNone then discard (toObject b)
    deleteProperty b (← toKey k) scope.strict
  | .superIndex _ => raise .referenceError "unsupported reference to 'super'"
  | e =>
    discard (base e scope)
    return .bool true

/-! ### Generators -/

/-- Does the code run in an asynchronous function? -/
def inAsync (scope : Scope) : Comp Bool := do
  match Scope.enclosing scope.links with
  | some (callee, _, _) =>
    read fun h => match h.kind callee with
      | .closure c => c.code.info.isAsync
      | _ => false
  | none => return false

/-- What a signal into a generator means for the place where it stood. -/
def takeSignal : Signal → Comp Value
  | .next v => pure v
  | .fail e => throw e
  | .leave v => fault (.leaving v)

/-- Yields a value of an asynchronous generator. A value that it is to return is waited
for. -/
def yieldAsync (v : Value) : Comp Signal := do
  match ← suspend (.yielded v) with
  | .leave v =>
    match ← attemptValue (awaitHere v) with
    | .ok v => return .leave v
    | .error e => return .fail e
  | s => return s

def yieldValue (v : Value) (scope : Scope) : Comp Value := do
  if ← inAsync scope then
    let v ← awaitHere v
    takeSignal (← yieldAsync v)
  else takeSignal (← suspend (.yielded v))

/-- An iterator for asynchronous code. -/
def iterateAsync (v : Value) : Comp Source := do
  match ← getMethod v WellKnown.asyncIterator.key with
  | some f => sourceOf (← call f v [])
  | none =>
    let s ← iterate v
    let r ← newObject {
      kind := .adapter s.iterator s.next, proto := some Intrinsic.adapterPrototype.ref }
    sourceOf (.object r)

def yieldAll (v : Value) (scope : Scope) : Comp Value := do
  let isAsync ← inAsync scope
  let s ← if isAsync then iterateAsync v else iterate v
  askValue (.delegate s.iterator s.next isAsync (.next .undefined))

/-- Passes what a generator receives on to another iterator. -/
def performDelegate (iterator next : Value) (isAsync : Bool) (received : Signal) : Comp Value := do
  let waited (v : Value) : Comp Value := if isAsync then awaitHere v else pure v
  let goOn (answer : Value) : Comp Value := do
    match answer with
    | .object r =>
      if truthy (← get r "done") then get r "value"
      else
        let signal ←
          if isAsync then yieldAsync (← get r "value") else suspend (.passed answer)
        become (.delegate iterator next isAsync signal)
    | _ => typeError "iterator must return an object"
  match received with
  | .next v => goOn (← waited (← call next iterator [v]))
  | .fail e =>
    match ← getMethod iterator "throw" with
    | some f => goOn (← waited (← call f iterator [e]))
    | none =>
      match ← getMethod iterator "return" with
      | some f => discard (waited (← call f iterator []))
      | none => pure ()
      typeError "iterator does not have a throw method"
  | .leave v =>
    match ← getMethod iterator "return" with
    | none => fault (.leaving v)
    | some f =>
      let answer ← waited (← call f iterator [v])
      match answer with
      | .object r =>
        if truthy (← get r "done") then fault (.leaving (← get r "value")) else goOn answer
      | _ => typeError "iterator must return an object"

end Comp

end ScriptHost.Script
