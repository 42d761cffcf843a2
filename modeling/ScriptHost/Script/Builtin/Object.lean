import ScriptHost.Script.Evaluate.Program

/-! The built-in functions on objects of all kinds: `Object`, `Reflect` and `Proxy`. -/

namespace ScriptHost.Script.Comp

def requireObject (v : Value) : Comp Ref :=
  match v with
  | .object r => pure r
  | _ => typeError "not an object"

/-- Constructors that make no sense without `new` refuse plain calls. -/
def requireNew (i : Invocation) : Comp Unit := do
  unless i.isConstruct do typeError "must be called with new"

def protoValue : Option Ref → Value
  | some r => .object r
  | none => .null

/-- The prototype that an argument asks for. -/
def protoOf (v : Value) : Comp (Option Ref) :=
  match v with
  | .object r => pure (some r)
  | .null => pure none
  | _ => typeError "not a prototype"

/-- The own keys that have text, with their properties. -/
def textProperties (r : Ref) : Comp (List (Key × Property)) := do
  let found ← foldList ((← ownKeys r).filter Key.isText) [] fun k found => do
    match ← getOwn r k with
    | some p => return (k, p) :: found
    | none => return found
  return found.reverse

def enumerableKeys (r : Ref) : Comp (List Key) := do
  return ((← textProperties r).filter (·.2.enumerable)).map (·.1)

def defineAll (r : Ref) (descriptions : Value) : Comp Unit := do
  let source ← toObject descriptions
  let wanted ← foldList (← ownKeys source) [] fun k found => do
    match ← getOwn source k with
    | some p =>
      if p.enumerable then return (k, ← definitionOf (← get source k)) :: found else return found
    | none => return found
  forEach wanted.reverse fun (k, d) => defineOrThrow r k d

/-- Makes the properties of an object unchangeable, its values as well if it is frozen. -/
def restrict (r : Ref) (freezes : Bool) : Comp Unit := do
  unless ← preventExtensions r do typeError "proxy preventExtensions handler returned false"
  forEach (← ownKeys r) fun k => do
    match ← getOwn r k with
    | some p =>
      match p.slot with
      | .data .. =>
        if freezes then defineOrThrow r k { configurable := some false, writable := some false }
        else defineOrThrow r k { configurable := some false }
      | .accessor .. => defineOrThrow r k { configurable := some false }
    | none => pure ()

def isRestricted (r : Ref) (freezes : Bool) : Comp Bool := do
  if ← isExtensible r then return false
  foldList (← ownKeys r) true fun k fixed => do
    match ← getOwn r k with
    | some p =>
      let writable := match p.slot with
        | .data _ writable => writable
        | .accessor .. => false
      return fixed && !p.configurable && !(freezes && writable)
    | none => return fixed

/-- The word for a kind of object in its text. -/
def kindWord (h : Heap) (r : Ref) : String :=
  match h.kind r with
  | .array .. => "Array"
  | .closure _ | .native .. | .bound .. => "Function"
  | .proxy _ _ callable _ => if callable then "Function" else "Object"
  | .error => "Error"
  | .boolean _ => "Boolean"
  | .number _ => "Number"
  | .string _ => "String"
  | .date _ => "Date"
  | .pattern .. => "RegExp"
  | .arguments _ => "Arguments"
  | _ => "Object"

def objectText (v : Value) : Comp Value := do
  match v with
  | .undefined => return .text "[object Undefined]"
  | .null => return .text "[object Null]"
  | v =>
    let r ← toObject v
    let word ← if ← isArray (.object r) then pure "Array" else read fun h => kindWord h r
    match ← get r WellKnown.toStringTag.key with
    | .string tag => return .string ("[object " ++ tag ++ "]")
    | _ => return .text ("[object " ++ word ++ "]")

/-- Sets the prototype of an object or throws. -/
def changePrototype (r : Ref) (proto : Option Ref) : Comp Unit := do
  unless ← setPrototype r proto do
    if ← isExtensible r then typeError "circular prototype chain"
    else typeError "object is not extensible"

/-- Looks for an accessor along the prototypes. -/
def findAccessor (k : Key) (getter : Bool) : Nat → Ref → Comp Value
  | 0, _ => return .undefined
  | limit + 1, r => do
    match ← getOwn r k with
    | some p =>
      match p.slot with
      | .accessor get set => return if getter then get else set
      | .data .. => return .undefined
    | none =>
      match ← getPrototype r with
      | some proto => findAccessor k getter limit proto
      | none => return .undefined

/-- Groups of items by the keys that a function gives them, in order of appearance. -/
def groupItems (items f : Value) (toGroup : Value → Comp Value) : Comp (List (Value × List Value)) := do
  unless ← read (·.callable f) do typeError "not a function"
  let list ← listOf items
  let groups ← foldList list.zipIdx [] fun (v, n) groups => do
    let k ← toGroup (← call f .undefined [v, .nat n])
    if groups.any fun g => sameNumberZero g.1 k then
      return groups.map fun g => if sameNumberZero g.1 k then (g.1, v :: g.2) else g
    else return groups ++ [(k, [v])]
  return groups.map fun g => (g.1, g.2.reverse)

def objectFunction (f : ObjectFunction) (i : Invocation) : Comp Value := do
  let first := i.arg 0
  match f with
  | .construct =>
    if i.isConstruct && i.newTarget != i.callee then
      return .object (← newFrom i.newTarget .objectPrototype .ordinary)
    if first.isNone then newPlain [] else return .object (← toObject first)
  | .assign =>
    let r ← toObject first
    forEach i.args.tail fun source => do
      unless source.isNone do
        let from_ ← toObject source
        forEach (← ownKeys from_) fun k => do
          match ← getOwn from_ k with
          | some p => if p.enumerable then set r k (← get from_ k)
          | none => pure ()
    return .object r
  | .create =>
    let proto ← protoOf first
    let r ← newObject { kind := .ordinary, proto := proto }
    unless (i.arg 1).isUndefined do defineAll r (i.arg 1)
    return .object r
  | .defineProperties =>
    let r ← requireObject first
    defineAll r (i.arg 1)
    return first
  | .defineProperty =>
    let r ← requireObject first
    let k ← toKey (i.arg 1)
    defineOrThrow r k (← definitionOf (i.arg 2))
    return first
  | .entries =>
    let r ← toObject first
    newArray (← mapList (← enumerableKeys r) fun k => do newArray [k.toValue, ← get r k])
  | .values =>
    let r ← toObject first
    newArray (← mapList (← enumerableKeys r) (get r))
  | .keys => newArray ((← enumerableKeys (← toObject first)).map Key.toValue)
  | .freeze | .seal =>
    match first with
    | .object r =>
      restrict r (f == .freeze)
      return first
    | v => return v
  | .preventExtensions =>
    match first with
    | .object r =>
      unless ← preventExtensions r do typeError "proxy preventExtensions handler returned false"
      return first
    | v => return v
  | .fromEntries =>
    match ← newPlain [] with
    | .object r =>
      forItems (← iterate first) fun _ entry => do
        let e ← requireObject entry
        let k ← get e (.index 0)
        let v ← get e (.index 1)
        putPlain r (← toKey k) v
      return .object r
    | v => return v
  | .getOwnPropertyDescriptor =>
    let r ← toObject first
    match ← getOwn r (← toKey (i.arg 1)) with
    | some p => describe p
    | none => return .undefined
  | .getOwnPropertyDescriptors =>
    let r ← toObject first
    match ← newPlain [] with
    | .object made =>
      forEach (← ownKeys r) fun k => do
        match ← getOwn r k with
        | some p => putPlain made k (← describe p)
        | none => pure ()
      return .object made
    | v => return v
  | .getOwnPropertyNames =>
    let r ← toObject first
    newArray (((← ownKeys r).filter Key.isText).map Key.toValue)
  | .getOwnPropertySymbols =>
    let r ← toObject first
    newArray (((← ownKeys r).filter (!·.isText)).map Key.toValue)
  | .getPrototypeOf => return protoValue (← getPrototype (← toObject first))
  | .groupBy =>
    let groups ← groupItems first (i.arg 1) fun v => return (← toKey v).toValue
    match ← newPlain [] with
    | .object r =>
      update fun h => h.modifyObject r fun o => { o with proto := none }
      forEach groups fun (k, vs) => do putPlain r (← toKey k) (← newArray vs)
      return .object r
    | v => return v
  | .hasOwn =>
    let r ← toObject first
    return .bool (← getOwn r (← toKey (i.arg 1))).isSome
  | .is => return .bool (sameValue first (i.arg 1))
  | .isExtensible =>
    match first with
    | .object r => return .bool (← isExtensible r)
    | _ => return .bool false
  | .isFrozen | .isSealed =>
    match first with
    | .object r => return .bool (← isRestricted r (f == .isFrozen))
    | _ => return .bool true
  | .setPrototypeOf =>
    if first.isNone then typeError "not an object"
    let proto ← protoOf (i.arg 1)
    match first with
    | .object r => changePrototype r proto
    | _ => pure ()
    return first
  | .hasOwnProperty =>
    let k ← toKey first
    return .bool (← getOwn (← toObject i.this) k).isSome
  | .isPrototypeOf =>
    match first with
    | .object r =>
      let wanted ← toObject i.this
      return .bool (← hasPrototype wanted (← read (·.objects.size + 1)) r)
    | _ => return .bool false
  | .propertyIsEnumerable =>
    let k ← toKey first
    return .bool ((← getOwn (← toObject i.this) k).any (·.enumerable))
  | .toLocaleString => invoke i.this "toString" []
  | .toString => objectText i.this
  | .valueOf => return .object (← toObject i.this)
  | .protoGetter => return protoValue (← getPrototype (← toObject i.this))
  | .protoSetter =>
    if i.this.isNone then typeError "not an object"
    match i.this, first with
    | .object r, .object proto => changePrototype r (some proto)
    | .object r, .null => changePrototype r none
    | _, _ => pure ()
    return .undefined
  | .defineGetter | .defineSetter =>
    let r ← toObject i.this
    unless ← read (·.callable (i.arg 1)) do typeError "not a function"
    let k ← toKey first
    let d : Definition := { enumerable := some true, configurable := some true }
    if f == .defineGetter then defineOrThrow r k { d with get := some (i.arg 1) }
    else defineOrThrow r k { d with set := some (i.arg 1) }
    return .undefined
  | .lookupGetter | .lookupSetter =>
    let r ← toObject i.this
    findAccessor (← toKey first) (f == .lookupGetter) (← read (·.objects.size + 1)) r

/-- The arguments that an object like an array holds. -/
def argumentList (v : Value) : Comp (List Value) := do
  match v with
  | .object r =>
    let n ← lengthOf r
    if 65535 < n then rangeError "too many arguments in function call (only 65535 allowed)"
    mapList (List.range n) fun k => get r (.ofNat k)
  | _ => typeError "not a object"

def reflectFunction (f : ReflectFunction) (i : Invocation) : Comp Value := do
  match f with
  | .apply =>
    unless ← read (·.callable (i.arg 0)) do notFunction
    call (i.arg 0) (i.arg 1) (← argumentList (i.arg 2))
  | .construct =>
    let newTarget ← if 2 < i.args.length then do
        unless ← read (·.isConstructor (i.arg 2)) do typeError "not a constructor"
        pure (i.arg 2)
      else pure (i.arg 0)
    askValue (.construct (i.arg 0) (← argumentList (i.arg 1)) newTarget)
  | f =>
    let r ← requireObject (i.arg 0)
    match f with
    | .defineProperty =>
      let k ← toKey (i.arg 1)
      return .bool (← define r k (← definitionOf (i.arg 2)))
    | .deleteProperty => return .bool (← delete r (← toKey (i.arg 1)))
    | .get =>
      let receiver := if 2 < i.args.length then i.arg 2 else i.arg 0
      getFrom r (← toKey (i.arg 1)) receiver
    | .getOwnPropertyDescriptor =>
      match ← getOwn r (← toKey (i.arg 1)) with
      | some p => describe p
      | none => return .undefined
    | .getPrototypeOf => return protoValue (← getPrototype r)
    | .has => return .bool (← has r (← toKey (i.arg 1)))
    | .isExtensible => return .bool (← isExtensible r)
    | .ownKeys => newArray ((← ownKeys r).map Key.toValue)
    | .preventExtensions => return .bool (← preventExtensions r)
    | .set =>
      let receiver := if 3 < i.args.length then i.arg 3 else i.arg 0
      return .bool (← setFrom r (← toKey (i.arg 1)) (i.arg 2) receiver)
    | .setPrototypeOf => return .bool (← setPrototype r (← protoOf (i.arg 1)))
    | _ => return .undefined

/-- A proxy of an object with a handler. -/
def newProxy (i : Invocation) : Comp Ref := do
  let target ← requireObject (i.arg 0)
  let handler ← requireObject (i.arg 1)
  let (callable, constructs) ← read fun h => (h.isCallable target, h.isConstructor (.object target))
  newObject { kind := .proxy target (some handler) callable constructs, proto := none }

def revocableProxy (i : Invocation) : Comp Value := do
  let proxy ← newProxy i
  let c ← change fun h => h.newCell (some (.object proxy))
  newRecord [("proxy", .object proxy), ("revoke", ← makeNative (.revoke c) 0 "")]

def revokeProxy (c : Cell) : Comp Value := do
  match ← read (·.cell c) with
  | some (.object r) =>
    setCell c .null
    update fun h => match h.kind r with
      | .proxy target _ callable constructs => h.setKind r (.proxy target none callable constructs)
      | _ => h
    return .undefined
  | _ => return .undefined

end ScriptHost.Script.Comp
