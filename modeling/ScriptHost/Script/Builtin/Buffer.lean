import ScriptHost.Script.Builtin.Array

/-! The built-in functions on buffers of bytes and on the arrays and views over them. -/

namespace ScriptHost.Script.Comp

/-- Makes a buffer of zero bytes. -/
def newBuffer (size : Nat) (proto : Ref) : Comp Ref := do
  charge size
  newObject { kind := .buffer (Array.replicate size 0), proto := some proto }

/-- Makes a typed array over a buffer. -/
def newTyped (t : ElementType) (proto buffer : Ref) (offset length : Nat) : Comp Ref :=
  newObject { kind := .typed t buffer offset length, proto := some proto }

/-- The type, buffer, offset and length of a typed array. -/
def typedOf (v : Value) : Comp (Ref × ElementType × Ref × Nat × Nat) := do
  match v with
  | .object r =>
    match ← read (·.kind r) with
    | .typed t buffer offset length => return (r, t, buffer, offset, length)
    | _ => typeError "not a TypedArray"
  | _ => typeError "not a TypedArray"

/-- The size of a buffer, if the object is one. -/
def bufferSize? (h : Heap) (r : Ref) : Option Nat :=
  match h.kind r with
  | .buffer bytes => some bytes.size
  | _ => none

def bufferOf (v : Value) : Comp (Ref × Nat) := do
  match v with
  | .object r =>
    match ← read (bufferSize? · r) with
    | some size => return (r, size)
    | none => typeError "not an ArrayBuffer"
  | _ => typeError "not an ArrayBuffer"

/-- Makes a typed array of values in a buffer of its own. -/
def typedOfValues (t : ElementType) (proto : Ref) (vs : List Value) : Comp Ref := do
  let buffer ← newBuffer (vs.length * t.size) Intrinsic.bufferPrototype.ref
  let r ← newTyped t proto buffer 0 vs.length
  forEach vs.zipIdx fun (v, k) => set r (.ofNat k) v
  return r

/-- A typed array of the same type as another, of some values. -/
def typedLike (t : ElementType) (vs : List Value) : Comp Value := do
  return .object (← typedOfValues t (Intrinsic.typedPrototypeOf t).ref vs)

/-- The values of something that can be iterated or is like an array. -/
def valuesOf (v : Value) : Comp (List Value) := do
  match ← getMethod v WellKnown.iterator.key with
  | some method =>
    let s ← sourceBy v method
    let list ← requireObject (← newArray [])
    collect s list
    itemsOf list
  | none => itemsLike (← toObject v)

/-- A typed array or view over part of a buffer: where it begins and how many bytes it
has. -/
def partOf (size step : Nat) (offset length : Value) : Comp (Nat × Nat) := do
  let start ← toIndex offset
  if start % step != 0 || size < start then rangeError "invalid offset"
  if length.isUndefined then
    if (size - start) % step != 0 then rangeError "invalid length"
    return (start, (size - start) / step)
  let n ← toIndex length
  if size < start + n * step then rangeError "invalid length"
  return (start, n)

def newTypedObject (t : ElementType) (i : Invocation) : Comp Value := do
  requireNew i
  let proto ← prototypeFrom i.newTarget (Intrinsic.typedPrototypeOf t)
  match i.arg 0 with
  | .object source =>
    match ← read (bufferSize? · source) with
    | some size =>
      let (start, n) ← partOf size t.size (i.arg 1) (i.arg 2)
      return .object (← newTyped t proto source start n)
    | none => return .object (← typedOfValues t proto (← valuesOf (.object source)))
  | v =>
    let n ← toIndex v
    if Nat.pow 2 31 ≤ n * t.size then rangeError "invalid array buffer length"
    let buffer ← newBuffer (n * t.size) Intrinsic.bufferPrototype.ref
    return .object (← newTyped t proto buffer 0 n)

def newBufferObject (i : Invocation) : Comp Value := do
  requireNew i
  let n ← toIndex (i.arg 0)
  let proto ← prototypeFrom i.newTarget .bufferPrototype
  if Nat.pow 2 31 ≤ n then rangeError "invalid array buffer length"
  return .object (← newBuffer n proto)

/-- Copies bytes of a buffer into a new one. -/
def sliceBuffer (i : Invocation) : Comp Value := do
  let (source, size) ← bufferOf i.this
  let start ← toPosition (i.arg 0) size 0
  let stop ← toPosition (i.arg 1) size size
  let made ← newBuffer (stop - start) Intrinsic.bufferPrototype.ref
  update fun h => match h.kind source with
    | .buffer bytes => h.setKind made (.buffer (bytes.extract start (max start stop)))
    | _ => h
  return .object made

/-! ### Views -/

def viewOf (v : Value) : Comp (Ref × Nat × Nat) := do
  match v with
  | .object r =>
    match ← read (·.kind r) with
    | .view buffer offset length => return (buffer, offset, length)
    | _ => typeError "not a DataView"
  | _ => typeError "not a DataView"

def newViewObject (i : Invocation) : Comp Value := do
  requireNew i
  let (buffer, size) ← bufferOf (i.arg 0)
  let (start, n) ← partOf size 1 (i.arg 1) (i.arg 2)
  return .object (← newFrom i.newTarget .viewPrototype (.view buffer start n))

/-- Reads or writes an element at a byte of a view; the most significant byte comes first
unless the last argument says otherwise. -/
def viewElement (t : ElementType) (i : Invocation) (writes : Bool) : Comp Value := do
  let (buffer, offset, length) ← viewOf i.this
  let place ← toIndex (i.arg 0)
  let v ← if !writes then pure .undefined
    else if t.isBig then pure (.bigInt (← toBigInt (i.arg 1)))
    else pure (.number (← toNumber (i.arg 1)))
  let little := truthy (i.arg (if writes then 2 else 1))
  if length < place + t.size then rangeError "out of bound"
  let order (bytes : List UInt8) : List UInt8 := if little then bytes else bytes.reverse
  let start := offset + place
  if writes then
    update fun h => h.modifyObject buffer fun o => match o.kind with
      | .buffer bytes =>
        let bytes := (order (t.encode v)).zipIdx.foldl
          (fun bytes (b, k) => bytes.setIfInBounds (start + k) b) bytes
        { o with kind := .buffer bytes }
      | _ => o
    return .undefined
  else
    read fun h => match h.kind buffer with
      | .buffer bytes => t.decode (order (bytes.extract start (start + t.size)).toList)
      | _ => .undefined

/-! ### The functions -/

def bufferFunction (f : BufferFunction) (i : Invocation) : Comp Value := do
  match f with
  | .construct => newBufferObject i
  | .isView =>
    match i.arg 0 with
    | .object r =>
      read fun h => match h.kind r with
        | .typed .. | .view .. => .bool true
        | _ => .bool false
    | _ => return .bool false
  | .byteLength => return .nat (← bufferOf i.this).2
  | .slice => sliceBuffer i
  | .species => return i.this
  | .typedBase => typeError "cannot be called"
  | .typed t => newTypedObject t i
  | .typedFrom =>
    let vs ← valuesOf (i.arg 0)
    let map := i.arg 1
    let vs ← if map.isUndefined then pure vs
      else mapList vs.zipIdx fun (v, k) => call map (i.arg 2) [v, .nat k]
    unless ← read (·.isConstructor i.this) do typeError "not a constructor"
    construct i.this [← newArray vs]
  | .typedOf =>
    unless ← read (·.isConstructor i.this) do typeError "not a constructor"
    construct i.this [← newArray i.args]
  | .typedBuffer =>
    let (_, _, buffer, _) ← typedOf i.this
    return .object buffer
  | .typedByteLength =>
    let (_, t, _, _, length) ← typedOf i.this
    return .nat (length * t.size)
  | .typedByteOffset =>
    let (_, _, _, offset, _) ← typedOf i.this
    return .nat offset
  | .typedLength =>
    let (_, _, _, _, length) ← typedOf i.this
    return .nat length
  | .typedTag =>
    match i.this with
    | .object r =>
      read fun h => match h.kind r with
        | .typed t .. => .text t.name
        | _ => .undefined
    | _ => return .undefined
  | .typedSet =>
    let (r, _, _, _, length) ← typedOf i.this
    let start ← toIndex (i.arg 1)
    let vs ← itemsLike (← toObject (i.arg 0))
    if length < start + vs.length then rangeError "invalid array length"
    forEach vs.zipIdx fun (v, k) => set r (.ofNat (start + k)) v
    return .undefined
  | .typedSubarray =>
    let (_, t, buffer, offset, length) ← typedOf i.this
    let start ← toPosition (i.arg 0) length 0
    let stop ← toPosition (i.arg 1) length length
    return .object (← newTyped t (Intrinsic.typedPrototypeOf t).ref buffer
      (offset + start * t.size) (stop - start))
  | .view => newViewObject i
  | .viewGet t => viewElement t i false
  | .viewSet t => viewElement t i true
  | .viewBuffer =>
    let (buffer, _, _) ← viewOf i.this
    return .object buffer
  | .viewByteLength =>
    let (_, _, length) ← viewOf i.this
    return .nat length
  | .viewByteOffset =>
    let (_, offset, _) ← viewOf i.this
    return .nat offset

/-- The values that a typed array holds. -/
def typedValues (r : Ref) (length : Nat) : Comp (List Value) :=
  mapList (List.range length) fun k => get r (.ofNat k)

/-- A method of typed arrays. Those that make arrays make one of the same type; the others
work as on any object like an array. -/
def typedFunction (f : ArrayFunction) (i : Invocation) : Comp Value := do
  let (r, t, _, _, length) ← typedOf i.this
  match f with
  | .map =>
    let c ← callbackOf i r
    let vs ← typedValues r length
    typedLike t (← mapList vs.zipIdx fun (v, k) => c.apply v k)
  | .filter =>
    let c ← callbackOf i r
    let kept ← foldList (← typedValues r length).zipIdx [] fun (v, k) kept => do
      if truthy (← c.apply v k) then return v :: kept else return kept
    typedLike t kept.reverse
  | .slice =>
    let start ← toPosition (i.arg 0) length 0
    let stop ← toPosition (i.arg 1) length length
    typedLike t (((← typedValues r length).drop start).take (stop - start))
  | .sort | .toSorted =>
    checkComparator (i.arg 0)
    let vs ← typedValues r length
    let precedes (a b : Value) : Comp Bool := do
      if (i.arg 0).isUndefined then
        match a, b with
        | .number a, .number b => return a.toFloat < b.toFloat
        | .bigInt a, .bigInt b => return a < b
        | _, _ => return false
      else
        let d ← toNumber (← call (i.arg 0) .undefined [a, b])
        return d.negative && !d.isZero && !d.isNaN
    let sorted ← mergeAll precedes vs.length (vs.map ([·]))
    if f == .toSorted then typedLike t sorted
    else
      forEach sorted.zipIdx fun (v, k) => set r (.ofNat k) v
      return .object r
  | .toReversed => typedLike t (← typedValues r length).reverse
  | .with =>
    match ← placeFrom (i.arg 0) length with
    | some k => typedLike t ((← typedValues r length).set k (i.arg 1))
    | none => rangeError "invalid array index"
  | f => arrayMethod f r i

end ScriptHost.Script.Comp
