import ScriptHost.Script.Builtin.Function

/-! The built-in functions on arrays and on objects like them. -/

namespace ScriptHost.Script.Comp

/-- The callback of an array method with what it gets as `this`. -/
structure Callback where
  f : Value
  this : Value
  target : Ref

def callbackOf (i : Invocation) (r : Ref) : Comp Callback := do
  unless ← read (·.callable (i.arg 0)) do notFunction
  return ⟨i.arg 0, i.arg 1, r⟩

def Callback.apply (c : Callback) (v : Value) (n : Nat) : Comp Value :=
  call c.f c.this [v, .nat n, .object c.target]

/-- The item at a place, if there is one. -/
def itemAt? (r : Ref) (n : Nat) : Comp (Option Value) := do
  if ← has r (.ofNat n) then return some (← get r (.ofNat n)) else return none

/-- All items of something like an array; gaps are undefined. -/
def itemsLike (r : Ref) : Comp (List Value) := do
  let n ← lengthOf r
  let found ← foldUp n 0 [] fun k found => return (← get r (.ofNat k)) :: found
  return found.reverse

/-- Looks at the items that are there, in order, until a visit says to stop. -/
def visit (r : Ref) (n : Nat) (f : Nat → Value → Comp Bool) : Comp Unit :=
  countUp n 0 fun k => do
    match ← itemAt? r k with
    | some v => f k v
    | none => return true

def setLength (r : Ref) (n : Nat) : Comp Unit := set r "length" (.nat n)

/-- Deletes a property or throws. -/
def deleteOrThrow (r : Ref) (k : Key) : Comp Unit := do
  unless ← delete r k do typeError "could not delete property"

/-- Moves an item, or the gap that it is. -/
def moveItem (r : Ref) (source target : Nat) : Comp Unit := do
  match ← itemAt? r source with
  | some v => set r (.ofNat target) v
  | none => deleteOrThrow r (.ofNat target)

/-- The array that a method of an array makes its result in. -/
def likeArray (r : Ref) (n : Nat) : Comp Ref := do
  let plain : Comp Ref := do
    if UInt32.size ≤ n then rangeError "invalid array length"
    match ← newArray [] with
    | .object made =>
      update fun h => h.modifyObject made fun o => (Heap.cutArray o n).1
      return made
    | _ => return r
  if ← isArray (.object r) then
    let c ← get r "constructor"
    if c == .object Intrinsic.array.ref then plain
    else
      let c ← match c with
        | .object f => do
          let s ← get f WellKnown.species.key
          pure (if s.isNone then .undefined else s)
        | c => pure c
      if c.isUndefined || c == .object Intrinsic.array.ref then plain
      else
        unless ← read (·.isConstructor c) do typeError "not a constructor"
        requireObject (← construct c [.nat n])
  else plain

/-! ### Sorting -/

/-- Merges two sorted lists; of equal items the first list's come first. -/
def mergeSorted (precedes : Value → Value → Comp Bool) : Nat → List Value → List Value → List Value →
    Comp (List Value)
  | 0, a, b, found => return found.reverse ++ a ++ b
  | _, [], b, found => return found.reverse ++ b
  | _, a, [], found => return found.reverse ++ a
  | limit + 1, x :: a, y :: b, found => do
    if ← precedes y x then mergeSorted precedes limit (x :: a) b (y :: found)
    else mergeSorted precedes limit a (y :: b) (x :: found)

def mergePairs (precedes : Value → Value → Comp Bool) : List (List Value) → Comp (List (List Value))
  | a :: b :: rest => do
    let merged ← mergeSorted precedes (a.length + b.length) a b []
    return merged :: (← mergePairs precedes rest)
  | rest => return rest

def mergeAll (precedes : Value → Value → Comp Bool) : Nat → List (List Value) → Comp (List Value)
  | 0, runs => return runs.flatten
  | _, [] => return []
  | _, [run] => return run
  | limit + 1, runs => do mergeAll precedes limit (← mergePairs precedes runs)

/-- Sorts values; undefined ones go last. -/
def sortValues (comparator : Value) (vs : List Value) : Comp (List Value) := do
  let (last, vs) := vs.partition Value.isUndefined
  let precedes (a b : Value) : Comp Bool := do
    if comparator.isUndefined then return (← toText a).less (← toText b)
    let d ← toNumber (← call comparator .undefined [a, b])
    return d.negative && !d.isZero && !d.isNaN
  return (← mergeAll precedes vs.length (vs.map ([·]))) ++ last

def checkComparator (v : Value) : Comp Unit := do
  unless v.isUndefined do
    unless ← read (·.callable v) do notFunction

/-! ### Joining and flattening -/

/-- The texts of the items with a separator. An array that is being joined already is
empty text. -/
def joinItems (r : Ref) (separator : Utf16) (text : Value → Comp Utf16) : Comp Utf16 := do
  let vs ← itemsLike r
  let parts ← mapList vs fun v => if v.isNone then pure Utf16.empty else text v
  let joined := Utf16.intercalate separator parts
  fits joined.size
  return joined

/-- The items of an array with arrays among them replaced by their items, `depth` levels
deep. -/
def flatten : Nat → Ref → Comp (List Value)
  | depth, r => do
    let n ← lengthOf r
    let found ← foldUp n 0 [] fun k found => do
      match ← itemAt? r k with
      | none => return found
      | some v =>
        match depth, v with
        | depth + 1, .object inner =>
          if ← isArray v then return (← flatten depth inner).reverse ++ found
          else return v :: found
        | _, v => return v :: found
    return found.reverse

/-- Does `concat` take the value apart? -/
def isSpreadable (v : Value) : Comp Bool := do
  match v with
  | .object r =>
    let asked ← get r WellKnown.isConcatSpreadable.key
    if asked.isUndefined then isArray v else return truthy asked
  | _ => return false

def concatItems (r : Ref) (args : List Value) : Comp Value := do
  let made ← likeArray r 0
  let total ← foldList (.object r :: args) 0 fun v at_ => do
    match v with
    | .object source =>
      if ← isSpreadable v then
        let n ← lengthOf source
        countUp n 0 fun k => do
          match ← itemAt? source k with
          | some item => addPlain made (.ofNat (at_ + k)) item
          | none => pure ()
          return true
        return at_ + n
      else
        addPlain made (.ofNat at_) v
        return at_ + 1
    | v =>
      addPlain made (.ofNat at_) v
      return at_ + 1
  setLength made total
  return .object made

/-! ### The functions -/

def newIterator (kind : Kind) (proto : Intrinsic) : Comp Value := do
  return .object (← newObject { kind := kind, proto := some proto.ref })

/-- A place counted from the end if it is negative. -/
def placeFrom (v : Value) (n : Nat) : Comp (Option Nat) := do
  match ← toWhole v with
  | .finite k =>
    let k := if k < 0 then k + n else k
    return if 0 ≤ k ∧ k < n then some k.toNat else none
  | .infinite _ => return none

/-- What `Array.of` and `Array.from` make their result with. -/
def arrayFor (constructor : Value) (args : List Value) : Comp Ref := do
  if constructor != .object Intrinsic.array.ref && (← read (·.isConstructor constructor)) then
    requireObject (← construct constructor args)
  else
    match ← newArray [] with
    | .object r => return r
    | _ => return 0

def arrayFrom (i : Invocation) : Comp Value := do
  let source := i.arg 0
  let map := i.arg 1
  unless map.isUndefined do
    unless ← read (·.callable map) do notFunction
  let mapped (n : Nat) (v : Value) : Comp Value :=
    if map.isUndefined then pure v else call map (i.arg 2) [v, .nat n]
  match ← getMethod source WellKnown.iterator.key with
  | some method =>
    let made ← arrayFor i.this []
    let s ← sourceBy source method
    let count ← change fun h => h.newCell (some (.nat 0))
    forItems s fun n v => do
      addPlain made (.ofNat n) (← mapped n v)
      setCell count (.nat (n + 1))
    set made "length" (← read fun h => (h.cell count).getD (.nat 0))
    return .object made
  | none =>
    let r ← toObject source
    let n ← lengthOf r
    let made ← arrayFor i.this [.nat n]
    countUp n 0 fun k => do
      addPlain made (.ofNat k) (← mapped k (← get r (.ofNat k)))
      return true
    setLength made n
    return .object made

def newArrayObject (i : Invocation) : Comp Value := do
  let proto ← if i.isConstruct then prototypeFrom i.newTarget .arrayPrototype
    else pure Intrinsic.arrayPrototype.ref
  let make (items : List Value) (n : Nat) : Comp Value := do
    charge (16 * n)
    return .object (← newObject { kind := .array items.toArray n false, proto := some proto })
  match i.args with
  | [.number d] =>
    match d.toInt? with
    | some n =>
      if 0 ≤ n ∧ n < UInt32.size then make [] n.toNat else rangeError "invalid array length"
    | none => rangeError "invalid array length"
  | args => make args args.length

def reduceItems (r : Ref) (i : Invocation) (fromEnd : Bool) : Comp Value := do
  let n ← lengthOf r
  unless ← read (·.callable (i.arg 0)) do notFunction
  let place (k : Nat) : Nat := if fromEnd then n - 1 - k else k
  let start : Option Value := if 1 < i.args.length then some (i.arg 1) else none
  let result ← foldUp n 0 start fun k state => do
    match ← itemAt? r (place k) with
    | none => return state
    | some v =>
      match state with
      | none => return some v
      | some before =>
        return some (← call (i.arg 0) .undefined [before, v, .nat (place k), .object r])
  match result with
  | some v => return v
  | none => typeError "empty array"

/-- The first item, from the front or the end, that a callback accepts, with its place. -/
def findItem (r : Ref) (c : Callback) (n : Nat) (fromEnd : Bool) : Comp (Option (Nat × Value)) :=
  let place (k : Nat) : Nat := if fromEnd then n - 1 - k else k
  let rec go : Nat → Nat → Comp (Option (Nat × Value))
    | 0, _ => pure none
    | left + 1, k => do
      let v ← get r (.ofNat (place k))
      if truthy (← c.apply v (place k)) then return some (place k, v) else go left (k + 1)
  go n 0

/-- The first place from `start` on where an item passes a test, at most `count` places
on. -/
def searchUp (r : Ref) (test : Value → Bool) (skipsGaps : Bool) : Nat → Nat → Comp (Option Nat)
  | 0, _ => return none
  | count + 1, k => do
    let v ← if skipsGaps then itemAt? r k else do pure (some (← get r (.ofNat k)))
    if v.any test then return some k else searchUp r test skipsGaps count (k + 1)

def searchDown (r : Ref) (test : Value → Bool) : Nat → Comp (Option Nat)
  | 0 => return none
  | k + 1 => do
    if (← itemAt? r k).any test then return some k else searchDown r test k

def spliceItems (r : Ref) (i : Invocation) : Comp Value := do
  let n ← lengthOf r
  let start ← toPosition (i.arg 0) n 0
  let removed ← match i.args with
    | [] => pure 0
    | [_] => pure (n - start)
    | _ => do pure ((← toWhole (i.arg 1)).clamp 0 (n - start)).toNat
  let added := i.args.drop 2
  let made ← likeArray r removed
  countUp removed 0 fun k => do
    match ← itemAt? r (start + k) with
    | some v => addPlain made (.ofNat k) v
    | none => pure ()
    return true
  setLength made removed
  let rest := n - start - removed
  if added.length < removed then
    countUp rest 0 fun k => do
      moveItem r (start + removed + k) (start + added.length + k)
      return true
    countUp (removed - added.length) 0 fun k => do
      deleteOrThrow r (.ofNat (n - 1 - k))
      return true
  else if removed < added.length then
    countUp rest 0 fun k => do
      moveItem r (n - 1 - k) (n - 1 - k + added.length - removed)
      return true
  forEach added.zipIdx fun (v, k) => set r (.ofNat (start + k)) v
  setLength r (n - removed + added.length)
  return .object made

/-- Fills an object like an array with items from the front; places beyond are deleted. -/
def putItems (r : Ref) (vs : List Value) (n : Nat) : Comp Unit := do
  forEach vs.zipIdx fun (v, k) => set r (.ofNat k) v
  countUp (n - vs.length) vs.length fun k => do
    deleteOrThrow r (.ofNat k)
    return true

/-- The items of an object like an array that are there. -/
def presentItems (r : Ref) (n : Nat) : Comp (List Value) := do
  let found ← foldUp n 0 [] fun k found => do
    match ← itemAt? r k with
    | some v => return v :: found
    | none => return found
  return found.reverse

def reverseItems (r : Ref) (n : Nat) : Comp Unit :=
  countUp (n / 2) 0 fun k => do
    let low ← itemAt? r k
    let high ← itemAt? r (n - 1 - k)
    let put (place : Nat) (v : Option Value) : Comp Unit := match v with
      | some v => set r (.ofNat place) v
      | none => deleteOrThrow r (.ofNat place)
    put k high
    put (n - 1 - k) low
    return true

def arrayMethod (f : ArrayFunction) (r : Ref) (i : Invocation) : Comp Value := do
  match f with
  | .at =>
    match ← placeFrom (i.arg 0) (← lengthOf r) with
    | some k => get r (.ofNat k)
    | none => return .undefined
  | .concat => concatItems r i.args
  | .copyWithin =>
    let n ← lengthOf r
    let target ← toPosition (i.arg 0) n 0
    let start ← toPosition (i.arg 1) n 0
    let stop ← toPosition (i.arg 2) n n
    let count := min (stop - start) (n - target)
    countUp count 0 fun k => do
      let k := if start < target then count - 1 - k else k
      moveItem r (start + k) (target + k)
      return true
    return .object r
  | .entries => newIterator (.arrayIterator (some r) 0 .entries) .arrayIteratorPrototype
  | .keys => newIterator (.arrayIterator (some r) 0 .keys) .arrayIteratorPrototype
  | .values => newIterator (.arrayIterator (some r) 0 .values) .arrayIteratorPrototype
  | .every | .some =>
    let n ← lengthOf r
    let c ← callbackOf i r
    let wanted := f == .some
    let found ← change fun h => h.newCell (some (.bool false))
    visit r n fun k v => do
      let hit := truthy (← c.apply v k) == wanted
      if hit then setCell found (.bool true)
      return !hit
    let hit := (← read (·.cell found)) == some (.bool true)
    return .bool (if wanted then hit else !hit)
  | .fill =>
    let n ← lengthOf r
    let start ← toPosition (i.arg 1) n 0
    let stop ← toPosition (i.arg 2) n n
    countUp (stop - start) start fun k => do
      set r (.ofNat k) (i.arg 0)
      return true
    return .object r
  | .filter =>
    let n ← lengthOf r
    let c ← callbackOf i r
    let made ← likeArray r 0
    discard (foldUp n 0 0 fun k count => do
      match ← itemAt? r k with
      | some v =>
        if truthy (← c.apply v k) then
          addPlain made (.ofNat count) v
          return count + 1
        else return count
      | none => return count)
    return .object made
  | .find | .findLast | .findIndex | .findLastIndex =>
    let n ← lengthOf r
    let c ← callbackOf i r
    let found ← findItem r c n (f == .findLast || f == .findLastIndex)
    if f == .find || f == .findLast then
      return Value.ofOption (found.map (·.2))
    return match found with
      | some (k, _) => .nat k
      | none => .int (-1)
  | .flat =>
    let depth ← if (i.arg 0).isUndefined then pure 1 else do
      pure ((← toWhole (i.arg 0)).clamp 0 1000).toNat
    let made ← likeArray r 0
    forEach (← flatten depth r).zipIdx fun (v, k) => addPlain made (.ofNat k) v
    return .object made
  | .flatMap =>
    let n ← lengthOf r
    let c ← callbackOf i r
    let made ← likeArray r 0
    let found ← foldUp n 0 [] fun k found => do
      match ← itemAt? r k with
      | none => return found
      | some v =>
        let v ← c.apply v k
        match v with
        | .object inner =>
          if ← isArray v then return (← flatten 0 inner).reverse ++ found else return v :: found
        | v => return v :: found
    forEach found.reverse.zipIdx fun (v, k) => addPlain made (.ofNat k) v
    return .object made
  | .forEach =>
    let n ← lengthOf r
    let c ← callbackOf i r
    visit r n fun k v => do
      discard (c.apply v k)
      return true
    return .undefined
  | .includes | .indexOf =>
    let n ← lengthOf r
    let start ← toPosition (i.arg 1) n 0
    let test := if f == .includes then sameNumberZero (i.arg 0) else strictEq (i.arg 0)
    let found ← searchUp r test (f == .indexOf) (n - start) start
    if f == .includes then return .bool found.isSome
    return match found with
      | some k => .nat k
      | none => .int (-1)
  | .join =>
    let separator ← if (i.arg 0).isUndefined then pure (Utf16.text ",") else toText (i.arg 0)
    return .string (← joinItems r separator toText)
  | .toLocaleString =>
    return .string (← joinItems r "," fun v => do toText (← invoke v "toLocaleString" []))
  | .lastIndexOf =>
    let n ← lengthOf r
    let stop ← if i.args.length < 2 then pure n else do
      match ← toWhole (i.arg 1) with
      | .finite k => pure ((if k < 0 then k + n else min k (n - 1)) + 1).toNat
      | .infinite negative => pure (if negative then 0 else n)
    return match ← searchDown r (strictEq (i.arg 0)) (min stop n) with
      | some k => .nat k
      | none => .int (-1)
  | .map =>
    let n ← lengthOf r
    let c ← callbackOf i r
    let made ← likeArray r n
    visit r n fun k v => do
      addPlain made (.ofNat k) (← c.apply v k)
      return true
    return .object made
  | .pop =>
    let n ← lengthOf r
    if n = 0 then
      setLength r 0
      return .undefined
    let v ← get r (.ofNat (n - 1))
    deleteOrThrow r (.ofNat (n - 1))
    setLength r (n - 1)
    return v
  | .push =>
    let n ← lengthOf r
    if lengthBound < n + i.args.length then typeError "Array loo long"
    forEach i.args.zipIdx fun (v, k) => set r (.ofNat (n + k)) v
    setLength r (n + i.args.length)
    return .nat (n + i.args.length)
  | .reduce => reduceItems r i false
  | .reduceRight => reduceItems r i true
  | .reverse =>
    reverseItems r (← lengthOf r)
    return .object r
  | .shift =>
    let n ← lengthOf r
    if n = 0 then
      setLength r 0
      return .undefined
    let v ← get r (.index 0)
    countUp (n - 1) 1 fun k => do
      moveItem r k (k - 1)
      return true
    deleteOrThrow r (.ofNat (n - 1))
    setLength r (n - 1)
    return v
  | .unshift =>
    let n ← lengthOf r
    let count := i.args.length
    if 0 < count then
      countUp n 0 fun k => do
        moveItem r (n - 1 - k) (n - 1 - k + count)
        return true
    forEach i.args.zipIdx fun (v, k) => set r (.ofNat k) v
    setLength r (n + count)
    return .nat (n + count)
  | .slice =>
    let n ← lengthOf r
    let start ← toPosition (i.arg 0) n 0
    let stop ← toPosition (i.arg 1) n n
    let made ← likeArray r (stop - start)
    countUp (stop - start) 0 fun k => do
      match ← itemAt? r (start + k) with
      | some v => addPlain made (.ofNat k) v
      | none => pure ()
      return true
    setLength made (stop - start)
    return .object made
  | .sort =>
    checkComparator (i.arg 0)
    let n ← lengthOf r
    putItems r (← sortValues (i.arg 0) (← presentItems r n)) n
    return .object r
  | .splice => spliceItems r i
  | .toReversed => newArray (← itemsLike r).reverse
  | .toSorted =>
    checkComparator (i.arg 0)
    newArray (← sortValues (i.arg 0) (← itemsLike r))
  | .toSpliced =>
    let vs ← itemsLike r
    let n := vs.length
    let start ← toPosition (i.arg 0) n 0
    let removed ← match i.args with
      | [] => pure 0
      | [_] => pure (n - start)
      | _ => do pure ((← toWhole (i.arg 1)).clamp 0 (n - start)).toNat
    newArray (vs.take start ++ i.args.drop 2 ++ vs.drop (start + removed))
  | .with =>
    let vs ← itemsLike r
    match ← placeFrom (i.arg 0) vs.length with
    | some k => newArray (vs.set k (i.arg 1))
    | none => rangeError "invalid array index"
  | .toString =>
    match ← get r "join" with
    | f => if ← read (·.callable f) then call f (.object r) [] else objectText (.object r)
  | _ => return .undefined

def arrayFunction (f : ArrayFunction) (i : Invocation) : Comp Value := do
  match f with
  | .construct => newArrayObject i
  | .isArray => return .bool (← isArray (i.arg 0))
  | .from => arrayFrom i
  | .of =>
    let made ← arrayFor i.this [.nat i.args.length]
    forEach i.args.zipIdx fun (v, k) => addPlain made (.ofNat k) v
    setLength made i.args.length
    return .object made
  | .species => return i.this
  | f => arrayMethod f (← toObject i.this) i

end ScriptHost.Script.Comp
