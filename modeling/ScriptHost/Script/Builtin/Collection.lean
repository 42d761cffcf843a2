import ScriptHost.Script.Builtin.Json

/-! Maps, sets and their weak kin. -/

namespace ScriptHost.Script.Comp

/-- The name of the collections of a kind. -/
def collectionWord : Kind → Option String
  | .map _ => some "Map"
  | .set _ => some "Set"
  | .weakMap _ => some "WeakMap"
  | .weakSet _ => some "WeakSet"
  | _ => none

def withEntries (kind : Kind) (entries : Array (Option (Value × Value))) : Kind :=
  match kind with
  | .map _ => .map entries
  | .set _ => .set entries
  | .weakMap _ => .weakMap entries
  | .weakSet _ => .weakSet entries
  | kind => kind

/-- The collection that a method works on, which has to be of one of the kinds. -/
def collectionOf (v : Value) (words : List String) : Comp Ref := do
  let fail : Comp Ref := typeError (words.headD "Map" ++ " object expected")
  match v with
  | .object r =>
    match ← read fun h => collectionWord (h.kind r) with
    | some word => if words.contains word then return r else fail
    | none => fail
  | _ => fail

def entryPlace (h : Heap) (r : Ref) (k : Value) : Option Nat :=
  (entriesOf (h.kind r)).findIdx? fun e => match e with
    | some (k', _) => sameNumberZero k k'
    | none => false

/-- Negative zero is kept as zero. -/
def normalKey (v : Value) : Value :=
  match v with
  | .number d => if d.isZero then .nat 0 else v
  | v => v

def putEntry (r : Ref) (k v : Value) : Comp Unit := do
  charge 48
  update fun h =>
    let k := normalKey k
    match entryPlace h r k with
    | some n => h.modifyObject r fun o =>
      { o with kind := withEntries o.kind ((entriesOf o.kind).setIfInBounds n (some (k, v))) }
    | none => h.modifyObject r fun o =>
      { o with kind := withEntries o.kind ((entriesOf o.kind).push (some (k, v))) }

/-- Weak collections hold objects and symbols that are not shared. -/
def canBeHeldWeakly (h : Heap) (v : Value) : Bool :=
  match v with
  | .object _ => true
  | .symbol id => (h.symbol id).registered.isNone
  | _ => false

def requireWeak (v : Value) (message : String) : Comp Unit := do
  unless ← read fun h => canBeHeldWeakly h v do typeError message

/-- Makes a collection and fills it by its own method. -/
def newCollection (i : Invocation) (proto : Intrinsic) (kind : Kind) (adder : String) :
    Comp Value := do
  requireNew i
  let r ← newFrom i.newTarget proto kind
  unless (i.arg 0).isNone do
    let add ← get r adder
    unless ← read (·.callable add) do notFunction
    forItems (← iterate (i.arg 0)) fun _ item => do
      if adder == "set" then
        let e ← requireObject item
        let k ← get e (.index 0)
        discard (call add (.object r) [k, ← get e (.index 1)])
      else discard (call add (.object r) [item])
  return .object r

/-- Looks at the entries of a collection in order, those that are added meanwhile as
well. -/
def visitEntries (r : Ref) (f : Value → Value → Comp Unit) : Comp Unit := do
  let place ← change fun h => h.newCell (some (.nat 0))
  discard (ask (.again 0 fun _ => (show Comp Result from do
    let start ← read fun h => match h.cell place with
      | some (.number d) => (d.toInt?.getD 0).toNat
      | _ => 0
    match ← read fun h =>
      let entries := entriesOf (h.kind r)
      nextEntry entries entries.size start with
    | some (n, k, v) =>
      setCell place (.nat (n + 1))
      f k v
      return .value .undefined
    | none => return .broke none) .done))

def collectionFunction (f : CollectionFunction) (i : Invocation) : Comp Value := do
  let all := ["Map", "Set", "WeakMap", "WeakSet"]
  match f with
  | .map => newCollection i .mapPrototype (.map #[]) "set"
  | .set => newCollection i .setPrototype (.set #[]) "add"
  | .weakMap => newCollection i .weakMapPrototype (.weakMap #[]) "set"
  | .weakSet => newCollection i .weakSetPrototype (.weakSet #[]) "add"
  | .get =>
    let r ← collectionOf i.this ["Map", "WeakMap"]
    read fun h => match entryPlace h r (i.arg 0) with
      | some n => match (entriesOf (h.kind r))[n]? with
        | some (some (_, v)) => v
        | _ => .undefined
      | none => .undefined
  | .put =>
    let r ← collectionOf i.this ["Map", "WeakMap"]
    if (← read fun h => collectionWord (h.kind r)) == some "WeakMap" then
      requireWeak (i.arg 0) "invalid value used as WeakMap key"
    putEntry r (i.arg 0) (i.arg 1)
    return i.this
  | .add =>
    let r ← collectionOf i.this ["Set", "WeakSet"]
    if (← read fun h => collectionWord (h.kind r)) == some "WeakSet" then
      requireWeak (i.arg 0) "invalid value used in WeakSet"
    putEntry r (i.arg 0) (normalKey (i.arg 0))
    return i.this
  | .has =>
    let r ← collectionOf i.this all
    return .bool (← read fun h => (entryPlace h r (i.arg 0)).isSome)
  | .delete =>
    let r ← collectionOf i.this all
    change fun h => match entryPlace h r (i.arg 0) with
      | some n => (.bool true, h.modifyObject r fun o =>
          { o with kind := withEntries o.kind ((entriesOf o.kind).setIfInBounds n none) })
      | none => (.bool false, h)
  | .clear =>
    let r ← collectionOf i.this all
    update fun h => h.modifyObject r fun o =>
      { o with kind := withEntries o.kind ((entriesOf o.kind).map fun _ => none) }
    return .undefined
  | .size =>
    let r ← collectionOf i.this ["Map", "Set"]
    return .nat (← read fun h => (entriesOf (h.kind r)).foldl (fun n e => if e.isSome then n + 1 else n) 0)
  | .forEach =>
    let r ← collectionOf i.this ["Map", "Set"]
    unless ← read (·.callable (i.arg 0)) do notFunction
    visitEntries r fun k v => discard (call (i.arg 0) (i.arg 1) [v, k, i.this])
    return .undefined
  | .entries | .keys | .values =>
    let r ← collectionOf i.this ["Map", "Set"]
    let kind : IterationKind :=
      if f == .entries then .entries else if f == .keys then .keys else .values
    let proto : Intrinsic :=
      if (← read fun h => collectionWord (h.kind r)) == some "Map" then .mapIteratorPrototype
      else .setIteratorPrototype
    newIterator (.collectionIterator (some r) 0 kind) proto
  | .groupBy =>
    let groups ← groupItems (i.arg 0) (i.arg 1) fun v => return normalKey v
    let made ← construct (.object (← requireObject i.this)) []
    match made with
    | .object r =>
      forEach groups fun (k, vs) => do putEntry r k (← newArray vs)
      return made
    | v => return v
  | .species => return i.this
  | .weakRef =>
    requireNew i
    requireWeak (i.arg 0) "invalid target"
    return .object (← newFrom i.newTarget .weakRefPrototype (.weakRef (i.arg 0)))
  | .deref =>
    match i.this with
    | .object r =>
      match ← read (·.kind r) with
      | .weakRef target => return target
      | _ => typeError "not a WeakRef"
    | _ => typeError "not a WeakRef"
  | .finalizationRegistry =>
    requireNew i
    unless ← read (·.callable (i.arg 0)) do typeError "argument must be a function"
    return .object (← newFrom i.newTarget .registryPrototype .registry)
  | .register => return .undefined
  | .unregister => return .bool false

end ScriptHost.Script.Comp
