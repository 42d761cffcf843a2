import ScriptHost.Script.Property

/-! Access to properties as scripts do it: getters, setters and proxies are asked, so each
access is a computation. The common cases are settled in one look at the heap. -/

namespace ScriptHost.Script

/-- The name of a key in messages. -/
def Heap.keyName (h : Heap) (k : Key) : String :=
  match k with
  | .index n => toString n
  | .name s => s.display
  | .symbol id | .hidden id => ((h.symbol id).description.getD {}).display

namespace Comp

def call (f this : Value) (args : List Value) : Comp Value := askValue (.call f this args)

def construct (f : Value) (args : List Value) : Comp Value := askValue (.construct f args f)

/-! ### Getting -/

/-- What a property gives to a receiver. -/
def takeProperty (p : Property) (receiver : Value) : Comp Value :=
  match p.slot with
  | .data v _ => pure v
  | .accessor get _ => if get.isUndefined then pure .undefined else call get receiver []

/-- Is the key a name that the module of a namespace has not set yet? -/
def unsetName (h : Heap) (r : Ref) (k : Key) : Bool :=
  match h.kind r with
  | .namespace index =>
    match k.text? with
    | some (.text name) =>
      match h.resolve index name with
      | .binding c => (h.cell c).isNone
      | _ => false
    | _ => false
  | _ => false

def getFrom (r : Ref) (k : Key) (receiver : Value) : Comp Value := do
  match ← read fun h => if unsetName h r k then .elsewhere r else h.lookup r k with
  | .property p => takeProperty p receiver
  | .missing => pure .undefined
  | .elsewhere r => askValue (.get r k receiver)

def get (r : Ref) (k : Key) : Comp Value := getFrom r k (.object r)

/-- The prototype of values that are no objects. -/
def prototypeOf : Value → Option Intrinsic
  | .bool _ => some .booleanPrototype
  | .number _ => some .numberPrototype
  | .bigInt _ => some .bigIntPrototype
  | .string _ => some .stringPrototype
  | .symbol _ => some .symbolPrototype
  | _ => none

/-- A property of a value that may be no object. -/
def getValue (v : Value) (k : Key) : Comp Value := do
  match v with
  | .object r => getFrom r k v
  | .undefined | .null =>
    let name ← read (·.keyName k)
    typeError ("cannot read property '" ++ name ++ "' of "
      ++ (if v == .null then "null" else "undefined"))
  | .string s =>
    let own : Option Value := match k with
      | .index n => (s.unitAt? n).map fun u => .string (.ofUnit u)
      | .name (.text "length") => some (.nat s.length)
      | _ => none
    match own with
    | some v => pure v
    | none => getFrom Intrinsic.stringPrototype.ref k v
  | v =>
    match prototypeOf v with
    | some proto => getFrom proto.ref k v
    | none => pure .undefined

/-- A method; `undefined` and `null` stand for none. -/
def getMethod (v : Value) (k : Key) : Comp (Option Value) := do
  let f ← getValue v k
  if f.isNone then return none
  if ← read (·.callable f) then return some f
  typeError "not a function"

def invoke (v : Value) (k : Key) (args : List Value) : Comp Value := do
  call (← getValue v k) v args

/-! ### Own properties -/

def getOwn (r : Ref) (k : Key) : Comp (Option Property) := do
  match ← read fun h => if h.isProxy r || unsetName h r k then none else some (h.ownProperty r k) with
  | some p => pure p
  | none => askProperty (.getOwn r k)

def define (r : Ref) (k : Key) (d : Definition) : Comp Bool := do
  let simple ← read fun h =>
    match h.kind r, k with
    | .proxy .., _ => false
    | .typed .., .index _ => false
    | .array .., .name (.text "length") => false
    | _, _ => true
  if simple then
    charge 32
    change fun h => h.define r k d
  else askFlag (.define r k d)

/-- Defines a property or throws. -/
def defineOrThrow (r : Ref) (k : Key) (d : Definition) : Comp Unit := do
  unless ← define r k d do
    let extensible ← read fun h => (h.object r).extensible || (h.ownProperty r k).isSome
    if extensible then typeError "property is not configurable"
    else typeError "object is not extensible"

/-- Gives an object a plain property, or throws. -/
def addPlain (r : Ref) (k : Key) (v : Value) : Comp Unit :=
  defineOrThrow r k (.ofProperty (.plain v))

def isExtensible (r : Ref) : Comp Bool := do
  match ← read fun h => if h.isProxy r then none else some (h.object r).extensible with
  | some b => pure b
  | none => askFlag (.isExtensible r)

def preventExtensions (r : Ref) : Comp Bool := do
  if ← read (·.isProxy r) then askFlag (.preventExtensions r)
  else
    update fun h => h.modifyObject r fun o => { o with extensible := false }
    return true

def getPrototype (r : Ref) : Comp (Option Ref) := do
  match ← read fun h => if h.isProxy r then none else some (h.proto r) with
  | some proto => pure proto
  | none => return (← askValue (.getPrototype r)).ref?

def setPrototype (r : Ref) (proto : Option Ref) : Comp Bool := do
  if ← read (·.isProxy r) then askFlag (.setPrototype r proto)
  else change fun h => h.setProto r proto

def ownKeys (r : Ref) : Comp (List Key) := do
  match ← read fun h => if h.isProxy r then none else some (h.ownKeys r) with
  | some ks => pure ks
  | none => askKeys (.ownKeys r)

def has (r : Ref) (k : Key) : Comp Bool := do
  match ← read (·.lookup r k) with
  | .property _ => pure true
  | .missing => pure false
  | .elsewhere r => askFlag (.has r k)

/-- Deletes a property. Says whether it is gone. -/
def delete (r : Ref) (k : Key) : Comp Bool := do
  if ← read (·.isProxy r) then askFlag (.delete r k)
  else change fun h => h.deleteOwn r k

/-! ### Setting -/

/-- What setting a property of an object comes to if nothing but the heap is asked. -/
inductive SetPlan where
  | write
  | add
  | setter (f : Value)
  | refused
  /-- The general rule has to be followed. -/
  | general
deriving Inhabited

/-- Does the object take new properties in the ordinary way? -/
def takesPlain (h : Heap) (r : Ref) (k : Key) : Bool :=
  match h.kind r, k with
  | .proxy .., _ | .typed .., _ | .namespace _, _ => false
  | .string s, .index n => s.length ≤ n
  | .array _ length fixed, .index n => n < length || !fixed
  | _, _ => true

def setPlan (h : Heap) (r : Ref) (k : Key) : SetPlan :=
  match h.kind r, k with
  | .array .., .name (.text "length") | .proxy .., _ | .typed .., _ | .namespace _, _ => .general
  | _, _ =>
    match h.lookup r k with
    | .elsewhere _ => .general
    | .missing => if takesPlain h r k then (if (h.object r).extensible then .add else .refused) else .general
    | .property p =>
      match p.slot with
      | .accessor _ set => if set.isUndefined then .refused else .setter set
      | .data _ writable =>
        if !writable then .refused
        else if (h.ownProperty r k).isSome then .write
        else if takesPlain h r k then (if (h.object r).extensible then .add else .refused)
        else .general

/-- Sets a property. Says whether it could be done. -/
def setFrom (r : Ref) (k : Key) (v receiver : Value) : Comp Bool := do
  if receiver == .object r then
    match ← read fun h => setPlan h r k with
    | .write =>
      update fun h => h.writeOwn r k v
      return true
    | .add =>
      charge 32
      update fun h => h.addOwn r k v
      return true
    | .setter f =>
      discard (call f receiver [v])
      return true
    | .refused => return false
    | .general => askFlag (.set r k v receiver)
  else askFlag (.set r k v receiver)

/-- Why a property cannot be set. -/
def refusal (h : Heap) (r : Ref) (k : Key) : String :=
  match h.lookup r k with
  | .property p =>
    match p.slot with
    | .accessor .. => "no setter for property"
    | .data _ writable =>
      if writable then "object is not extensible" else "'" ++ h.keyName k ++ "' is read-only"
  | .missing => "object is not extensible"
  | .elsewhere _ => "proxy: cannot set property"

/-- Sets a property of an object or throws. -/
def set (r : Ref) (k : Key) (v : Value) : Comp Unit := do
  unless ← setFrom r k v (.object r) do typeError (← read fun h => refusal h r k)

/-- Sets a property of a value as strict or sloppy code does. -/
def setValue (target : Value) (k : Key) (v : Value) (strict : Bool) : Comp Unit := do
  match target with
  | .object r =>
    unless ← setFrom r k v target do
      if strict then typeError (← read fun h => refusal h r k)
  | .undefined | .null =>
    let name ← read (·.keyName k)
    typeError ("cannot set property '" ++ name ++ "' of "
      ++ (if target == .null then "null" else "undefined"))
  | target =>
    match prototypeOf target with
    | some proto =>
      unless ← askFlag (.set proto.ref k v target) do
        if strict then typeError "not an object"
    | none => pure ()

/-! ### The general rules -/

/-- The rule for setting a property, from the object where the search begins. -/
def ordinarySet (r : Ref) (k : Key) (v receiver : Value) : Comp Bool := do
  match ← read (·.lookup r k) with
  | .elsewhere other =>
    if other == r then return false
    askFlag (.set other k v receiver)
  | found =>
    let slot : Slot := match found with
      | .property p => p.slot
      | _ => .data .undefined true
    match slot with
    | .accessor _ f =>
      if f.isUndefined then return false
      discard (call f receiver [v])
      return true
    | .data _ writable =>
      if !writable then return false
      match receiver with
      | .object target =>
        match ← getOwn target k with
        | some old =>
          match old.slot with
          | .accessor .. => return false
          | .data _ writable =>
            if !writable then return false
            define target k { value := some v }
        | none => define target k (.ofProperty (.plain v))
      | _ => return false

/-! ### Proxies -/

/-- The target of a proxy, its handler and the trap of a name if it has one. -/
def trap (r : Ref) (name : String) : Comp (Ref × Value × Option Value) := do
  match ← read (·.kind r) with
  | .proxy target (some handler) _ _ =>
    let f ← getMethod (.object handler) name
    return (target, .object handler, f)
  | _ => typeError "revoked proxy"

def keyValue (k : Key) : Value := k.toValue

/-- What is asked of a trap's answer. -/
def truthy : Value → Bool
  | .undefined | .null => false
  | .bool b => b
  | .number d => !(d.isNaN || d.isZero)
  | .bigInt i => i != 0
  | .string s => !s.isEmpty
  | .symbol _ | .object _ => true

def inconsistent {α : Type} (what : String) : Comp α := typeError ("proxy: inconsistent " ++ what)

/-- The object that describes a property. -/
def describe (p : Property) : Comp Value :=
  let flags : List (String × Value) :=
    [("enumerable", .bool p.enumerable), ("configurable", .bool p.configurable)]
  match p.slot with
  | .data v writable => newRecord ([("value", v), ("writable", .bool writable)] ++ flags)
  | .accessor get set => newRecord ([("get", get), ("set", set)] ++ flags)

/-- The definition that a describing object asks for. -/
def definitionOf (v : Value) : Comp Definition := do
  match v with
  | .object r =>
    let field (name : String) : Comp (Option Value) := do
      if ← has r name then return some (← get r name) else return none
    let enumerable ← field "enumerable"
    let configurable ← field "configurable"
    let value ← field "value"
    let writable ← field "writable"
    let getter ← field "get"
    let setter ← field "set"
    let function (f : Option Value) (message : String) : Comp Unit := do
      match f with
      | some f =>
        unless f.isUndefined || (← read (·.callable f)) do typeError message
      | none => pure ()
    function getter "invalid getter"
    function setter "invalid setter"
    if (getter.isSome || setter.isSome) && (value.isSome || writable.isSome) then
      typeError "cannot have setter/getter and value or writable"
    return {
      value := value, writable := writable.map truthy, get := getter, set := setter
      enumerable := enumerable.map truthy, configurable := configurable.map truthy }
  | _ => typeError "not an object"

def isDataConstant (p : Property) : Option Value :=
  match p.slot with
  | .data v false => if p.configurable then none else some v
  | _ => none

def proxyGet (r : Ref) (k : Key) (receiver : Value) : Comp Value := do
  let (target, handler, f) ← trap r "get"
  match f with
  | none => getFrom target k receiver
  | some f =>
    let v ← call f handler [.object target, keyValue k, receiver]
    match ← getOwn target k with
    | some p =>
      match isDataConstant p with
      | some w => if v == w then return v else inconsistent "get"
      | none => return v
    | none => return v

def proxySet (r : Ref) (k : Key) (v receiver : Value) : Comp Bool := do
  let (target, handler, f) ← trap r "set"
  match f with
  | none => setFrom target k v receiver
  | some f =>
    if truthy (← call f handler [.object target, keyValue k, v, receiver]) then
      match ← getOwn target k with
      | some p =>
        match isDataConstant p with
        | some w => if v == w then return true else inconsistent "set"
        | none => return true
      | none => return true
    else return false

def proxyHas (r : Ref) (k : Key) : Comp Bool := do
  let (target, handler, f) ← trap r "has"
  match f with
  | none => has target k
  | some f =>
    let found := truthy (← call f handler [.object target, keyValue k])
    if found then return true
    match ← getOwn target k with
    | some p =>
      if !p.configurable || !(← isExtensible target) then inconsistent "has" else return false
    | none => return false

def proxyDelete (r : Ref) (k : Key) : Comp Bool := do
  let (target, handler, f) ← trap r "deleteProperty"
  match f with
  | none => delete target k
  | some f =>
    if truthy (← call f handler [.object target, keyValue k]) then
      match ← getOwn target k with
      | some p => if p.configurable then return true else inconsistent "deleteProperty"
      | none => return true
    else return false

def proxyGetOwn (r : Ref) (k : Key) : Comp (Option Property) := do
  let (target, handler, f) ← trap r "getOwnPropertyDescriptor"
  match f with
  | none => getOwn target k
  | some f =>
    let answer ← call f handler [.object target, keyValue k]
    let own ← getOwn target k
    match answer with
    | .undefined =>
      match own with
      | some p =>
        if p.configurable && (← isExtensible target) then return none
        else inconsistent "getOwnPropertyDescriptor"
      | none => return none
    | .object _ =>
      let d ← definitionOf answer
      let p := d.create
      match own with
      | some old =>
        if (d.change old).isSome && (p.configurable || !old.configurable) then return some p
        else inconsistent "getOwnPropertyDescriptor"
      | none =>
        if p.configurable && (← isExtensible target) then return some p
        else inconsistent "getOwnPropertyDescriptor"
    | _ => inconsistent "getOwnPropertyDescriptor"

def proxyDefine (r : Ref) (k : Key) (d : Definition) : Comp Bool := do
  let (target, handler, f) ← trap r "defineProperty"
  match f with
  | none => define target k d
  | some f =>
    let entry (name : String) (v : Option Value) : List (String × Value) :=
      match v with
      | some v => [(name, v)]
      | none => []
    let described ← newRecord (entry "value" d.value ++ entry "writable" (d.writable.map .bool)
      ++ entry "get" d.get ++ entry "set" d.set ++ entry "enumerable" (d.enumerable.map .bool)
      ++ entry "configurable" (d.configurable.map .bool))
    if truthy (← call f handler [.object target, keyValue k, described]) then
      match ← getOwn target k with
      | some old =>
        if (d.change old).isSome then return true else inconsistent "defineProperty"
      | none =>
        if (← isExtensible target) && d.configurable != some false then return true
        else inconsistent "defineProperty"
    else return false

def keyOfValue : Value → Option Key
  | .string s => some (.ofText s)
  | .symbol id => some (.symbol id)
  | _ => none

def proxyOwnKeys (r : Ref) : Comp (List Key) := do
  let (target, handler, f) ← trap r "ownKeys"
  match f with
  | none => ownKeys target
  | some f =>
    match ← call f handler [.object target] with
    | .object list =>
      let length ← get list "length"
      let count := match length with
        | .number d => (ElementType.integerPart d).toNat
        | _ => 0
      let keys ← foldUp count 0 [] fun i keys => do
        match keyOfValue (← get list (.ofNat i)) with
        | some k =>
          if keys.contains k then typeError "proxy: duplicate property" else return k :: keys
        | none => typeError "proxy: properties must be strings or symbols"
      let keys := keys.reverse
      let own ← ownKeys target
      let extensible ← isExtensible target
      forEach own fun k => do
        unless keys.contains k do
          match ← getOwn target k with
          | some p =>
            if !p.configurable || !extensible then
              typeError "proxy: target property must be present in proxy ownKeys"
          | none => pure ()
      if !extensible && keys.any (!own.contains ·) then
        typeError "proxy: property not present in target were returned by non extensible proxy"
      return keys
    | _ => typeError "not an object"

def proxyGetPrototype (r : Ref) : Comp Value := do
  let (target, handler, f) ← trap r "getPrototypeOf"
  let ofOption (proto : Option Ref) : Value := match proto with
    | some p => .object p
    | none => .null
  match f with
  | none => return ofOption (← getPrototype target)
  | some f =>
    match ← call f handler [.object target] with
    | .object p =>
      if !(← isExtensible target) && (← getPrototype target) != some p then
        inconsistent "prototype"
      return .object p
    | .null =>
      if !(← isExtensible target) && (← getPrototype target).isSome then inconsistent "prototype"
      return .null
    | _ => inconsistent "prototype"

def proxySetPrototype (r : Ref) (proto : Option Ref) : Comp Bool := do
  let (target, handler, f) ← trap r "setPrototypeOf"
  match f with
  | none => setPrototype target proto
  | some f =>
    let v : Value := match proto with
      | some p => .object p
      | none => .null
    if truthy (← call f handler [.object target, v]) then
      if !(← isExtensible target) && (← getPrototype target) != proto then
        inconsistent "prototype"
      return true
    else return false

def proxyIsExtensible (r : Ref) : Comp Bool := do
  let (target, handler, f) ← trap r "isExtensible"
  match f with
  | none => isExtensible target
  | some f =>
    let answer := truthy (← call f handler [.object target])
    if answer == (← isExtensible target) then return answer else inconsistent "isExtensible"

def proxyPreventExtensions (r : Ref) : Comp Bool := do
  let (target, handler, f) ← trap r "preventExtensions"
  match f with
  | none => preventExtensions target
  | some f =>
    if truthy (← call f handler [.object target]) then
      if ← isExtensible target then inconsistent "preventExtensions" else return true
    else return false

end Comp

end ScriptHost.Script
