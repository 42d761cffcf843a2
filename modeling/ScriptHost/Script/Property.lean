import ScriptHost.Script.Intrinsic

/-! The properties of objects as far as no script takes part: reading, defining, deleting
and listing them. Proxies are left to others, and so are the typed arrays' conversions. -/

namespace ScriptHost.Script

/-! ### Typed elements -/

namespace ElementType

def size : ElementType → Nat
  | .int8 | .uint8 | .uint8Clamped => 1
  | .int16 | .uint16 => 2
  | .int32 | .uint32 | .float32 => 4
  | .bigInt64 | .bigUint64 | .float64 => 8

def name : ElementType → String
  | .int8 => "Int8Array"
  | .uint8 => "Uint8Array"
  | .uint8Clamped => "Uint8ClampedArray"
  | .int16 => "Int16Array"
  | .uint16 => "Uint16Array"
  | .int32 => "Int32Array"
  | .uint32 => "Uint32Array"
  | .bigInt64 => "BigInt64Array"
  | .bigUint64 => "BigUint64Array"
  | .float32 => "Float32Array"
  | .float64 => "Float64Array"

def isBig : ElementType → Bool
  | .bigInt64 | .bigUint64 => true
  | _ => false

/-- The number that bytes stand for, the least significant byte first. -/
def natOfBytes (bytes : List UInt8) : Nat := bytes.foldr (fun b n => n * 256 + b.toNat) 0

def bytesOfNat : Nat → Nat → List UInt8
  | 0, _ => []
  | count + 1, n => UInt8.ofNat (n % 256) :: bytesOfNat count (n / 256)

/-- The signed number of some bytes that an unsigned one stands for. -/
def signed (bytes : Nat) (n : Nat) : Int :=
  if Nat.pow 2 (8 * bytes - 1) ≤ n then (n : Int) - Nat.pow 2 (8 * bytes) else n

/-- The number of a single-precision pattern. -/
def singleValue (n : Nat) : Double := Double.ofFloat (Float32.ofBits (UInt32.ofNat n)).toFloat

def decode (t : ElementType) (bytes : List UInt8) : Value :=
  let n := natOfBytes bytes
  match t with
  | .int8 | .int16 | .int32 => .int (signed t.size n)
  | .uint8 | .uint8Clamped | .uint16 | .uint32 => .nat n
  | .bigInt64 => .bigInt (signed 8 n)
  | .bigUint64 => .bigInt n
  | .float32 => .number (singleValue n)
  | .float64 => .number ⟨UInt64.ofNat n⟩

/-- The integer part of a number; nothing for one that is not finite. -/
def integerPart (d : Double) : Int := if d.isFinite then d.truncate else 0

/-- A number cut to between 0 and 255 and rounded, a half going to the even side. -/
def clamp (d : Double) : Nat :=
  if d.isNaN || d.negative then 0
  else if d.isInfinite then 255
  else
    let scale := d.scale
    let n := Double.roundHalfEven (d.significand * Nat.pow 2 scale.toNat) (Nat.pow 2 (-scale).toNat)
    min n 255

/-- The bytes of a number or big integer of the type. -/
def encode (t : ElementType) (v : Value) : List UInt8 :=
  let integer (i : Int) : List UInt8 := bytesOfNat t.size (i % Nat.pow 2 (8 * t.size)).toNat
  match t, v with
  | .uint8Clamped, .number d => bytesOfNat 1 (clamp d)
  | .float32, .number d => bytesOfNat 4 d.toFloat.toFloat32.toBits.toNat
  | .float64, .number d => bytesOfNat 8 d.bits.toNat
  | _, .number d => integer (integerPart d)
  | _, .bigInt i => integer i
  | _, _ => bytesOfNat t.size 0

end ElementType

/-- What looking for a property along the prototypes finds. -/
inductive Found where
  | property (p : Property)
  | missing
  /-- The search arrives at an object that decides for itself. -/
  | elsewhere (r : Ref)
deriving Inhabited

namespace Heap

/-! ### Reading -/

/-- The key is no index of a typed array, though it is written as a number. -/
def isNumericText (s : Utf16) : Bool := s == .text "-0"

def typedElement (h : Heap) (t : ElementType) (buffer : Ref) (offset length i : Nat) : Option Value :=
  if i < length then
    match h.kind buffer with
    | .buffer bytes =>
      let start := offset + i * t.size
      if start + t.size ≤ bytes.size then
        some (t.decode (bytes.extract start (start + t.size)).toList)
      else none
    | _ => none
  else none

/-- The value of an exported name that a module binds, through the modules that pass it
on. `none` stands for a name that leads nowhere. -/
inductive Resolved where
  | binding (cell : Cell)
  | whole (module : Nat)
  | missing
  | ambiguous
deriving DecidableEq, Repr, Inhabited

/-- Where an exported name of a module leads. At most `limit` modules are passed through. -/
def resolveExport (h : Heap) : Nat → List (Nat × Name) → Nat → Name → Resolved
  | 0, _, _, _ => .missing
  | limit + 1, seen, index, name =>
    if seen.contains (index, name) then .missing
    else
      let seen := (index, name) :: seen
      let m := h.modules.getD index default
      let links := m.program.links
      match links.exports.lookup name with
      | some (.own own) =>
        match links.imports.find? (·.name == own) with
        | some i =>
          let target := m.requested.getD i.request index
          match i.source with
          | some outer => h.resolveExport limit seen target outer
          | none => .whole target
        | none =>
          match m.bindings.find? (·.name == own) with
          | some b => .binding b.cell
          | none => .missing
      | some (.other request outer) =>
        h.resolveExport limit seen (m.requested.getD request index) outer
      | some (.whole request) => .whole (m.requested.getD request index)
      | none =>
        if name == "default" then .missing
        else
          links.stars.foldl (fun found request =>
            match h.resolveExport limit seen (m.requested.getD request index) name with
            | .missing => found
            | .ambiguous => .ambiguous
            | other => match found with
              | .missing => other
              | found => if found == other then found else .ambiguous) .missing

/-- The names that a module exports, those of its stars included. -/
def exportNames (h : Heap) : Nat → List Nat → Nat → List Name
  | 0, _, _ => []
  | limit + 1, seen, index =>
    if seen.contains index then []
    else
      let m := h.modules.getD index default
      let links := m.program.links
      let own := links.exports.map (·.1)
      links.stars.foldl (fun names request =>
        let more := h.exportNames limit (index :: seen) (m.requested.getD request index)
        names ++ more.filter fun n => n != "default" && !names.contains n) own

def moduleLimit (h : Heap) : Nat := h.modules.size * 64 + 64

def resolve (h : Heap) (index : Nat) (name : Name) : Resolved :=
  h.resolveExport h.moduleLimit [] index name

/-- The exported names of a module that lead somewhere, in the order of namespaces. -/
def namespaceNames (h : Heap) (index : Nat) : List Name :=
  let names := (h.exportNames h.moduleLimit [] index).filter fun name =>
    match h.resolve index name with
    | .binding _ | .whole _ => true
    | _ => false
  names.mergeSort fun a b => !Utf16.less (.text b) (.text a)

/-- A property of the object itself. The value of an unset variable of a module is taken
for undefined here; whoever reads it has to look first. -/
def ownProperty (h : Heap) (r : Ref) (k : Key) : Option Property :=
  let o := h.object r
  match o.kind, k with
  | .array items _ _, .index n =>
    match items[n]? with
    | some v => some (.plain v)
    | none => o.find? k
  | .array _ length fixed, .name (.text "length") =>
    some ⟨.data (.nat length) !fixed, false, false⟩
  | .string s, .index n =>
    match s.unitAt? n with
    | some u => some ⟨.data (.string (.ofUnit u)) false, true, false⟩
    | none => o.find? k
  | .string s, .name (.text "length") => some (.constant (.nat s.length))
  | .typed t buffer offset length, .index n =>
    (h.typedElement t buffer offset length n).map .plain
  | .arguments shared, .index n =>
    match o.find? k with
    | some p =>
      match shared.getD n none, p.slot with
      | some c, .data _ writable => some { p with slot := .data (.ofOption (h.cell c)) writable }
      | _, _ => some p
    | none => none
  | .namespace index, .index _ | .namespace index, .name _ =>
    match k.text? with
    | some (.text name) =>
      match h.resolve index name with
      | .binding c => some ⟨.data (.ofOption (h.cell c)) true, true, false⟩
      | .whole other =>
        match (h.modules.getD other default).namespaceObject with
        | some ns => some ⟨.data (.object ns) true, true, false⟩
        | none => some ⟨.data .undefined true, true, false⟩
      | _ => none
    | _ => none
  | _, _ => o.find? k

/-- Must the object's properties be asked for in another way? -/
def isProxy (h : Heap) (r : Ref) : Bool :=
  match h.kind r with
  | .proxy .. => true
  | _ => false

/-- Is the search for an index over at this object, found or not? -/
def endsSearch (h : Heap) (r : Ref) (k : Key) : Bool :=
  match h.kind r, k with
  | .typed .., .index _ => true
  | _, _ => false

/-- Looks for a property along the prototypes, of which there are at most `limit`. -/
def search (h : Heap) : Nat → Ref → Key → Found
  | 0, _, _ => .missing
  | limit + 1, r, k =>
    if h.isProxy r then .elsewhere r
    else
      match h.ownProperty r k with
      | some p => .property p
      | none =>
        if h.endsSearch r k then .missing
        else
          match h.proto r with
          | some proto => h.search limit proto k
          | none => .missing

def lookup (h : Heap) (r : Ref) (k : Key) : Found := h.search (h.objects.size + 1) r k

/-! ### Listing -/

/-- The keys of an object: indices in ascending order, then texts and then symbols, each
in the order in which they came. -/
def ownKeys (h : Heap) (r : Ref) : List Key :=
  let o := h.object r
  let keys := o.props.toList.map (·.1)
  let indices := (keys.filterMap fun k => match k with
    | .index n => some n
    | _ => none).mergeSort (· ≤ ·)
  let texts := keys.filter fun k => match k with
    | .name _ => true
    | _ => false
  let symbols := keys.filter fun k => match k with
    | .symbol _ => true
    | _ => false
  let front := fun (count : Nat) => (List.range count).map Key.index
  let (firstIndices, firstTexts) : List Key × List Key := match o.kind with
    | .array items _ _ => (front items.size, ["length"])
    | .string s => (front s.length, ["length"])
    | .typed _ _ _ length => (front length, [])
    | .namespace index => ([], (h.namespaceNames index).map Key.ofString)
    | _ => ([], [])
  firstIndices ++ indices.map Key.index ++ firstTexts ++ texts ++ symbols

/-! ### Defining -/

/-- Moves the items of an array from `n` on to its properties, so that they can be
restricted or taken out. -/
def splitItems (o : Object) (n : Nat) : Object :=
  match o.kind with
  | .array items length fixed =>
    if n < items.size then
      let moved := (items.toList.drop n).zipIdx n
      let props := moved.foldl (fun (props : Array (Key × Property)) (v, i) =>
        props.push (.index i, .plain v)) o.props
      { o with kind := .array (items.extract 0 n) length fixed, props := props }
    else o
  | _ => o

def isPlain (p : Property) : Bool :=
  match p.slot with
  | .data _ true => p.enumerable && p.configurable
  | _ => false

/-- Puts a property of an array at an index. -/
def putItem (o : Object) (n : Nat) (p : Property) : Object :=
  match o.kind with
  | .array items length fixed =>
    match p.slot with
    | .data v true =>
      if p.enumerable && p.configurable && n < items.size then
        { o with kind := .array (items.set! n v) length fixed }
      else if p.enumerable && p.configurable && n == items.size && (o.find? (.index n)).isNone then
        { o with kind := .array (items.push v) (max length (n + 1)) fixed }
      else
        let o := splitItems { o with kind := .array items (max length (n + 1)) fixed } n
        o.put (.index n) p
    | _ =>
      let o := splitItems { o with kind := .array items (max length (n + 1)) fixed } n
      o.put (.index n) p
  | _ => o.put (.index n) p

/-- Cuts an array to a length. Elements that cannot be deleted stop the cut. -/
def cutArray (o : Object) (wanted : Nat) : Object × Bool :=
  match o.kind with
  | .array items length fixed =>
    if length ≤ wanted then ({ o with kind := .array items wanted fixed }, true)
    else
      let stuck := o.props.foldl (fun least (k, p) => match k with
        | .index n => if wanted ≤ n && !p.configurable then max least (n + 1) else least
        | _ => least) wanted
      let props := o.props.filter fun (k, _) => match k with
        | .index n => n < stuck
        | _ => true
      ({ o with kind := .array (items.extract 0 stuck) stuck fixed, props := props },
        stuck == wanted)
  | _ => (o, true)

/-- Defines a property of an object that is no proxy and no typed array. Says whether it
could be done. The new length of an array is a number already. -/
def define (h : Heap) (r : Ref) (k : Key) (d : Definition) : Bool × Heap :=
  let o := h.object r
  match o.kind, k with
  | .array _ length fixed, .name (.text "length") =>
    let writable := !fixed
    if d.isAccessor || d.configurable == some true || d.enumerable == some true
        || (d.writable == some true && !writable) then (false, h)
    else
      let freeze (o : Object) : Object :=
        if d.writable == some false then
          match o.kind with
          | .array items length _ => { o with kind := .array items length true }
          | _ => o
        else o
      match d.value with
      | some (.number n) =>
        let wanted := (n.toInt?.getD 0).toNat
        if wanted == length then (true, h.modifyObject r freeze)
        else if !writable then (false, h)
        else
          let (_, complete) := cutArray o wanted
          (complete, h.modifyObject r fun o => freeze (cutArray o wanted).1)
      | _ => (true, h.modifyObject r freeze)
  | .array _ length fixed, .index n =>
    if length ≤ n && fixed then (false, h)
    else
      match h.ownProperty r k with
      | some old =>
        match d.change old with
        | some p => (true, h.modifyObject r fun o => putItem o n p)
        | none => (false, h)
      | none =>
        if o.extensible then (true, h.modifyObject r fun o => putItem o n d.create)
        else (false, h)
  | .string s, .name (.text "length") => ((d.change (.constant (.nat s.length))).isSome, h)
  | .namespace _, _ =>
    match h.ownProperty r k with
    | some old =>
      let same := d.configurable != some true && d.enumerable.all (· == old.enumerable)
        && !d.isAccessor && d.writable != some false && d.value.all (some · == old.value?)
      (same, h)
    | none => (false, h)
  | .arguments shared, .index n =>
    match h.ownProperty r k with
    | some old =>
      match d.change old with
      | some p =>
        let h := match shared.getD n none, p.slot with
          | some c, .data v _ => h.setCell c (some v)
          | _, _ => h
        let unshare := d.isAccessor || d.writable == some false
        (true, h.modifyObject r fun o =>
          let o := o.put k p
          if unshare then { o with kind := .arguments (shared.set n none) } else o)
      | none => (false, h)
    | none => if o.extensible then (true, h.modifyObject r (·.put k d.create)) else (false, h)
  | _, _ =>
    match h.ownProperty r k with
    | some old =>
      match d.change old with
      | some p =>
        let isStringIndex := match o.kind, k with
          | .string s, .index n => decide (n < s.length)
          | _, _ => false
        (true, if isStringIndex then h else h.modifyObject r (·.put k p))
      | none => (false, h)
    | none => if o.extensible then (true, h.modifyObject r (·.put k d.create)) else (false, h)

/-- Writes a property that is known to be writable data of the object itself. -/
def writeOwn (h : Heap) (r : Ref) (k : Key) (v : Value) : Heap :=
  let o := h.object r
  match o.kind, k with
  | .arguments shared, .index n =>
    let h := match shared.getD n none with
      | some c => h.setCell c (some v)
      | none => h
    h.modifyObject r fun o => match o.find? k with
      | some p => o.put k { p with slot := .data v true }
      | none => o
  | _, _ => h.modifyObject r fun o =>
    match o.kind, k with
    | .array items length fixed, .index n =>
      if n < items.size then { o with kind := .array (items.set! n v) length fixed }
      else match o.find? k with
        | some p => o.put k { p with slot := .data v true }
        | none => o
    | _, _ => match o.find? k with
      | some p => o.put k { p with slot := .data v true }
      | none => o

/-- Adds a plain property that the object does not have. -/
def addOwn (h : Heap) (r : Ref) (k : Key) (v : Value) : Heap :=
  h.modifyObject r fun o =>
    match o.kind, k with
    | .array .., .index n => putItem o n (.plain v)
    | _, _ => { o with props := o.props.push (k, .plain v) }

/-- Deletes a property of an object that is no proxy. Says whether it is gone. -/
def deleteOwn (h : Heap) (r : Ref) (k : Key) : Bool × Heap :=
  match h.ownProperty r k with
  | none => (true, h)
  | some p =>
    if !p.configurable then (false, h)
    else match h.kind r, k with
      | .array .., .index n =>
        (true, h.modifyObject r fun o => (splitItems o n).drop k)
      | .typed .., .index _ => (false, h)
      | .arguments shared, .index n =>
        (true, h.modifyObject r fun o => { o.drop k with kind := .arguments (shared.set n none) })
      | _, _ => (true, h.modifyObject r (·.drop k))

/-- Is an object among the prototypes of another, or the other itself? -/
def inChain (h : Heap) (wanted : Ref) : Nat → Option Ref → Bool
  | 0, _ => false
  | _, none => false
  | limit + 1, some r => r == wanted || (!h.isProxy r && h.inChain wanted limit (h.proto r))

/-- Sets the prototype of an object that is no proxy. Says whether it could be done. -/
def setProto (h : Heap) (r : Ref) (proto : Option Ref) : Bool × Heap :=
  if h.proto r == proto then (true, h)
  else if !(h.object r).extensible || r == Intrinsic.objectPrototype.ref then (false, h)
  else if h.inChain r (h.objects.size + 1) proto then (false, h)
  else (true, h.modifyObject r fun o => { o with proto := proto })

end Heap

end ScriptHost.Script
