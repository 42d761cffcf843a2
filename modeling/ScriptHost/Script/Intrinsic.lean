import ScriptHost.Script.Task

/-! The objects and symbols that every engine begins with. They come first in the heap, in
the order in which they are listed here, so each is known by its place. -/

namespace ScriptHost.Script

inductive Intrinsic where
  | objectPrototype | functionPrototype | arrayPrototype
  | errorPrototype | evalErrorPrototype | rangeErrorPrototype | referenceErrorPrototype
  | syntaxErrorPrototype | typeErrorPrototype | uriErrorPrototype | internalErrorPrototype
  | aggregateErrorPrototype
  | booleanPrototype | numberPrototype | stringPrototype | symbolPrototype | bigIntPrototype
  | datePrototype | patternPrototype
  | mapPrototype | setPrototype | weakMapPrototype | weakSetPrototype | weakRefPrototype
  | registryPrototype
  | promisePrototype
  | iteratorPrototype | asyncIteratorPrototype | arrayIteratorPrototype
  | stringIteratorPrototype | mapIteratorPrototype | setIteratorPrototype
  | patternIteratorPrototype | adapterPrototype | wrapperPrototype
  | generatorPrototype | asyncGeneratorPrototype
  | generatorFunctionPrototype | asyncFunctionPrototype | asyncGeneratorFunctionPrototype
  | bufferPrototype | typedPrototype | viewPrototype
  | int8Prototype | uint8Prototype | uint8ClampedPrototype | int16Prototype | uint16Prototype
  | int32Prototype | uint32Prototype | bigInt64Prototype | bigUint64Prototype
  | float32Prototype | float64Prototype
  | promise | array | arrayBuffer | pattern | arrayValues | arrayToString | throwTypeError
  | evalFunction
  | global
deriving DecidableEq, Repr, Inhabited

namespace Intrinsic

/-- The place of an object in the heap. -/
def ref (i : Intrinsic) : Ref := i.ctorIdx

/-- How many there are. -/
def count : Nat := ref .global + 1

def errorPrototypeOf : ErrorKind → Intrinsic
  | .error => .errorPrototype
  | .evalError => .evalErrorPrototype
  | .rangeError => .rangeErrorPrototype
  | .referenceError => .referenceErrorPrototype
  | .syntaxError => .syntaxErrorPrototype
  | .typeError => .typeErrorPrototype
  | .uriError => .uriErrorPrototype
  | .internalError => .internalErrorPrototype
  | .aggregateError => .aggregateErrorPrototype

def typedPrototypeOf : ElementType → Intrinsic
  | .int8 => .int8Prototype
  | .uint8 => .uint8Prototype
  | .uint8Clamped => .uint8ClampedPrototype
  | .int16 => .int16Prototype
  | .uint16 => .uint16Prototype
  | .int32 => .int32Prototype
  | .uint32 => .uint32Prototype
  | .bigInt64 => .bigInt64Prototype
  | .bigUint64 => .bigUint64Prototype
  | .float32 => .float32Prototype
  | .float64 => .float64Prototype

end Intrinsic

/-- The symbols that the language itself uses, by their numbers. -/
inductive WellKnown where
  | iterator | asyncIterator | hasInstance | toPrimitive | toStringTag | species
  | isConcatSpreadable | unscopables | «match» | matchAll | replace | search | split
deriving DecidableEq, Repr, Inhabited

namespace WellKnown

def id (w : WellKnown) : Nat := w.ctorIdx

def key (w : WellKnown) : Key := .symbol w.id

def all : List (WellKnown × String) :=
  [(.iterator, "iterator"), (.asyncIterator, "asyncIterator"), (.hasInstance, "hasInstance"),
   (.toPrimitive, "toPrimitive"), (.toStringTag, "toStringTag"), (.species, "species"),
   (.isConcatSpreadable, "isConcatSpreadable"), (.unscopables, "unscopables"),
   («match», "match"), (.matchAll, "matchAll"), (.replace, "replace"), (.search, "search"),
   (.split, "split")]

end WellKnown

namespace Heap

/-! ### Errors -/

/-- How many calls a trace shows. -/
def traceLimit : Nat := 10

def Activation.line (a : Activation) : String :=
  let name := if a.name == "" then "<anonymous>" else a.name
  match a.file with
  | some file => "    at " ++ name ++ " (" ++ file ++ ":1:1)\n"
  | none => "    at " ++ name ++ " (native)\n"

/-- The trace of the calls under way. -/
def trace (activations : List Activation) : String :=
  (activations.take traceLimit).foldl (fun text a => text ++ Activation.line a) ""

/-- Gives an error object its trace. -/
def withTrace (h : Heap) (r : Ref) (text : String) : Heap :=
  h.modifyObject r fun o => o.put "stack" (.hiddenPlain (.text text))

/-- Makes an error object without a trace. -/
def newPlainError (h : Heap) (kind : ErrorKind) (message : String) : Ref × Heap :=
  h.allocate {
    kind := .error, proto := some (Intrinsic.errorPrototypeOf kind).ref
    props := #[("message", .hiddenPlain (.text message))] }

/-- Makes an error object with the trace of the calls under way. -/
def newError (h : Heap) (kind : ErrorKind) (message : String) : Value × Heap :=
  let text := trace h.activations
  let (r, h) := h.newPlainError kind message
  (.object r, h.withTrace r text)

/-- An error object that has no trace gets that of the calls under way. -/
def stamp (h : Heap) (v : Value) : Heap :=
  match v with
  | .object r =>
    match h.kind r with
    | .error =>
      if ((h.object r).find? "stack").isNone then h.withTrace r (trace h.activations) else h
    | _ => h
  | _ => h

end Heap

namespace Comp

variable {α : Type}

def raise (kind : ErrorKind) (message : String) : Comp α := do
  throw (← change fun h => h.newError kind message)

def typeError (message : String) : Comp α := raise .typeError message

def rangeError (message : String) : Comp α := raise .rangeError message

/-- Takes memory for something of a size, or throws if there is too little. -/
def charge (size : Nat) : Comp Unit := fun k =>
  .act fun h =>
    let used := h.used + size
    if h.quota.memory.any (· < used) then
      let (e, h) := h.newError .internalError "out of memory"
      (h, .fail (.thrown e))
    else ({ h with used := used }, k ())

/-- Text that does not fit into the memory left cannot be made. -/
def fits (size : Nat) : Comp Unit := fun k =>
  .act fun h =>
    if h.quota.memory.any (· < h.used + size) then
      let (e, h) := h.newError .internalError "out of memory"
      (h, .fail (.thrown e))
    else (h, k ())

/-- The size of an object with some properties. -/
def objectSize (props : Nat) : Nat := 64 + 32 * props

def newObject (o : Object) : Comp Ref := do
  charge (objectSize o.props.size)
  change fun h => h.allocate o

/-- A plain object with properties. -/
def newPlain (props : List (Key × Property)) : Comp Value := do
  return .object (← newObject {
    kind := .ordinary, proto := some Intrinsic.objectPrototype.ref, props := props.toArray })

/-- A plain object with properties as assignments make them. -/
def newRecord (props : List (String × Value)) : Comp Value :=
  newPlain (props.map fun p => (Key.ofString p.1, .plain p.2))

def newArray (items : List Value) : Comp Value := do
  let items := items.toArray
  charge (16 * items.size)
  return .object (← newObject {
    kind := .array items items.size false, proto := some Intrinsic.arrayPrototype.ref })

end Comp

end ScriptHost.Script
