import ScriptHost.Log.Record
import ScriptHost.Script.Value

/-! The built-in functions, by group. A built-in function is data: what it does is said
by one function for each group, and some carry what they were made for. -/

namespace ScriptHost.Script

/-- The kinds of error objects that are built in. -/
inductive ErrorKind where
  | error | evalError | rangeError | referenceError | syntaxError | typeError | uriError
  | internalError | aggregateError
deriving DecidableEq, Repr, Inhabited

def ErrorKind.name : ErrorKind → String
  | .error => "Error"
  | .evalError => "EvalError"
  | .rangeError => "RangeError"
  | .referenceError => "ReferenceError"
  | .syntaxError => "SyntaxError"
  | .typeError => "TypeError"
  | .uriError => "URIError"
  | .internalError => "InternalError"
  | .aggregateError => "AggregateError"

inductive ObjectFunction where
  | construct | assign | create | defineProperties | defineProperty | entries | freeze
  | fromEntries | getOwnPropertyDescriptor | getOwnPropertyDescriptors | getOwnPropertyNames
  | getOwnPropertySymbols | getPrototypeOf | groupBy | hasOwn | is | isExtensible | isFrozen
  | isSealed | keys | preventExtensions | seal | setPrototypeOf | values
  | hasOwnProperty | isPrototypeOf | propertyIsEnumerable | toLocaleString | toString | valueOf
  | protoGetter | protoSetter | defineGetter | defineSetter | lookupGetter | lookupSetter
deriving DecidableEq, Repr, Inhabited

inductive FunctionFunction where
  | construct | constructGenerator | constructAsync | constructAsyncGenerator
  | prototype | apply | bind | call | toString | hasInstance | throwTypeError
deriving DecidableEq, Repr, Inhabited

inductive ReflectFunction where
  | apply | construct | defineProperty | deleteProperty | get | getOwnPropertyDescriptor
  | getPrototypeOf | has | isExtensible | ownKeys | preventExtensions | set | setPrototypeOf
deriving DecidableEq, Repr, Inhabited

inductive ArrayFunction where
  | construct | isArray | «from» | of | species
  | at | concat | copyWithin | entries | every | fill | filter | find | findIndex | findLast
  | findLastIndex | flat | flatMap | forEach | includes | indexOf | join | keys | lastIndexOf
  | map | pop | push | reduce | reduceRight | reverse | shift | slice | some | sort | splice
  | toLocaleString | toReversed | toSorted | toSpliced | toString | unshift | values | «with»
deriving DecidableEq, Repr, Inhabited

inductive StringFunction where
  | construct | fromCharCode | fromCodePoint | raw
  | at | charAt | charCodeAt | codePointAt | concat | endsWith | includes | indexOf
  | isWellFormed | lastIndexOf | localeCompare | «match» | matchAll | normalize | padEnd
  | padStart | «repeat» | replace | replaceAll | search | slice | split | startsWith
  | substr | substring | toLowerCase | toString | toUpperCase | toWellFormed | trim | trimEnd
  | trimStart | valueOf | iterator
deriving DecidableEq, Repr, Inhabited

inductive NumberFunction where
  | construct | isFinite | isInteger | isNaN | isSafeInteger | parseFloat | parseInt
  | toExponential | toFixed | toLocaleString | toPrecision | toString | valueOf
  | globalIsFinite | globalIsNaN
deriving DecidableEq, Repr, Inhabited

inductive PrimitiveFunction where
  | boolean | booleanToString | booleanValueOf
  | symbol | symbolFor | symbolKeyFor | symbolToString | symbolValueOf | symbolDescription
  | symbolToPrimitive
  | bigInt | bigIntAsIntN | bigIntAsUintN | bigIntToString | bigIntValueOf
deriving DecidableEq, Repr, Inhabited

inductive MathFunction where
  | abs | acos | acosh | asin | asinh | atan | atan2 | atanh | cbrt | ceil | clz32 | cos | cosh
  | exp | expm1 | floor | fround | hypot | imul | log | log10 | log1p | log2 | max | min | pow
  | random | round | sign | sin | sinh | sqrt | tan | tanh | trunc
deriving DecidableEq, Repr, Inhabited

inductive CollectionFunction where
  | map | set | weakMap | weakSet
  | get | put | add | has | delete | clear | size | forEach | entries | keys | values
  | groupBy | species | weakRef | deref | finalizationRegistry | register | unregister
deriving DecidableEq, Repr, Inhabited

inductive PromiseFunction where
  | construct | all | allSettled | any | race | reject | resolve | withResolvers | try_
  | «then» | «catch» | finally | species
deriving DecidableEq, Repr, Inhabited

/-- The methods of iterators, generators and their asynchronous kin. -/
inductive IteratorFunction where
  | itself
  | arrayNext | stringNext | collectionNext | patternNext
  | generatorNext | generatorReturn | generatorThrow
  | asyncItself
  | asyncGeneratorNext | asyncGeneratorReturn | asyncGeneratorThrow
  | adapterNext | adapterReturn | adapterThrow
  | wrapperNext | wrapperReturn
deriving DecidableEq, Repr, Inhabited

inductive DateFunction where
  | construct | now | parse | utc
  | get (field : Nat) (isUtc : Bool)
  | set (field : Nat) (isUtc : Bool)
  | getTime | setTime | getTimezoneOffset | getYear
  | toISOString | toJSON | toString | toDateString | toTimeString | toUTCString
  | toLocaleString | toLocaleDateString | toLocaleTimeString | valueOf | toPrimitive
deriving DecidableEq, Repr, Inhabited

inductive PatternFunction where
  | construct | exec | test | toString | compile | flags
  | flag (letter : Char)
  | source | species
  | symbolMatch | symbolMatchAll | symbolReplace | symbolSearch | symbolSplit
deriving DecidableEq, Repr, Inhabited

/-- The types of the elements of a typed array. -/
inductive ElementType where
  | int8 | uint8 | uint8Clamped | int16 | uint16 | int32 | uint32 | bigInt64 | bigUint64
  | float32 | float64
deriving DecidableEq, Repr, Inhabited

inductive BufferFunction where
  | construct | isView | byteLength | slice | species
  | typedBase
  | typed (type : ElementType)
  | typedFrom | typedOf
  | typedBuffer | typedByteLength | typedByteOffset | typedLength | typedTag
  | typedSet | typedSubarray
  | view | viewGet (type : ElementType) | viewSet (type : ElementType)
  | viewBuffer | viewByteLength | viewByteOffset
deriving DecidableEq, Repr, Inhabited

inductive GlobalFunction where
  | eval | decodeURI | decodeURIComponent | encodeURI | encodeURIComponent | escape | unescape
  | queueMicrotask
deriving DecidableEq, Repr, Inhabited

/-- How the parts of a combined promise are put together. -/
inductive Combination where
  | all | fulfilled | rejected | any
deriving DecidableEq, Repr, Inhabited

/-- A call under way, for traces of errors: its name, and its file unless it is built in. -/
structure Activation where
  name : String
  file : Option String
deriving DecidableEq, Repr, Inhabited

/-- An asynchronous function that waits: its coroutine, its call and the promise of its
result. -/
structure Waiting where
  coroutine : Nat
  frame : Activation
  promise : Ref
deriving DecidableEq, Repr, Inhabited

/-- A function that is built in, or made by one. -/
inductive Native where
  | object (f : ObjectFunction)
  | function (f : FunctionFunction)
  | reflect (f : ReflectFunction)
  | proxy | proxyRevocable
  | revoke (proxy : Cell)
  | error (kind : ErrorKind) | errorToString | captureStackTrace
  | array (f : ArrayFunction)
  | typedArray (f : ArrayFunction)
  | string (f : StringFunction)
  | number (f : NumberFunction)
  | primitive (f : PrimitiveFunction)
  | math (f : MathFunction)
  | jsonParse | jsonStringify
  | collection (f : CollectionFunction)
  | promise (f : PromiseFunction)
  | iterator (f : IteratorFunction)
  | date (f : DateFunction)
  | pattern (f : PatternFunction)
  | buffer (f : BufferFunction)
  | global (f : GlobalFunction)
  | console (level : Log.Level)
  /-- One of the two functions that settle a promise; the cell tells whether either has
  been called. -/
  | settle (promise : Ref) (called : Cell) (rejects : Bool)
  /-- Collects the functions of a promise under construction. -/
  | executor (resolve reject : Cell)
  /-- One part of a combined promise. -/
  | part (how : Combination) (called : Cell) (index : Nat) (values : Ref) (done : Value)
      (remaining : Cell)
  /-- The reactions of `finally`: they call a function, then pass on what came before. -/
  | finallyThen (action : Value) (constructor : Value) (rejects : Bool)
  | pass (value : Value) (rejects : Bool)
  /-- Continues an asynchronous function or generator after an await. -/
  | continueAsync (waiting : Waiting) (rejects : Bool)
  | continueAsyncGenerator (generator : Ref) (rejects : Bool)
  | finishAsyncGenerator (generator : Ref) (rejects : Bool)
  /-- Turns the value of an asynchronous step of an ordinary iterator into a step. -/
  | unwrapStep (done : Bool)
  | closeAndThrow (iterator : Value)
  /-- Settles a dynamic import once the module is evaluated. -/
  | finishImport (module : Nat) (resolve reject : Value) (rejects : Bool)
deriving DecidableEq, Repr, Inhabited

end ScriptHost.Script
