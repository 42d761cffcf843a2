import ScriptHost.Script.Builtin.Table

/-! The heap that every engine begins with: the objects that are built in with their
members, listed as data. -/

namespace ScriptHost.Script

/-- A member of a built-in object. -/
inductive Feature where
  | method (key : Key) (length : Nat) (f : Native)
  | accessor (key : Key) (get : Native) (set : Option Native)
  /-- A value with the rules of its property. -/
  | value (key : Key) (p : Property)
  /-- Another key for a member that comes before. -/
  | sameAs (key : Key) (other : Key)
deriving Inhabited

namespace Feature

def constant (key : Key) (v : Value) : Feature := .value key (.constant v)

def fixed (key : Key) (v : Value) : Feature := .value key ⟨.data v false, false, true⟩

def hidden (key : Key) (v : Value) : Feature := .value key (.hiddenPlain v)

def tag (s : String) : Feature := fixed WellKnown.toStringTag.key (.text s)

def getter (key : Key) (f : Native) : Feature := .accessor key f none

def link (key : Key) (i : Intrinsic) : Feature := hidden key (.object i.ref)

end Feature

/-- A constructor with its prototype. -/
structure ClassEntry where
  name : String
  length : Nat
  native : Native
  /-- Where the constructor is, if the place is known to others. -/
  place : Option Intrinsic := none
  proto : Option Intrinsic
  constructs : Bool := true
  statics : List Feature := []
  methods : List Feature := []
  /-- Is it a property of the global object? -/
  isGlobal : Bool := true
  /-- Is it made by a class that was listed just before the classes that extend it? -/
  extends_ : Option String := none
deriving Inhabited

namespace Realm

/-! ### The members, by group -/

section Tables

open Feature

/-- Methods of one group, each with its name and length. -/
def methods {α : Type} (group : α → Native) (list : List (String × Nat × α)) : List Feature :=
  list.map fun (name, length, f) => .method (Key.ofString name) length (group f)

def species (f : Native) : Feature := .accessor WellKnown.species.key f none

def objectStatics : List Feature := methods Native.object
  [("create", 2, .create), ("getPrototypeOf", 1, .getPrototypeOf),
   ("setPrototypeOf", 2, .setPrototypeOf), ("defineProperty", 3, .defineProperty),
   ("defineProperties", 2, .defineProperties), ("getOwnPropertyNames", 1, .getOwnPropertyNames),
   ("getOwnPropertySymbols", 1, .getOwnPropertySymbols), ("groupBy", 2, .groupBy),
   ("keys", 1, .keys), ("values", 1, .values), ("entries", 1, .entries),
   ("isExtensible", 1, .isExtensible), ("preventExtensions", 1, .preventExtensions),
   ("getOwnPropertyDescriptor", 2, .getOwnPropertyDescriptor),
   ("getOwnPropertyDescriptors", 1, .getOwnPropertyDescriptors), ("is", 2, .is),
   ("assign", 2, .assign), ("seal", 1, .seal), ("freeze", 1, .freeze),
   ("isSealed", 1, .isSealed), ("isFrozen", 1, .isFrozen), ("fromEntries", 1, .fromEntries),
   ("hasOwn", 2, .hasOwn)]

def objectMethods : List Feature := methods Native.object
  [("toString", 0, .toString), ("toLocaleString", 0, .toLocaleString), ("valueOf", 0, .valueOf),
   ("hasOwnProperty", 1, .hasOwnProperty), ("isPrototypeOf", 1, .isPrototypeOf),
   ("propertyIsEnumerable", 1, .propertyIsEnumerable), ("__defineGetter__", 2, .defineGetter),
   ("__defineSetter__", 2, .defineSetter), ("__lookupGetter__", 1, .lookupGetter),
   ("__lookupSetter__", 1, .lookupSetter)]
  ++ [.accessor "__proto__" (.object .protoGetter) (some (.object .protoSetter))]

def functionMethods : List Feature := methods Native.function
  [("call", 1, .call), ("apply", 2, .apply), ("bind", 1, .bind), ("toString", 0, .toString)]
  ++ [.method WellKnown.hasInstance.key 1 (.function .hasInstance)]

def reflectMembers : List Feature := methods Native.reflect
  [("apply", 3, .apply), ("construct", 2, .construct), ("defineProperty", 3, .defineProperty),
   ("deleteProperty", 2, .deleteProperty), ("get", 2, .get),
   ("getOwnPropertyDescriptor", 2, .getOwnPropertyDescriptor),
   ("getPrototypeOf", 1, .getPrototypeOf), ("has", 2, .has), ("isExtensible", 1, .isExtensible),
   ("ownKeys", 1, .ownKeys), ("preventExtensions", 1, .preventExtensions), ("set", 3, .set),
   ("setPrototypeOf", 2, .setPrototypeOf)]
  ++ [tag "Reflect"]

def arrayStatics : List Feature := methods Native.array
  [("isArray", 1, .isArray), ("from", 1, .from), ("of", 0, .of)] ++ [species (.array .species)]

/-- The methods that arrays share with typed arrays. -/
def sequenceMethods : List (String × Nat × ArrayFunction) :=
  [("at", 1, .at), ("with", 2, .with), ("copyWithin", 2, .copyWithin), ("every", 1, .every),
   ("some", 1, .some), ("forEach", 1, .forEach), ("map", 1, .map), ("filter", 1, .filter),
   ("reduce", 1, .reduce), ("reduceRight", 1, .reduceRight), ("fill", 1, .fill),
   ("find", 1, .find), ("findIndex", 1, .findIndex), ("findLast", 1, .findLast),
   ("findLastIndex", 1, .findLastIndex), ("indexOf", 1, .indexOf),
   ("lastIndexOf", 1, .lastIndexOf), ("includes", 1, .includes), ("join", 1, .join),
   ("toLocaleString", 0, .toLocaleString), ("reverse", 0, .reverse),
   ("toReversed", 0, .toReversed), ("slice", 2, .slice), ("sort", 1, .sort),
   ("toSorted", 1, .toSorted), ("keys", 0, .keys), ("entries", 0, .entries)]

def arrayMethods : List Feature := methods Native.array (sequenceMethods ++
  [("concat", 1, .concat), ("flat", 0, .flat), ("flatMap", 1, .flatMap), ("pop", 0, .pop),
   ("push", 1, .push), ("shift", 0, .shift), ("splice", 2, .splice),
   ("toSpliced", 2, .toSpliced), ("unshift", 1, .unshift)])
  ++ [link "values" .arrayValues, link WellKnown.iterator.key .arrayValues,
      link "toString" .arrayToString]

def stringStatics : List Feature := methods Native.string
  [("fromCharCode", 1, .fromCharCode), ("fromCodePoint", 1, .fromCodePoint), ("raw", 1, .raw)]

def stringMethods : List Feature := methods Native.string
  [("at", 1, .at), ("charCodeAt", 1, .charCodeAt), ("charAt", 1, .charAt), ("concat", 1, .concat),
   ("codePointAt", 1, .codePointAt), ("isWellFormed", 0, .isWellFormed),
   ("toWellFormed", 0, .toWellFormed), ("indexOf", 1, .indexOf),
   ("lastIndexOf", 1, .lastIndexOf), ("includes", 1, .includes), ("endsWith", 1, .endsWith),
   ("startsWith", 1, .startsWith), ("match", 1, .match), ("matchAll", 1, .matchAll),
   ("search", 1, .search), ("split", 2, .split), ("substring", 2, .substring),
   ("substr", 2, .substr), ("slice", 2, .slice), ("repeat", 1, .repeat),
   ("replace", 2, .replace), ("replaceAll", 2, .replaceAll), ("padEnd", 1, .padEnd),
   ("padStart", 1, .padStart), ("trim", 0, .trim), ("trimEnd", 0, .trimEnd),
   ("trimStart", 0, .trimStart), ("toString", 0, .toString), ("valueOf", 0, .valueOf),
   ("localeCompare", 1, .localeCompare), ("normalize", 0, .normalize),
   ("toLowerCase", 0, .toLowerCase), ("toUpperCase", 0, .toUpperCase),
   ("toLocaleLowerCase", 0, .toLowerCase), ("toLocaleUpperCase", 0, .toUpperCase)]
  ++ [.method WellKnown.iterator.key 0 (.string .iterator),
      .sameAs "trimRight" "trimEnd", .sameAs "trimLeft" "trimStart"]

def numberStatics : List Feature := methods Native.number
  [("isNaN", 1, .isNaN), ("isFinite", 1, .isFinite), ("isInteger", 1, .isInteger),
   ("isSafeInteger", 1, .isSafeInteger)]
  ++ [constant "MAX_VALUE" (.number (Double.ofMagnitude false (2047 * Nat.pow 2 52 - 1))),
      constant "MIN_VALUE" (.number (Double.ofMagnitude false 1)),
      constant "NaN" (.number .nan),
      constant "NEGATIVE_INFINITY" (.number (Double.infinity true)),
      constant "POSITIVE_INFINITY" (.number (Double.infinity false)),
      constant "EPSILON" (.number (Double.ofRatio false 1 (Nat.pow 2 52))),
      constant "MAX_SAFE_INTEGER" (.int (Nat.pow 2 53 - 1)),
      constant "MIN_SAFE_INTEGER" (.int (1 - (Nat.pow 2 53 : Int)))]

def numberMethods : List Feature := methods Native.number
  [("toExponential", 1, .toExponential), ("toFixed", 1, .toFixed), ("toPrecision", 1, .toPrecision),
   ("toString", 1, .toString), ("toLocaleString", 0, .toLocaleString), ("valueOf", 0, .valueOf)]

def symbolStatics : List Feature :=
  methods Native.primitive [("for", 1, .symbolFor), ("keyFor", 1, .symbolKeyFor)]
  ++ WellKnown.all.map fun (w, name) => constant (Key.ofString name) (.symbol w.id)

def symbolMethods : List Feature :=
  methods Native.primitive [("toString", 0, .symbolToString), ("valueOf", 0, .symbolValueOf)]
  ++ [.method WellKnown.toPrimitive.key 1 (.primitive .symbolToPrimitive), tag "Symbol",
      getter "description" (.primitive .symbolDescription)]

def mathMembers : List Feature := methods Native.math
  [("min", 2, .min), ("max", 2, .max), ("abs", 1, .abs), ("floor", 1, .floor), ("ceil", 1, .ceil),
   ("round", 1, .round), ("sqrt", 1, .sqrt), ("acos", 1, .acos), ("asin", 1, .asin),
   ("atan", 1, .atan), ("atan2", 2, .atan2), ("cos", 1, .cos), ("exp", 1, .exp), ("log", 1, .log),
   ("pow", 2, .pow), ("sin", 1, .sin), ("tan", 1, .tan), ("trunc", 1, .trunc), ("sign", 1, .sign),
   ("cosh", 1, .cosh), ("sinh", 1, .sinh), ("tanh", 1, .tanh), ("acosh", 1, .acosh),
   ("asinh", 1, .asinh), ("atanh", 1, .atanh), ("expm1", 1, .expm1), ("log1p", 1, .log1p),
   ("log2", 1, .log2), ("log10", 1, .log10), ("cbrt", 1, .cbrt), ("hypot", 2, .hypot),
   ("random", 0, .random), ("fround", 1, .fround), ("imul", 2, .imul), ("clz32", 1, .clz32)]
  ++ [tag "Math",
      constant "E" (.number ⟨0x4005bf0a8b145769⟩), constant "LN10" (.number ⟨0x40026bb1bbb55516⟩),
      constant "LN2" (.number ⟨0x3fe62e42fefa39ef⟩), constant "LOG2E" (.number ⟨0x3ff71547652b82fe⟩),
      constant "LOG10E" (.number ⟨0x3fdbcb7b1526e50e⟩), constant "PI" (.number ⟨0x400921fb54442d18⟩),
      constant "SQRT1_2" (.number ⟨0x3fe6a09e667f3bcd⟩),
      constant "SQRT2" (.number ⟨0x3ff6a09e667f3bcd⟩)]

def mapMethods : List Feature := methods Native.collection
  [("set", 2, .put), ("get", 1, .get), ("has", 1, .has), ("delete", 1, .delete),
   ("clear", 0, .clear), ("forEach", 1, .forEach), ("values", 0, .values), ("keys", 0, .keys),
   ("entries", 0, .entries)]
  ++ [getter "size" (.collection .size), .sameAs WellKnown.iterator.key "entries", tag "Map"]

def setMethods : List Feature := methods Native.collection
  [("add", 1, .add), ("has", 1, .has), ("delete", 1, .delete), ("clear", 0, .clear),
   ("forEach", 1, .forEach), ("values", 0, .values), ("entries", 0, .entries)]
  ++ [getter "size" (.collection .size), .sameAs "keys" "values",
      .sameAs WellKnown.iterator.key "values", tag "Set"]

def promiseStatics : List Feature := methods Native.promise
  [("resolve", 1, .resolve), ("reject", 1, .reject), ("all", 1, .all),
   ("allSettled", 1, .allSettled), ("any", 1, .any), ("race", 1, .race),
   ("withResolvers", 0, .withResolvers), ("try", 1, .try_)]
  ++ [species (.promise .species)]

def promiseMethods : List Feature := methods Native.promise
  [("then", 2, .then), ("catch", 1, .catch), ("finally", 1, .finally)] ++ [tag "Promise"]

def dateFields : List (String × Nat × Nat) :=
  [("FullYear", 0, 3), ("Month", 1, 2), ("Date", 2, 1), ("Hours", 3, 4), ("Minutes", 4, 3),
   ("Seconds", 5, 2), ("Milliseconds", 6, 1)]

def dateMethods : List Feature :=
  methods Native.date
    [("valueOf", 0, .valueOf), ("toString", 0, .toString), ("toUTCString", 0, .toUTCString),
     ("toISOString", 0, .toISOString), ("toDateString", 0, .toDateString),
     ("toTimeString", 0, .toTimeString), ("toLocaleString", 0, .toLocaleString),
     ("toLocaleDateString", 0, .toLocaleDateString),
     ("toLocaleTimeString", 0, .toLocaleTimeString),
     ("getTimezoneOffset", 0, .getTimezoneOffset), ("getTime", 0, .getTime),
     ("getYear", 0, .getYear), ("setTime", 1, .setTime), ("toJSON", 1, .toJSON),
     ("getDay", 0, .get 7 false), ("getUTCDay", 0, .get 7 true)]
  ++ dateFields.flatMap fun (name, field, length) =>
    methods Native.date
      [("get" ++ name, 0, .get field false), ("getUTC" ++ name, 0, .get field true),
       ("set" ++ name, length, .set field false), ("setUTC" ++ name, length, .set field true)]

def patternMethods : List Feature :=
  methods Native.pattern
    [("exec", 1, .exec), ("test", 1, .test), ("toString", 0, .toString), ("compile", 2, .compile)]
  ++ [getter "flags" (.pattern .flags), getter "source" (.pattern .source)]
  ++ (Comp.flagLetters.map fun (letter, name) => getter (Key.ofString name) (.pattern (.flag letter)))
  ++ [.method WellKnown.replace.key 2 (.pattern .symbolReplace),
      .method WellKnown.match.key 1 (.pattern .symbolMatch),
      .method WellKnown.matchAll.key 1 (.pattern .symbolMatchAll),
      .method WellKnown.search.key 1 (.pattern .symbolSearch),
      .method WellKnown.split.key 2 (.pattern .symbolSplit)]

def elementTypes : List ElementType :=
  [.int8, .uint8, .uint8Clamped, .int16, .uint16, .int32, .uint32, .bigInt64, .bigUint64,
   .float32, .float64]

/-- The name of a type in the methods of views. -/
def viewName (t : ElementType) : String := String.ofList (t.name.toList.take (t.name.length - 5))

def viewMethods : List Feature :=
  (elementTypes.filter (· != .uint8Clamped)).flatMap (fun t =>
    methods Native.buffer
      [("get" ++ viewName t, 1, .viewGet t), ("set" ++ viewName t, 2, .viewSet t)])
  ++ [getter "buffer" (.buffer .viewBuffer), getter "byteLength" (.buffer .viewByteLength),
      getter "byteOffset" (.buffer .viewByteOffset), tag "DataView"]

def typedMethods : List Feature :=
  methods Native.typedArray (sequenceMethods ++ [("values", 0, .values)])
  ++ methods Native.buffer [("set", 1, .typedSet), ("subarray", 2, .typedSubarray)]
  ++ [getter "buffer" (.buffer .typedBuffer), getter "byteLength" (.buffer .typedByteLength),
      getter "byteOffset" (.buffer .typedByteOffset), getter "length" (.buffer .typedLength),
      .sameAs WellKnown.iterator.key "values", link "toString" .arrayToString,
      getter WellKnown.toStringTag.key (.buffer .typedTag)]

/-! ### The constructors -/

def errorClass (kind : ErrorKind) : ClassEntry where
  name := kind.name
  length := if kind == .aggregateError then 2 else 1
  native := .error kind
  proto := some (Intrinsic.errorPrototypeOf kind)
  extends_ := if kind == .error then none else some "Error"
  statics := if kind == .error then [.method "captureStackTrace" 2 .captureStackTrace,
    hidden "stackTraceLimit" (.nat Heap.traceLimit)] else []
  methods := (if kind == .error then [.method "toString" 0 .errorToString] else [])
    ++ [hidden "name" (.text kind.name), hidden "message" (.text "")]

def typedClass (t : ElementType) : ClassEntry where
  name := t.name
  length := 3
  native := .buffer (.typed t)
  proto := some (Intrinsic.typedPrototypeOf t)
  extends_ := some "TypedArray"
  statics := [constant "BYTES_PER_ELEMENT" (.nat t.size)]
  methods := [constant "BYTES_PER_ELEMENT" (.nat t.size)]

/-- All constructors. One that others extend comes before them. -/
def classes : List ClassEntry :=
  [{ name := "Object", length := 1, native := .object .construct, proto := some .objectPrototype
     statics := objectStatics, methods := objectMethods },
   { name := "Function", length := 1, native := .function .construct
     proto := some .functionPrototype, methods := functionMethods }]
  ++ ([.error, .evalError, .rangeError, .referenceError, .syntaxError, .typeError, .uriError,
       .internalError, .aggregateError] : List ErrorKind).map errorClass
  ++ [{ name := "Array", length := 1, native := .array .construct, place := some .array
        proto := some .arrayPrototype, statics := arrayStatics, methods := arrayMethods },
      { name := "Number", length := 1, native := .number .construct, proto := some .numberPrototype
        statics := numberStatics, methods := numberMethods },
      { name := "Boolean", length := 1, native := .primitive .boolean
        proto := some .booleanPrototype
        methods := methods Native.primitive
          [("toString", 0, .booleanToString), ("valueOf", 0, .booleanValueOf)] },
      { name := "String", length := 1, native := .string .construct, proto := some .stringPrototype
        statics := stringStatics, methods := stringMethods },
      { name := "Symbol", length := 0, native := .primitive .symbol, proto := some .symbolPrototype
        statics := symbolStatics, methods := symbolMethods },
      { name := "BigInt", length := 1, native := .primitive .bigInt, proto := some .bigIntPrototype
        statics := methods Native.primitive
          [("asUintN", 2, .bigIntAsUintN), ("asIntN", 2, .bigIntAsIntN)]
        methods := methods Native.primitive
          [("toString", 0, .bigIntToString), ("valueOf", 0, .bigIntValueOf)] ++ [tag "BigInt"] },
      { name := "Date", length := 7, native := .date .construct, proto := some .datePrototype
        statics := methods Native.date [("now", 0, .now), ("parse", 1, .parse), ("UTC", 7, .utc)]
        methods := dateMethods ++ [.method WellKnown.toPrimitive.key 1 (.date .toPrimitive)] },
      { name := "RegExp", length := 2, native := .pattern .construct, place := some .pattern
        proto := some .patternPrototype, statics := [species (.pattern .species)]
        methods := patternMethods },
      { name := "Map", length := 0, native := .collection .map, proto := some .mapPrototype
        statics := [species (.collection .species), .method "groupBy" 2 (.collection .groupBy)]
        methods := mapMethods },
      { name := "Set", length := 0, native := .collection .set, proto := some .setPrototype
        statics := [species (.collection .species)], methods := setMethods },
      { name := "WeakMap", length := 0, native := .collection .weakMap
        proto := some .weakMapPrototype
        methods := methods Native.collection
          [("set", 2, .put), ("get", 1, .get), ("has", 1, .has), ("delete", 1, .delete)]
          ++ [tag "WeakMap"] },
      { name := "WeakSet", length := 0, native := .collection .weakSet
        proto := some .weakSetPrototype
        methods := methods Native.collection [("add", 1, .add), ("has", 1, .has), ("delete", 1, .delete)]
          ++ [tag "WeakSet"] },
      { name := "WeakRef", length := 1, native := .collection .weakRef
        proto := some .weakRefPrototype
        methods := methods Native.collection [("deref", 0, .deref)] ++ [tag "WeakRef"] },
      { name := "FinalizationRegistry", length := 1, native := .collection .finalizationRegistry
        proto := some .registryPrototype
        methods := methods Native.collection [("register", 2, .register), ("unregister", 1, .unregister)]
          ++ [tag "FinalizationRegistry"] },
      { name := "Promise", length := 1, native := .promise .construct, place := some .promise
        proto := some .promisePrototype, statics := promiseStatics, methods := promiseMethods },
      { name := "Proxy", length := 2, native := .proxy, proto := none
        statics := [.method "revocable" 2 .proxyRevocable] },
      { name := "ArrayBuffer", length := 1, native := .buffer .construct, place := some .arrayBuffer
        proto := some .bufferPrototype
        statics := methods Native.buffer [("isView", 1, .isView)] ++ [species (.buffer .species)]
        methods := methods Native.buffer [("slice", 2, .slice)]
          ++ [getter "byteLength" (.buffer .byteLength), tag "ArrayBuffer"] },
      { name := "DataView", length := 1, native := .buffer .view, proto := some .viewPrototype
        methods := viewMethods },
      { name := "TypedArray", length := 0, native := .buffer .typedBase, proto := some .typedPrototype
        isGlobal := false
        statics := methods Native.buffer [("from", 1, .typedFrom), ("of", 0, .typedOf)]
          ++ [species (.buffer .species)]
        methods := typedMethods }]
  ++ elementTypes.map typedClass
  ++ [{ name := "GeneratorFunction", length := 1, native := .function .constructGenerator
        proto := some .generatorFunctionPrototype, isGlobal := false, extends_ := some "Function" },
      { name := "AsyncFunction", length := 1, native := .function .constructAsync
        proto := some .asyncFunctionPrototype, isGlobal := false, extends_ := some "Function" },
      { name := "AsyncGeneratorFunction", length := 1, native := .function .constructAsyncGenerator
        proto := some .asyncGeneratorFunctionPrototype, isGlobal := false
        extends_ := some "Function" }]

/-- The members of objects that no constructor is for. -/
def otherMembers : List (Intrinsic × List Feature) :=
  let next (f : IteratorFunction) (name : String) : List Feature :=
    [.method "next" 0 (.iterator f), tag name]
  let sends (a b c : IteratorFunction) : List Feature := methods Native.iterator
    [("next", 1, a), ("return", 1, b), ("throw", 1, c)]
  [(.iteratorPrototype, [.method WellKnown.iterator.key 0 (.iterator .itself)]),
   (.asyncIteratorPrototype, [.method WellKnown.asyncIterator.key 0 (.iterator .asyncItself)]),
   (.arrayIteratorPrototype, next .arrayNext "Array Iterator"),
   (.stringIteratorPrototype, next .stringNext "String Iterator"),
   (.mapIteratorPrototype, next .collectionNext "Map Iterator"),
   (.setIteratorPrototype, next .collectionNext "Set Iterator"),
   (.patternIteratorPrototype, next .patternNext "RegExp String Iterator"),
   (.adapterPrototype, sends .adapterNext .adapterReturn .adapterThrow),
   (.generatorPrototype, sends .generatorNext .generatorReturn .generatorThrow
     ++ [tag "Generator", fixed "constructor" (.object Intrinsic.generatorFunctionPrototype.ref)]),
   (.asyncGeneratorPrototype,
    sends .asyncGeneratorNext .asyncGeneratorReturn .asyncGeneratorThrow
     ++ [tag "AsyncGenerator",
         fixed "constructor" (.object Intrinsic.asyncGeneratorFunctionPrototype.ref)]),
   (.generatorFunctionPrototype,
    [fixed "prototype" (.object Intrinsic.generatorPrototype.ref), tag "GeneratorFunction"]),
   (.asyncFunctionPrototype, [tag "AsyncFunction"]),
   (.asyncGeneratorFunctionPrototype,
    [fixed "prototype" (.object Intrinsic.asyncGeneratorPrototype.ref), tag "AsyncGeneratorFunction"])]

/-- The functions of the global object. -/
def globalMembers : List Feature :=
  methods Native.number
    [("parseInt", 2, .parseInt), ("parseFloat", 1, .parseFloat), ("isNaN", 1, .globalIsNaN),
     ("isFinite", 1, .globalIsFinite)]
  ++ methods Native.global
    [("queueMicrotask", 1, .queueMicrotask), ("decodeURI", 1, .decodeURI),
     ("decodeURIComponent", 1, .decodeURIComponent), ("encodeURI", 1, .encodeURI),
     ("encodeURIComponent", 1, .encodeURIComponent), ("escape", 1, .escape),
     ("unescape", 1, .unescape)]
  ++ [constant "Infinity" (.number (Double.infinity false)), constant "NaN" (.number .nan),
      constant "undefined" .undefined, link "globalThis" .global, link "eval" .evalFunction,
      tag "global"]

/-- What scripts print with, and the level of each. -/
def printers : List (String × Log.Level) :=
  [("log", .info), ("info", .info), ("debug", .debug), ("warn", .warn), ("error", .error)]

end Tables

/-! ### Building the heap -/

/-- The kind and prototype of an object that has its place from the start. -/
def startOf (i : Intrinsic) : Kind × Option Intrinsic :=
  let plain : Kind × Option Intrinsic := (.ordinary, some .objectPrototype)
  let function (f : Native) (constructs : Bool) : Kind × Option Intrinsic :=
    (.native f constructs, some .functionPrototype)
  match i with
  | .objectPrototype => (.ordinary, none)
  | .functionPrototype => (.native (.function .prototype) false, some .objectPrototype)
  | .arrayPrototype => (.array #[] 0 false, some .objectPrototype)
  | .evalErrorPrototype | .rangeErrorPrototype | .referenceErrorPrototype | .syntaxErrorPrototype
  | .typeErrorPrototype | .uriErrorPrototype | .internalErrorPrototype | .aggregateErrorPrototype =>
    (.ordinary, some .errorPrototype)
  | .booleanPrototype => (.boolean false, some .objectPrototype)
  | .numberPrototype => (.number (.zero false), some .objectPrototype)
  | .stringPrototype => (.string "", some .objectPrototype)
  | .arrayIteratorPrototype | .stringIteratorPrototype | .mapIteratorPrototype
  | .setIteratorPrototype | .patternIteratorPrototype | .wrapperPrototype | .generatorPrototype =>
    (.ordinary, some .iteratorPrototype)
  | .adapterPrototype | .asyncGeneratorPrototype => (.ordinary, some .asyncIteratorPrototype)
  | .generatorFunctionPrototype | .asyncFunctionPrototype | .asyncGeneratorFunctionPrototype =>
    (.ordinary, some .functionPrototype)
  | .int8Prototype | .uint8Prototype | .uint8ClampedPrototype | .int16Prototype
  | .uint16Prototype | .int32Prototype | .uint32Prototype | .bigInt64Prototype
  | .bigUint64Prototype | .float32Prototype | .float64Prototype => (.ordinary, some .typedPrototype)
  | .promise => function (.promise .construct) true
  | .array => function (.array .construct) true
  | .arrayBuffer => function (.buffer .construct) true
  | .pattern => function (.pattern .construct) true
  | .arrayValues => function (.array .values) false
  | .arrayToString => function (.array .toString) false
  | .throwTypeError => function (.function .throwTypeError) false
  | .evalFunction => function (.global .eval) false
  | _ => plain

/-- The objects that have their places from the start, in order. -/
def placed : List Intrinsic :=
  [.objectPrototype, .functionPrototype, .arrayPrototype, .errorPrototype, .evalErrorPrototype,
   .rangeErrorPrototype, .referenceErrorPrototype, .syntaxErrorPrototype, .typeErrorPrototype,
   .uriErrorPrototype, .internalErrorPrototype, .aggregateErrorPrototype, .booleanPrototype,
   .numberPrototype, .stringPrototype, .symbolPrototype, .bigIntPrototype, .datePrototype,
   .patternPrototype, .mapPrototype, .setPrototype, .weakMapPrototype, .weakSetPrototype,
   .weakRefPrototype, .registryPrototype, .promisePrototype, .iteratorPrototype,
   .asyncIteratorPrototype, .arrayIteratorPrototype, .stringIteratorPrototype,
   .mapIteratorPrototype, .setIteratorPrototype, .patternIteratorPrototype, .adapterPrototype,
   .wrapperPrototype, .generatorPrototype, .asyncGeneratorPrototype, .generatorFunctionPrototype,
   .asyncFunctionPrototype, .asyncGeneratorFunctionPrototype, .bufferPrototype, .typedPrototype,
   .viewPrototype, .int8Prototype, .uint8Prototype, .uint8ClampedPrototype, .int16Prototype,
   .uint16Prototype, .int32Prototype, .uint32Prototype, .bigInt64Prototype, .bigUint64Prototype,
   .float32Prototype, .float64Prototype, .promise, .array, .arrayBuffer, .pattern, .arrayValues,
   .arrayToString, .throwTypeError, .evalFunction, .global]

/-- The heap with nothing but the placed objects and the symbols of the language. -/
def bare : Heap where
  objects := (placed.map fun i =>
    let (kind, proto) := startOf i
    ({ kind := kind, proto := proto.map (·.ref) } : Object)).toArray
  cells := #[]
  symbols := (WellKnown.all.map fun (_, name) =>
    ({ description := some (.text ("Symbol." ++ name)) } : Symbol)).toArray
  globalNames := []
  jobs := []
  modules := #[]
  activations := []
  depth := 0
  quota := {}
  used := 0
  printed := []
  templates := []
  retained := {}

def put (h : Heap) (r : Ref) (k : Key) (p : Property) : Heap := h.modifyObject r (·.put k p)

/-- The name of the function of a member. -/
def featureName (h : Heap) (k : Key) : String :=
  match k with
  | .symbol id => "[" ++ ((h.symbol id).description.getD "").display ++ "]"
  | k => (k.text?.getD "").display

/-- Adds a built-in function. -/
def addFunction (h : Heap) (f : Native) (length : Nat) (name : String) (constructs : Bool)
    (proto : Ref) : Ref × Heap :=
  h.allocate {
    kind := .native f constructs, proto := some proto
    props := #[Comp.lengthProperty length, Comp.nameProperty (.text name)] }

def addFeature (h : Heap) (r : Ref) (m : Feature) : Heap :=
  let function (h : Heap) (f : Native) (length : Nat) (name : String) : Ref × Heap :=
    addFunction h f length name false Intrinsic.functionPrototype.ref
  match m with
  | .method key length f =>
    let (g, h) := function h f length (featureName h key)
    put h r key (.hiddenPlain (.object g))
  | .accessor key get set =>
    let name := featureName h key
    let (g, h) := function h get 0 ("get " ++ name)
    match set with
    | none => put h r key ⟨.accessor (.object g) .undefined, false, true⟩
    | some set =>
      let (s, h) := function h set 1 ("set " ++ name)
      put h r key ⟨.accessor (.object g) (.object s), false, true⟩
  | .value key p => put h r key p
  | .sameAs key other =>
    match (h.object r).find? other with
    | some p => put h r key p
    | none => h

def addFeatures (h : Heap) (r : Ref) (ms : List Feature) : Heap := ms.foldl (addFeature · r) h

/-- Adds a constructor; gives the constructors so far by name. -/
def addClass (state : List (String × Ref) × Heap) (c : ClassEntry) : List (String × Ref) × Heap :=
  let (known, h) := state
  let parent := (c.extends_.bind (List.lookup · known)).getD Intrinsic.functionPrototype.ref
  let (r, h) := match c.place with
    | some i =>
      (i.ref, put (put h i.ref "length" (Comp.lengthProperty c.length).2) i.ref "name"
        (Comp.nameProperty (.text c.name)).2)
    | none => addFunction h c.native c.length c.name c.constructs parent
  let h := match c.proto with
    | some i =>
      let h := put h r "prototype" (.constant (.object i.ref))
      let p : Property := if c.isGlobal || c.name == "TypedArray" then .hiddenPlain (.object r)
        else ⟨.data (.object r) false, false, true⟩
      let h := put h i.ref "constructor" p
      addFeatures h i.ref c.methods
    | none => h
  let h := addFeatures h r c.statics
  let h := if c.isGlobal then put h Intrinsic.global.ref (Key.ofString c.name) (.hiddenPlain (.object r))
    else h
  ((c.name, r) :: known, h)

/-- Adds a plain object with members as a property of the global object. -/
def addObject (h : Heap) (name : String) (ms : List Feature) : Heap :=
  let (r, h) := h.allocate { kind := .ordinary, proto := some Intrinsic.objectPrototype.ref }
  put (addFeatures h r ms) Intrinsic.global.ref (Key.ofString name) (.hiddenPlain (.object r))

/-- Adds the functions that print, as the host does: as properties like any other. -/
def addPrinters (h : Heap) : Heap :=
  let (r, h) := h.allocate { kind := .ordinary, proto := some Intrinsic.objectPrototype.ref }
  let h := printers.foldl (fun h (name, level) =>
    let (f, h) := addFunction h (.console level) 0 "" false Intrinsic.functionPrototype.ref
    put h r (Key.ofString name) (.plain (.object f))) h
  put h Intrinsic.global.ref "console" (.plain (.object r))

/-- Gives a placed function its length and name. -/
def nameFunction (h : Heap) (i : Intrinsic) (length : Nat) (name : String) : Heap :=
  put (put h i.ref "length" (Comp.lengthProperty length).2) i.ref "name"
    (Comp.nameProperty (.text name)).2

/-- The heap of a new engine. -/
def initial : Heap :=
  let h := bare
  let h := nameFunction h .functionPrototype 0 ""
  let h := nameFunction h .arrayValues 0 "values"
  let h := nameFunction h .arrayToString 0 "toString"
  let h := nameFunction h .throwTypeError 0 ""
  let h := nameFunction h .evalFunction 1 "eval"
  let h := put h Intrinsic.arrayPrototype.ref "length" (.constant (.nat 0))
  let thrower := Value.object Intrinsic.throwTypeError.ref
  let h := put h Intrinsic.functionPrototype.ref "caller" ⟨.accessor thrower thrower, false, true⟩
  let h := put h Intrinsic.functionPrototype.ref "arguments" ⟨.accessor thrower thrower, false, true⟩
  let h := addFeatures h Intrinsic.global.ref globalMembers
  let (_, h) := classes.foldl addClass ([], h)
  let h := otherMembers.foldl (fun h (i, ms) => addFeatures h i.ref ms) h
  let h := addObject h "Math" mathMembers
  let h := addObject h "Reflect" reflectMembers
  let h := addObject h "JSON" [.method "parse" 2 .jsonParse, .method "stringify" 3 .jsonStringify,
    Feature.tag "JSON"]
  let h := shareGlobal h "Number" "parseInt"
  let h := shareGlobal h "Number" "parseFloat"
  addPrinters h
where
  /-- Makes a function of the global object a member of a constructor too. -/
  shareGlobal (h : Heap) (constructor name : String) : Heap :=
    let global := Intrinsic.global.ref
    match (h.object global).find? (Key.ofString constructor), (h.object global).find? (Key.ofString name) with
    | some c, some p =>
      match c.value? with
      | some (.object r) => put h r (Key.ofString name) p
      | _ => h
    | _, _ => h

end Realm

end ScriptHost.Script
