import ScriptHost.Script.Grammar.Program
import ScriptHost.Script.Native

/-! The state of a script engine: objects, variables, symbols, modules and jobs. Nothing
in it is a running computation, so a state can be looked at, compared and kept. -/

namespace ScriptHost.Script

/-! ### Scopes -/

inductive BindingKind where
  | variable | lexical | constant
  /-- The name of a function expression inside of the function. -/
  | callee
deriving DecidableEq, Repr, Inhabited

structure Binding where
  name : Name
  cell : Cell
  kind : BindingKind
deriving DecidableEq, Repr, Inhabited

/-- One step of the way from code outward to the names that it can see. -/
inductive Link where
  | names (bindings : List Binding)
  /-- The properties of an object: of `with`, or the variables that `eval` adds. -/
  | object (r : Ref) (isWith : Bool)
  /-- The boundary of a function that is no arrow function. The cell holds `this`. -/
  | function (callee : Ref) (newTarget : Value) (this : Cell)
  /-- The boundary of a module, whose `this` is undefined. -/
  | module (index : Nat)
deriving DecidableEq, Repr, Inhabited

/-- Where code runs. -/
structure Scope where
  links : List Link := []
  strict : Bool := false
  file : String := ""
  /-- Receives the value of each expression statement of a program. -/
  completion : Option Cell := none
deriving Inhabited

/-! ### Objects -/

/-- A field that a class gives to each instance, with the function that computes its
value. The function is told whether its value takes its name from the field. -/
structure ClassField where
  key : Key
  value : Option Ref
deriving DecidableEq, Repr, Inhabited

/-- A function of the script. -/
structure Closure where
  code : Function
  scope : Scope
  /-- Where `super` looks for properties. -/
  home : Option Ref := none
  /-- The fields that a class gives to its instances, with the functions of their values,
  and the private methods. -/
  fields : List ClassField := []
  hiddenMethods : List (Key × Property) := []
deriving Inhabited

inductive PromiseStatus where
  | pending | fulfilled | rejected
deriving DecidableEq, Repr, Inhabited

/-- The promise and functions that a reaction settles. -/
structure Capability where
  promise : Value
  resolve : Value
  reject : Value
deriving DecidableEq, Repr, Inhabited

structure Reaction where
  capability : Option Capability
  /-- What is called with the outcome; if it is no function the outcome passes on. -/
  handler : Value
  rejects : Bool
deriving DecidableEq, Repr, Inhabited

inductive GeneratorStatus where
  | waiting | running | finished
deriving DecidableEq, Repr, Inhabited

/-- What is sent into a suspended computation. -/
inductive Signal where
  | next (v : Value)
  | fail (v : Value)
  | leave (v : Value)
deriving DecidableEq, Repr, Inhabited

/-- A request to an asynchronous generator that waits for its turn. -/
structure Request where
  signal : Signal
  capability : Capability
deriving DecidableEq, Repr, Inhabited

inductive AsyncStatus where
  | fresh | suspended | running | awaitingReturn | finished
deriving DecidableEq, Repr, Inhabited

/-- What an iteration over something yields. -/
inductive IterationKind where
  | keys | values | entries
deriving DecidableEq, Repr, Inhabited

/-- What an object is besides its properties. -/
inductive Kind where
  | ordinary
  /-- The items are the elements from the front that are present and unrestricted; all
  others are properties. -/
  | array (items : Array Value) (length : Nat) (fixedLength : Bool)
  | closure (c : Closure)
  | native (f : Native) (constructs : Bool)
  | bound (target : Ref) (this : Value) (args : List Value)
  | error
  | boolean (b : Bool)
  | number (d : Double)
  | string (s : Utf16)
  | symbol (id : Nat)
  | bigInt (i : Int)
  | date (time : Double)
  | pattern (source flags : Utf16)
  /-- A map or set; an entry that was deleted leaves a gap, which keeps iterations in
  place. -/
  | map (entries : Array (Option (Value × Value)))
  | set (entries : Array (Option (Value × Value)))
  | weakMap (entries : Array (Option (Value × Value)))
  | weakSet (entries : Array (Option (Value × Value)))
  | weakRef (target : Value)
  | registry
  | promise (status : PromiseStatus) (value : Value) (reactions : List (Reaction × Reaction))
  | proxy (target : Ref) (handler : Option Ref) (callable constructs : Bool)
  | generator (coroutine : Nat) (frame : Activation) (status : GeneratorStatus)
  | asyncGenerator (coroutine : Nat) (frame : Activation) (status : AsyncStatus)
      (queue : List Request)
  /-- Arguments of sloppy code share their variables with the parameters. -/
  | arguments (shared : List (Option Cell))
  | buffer (bytes : Array UInt8)
  | typed (type : ElementType) (buffer : Ref) (offset length : Nat)
  | view (buffer : Ref) (offset length : Nat)
  | namespace (module : Nat)
  | arrayIterator (target : Option Ref) (next : Nat) (kind : IterationKind)
  | collectionIterator (target : Option Ref) (next : Nat) (kind : IterationKind)
  | stringIterator (rest : List Nat)
  | patternIterator (pattern : Value) (text : Utf16) (isGlobal unicode done : Bool)
  /-- An ordinary iterator used as an asynchronous one. -/
  | adapter (iterator next : Value)
  | wrapper (iterator next : Value)
deriving Inhabited

structure Object where
  kind : Kind
  proto : Option Ref
  extensible : Bool := true
  props : Array (Key × Property) := #[]
deriving Inhabited

namespace Object

/-- The property of a key in the order of insertion. -/
def find? (o : Object) (k : Key) : Option Property :=
  match o.props.find? (fun p => p.1 == k) with
  | some (_, p) => some p
  | none => none

/-- Puts a property in the place of the one of its key, or last. -/
def put (o : Object) (k : Key) (p : Property) : Object :=
  match o.props.findIdx? (fun q => q.1 == k) with
  | some i => { o with props := o.props.set! i (k, p) }
  | none => { o with props := o.props.push (k, p) }

def drop (o : Object) (k : Key) : Object :=
  match o.props.findIdx? (fun q => q.1 == k) with
  | some i => { o with props := o.props.eraseIdxIfInBounds i }
  | none => o

def isArray (o : Object) : Bool :=
  match o.kind with
  | .array .. => true
  | _ => false

end Object

/-! ### Modules and jobs -/

inductive ModuleStatus where
  | unlinked | linked | evaluating | evaluatingAsync | evaluated
deriving DecidableEq, Repr, Inhabited

structure Module where
  name : String
  program : Program
  /-- The modules of the requests, once they are found. -/
  requested : List Nat := []
  status : ModuleStatus := .unlinked
  linked : Bool := false
  bindings : List Binding := []
  namespaceObject : Option Ref := none
  metaObject : Option Ref := none
  promise : Option Ref := none
deriving Inhabited

/-- Work that waits until no script runs. -/
inductive Job where
  | react (r : Reaction) (argument : Value)
  | adopt (promise : Ref) (thenable method : Value)
  | call (f : Value)
  | importModule (base : String) (specifier : Value) (resolve reject : Value)
deriving DecidableEq, Repr, Inhabited

structure Symbol where
  description : Option Utf16
  /-- The key under which it is registered for everyone. -/
  registered : Option Utf16 := none
deriving DecidableEq, Repr, Inhabited

/-- What one engine may use. -/
structure Quota where
  /-- Bytes for objects and text; none is no limit. -/
  memory : Option Nat := none
  /-- Calls inside of each other. -/
  calls : Nat := 1000
deriving DecidableEq, Repr, Inhabited

/-- The functions that the host keeps, by id, and the last id given out. -/
structure Retained where
  last : Nat := 0
  functions : List (Nat × Ref) := []
deriving DecidableEq, Repr, Inhabited

structure Heap where
  objects : Array Object
  cells : Array (Option Value)
  symbols : Array Symbol
  /-- The lexical names of all scripts. -/
  globalNames : List Binding
  jobs : List Job
  modules : Array Module
  activations : List Activation
  depth : Nat
  quota : Quota
  used : Nat
  /-- What the script printed, the latest first. -/
  printed : List (Log.Level × String)
  /-- The objects that tag functions get, by the place and the texts of the template. -/
  templates : List ((Nat × List Utf16) × Ref)
  retained : Retained
deriving Inhabited

namespace Heap

def object (h : Heap) (r : Ref) : Object := h.objects.getD r default

def kind (h : Heap) (r : Ref) : Kind := (h.object r).kind

def proto (h : Heap) (r : Ref) : Option Ref := (h.object r).proto

def modifyObject (h : Heap) (r : Ref) (f : Object → Object) : Heap :=
  { h with objects := h.objects.modify r f }

def setKind (h : Heap) (r : Ref) (kind : Kind) : Heap :=
  h.modifyObject r fun o => { o with kind := kind }

/-- Adds an object. -/
def allocate (h : Heap) (o : Object) : Ref × Heap :=
  let r := h.objects.size
  (r, { h with objects := h.objects.push o })

def newCell (h : Heap) (v : Option Value) : Cell × Heap :=
  let c := h.cells.size
  (c, { h with cells := h.cells.push v })

/-- The value of a variable, unless it is not set yet. -/
def cell (h : Heap) (c : Cell) : Option Value := h.cells.getD c none

def setCell (h : Heap) (c : Cell) (v : Option Value) : Heap :=
  { h with cells := h.cells.setIfInBounds c v }

def newSymbol (h : Heap) (s : Symbol) : Nat × Heap :=
  (h.symbols.size, { h with symbols := h.symbols.push s })

def symbol (h : Heap) (id : Nat) : Symbol := h.symbols.getD id default

def enqueue (h : Heap) (j : Job) : Heap := { h with jobs := h.jobs ++ [j] }

/-- Can the object be called? -/
def isCallable (h : Heap) (r : Ref) : Bool :=
  match h.kind r with
  | .closure _ | .native .. | .bound .. => true
  | .proxy _ _ callable _ => callable
  | _ => false

def callable (h : Heap) : Value → Bool
  | .object r => h.isCallable r
  | _ => false

/-- Can the object be used with `new`? The answer for a bound function is that of its
target, which is older, so looking at most `limit` times is enough. -/
def constructs (h : Heap) : Nat → Ref → Bool
  | 0, _ => false
  | limit + 1, r =>
    match h.kind r with
    | .closure c =>
      match c.code.info.kind with
      | .normal => !c.code.info.isAsync && !c.code.info.isGenerator
      | .constructor | .derivedConstructor => true
      | _ => false
    | .native _ constructs => constructs
    | .bound target _ _ => h.constructs limit target
    | .proxy _ _ _ constructs => constructs
    | _ => false

def isConstructor (h : Heap) (v : Value) : Bool :=
  match v with
  | .object r => h.constructs (h.objects.size + 1) r
  | _ => false

end Heap

end ScriptHost.Script
