import ScriptHost.Script.Heap

/-! Computations of the script engine. A computation is a tree: it acts on the heap, hands
parts of its work to tasks, watches for faults, or stops so that a coroutine can go on
later. What a task does is a tree again, so no computation is recursive and all of them
end or ask for another task; only the machine that carries them out needs a bound. -/

namespace ScriptHost.Script

/-- How a part of a computation ends when nothing goes wrong. -/
inductive Result where
  | value (v : Value)
  | flag (b : Bool)
  | keys (ks : List Key)
  | property (p : Option Property)
  | broke (label : Option Name)
  | continued (label : Option Name)
  | returned (v : Value)
  /-- An optional access found nothing to go on with. -/
  | gaveUp
deriving DecidableEq, Repr, Inhabited

/-- Why a computation does not end in a result. -/
inductive Fault where
  | thrown (v : Value)
  /-- A generator is made to return where it stands. -/
  | leaving (v : Value)
  /-- The time of the command is over. No script can catch it. -/
  | interrupted (v : Value)
deriving DecidableEq, Repr, Inhabited

/-- What a coroutine gives when it stops. -/
inductive Stop where
  | yielded (v : Value)
  /-- The step of an iterator, passed on as it is. -/
  | passed (step : Value)
  | awaiting (v : Value)
  | finished (r : Result)
  | failed (f : Fault)
deriving DecidableEq, Repr, Inhabited

mutual

/-- What one computation can ask others to do. -/
inductive Task where
  | expr (e : Expr) (scope : Scope)
  /-- An expression whose value takes a name if it is a function without one. -/
  | named (e : Expr) (name : Utf16) (scope : Scope)
  | stmt (s : Stmt) (scope : Scope)
  | call (f this : Value) (args : List Value)
  | construct (f : Value) (args : List Value) (newTarget : Value)
  | getPrototype (r : Ref)
  | setPrototype (r : Ref) (proto : Option Ref)
  | isExtensible (r : Ref)
  | preventExtensions (r : Ref)
  | getOwn (r : Ref) (k : Key)
  | define (r : Ref) (k : Key) (d : Definition)
  | has (r : Ref) (k : Key)
  | get (r : Ref) (k : Key) (receiver : Value)
  | set (r : Ref) (k : Key) (v receiver : Value)
  | delete (r : Ref) (k : Key)
  | ownKeys (r : Ref)
  /-- Does something again and again as long as it ends in a value. It is told how often it
  was done before. -/
  | again (index : Nat) (f : Nat → Prog)
  /-- Does something for each item of an iterator as long as it ends in a value. It is told
  how many items came before. An iterator that is left early is closed. -/
  | each (iterator next : Value) (isAwait : Bool) (index : Nat) (f : Nat → Value → Prog)
  /-- Binds or assigns a value to a pattern. A kind of declaration binds. -/
  | bind (p : Pattern) (v : Value) (kind : Option DeclKind) (scope : Scope)
  /-- Hands what a generator receives on to another iterator, until that one is done. -/
  | delegate (iterator next : Value) (isAsync : Bool) (received : Signal)
  /-- Lets an asynchronous function go on. -/
  | advance (waiting : Waiting) (signal : Signal)
  /-- Lets an asynchronous generator go on, or serves the next request that it has. -/
  | advanceGenerator (generator : Ref) (signal : Signal)
  | drain (generator : Ref)
  /-- Evaluates a module after those that it needs. -/
  | evaluateModule (index : Nat)
  | job (j : Job)
  /-- Runs jobs until a promise is settled or none is left; counts them. -/
  | jobs (until_ : Option Ref) (count : Nat)

/-- A computation as a tree. -/
inductive Prog where
  | done (r : Result)
  | fail (f : Fault)
  | act (f : Heap → Heap × Prog)
  /-- Does a task, then goes on with its result. -/
  | request (t : Task) (k : Result → Prog)
  /-- Does a task in place of the rest. -/
  | become (t : Task)
  /-- Does a part and goes on with its result or its fault. -/
  | guarded (body : Prog) (k : Except Fault Result → Prog)
  /-- Makes a coroutine that begins with what it is sent first. -/
  | spawn (body : Signal → Prog) (k : Nat → Prog)
  /-- Lets a coroutine go on until it stops. -/
  | resume (coroutine : Nat) (signal : Signal) (k : Stop → Prog)
  /-- Stops the coroutine under way. -/
  | suspend (stop : Stop) (k : Signal → Prog)

end

instance : Inhabited Prog := ⟨.done (.value .undefined)⟩

/-- A computation with a result, written in the style of what follows it. -/
def Comp (α : Type) := (α → Prog) → Prog

namespace Comp

variable {α β : Type}

instance : Monad Comp where
  pure a := fun k => k a
  bind c f := fun k => c fun a => f a k

instance : Inhabited (Comp α) := ⟨fun _ => default⟩

/-- Looks at the heap. -/
@[inline] def read (f : Heap → α) : Comp α := fun k =>
  .act fun h =>
    let a := f h
    (h, k a)

/-- Changes the heap. -/
@[inline] def update (f : Heap → Heap) : Comp Unit := fun k => .act fun h => (f h, k ())

/-- Changes the heap and takes something from it. -/
@[inline] def change (f : Heap → α × Heap) : Comp α := fun k =>
  .act fun h =>
    let (a, h) := f h
    (h, k a)

def fault (f : Fault) : Comp α := fun _ => .fail f

def throw (v : Value) : Comp α := fault (.thrown v)

def ask (t : Task) : Comp Result := fun k => .request t k

/-- Does a task that gives a value. -/
def askValue (t : Task) : Comp Value := fun k =>
  .request t fun
    | .value v => k v
    | .flag b => k (.bool b)
    | _ => k .undefined

def askFlag (t : Task) : Comp Bool := fun k =>
  .request t fun
    | .flag b => k b
    | _ => k false

def askKeys (t : Task) : Comp (List Key) := fun k =>
  .request t fun
    | .keys ks => k ks
    | _ => k []

def askProperty (t : Task) : Comp (Option Property) := fun k =>
  .request t fun
    | .property p => k p
    | _ => k none

/-- Does a part that ends in a result and gives its fault if it has one. -/
def attempt (c : Comp Result) : Comp (Except Fault Result) := fun k => .guarded (c .done) k

/-- Does a part that ends in a value; a value that it throws is given as an error. Faults
of other kinds go through. -/
def attemptValue (c : Comp Value) : Comp (Except Value Value) := fun k =>
  .guarded (c fun v => .done (.value v)) fun
    | .ok (.value v) => k (.ok v)
    | .ok _ => k (.ok .undefined)
    | .error (.thrown v) => k (.error v)
    | .error f => .fail f

/-- Does a task in place of what would follow. -/
def become (t : Task) : Comp α := fun _ => .become t

/-- Does a part that is given as a tree, and gives its fault if it has one. -/
def attemptProg (p : Prog) : Comp (Except Fault Result) := fun k => .guarded p k

/-- Waits for a value, inside of an asynchronous function. -/
def awaitHere (v : Value) : Comp Value := fun k =>
  .suspend (.awaiting v) fun
    | .next v => k v
    | .fail e => .fail (.thrown e)
    | .leave v => .fail (.leaving v)

def spawn (body : Signal → Comp Result) : Comp Nat := fun k => .spawn (fun s => body s .done) k

def resume (coroutine : Nat) (s : Signal) : Comp Stop := fun k => .resume coroutine s k

/-- Stops the coroutine under way and gives what it is sent. -/
def suspend (stop : Stop) : Comp Signal := fun k => .suspend stop k

/-- The computation of a value as a tree. -/
def toProg (c : Comp Value) : Prog := c fun v => .done (.value v)

def ofResult (c : Comp Result) : Prog := c .done

/-- Does something for each item of a list. -/
def forEach (items : List α) (f : α → Comp Unit) : Comp Unit :=
  match items with
  | [] => pure ()
  | item :: rest => do
    f item
    forEach rest f

def mapList (items : List α) (f : α → Comp β) : Comp (List β) :=
  match items with
  | [] => pure []
  | item :: rest => do
    let first ← f item
    let more ← mapList rest f
    return first :: more

/-- Does something for the numbers from `start`, `count` of them, as long as it says so. -/
def countUp (count : Nat) (start : Nat) (f : Nat → Comp Bool) : Comp Unit :=
  match count with
  | 0 => pure ()
  | count + 1 => do
    if ← f start then countUp count (start + 1) f

/-- Passes a state through the numbers from `start`, `count` of them. -/
def foldUp (count : Nat) (start : Nat) (state : β) (f : Nat → β → Comp β) : Comp β :=
  match count with
  | 0 => pure state
  | count + 1 => do
    let state ← f start state
    foldUp count (start + 1) state f

def foldList (items : List α) (state : β) (f : α → β → Comp β) : Comp β :=
  match items with
  | [] => pure state
  | item :: rest => do
    let state ← f item state
    foldList rest state f

end Comp

end ScriptHost.Script
