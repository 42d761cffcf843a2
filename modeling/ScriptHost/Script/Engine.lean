import ScriptHost.Engine.Kind
import ScriptHost.Script.Exchange

/-! The script engine as the host knows it: what each command does, within the limits that
the engine was made with. -/

namespace ScriptHost

structure ScriptEngine where
  handle : Nat
  limits : EngineLimits
  heap : Script.Heap
  /-- The functions that stand still in the middle. -/
  coroutines : Array (Option Script.Parked) := #[]

namespace ScriptEngine

open Script Script.Host

/-- How many functions are kept for the host. -/
def retainedCount (e : ScriptEngine) : Nat := e.heap.retained.functions.length

/-! ### Limits -/

/-- The bytes that the objects of a fresh engine count for. -/
def baseline : Nat := 230000

/-- The stack that a call takes. -/
def callSize : Nat := 600

/-- The stack of an engine that has no limit of its own. -/
def defaultStack : Nat := 1024 * 1024

/-- The tasks that a command may begin in a millisecond. -/
def tasksPerMs : Nat := 10000

def quota (limits : EngineLimits) : Quota where
  memory := if limits.memory = 0 then none else some limits.memory.toNat
  calls := (if limits.stack = 0 then defaultStack else limits.stack.toNat) / callSize

/-- The tasks that one command may begin. -/
def budget (limits : EngineLimits) : Option Nat :=
  if limits.timeout = 0 then none else some (limits.timeout.toNat * tasksPerMs)

/-- How near to the memory limit a thrown `null` is taken to mean that there was no memory
for an error. -/
def headroom : Nat := 64 * 1024

/-! ### Making an engine -/

/-- Who says what engines do. -/
def logTarget : String := "quickjs_bridge::quickjs"

/-- Who says what scripts print. -/
def consoleTarget : String := "js_console"

def create (handle : Nat) (limits : EngineLimits) : Outcome ScriptEngine × List Log.Record :=
  if limits.memory != 0 && limits.memory.toNat ≤ baseline then
    (.error (.invalidArgument ("memory limit of " ++ toString limits.memory
      ++ " bytes is below the engine's baseline of " ++ toString baseline ++ " bytes")), [])
  else
    let heap : Heap := { Realm.initial with quota := quota limits, used := baseline }
    (.value { handle := handle, limits := limits, heap := heap },
     [{ level := .info, target := logTarget, message := "quickjs engine created"
        values := [("engine", toString handle), ("memory_limit", toString limits.memory),
          ("stack_limit", toString limits.stack), ("timeout_ms", toString limits.timeout)] }])

/-! ### Commands -/

/-- Waits for a value that is a promise: runs jobs until it is settled. -/
def settle (v : Value) : Host Value := do
  match v with
  | .object r =>
    if ← look fun h => match h.kind r with
      | .promise .. => true
      | _ => false
    then
      discard (exec (Comp.askValue (.jobs (some r) 0)).toProg)
      match ← look (·.kind r) with
      | .promise .fulfilled v _ => return v
      | .promise .rejected e _ => fail (.thrown e)
      | _ => failWith "promise cannot settle: job queue is empty" none
    else return v
  | v => return v

/-- The place of the first NUL in the bytes of a text. -/
def nulPlace? (s : String) : Option Nat :=
  let before := s.toList.takeWhile (· != '\x00')
  let size := (String.ofList before).utf8ByteSize
  if size < s.utf8ByteSize then some size else none

/-- The file name of scripts and modules that have none. -/
def scriptName : String := "eval_script"

def moduleName : String := "module.js"

def evalScript (request : EvalRequest) (strict : Bool) : Host Value := do
  let file := request.fileName.getD scriptName
  if (nulPlace? file).isSome then
    throw (.invalidArgument "file name must not contain NUL")
  demand do
    Comp.runScript (← Comp.readProgram .script strict file request.source {})

/-- Evaluates a module; its value is the object of its exports. -/
def evalModule (request : EvalRequest) : Host Value := do
  let name := request.fileName.getD moduleName
  if let some place := nulPlace? name then
    failWith ("String contained internal null bytes: nul byte found in provided data at position: "
      ++ toString place) none
  let index ← match ← exec (Comp.declareModule name request.source
      fun index => .done (.value (.nat index))) with
    | .ok (.value (.number d)) => pure (d.toInt?.getD 0).toNat
    | .ok _ => pure 0
    | .error f => fail f
  discard (settle (← demand (Comp.startModule index)))
  demand do return .object (← Comp.namespaceOf index)

def evaluate (limits : EngineLimits) (request : EvalRequest) : Host Datum := do
  let v ← if request.asModule then evalModule request
    else do
      let v ← evalScript request (request.strict.getD limits.strict)
      if limits.settlePromises then settle v else pure v
  exportValue v

/-- Follows a path from a value; gives what it leads to and what that belongs to. -/
def follow (path : String) (parent current : Value) : List String → Host (Value × Value)
  | [] => return (parent, current)
  | segment :: rest => do
    match current with
    | .object r =>
      let next ← demand (Comp.get r (Key.ofString segment))
      follow path current next rest
    | _ => typeError ("\x60" ++ path ++ "\x60 is not a function")

/-- The function that a reference means, with what is `this` in its call. -/
def resolve (target : FunctionRef) : Host (Value × Value) := do
  match target with
  | .retained id => return (.object (← restore id.toNat), .undefined)
  | .path path =>
    let segments := path.splitOn "."
    if segments.any (· == "") then
      throw (.invalidArgument ("invalid function path \x60" ++ path ++ "\x60"))
    let (parent, f) ← follow path .undefined (.object Intrinsic.global.ref) segments
    if ← look (·.callable f) then return (f, parent)
    typeError ("\x60" ++ path ++ "\x60 is not a function")

def call (limits : EngineLimits) (request : CallRequest) : Host Datum := do
  let (f, this) ← resolve request.function
  let args ← request.args.mapM (copyIn 0)
  let v ← demand (Comp.call f this args)
  exportValue (← if limits.settlePromises then settle v else pure v)

def setGlobal (a : GlobalAssignment) : Host Datum := do
  let v ← copyIn 0 a.value
  discard (demand do
    Comp.set Intrinsic.global.ref (Key.ofString a.name) v
    return .undefined)
  return .undefined

def getGlobal (name : String) : Host Datum := do
  exportValue (← demand (Comp.get Intrinsic.global.ref (Key.ofString name)))

def runJobs : Host Datum := do
  match ← demand (Comp.askValue (.jobs none 0)) with
  | .number d => return .int (Int64.ofInt (d.toInt?.getD 0))
  | _ => return .int 0

/-! ### Running commands -/

/-- A result that nothing but the end of memory explains is taken for that. -/
def classify (limits : EngineLimits) (heap : Heap) (r : Except EngineError Datum) :
    Except EngineError Datum × Bool :=
  match r with
  | .error (.exception ⟨"null", none, _, _⟩) =>
    if limits.memory != 0 && limits.memory.toNat ≤ heap.used + headroom then
      (.error (.fatal "out of memory"), true)
    else (r, false)
  | r => (r, false)

/-- Does what the host wants done and gives the lines that scripts printed. -/
def within (action : Host Datum) (timed : Bool) (e : ScriptEngine) :
    Outcome Datum × List Log.Record × ScriptEngine :=
  match e with
  | ⟨handle, limits, heap, coroutines⟩ =>
    let nodes := if limits.nodes = 0 then UInt64.size - 1 else limits.nodes.toNat
    let (r, s) := action.run
      { heap := heap, coroutines := coroutines, nodesLeft := nodes
        time := if timed then budget limits else none }
    let (r, warned) := classify limits s.heap r
    let owner := [("engine", toString handle)]
    let printed := s.heap.printed.reverse.map fun (level, line) =>
      ({ level := level, target := consoleTarget, message := line, values := owner } : Log.Record)
    let warning : List Log.Record := if warned then
      [{ level := .warn, target := logTarget, message := "null thrown at the memory limit"
         values := owner }] else []
    let outcome := match r with
      | .ok d => .value d
      | .error e => .error e
    (outcome, printed ++ warning, ⟨handle, limits, { s.heap with printed := [] }, s.coroutines⟩)

/-- A command that is refused before the engine sees it. -/
def refusal? : Command → Option String
  | .eval request => if (nulPlace? request.source).isSome then some "source must not contain NUL" else none
  | .setGlobal ⟨"", _⟩ | .getGlobal "" => some "global name must not be empty"
  | _ => none

/-- Forgets a function that was kept; says whether it was. -/
def release (id : UInt64) (e : ScriptEngine) : Bool × ScriptEngine :=
  match e with
  | ⟨handle, limits, heap, coroutines⟩ =>
    let kept := heap.retained.functions
    let known := (kept.lookup id.toNat).isSome
    let retained := { heap.retained with functions := kept.filter (·.1 != id.toNat) }
    (known, ⟨handle, limits, { heap with retained := retained }, coroutines⟩)

def run (command : Command) (e : ScriptEngine) : Outcome Datum × List Log.Record × ScriptEngine :=
  match refusal? command with
  | some reason => (.error (.invalidArgument reason), [], e)
  | none =>
    let limits := e.limits
    match command with
    | .eval request => within (evaluate limits request) true e
    | .call request => within (call limits request) true e
    | .setGlobal a => within (setGlobal a) false e
    | .getGlobal name => within (getGlobal name) false e
    | .release id =>
      let (known, e) := e.release id
      (.value (.bool known), [], e)
    | .runJobs => within runJobs true e

def farewell (e : ScriptEngine) : List Log.Record :=
  [{ level := .debug, target := logTarget, message := "quickjs engine dropped"
     values := [("engine", toString e.handle)] }]

/-- Script engines as the host's kind of engines. -/
def kind : EngineKind where
  Engine := ScriptEngine
  Plan := Unit
  name := "quickjs"
  create handle limits plan :=
    let (outcome, records) := create handle limits
    (outcome, records, plan)
  run := run
  farewell := farewell

end ScriptEngine

end ScriptHost
