import ScriptHost.Dispatch.Operation
import ScriptHost.Settings.Basic
import ScriptHost.Worker.Basic

/-! The dispatcher: a table of engines under handles that are never given twice, and the
operations on it. Operations run one after another here. A command without a handle
goes to a default engine, which is made when it is first needed. An engine whose command
was fatal leaves the table at once. -/

namespace ScriptHost

/-- The state of a dispatcher over engines of one kind. -/
structure Dispatcher (K : EngineKind) where
  limits : EngineLimits
  settings : DispatcherSettings
  /-- The active engines, in the order of their handles. -/
  engines : List (Nat × Worker K) := []
  /-- The handle for the next creation. -/
  next : Nat := 1
  default : Option Nat := none
  plan : K.Plan
  /-- The handles of the engines made so far, the last one first. -/
  created : List Nat := []
  /-- The handles of the engines dropped so far, the last one first. -/
  dropped : List Nat := []
  /-- What happened, the last event first. -/
  log : List Log.Record := []

/-- Operations on a dispatcher: they change its state also when they fail. -/
abbrev Dispatch (K : EngineKind) := ExceptT DispatchError (StateM (Dispatcher K))

namespace Dispatcher

variable {K : EngineKind}

def ofSettings (settings : Settings) (plan : K.Plan) : Dispatcher K where
  limits := settings.engine
  settings := settings.dispatcher
  plan := plan

def codec (d : Dispatcher K) : Codec := ⟨d.settings.maxPayload.toNat⟩

/-- The names of the operations, sorted. -/
def operations : List String := OperationName.all.map OperationName.word

def supports (name : String) : Bool := (OperationName.ofWord? name).isSome

def activeHandles (d : Dispatcher K) : List Nat := d.engines.map Prod.fst

def worker? (d : Dispatcher K) (handle : Nat) : Option (Worker K) := d.engines.lookup handle

/-- Takes an engine out of the table; it is no longer the default one. -/
def remove (d : Dispatcher K) (handle : Nat) : Dispatcher K :=
  { d with
    engines := d.engines.filter fun entry => entry.1 != handle
    default := if d.default = some handle then none else d.default }

/-- Puts the new state of a worker in its place. -/
def update (d : Dispatcher K) (w : Worker K) : Dispatcher K :=
  { d with engines := d.engines.map fun entry => if entry.1 = w.handle then (w.handle, w) else entry }

def logTarget : String := "quickjs_bridge::dispatcher"

def record (d : Dispatcher K) (records : List Log.Record) : Dispatcher K :=
  { d with log := records.reverse ++ d.log }

/-- Logs an event of the dispatcher itself. -/
def note (level : Log.Level) (message : String) (values : List (String × String)) :
    Dispatch K Unit :=
  modify fun d => d.record [⟨level, logTarget, message, values⟩]

/-- Shows an optional handle. -/
def showHandle : Option Nat → String
  | some handle => "Some(" ++ toString handle ++ ")"
  | none => "None"

def notActive (handle : Nat) : DispatchError :=
  .invalidHandle ("engine " ++ toString handle ++ " is not active")

/-- Lifts a failure of the codec. -/
def liftCodec (result : Except CodecError α) : Dispatch K α :=
  match result with
  | .ok a => pure a
  | .error e => throw (.ofCodec e)

/-- Makes an engine with the next handle. The handle is used up even if that fails. -/
def spawn (limits : EngineLimits) : Dispatch K Nat := do
  let d ← get
  let handle := d.next
  let (result, log, plan) := Worker.spawn handle limits d.settings.workerStack d.plan
  set ({ d with next := handle + 1, plan := plan }.record log)
  match result with
  | .error e => throw (.ofEngine e)
  | .ok worker =>
    modify fun d =>
      { d with engines := d.engines ++ [(handle, worker)], created := handle :: d.created }
    note .info "engine created" [("engine", toString handle), ("factory", "\"" ++ K.name ++ "\"")]
    return handle

/-- The engine that an operation is for: the one it names, or the default one. -/
def resolve (handle : Option Nat) : Dispatch K (Worker K) := do
  let d ← get
  match handle with
  | some handle =>
    match d.worker? handle with
    | some worker => return worker
    | none => throw (notActive handle)
  | none =>
    if !d.settings.defaultEngine then
      throw (.invalidHandle "operation requires an engine handle")
    match d.default.bind d.worker? with
    | some worker => return worker
    | none =>
      let handle ← spawn d.limits
      modify fun d => { d with default := some handle }
      match (← get).worker? handle with
      | some worker => return worker
      | none => throw (notActive handle)

/-- Takes an engine out of the table and drops it. -/
def retire (worker : Worker K) : Dispatch K Unit :=
  modify fun d =>
    let (log, gone) := worker.dispose
    let d := (d.remove worker.handle).record log
    if worker.engine.isSome ∧ gone.engine.isNone then
      { d with dropped := worker.handle :: d.dropped }
    else d

/-- Runs a command on the engine it is for. -/
def runCommand (op : Operation) (command : Command) : Dispatch K (List UInt8) := do
  let worker ← resolve op.handle
  let handle := worker.handle
  let (result, log, worker) := worker.run command
  let isFatal := match result with
    | .error (.fatal _) => true
    | _ => false
  -- The log of a dying engine comes after the line that says why.
  if !isFatal then modify fun d => (d.update worker).record log
  match result with
  | .ok value => liftCodec ((← get).codec.encode value)
  | .error (.fatal reason) =>
    note .warn "engine fatal, retiring handle"
      [("engine", toString handle), ("operation", op.name), ("error", reason)]
    modify fun d => { (d.remove handle).record log with dropped := handle :: d.dropped }
    throw (.engineFatal reason)
  | .error .terminated =>
    retire worker
    if worker.failed then throw (notActive handle)
    else
      note .warn "engine worker stopped unexpectedly" [("engine", toString handle)]
      throw (.engineFatal "engine worker stopped unexpectedly")
  | .error e => throw (.ofEngine e)

/-- Carries out an operation whose name is known. -/
def perform (name : OperationName) (op : Operation) : Dispatch K (List UInt8) := do
  match ← liftCodec (name.request op.payload) with
  | .create options =>
    let handle ← spawn ((← get).limits.withOptions options)
    liftCodec ((← get).codec.encode (Datum.int (Int64.ofNat handle)))
  | .dispose =>
    match op.handle with
    | none => throw (.invalidArgument "disposeEngine requires a handle")
    | some handle =>
      match (← get).worker? handle with
      | none => throw (notActive handle)
      | some worker =>
        retire worker
        note .info "engine disposed" [("engine", toString handle)]
        liftCodec ((← get).codec.encode Datum.undefined)
  | .command command => runCommand op command

/-- Carries out an operation. -/
def dispatch (op : Operation) : Dispatch K (List UInt8) := do
  match OperationName.ofWord? op.name with
  | none => throw (.unknownOperation op.name)
  | some name =>
    let limit := (← get).codec.limit
    if limit < op.payload.length then
      throw (.invalidArgument ("payload of " ++ toString op.payload.length ++
        " bytes exceeds limit of " ++ toString limit))
    note .debug "dispatch" [("operation", op.name), ("handle", showHandle op.handle),
      ("payload_len", toString op.payload.length)]
    tryCatch (perform name op) fun e => do
      note .debug "dispatch failed"
        [("operation", op.name), ("code", e.code.word), ("error", e.message)]
      throw e

/-- Drops all engines. -/
def disposeAll (d : Dispatcher K) : Dispatcher K :=
  let gone := d.engines.foldl (fun d (handle, worker) =>
    let (log, _) := worker.dispose
    let d := d.record (log ++ [⟨.debug, logTarget, "engine disposed with dispatcher",
      [("engine", toString handle)]⟩])
    if worker.engine.isSome then { d with dropped := handle :: d.dropped } else d) d
  { gone with engines := [], default := none }

end Dispatcher

end ScriptHost
