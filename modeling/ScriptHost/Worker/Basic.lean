import ScriptHost.Engine.Kind

/-! The worker that owns one engine for the engine's whole life. Commands run one after
another; a fatal result or a disposal drops the engine, and from then on every command
is answered with `terminated`. -/

namespace ScriptHost

/-- A worker. The engine is gone once it failed or was disposed of. -/
structure Worker (K : EngineKind) where
  handle : Nat
  engine : Option K.Engine
  /-- Does the worker still take commands? -/
  accepting : Bool := true
  /-- Has the engine reported a fatal error? -/
  failed : Bool := false

namespace Worker

variable {K : EngineKind}

/-- The part of the program that speaks for workers in the log. -/
def logTarget : String := "quickjs_bridge::worker"

/-- A stack of this size or more cannot be given to a thread. -/
def stackCeiling : Nat := Nat.pow 2 46

/-- Makes an engine and its worker. -/
def spawn (handle : Nat) (limits : EngineLimits) (stack : UInt64) (plan : K.Plan) :
    Except EngineError (Worker K) × List Log.Record × K.Plan :=
  if stackCeiling ≤ stack.toNat then
    (.error (.fatal
      "failed to spawn engine thread: Resource temporarily unavailable (os error 11)"), [], plan)
  else
    let (created, log, plan) := K.create handle limits plan
    match created.caught "engine creation" with
    | .ok engine => (.ok { handle := handle, engine := some engine }, log, plan)
    | .error e => (.error e, log, plan)

def isRunning (w : Worker K) : Bool := w.accepting && !w.failed

/-- What is logged when the engine of a worker goes. -/
def farewell (handle : Nat) (engine : K.Engine) : List Log.Record :=
  let about := [("engine", toString handle)]
  K.farewell engine ++
    (if K.panicsOnDrop engine then
      [⟨.warn, logTarget, "engine panicked while dropping", about⟩] else []) ++
    [⟨.debug, logTarget, "engine worker stopped", about⟩]

/-- Runs a command on the engine and drops the engine if the result is fatal. -/
def run (command : Command) (w : Worker K) :
    Except EngineError Datum × List Log.Record × Worker K :=
  match w.accepting, w.engine with
  | true, some engine =>
    let (outcome, log, engine) := K.run command engine
    match outcome.caught "engine" with
    | .error (.fatal reason) =>
      (.error (.fatal reason), log ++ farewell w.handle engine,
       { w with engine := none, failed := true })
    | result => (result, log, { w with engine := some engine })
  | _, _ => (.error .terminated, [], w)

/-- Drops the engine, if it is still there. -/
def dispose (w : Worker K) : List Log.Record × Worker K :=
  ((w.engine.map (farewell w.handle)).getD [], { w with engine := none, accepting := false })

end Worker

end ScriptHost
