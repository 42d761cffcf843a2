import ScriptHost.Channel.Basic
import ScriptHost.Dispatch.Typed

/-! The doctor: facts about the host, and a walk through the life of one engine that
checks what every operation answers. -/

namespace ScriptHost.Doctor

variable {K : EngineKind}

/-- The version of this program. -/
def version : String := "0.1.0"

/-- What is known of the machine. -/
structure HostFacts where
  osName : String := "linux"
  osVersion : String := "unknown"
  arch : String := "x86_64"
deriving DecidableEq, Repr, Inhabited

/-- The outcome of a check. -/
def check (name : String) (outcome : Except DispatchError Unit) : DoctorCheck :=
  match outcome with
  | .ok () => ⟨name, .pass, 0, none⟩
  | .error e => ⟨name, .fail, 0, some e.message⟩

/-- Compares an answer with the expected value. -/
def expect (expected actual : Datum) : Except DispatchError Unit :=
  if actual == expected then .ok ()
  else .error (.internal ("expected " ++ expected.display ++ ", got " ++ actual.display))

/-- An operation whose failure is a result. -/
def attempt (op : Dispatch K α) : StateM (Dispatcher K) (Except DispatchError α) := op.run

/-- The checks on an engine that was created. -/
def engineChecks (handle : Nat) : StateM (Dispatcher K) (List DoctorCheck) := do
  let sum ← attempt (Dispatcher.evalScript (some handle) "1 + 1")
  let max ← attempt (Dispatcher.callFunction (some handle)
    ⟨.path "Math.max", [.int 3, .int 7]⟩)
  let disposed ← attempt (Dispatcher.disposeEngine handle)
  let stale ← attempt (Dispatcher.evalScript (some handle) "1")
  let rejected : Except DispatchError Unit := match stale with
    | .error (.invalidHandle _) => .ok ()
    | .error e => .error e
    | .ok value => .error (.internal ("disposed handle still answered with " ++ value.display))
  return [check "eval_script" (sum.bind (expect (.int 2))),
    check "call_function" (max.bind (expect (.int 7))),
    check "dispose_engine" disposed, check "stale_handle_rejected" rejected]

/-- All checks; when no engine can be created there is only the one that says so. -/
def checks : StateM (Dispatcher K) (List DoctorCheck) := do
  match ← attempt (Dispatcher.createEngine none) with
  | .error e => return [check "create_engine" (.error e)]
  | .ok handle => return check "create_engine" (.ok ()) :: (← engineChecks handle)

/-- Runs the checks and reports on them, with a copy of the configuration. -/
def run (facts : HostFacts) (runId : String) (config : Json) (ch : Channel K) :
    CallResult × Channel K :=
  let (checks, d) := checks.run ch.dispatcher
  let report : DoctorReport := {
    osName := facts.osName, osVersion := facts.osVersion, arch := facts.arch
    version := version, backend := K.name, channelName := ch.name
    operations := Dispatcher.operations, config := config, checks := checks }
  let good := checks.all fun c => c.status = .pass
  let steps := Fields.ofList (checks.map fun c => (c.name, c.duration))
  ({ CallResult.passed "doctor" runId with
      status := if good then .pass else .fail
      timing := { steps := steps }
      data := some report.toJson },
   { ch with dispatcher := d })

end ScriptHost.Doctor
