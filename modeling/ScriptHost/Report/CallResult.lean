import ScriptHost.Report.Status

/-! The report of one call: what was called, how it ended, how long it took, and the
JSON view of what it gave. Members that hold nothing are left out. -/

namespace ScriptHost

/-- Durations in milliseconds: of the whole call and of named parts of it. -/
structure Timing where
  total : UInt64 := 0
  steps : Fields UInt64 := []
deriving Repr, Inhabited

namespace Timing

def toJson (t : Timing) : Json :=
  .ofFields (("total", .int t.total.toNat) ::
    if t.steps.isEmpty then []
    else [("steps", .object (t.steps.mapValues fun ms => .int ms.toNat))])

def ofJson? : Json.Decoder Timing :=
  .record "TimingInfo"
    [.required "total" .unsigned, .defaulted "steps" (.fields .unsigned)]
    fun members => do
      return {
        total := ← members.required "total" .unsigned
        steps := ← members.defaulted "steps" (.fields .unsigned) [] }

end Timing

structure CallResult where
  runId : String
  method : String
  handle : Option UInt64 := none
  status : Status
  error : Option ErrorInfo := none
  timing : Timing := {}
  /-- The JSON view of the returned value. -/
  data : Option Json := none
deriving Repr, Inhabited

namespace CallResult

/-- A member that is written only when there is something to write. -/
def memberOf (name : String) (encode : α → Json) : Option α → List (String × Json)
  | some a => [(name, encode a)]
  | none => []

def toJson (r : CallResult) : Json :=
  .ofFields ([("run_id", .string r.runId), ("method", .string r.method)] ++
    memberOf "handle" (fun h => .int h.toNat) r.handle ++
    [("status", r.status.toJson)] ++
    memberOf "error" ErrorInfo.toJson r.error ++
    [("timing_ms", r.timing.toJson)] ++
    memberOf "data" id r.data)

def ofJson? : Json.Decoder CallResult :=
  .record "CallResult"
    [.required "run_id" .string, .required "method" .string,
     .defaulted "handle" (.optional .unsigned), .required "status" Status.ofJson?,
     .required "error" (.optional ErrorInfo.ofJson?),
     .required "timing_ms" Timing.ofJson?, .defaulted "data" (.optional .any)]
    fun members => do
      return {
        runId := ← members.required "run_id" .string
        method := ← members.required "method" .string
        handle := ← members.optional "handle" .unsigned
        status := ← members.required "status" Status.ofJson?
        error := ← members.optional "error" ErrorInfo.ofJson?
        timing := ← members.required "timing_ms" Timing.ofJson?
        data := ← members.optional "data" .any }

/-- A call that went well, before its data are filled in. -/
def passed (method runId : String) : CallResult :=
  { runId := runId, method := method, status := .pass }

def failed (method runId : String) (error : ErrorInfo) : CallResult :=
  { runId := runId, method := method, status := .error, error := some error }

end CallResult

/-- The report of a scenario: one result for every step. -/
structure ScenarioResult where
  name : Option String
  overall : Status
  steps : List CallResult
deriving Repr, Inhabited

namespace ScenarioResult

def toJson (r : ScenarioResult) : Json :=
  .ofFields [("name", .ofOption .string r.name), ("overall_status", r.overall.toJson),
    ("step_results", .array (r.steps.map CallResult.toJson))]

def ofJson? : Json.Decoder ScenarioResult :=
  .record "ScenarioResult"
    [.required "name" (.optional .string), .required "overall_status" Status.ofJson?,
     .required "step_results" (.list CallResult.ofJson?)]
    fun members => do
      return {
        name := ← members.optional "name" .string
        overall := ← members.required "overall_status" Status.ofJson?
        steps := ← members.required "step_results" (.list CallResult.ofJson?) }

end ScenarioResult

/-- One check of the doctor. -/
structure DoctorCheck where
  name : String
  status : Status
  duration : UInt64 := 0
  message : Option String := none
deriving DecidableEq, Repr, Inhabited

namespace DoctorCheck

def toJson (c : DoctorCheck) : Json :=
  .ofFields ([("name", .string c.name), ("status", c.status.toJson),
    ("duration_ms", .int c.duration.toNat)] ++
    CallResult.memberOf "message" .string c.message)

def ofJson? : Json.Decoder DoctorCheck :=
  .record "DoctorCheck"
    [.required "name" .string, .required "status" Status.ofJson?,
     .required "duration_ms" .unsigned, .defaulted "message" (.optional .string)]
    fun members => do
      return {
        name := ← members.required "name" .string
        status := ← members.required "status" Status.ofJson?
        duration := ← members.required "duration_ms" .unsigned
        message := ← members.optional "message" .string }

end DoctorCheck

/-- What the doctor found out about the host and its engines. -/
structure DoctorReport where
  osName : String
  osVersion : String
  arch : String
  version : String
  backend : String
  channelName : String
  operations : List String
  config : Json
  checks : List DoctorCheck
deriving Repr, Inhabited

def DoctorReport.toJson (r : DoctorReport) : Json :=
  .ofFields [("os_name", .string r.osName), ("os_version", .string r.osVersion),
    ("arch", .string r.arch), ("bridge_version", .string r.version),
    ("engine_backend", .string r.backend), ("channel_name", .string r.channelName),
    ("operations", .array (r.operations.map .string)), ("config", r.config),
    ("checks", .array (r.checks.map DoctorCheck.toJson))]

end ScriptHost
