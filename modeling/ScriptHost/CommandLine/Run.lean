import ScriptHost.CommandLine.Arguments
import ScriptHost.Doctor
import ScriptHost.Json.Reader
import ScriptHost.Log.Filter
import ScriptHost.Log.Line
import ScriptHost.Redaction.Replace
import ScriptHost.Scenario.Document
import ScriptHost.Scenario.Run
import ScriptHost.Settings.Json

/-! Carrying out commands. A run gives the exit code, what is printed, what is logged and
the files that are written. -/

namespace ScriptHost.CommandLine

/-- What a run needs to know apart from the command line. -/
structure World (K : EngineKind) extends Surroundings where
  /-- Where the usual files for settings are looked for. -/
  directories : List String := ["."]
  facts : Doctor.HostFacts := {}
  /-- The time that log lines carry. -/
  time : String
  /-- A name for every report. -/
  runIds : Nat → String
  plan : K.Plan

/-- What comes out of a run. -/
structure Effects where
  exit : Nat := 0
  /-- Lines of the standard output. -/
  printed : List String := []
  /-- What happened, in order. -/
  events : List Log.Record := []
  /-- Lines of an error that ends the program. -/
  complaint : List String := []
  /-- Files with the texts that are written to them. -/
  written : List (String × String) := []
deriving Inhabited

def logTarget : String := "qjsctl"

/-! ### Showing results -/

/-- The word for a status at the head of a report. -/
def headline : Status → String
  | .pass => "PASS"
  | .fail => "FAIL"
  | .skip => "SKIP"
  | .error => "ERROR"

def exitCode : Status → Nat
  | .pass | .skip => 0
  | .fail => 1
  | .error => 2

/-- The lines of a text. -/
def linesOf (text : String) : List String := text.splitOn "\n"

/-- A report for people. -/
def readable (r : CallResult) : List String :=
  let engine := match r.handle with
    | some handle => " (engine " ++ toString handle ++ ")"
    | none => ""
  let error := match r.error with
    | some e =>
      ("  error:  " ++ e.code.word ++ " – " ++ e.message)
        :: (if e.details.isNull then [] else ["  details: " ++ e.details.compact])
    | none => []
  let data := match r.data with
    | some data => (linesOf data.pretty).map ("  " ++ ·)
    | none => []
  ["[" ++ headline r.status ++ "] " ++ r.method ++ engine, "  run_id: " ++ r.runId,
    "  timing: " ++ toString r.timing.total ++ "ms"]
    ++ (r.timing.steps.map fun (step, ms) => "    " ++ step ++ ": " ++ toString ms ++ "ms")
    ++ error ++ data

/-- A report as it is printed. -/
def shown (json : Bool) (r : CallResult) : List String :=
  if json then linesOf r.toJson.pretty else readable r

/-- The end of a run with a report. -/
def finish (json : Bool) (r : CallResult) : Effects :=
  { exit := exitCode r.status, printed := shown json r }

/-- The result of a command that failed before it came to a call. -/
def refused (runId method : String) (code : ErrorCode) (message : String) (details : Json) :
    CallResult :=
  .failed method runId ⟨code, message, details⟩

/-- A scenario for people. -/
def readableScenario (r : ScenarioResult) : List String :=
  let step (s : CallResult × Nat) : String :=
    let code := match s.1.error with
      | some e => " " ++ e.code.word
      | none => ""
    "  Step " ++ toString s.2 ++ ": " ++ s.1.method ++ " -> " ++ s.1.status.title ++ code
      ++ " (" ++ toString s.1.timing.total ++ "ms)"
  ["Scenario: " ++ r.name.getD "<unnamed>", "Overall: " ++ r.overall.title]
    ++ r.steps.zipIdx.map step

/-! ### Artifacts -/

/-- A path below a directory. -/
def below (directory name : String) : String :=
  if directory.endsWith "/" then directory ++ name else directory ++ "/" ++ name

/-- A result with the calls that led to it, each on a line of its own. -/
def artifacts (directory : String) (result : Json) (calls : List CallResult) :
    List (String × String) :=
  [(below directory "result.json", result.pretty),
   (below directory "events.jsonl",
    "".intercalate (calls.map fun call => call.toJson.compact ++ "\n"))]

/-! ### The commands -/

variable {K : EngineKind}

/-- Runs on a channel give their effects and the channel. -/
abbrev Job (K : EngineKind) := StateM (Channel K) Effects

def execute (runId method : String) (arguments : Json) : StateM (Channel K) CallResult :=
  fun ch => ch.execute runId ⟨method, arguments⟩

def runDoctor (w : World K) (settings : Settings) (json : Bool) (out : Option String) : Job K :=
  fun ch =>
    let (r, ch) := Doctor.run w.facts (w.runIds 0) settings.toJson ch
    let effects := finish json r
    match out with
    | none => (effects, ch)
    | some path =>
      match w.files.writeFault? path with
      | none => ({ effects with written := [(path, r.toJson.pretty)] }, ch)
      | some fault =>
        let warning : Log.Record := ⟨.warn, logTarget, "failed to write result file",
          [("path", path), ("error", fault.message)]⟩
        (effects, { ch with dispatcher := ch.dispatcher.record [warning] })

/-- Evaluates a script in an engine of its own. Jobs that are left are run before the
engine goes, so that what they print is seen. -/
def runScript (w : World K) (source : String) (fileName : Option String)
    (memoryLimit timeout : Option UInt64) (asModule strict json : Bool) : Job K := do
  let number (n : Option UInt64) : Json := .ofOption (fun n => .int n.toNat) n
  let created ← execute (w.runIds 0) "createEngine"
    (.ofFields [("memoryLimitBytes", number memoryLimit), ("executionTimeoutMs", number timeout)])
  match created.status, created.data with
  | .pass, some handle =>
    let result ← execute (w.runIds 1) "evalScript"
      (.ofFields [("handle", handle), ("source", .string source),
        ("fileName", .ofOption .string fileName), ("module", .bool asModule),
        ("strict", if strict then .bool true else .null)])
    let _ ← execute (w.runIds 2) "executePendingJobs" (.ofFields [("handle", handle)])
    let _ ← execute (w.runIds 3) "disposeEngine" (.ofFields [("handle", handle)])
    let steps := result.timing.steps.insert "create_engine" created.timing.total
    return finish json { result with timing := { result.timing with steps := steps } }
  | _, _ => return finish json created

def runCall (w : World K) (method arguments : String) (json : Bool)
    (directory : Option String) : Job K := do
  match Json.read arguments with
  | .error fault =>
    return finish json (refused (w.runIds 0) method .invalidArgument
      ("invalid JSON args: " ++ fault.message) .null)
  | .ok arguments =>
    let result ← execute (w.runIds 0) method arguments
    let effects := finish json result
    match directory with
    | none => return effects
    | some directory =>
      let directory := below directory result.runId
      match w.files.directoryFault? directory with
      | none => return { effects with written := artifacts directory result.toJson [result] }
      | some fault =>
        let warning : Log.Record := ⟨.warn, logTarget, "failed to create artifacts dir",
          [("dir", directory), ("error", fault.message)]⟩
        modify fun ch => { ch with dispatcher := ch.dispatcher.record [warning] }
        return effects

def runScenario (w : World K) (scenario : Scenario) (json : Bool)
    (directory : Option String) : Job K := fun ch =>
  let (r, ch) := Scenario.run w.runIds scenario ch
  let event : Log.Record := ⟨.info, logTarget, "scenario finished",
    [("scenario", Text.quote (r.name.getD "<unnamed>")), ("status", r.overall.title),
     ("elapsed_ms", "0")]⟩
  let written := match directory with
    | none => []
    | some directory =>
      let directory := below directory (w.runIds scenario.steps.length)
      match w.files.directoryFault? directory with
      | none => artifacts directory r.toJson r.steps
      | some _ => []
  ({ exit := exitCode r.overall
     printed := if json then linesOf r.toJson.pretty else readableScenario r
     written := written },
   { ch with dispatcher := ch.dispatcher.record [event] })

/-- A file that cannot be read. -/
def unreadable (w : World K) (method what path : String) (json : Bool) (fault : FileFault) :
    Effects :=
  finish json (refused (w.runIds 0) method .ioError
    ("cannot read " ++ what ++ " file " ++ path ++ ": " ++ fault.message) .null)

def perform (w : World K) (settings : Settings) : Subcommand → Job K
  | .doctor json out => runDoctor w settings json out
  | .eval (.text source) memoryLimit timeout asModule strict json =>
    runScript w source none memoryLimit timeout asModule strict json
  | .eval (.file path) memoryLimit timeout asModule strict json =>
    match w.files.readText path with
    | .ok source => runScript w source (some path) memoryLimit timeout asModule strict json
    | .error fault => return unreadable w "eval" "script" path json fault
  | .call method arguments json directory => runCall w method arguments json directory
  | .runScenario file json directory =>
    match w.files.readText file with
    | .error fault => return unreadable w "run-scenario" "scenario" file json fault
    | .ok text =>
      match Scenario.ofYaml text with
      | .ok scenario => runScenario w scenario json directory
      | .error message =>
        return finish json (refused (w.runIds 0) "run-scenario" .invalidArgument message
          (.ofFields [("file", .string file)]))
  | .serve socket =>
    match w.files.socketFault? socket with
    | some fault =>
      return {
        exit := 1
        complaint := ["Error: cannot bind socket " ++ socket, "", "Caused by:",
          "    " ++ fault.message] }
    | none => fun ch =>
      let event : Log.Record := ⟨.info, logTarget, "qjsctl daemon listening",
        [("socket", socket), ("channel", Text.quote ch.name)]⟩
      ({}, { ch with dispatcher := ch.dispatcher.record [event] })

/-! ### Logging -/

/-- The variable with a filter, which wins over the settings. -/
def filterVariable : String := "RUST_LOG"

/-- Which events are shown. -/
def filter (s : Surroundings) (settings : LogSettings) (verbose : Bool) : Log.Filter :=
  let configured :=
    if verbose || settings.verbose then Log.Level.debug.rank
    else (Log.rank? settings.levels.directive).getD 0
  ((s.valueOf filterVariable).bind Log.Filter.read).getD (.upTo configured)

/-- The lines that are logged. -/
def logLines (w : World K) (settings : LogSettings) (verbose : Bool)
    (events : List Log.Record) : List String :=
  let (rules, warnings) := Redaction.rules settings.redaction
  let filter := filter w.toSurroundings settings verbose
  let text := "".intercalate ((events.filter filter.shows).map fun event =>
    Redaction.apply rules (event.line settings.format w.time))
  warnings ++ (if text.isEmpty then [] else linesOf (text.dropEnd 1).toString)

/-- What the world sees of a run. -/
structure Outcome where
  exit : Nat
  output : List String
  log : List String
  written : List (String × String)
deriving Inhabited

/-- Carries out a command line. Settings that cannot be read give way to the defaults.
Engines that are left are dropped unless the program ends with an error. -/
def run (w : World K) (arguments : List String) : Outcome :=
  match Invocation.read arguments with
  | .error .misuse => { exit := 2, output := [], log := [], written := [] }
  | .error .help => { exit := 0, output := [], log := [], written := [] }
  | .error .version =>
    { exit := 0, output := ["qjsctl " ++ Doctor.version], log := [], written := [] }
  | .ok invocation =>
    let settings := match Settings.load w.directories w.toSurroundings with
      | .ok settings => settings
      | .error _ => {}
    let (effects, ch) :=
      (perform w settings invocation.command).run (.ofSettings settings w.plan)
    let dispatcher := if effects.exit = 0 then ch.dispatcher.disposeAll else ch.dispatcher
    let log := logLines w settings.logging invocation.verbose dispatcher.log.reverse
    { exit := effects.exit, output := effects.printed, log := log ++ effects.complaint
      written := effects.written }

end ScriptHost.CommandLine
