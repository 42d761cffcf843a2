import ScriptHost.Calendar
import ScriptHost.CommandLine.Run
import ScriptHost.Daemon.Serve
import ScriptHost.Script.Engine
import Std.Time.DateTime.Timestamp

/-! The program: it looks at the files and the environment that the command line can ask
for, carries the command line out and shows what comes of it. -/

namespace ScriptHost.Program

open CommandLine

/-- The variables that can hold settings. -/
def settingVariables : List String :=
  let engine := ["memory_limit_bytes", "max_stack_size_bytes", "gc_threshold_bytes",
    "execution_timeout_ms", "settle_promises", "strict", "max_value_nodes"]
  let dispatcher := ["default_engine", "worker_stack_size_bytes", "max_payload_bytes"]
  let format := ["show_time", "show_target", "show_file", "show_line"]
  let levels := ["debug", "info", "warning", "error", "critical"]
  let below (section_ : String) (names : List String) : List String :=
    names.map fun name => section_ ++ "__" ++ name
  let keys := ["channel_name"] ++ below "engine" engine ++ below "dispatcher" dispatcher
    ++ below "logging" (["verbose"] ++ below "format" format ++ below "levels" levels
      ++ ["redaction__enabled", "redaction__patterns"])
  keys.map fun key => (Surroundings.variableMark ++ key).toUpper

/-- The values of those variables that are set. -/
def environment : IO (List (String × String)) := do
  let names := [filterVariable, Settings.fileVariable] ++ settingVariables
  names.filterMapM fun name => return (← IO.getEnv name).map fun value => (name, value)

/-- The contents of those files that can be read. -/
def contents (paths : List String) : IO Files :=
  paths.filterMapM fun (path : String) => do
    try
      let bytes ← IO.FS.readBinFile path
      return some (path, bytes.toList)
    catch _ => return none

/-- The paths that settings, scripts and scenarios can be read from. -/
def candidates (arguments : List String) (environment : List (String × String)) : List String :=
  let named := (environment.lookup Settings.fileVariable).toList
  let longer := named.flatMap fun path =>
    FileFormat.extensions.map fun (ending, _) => path ++ "." ++ ending
  let joined := arguments.filterMap fun argument => (splitLong argument).2
  Settings.usualFiles ++ named ++ longer ++ arguments ++ joined

/-- Writes a file and the directories on the way to it. -/
def write (path text : String) : IO Unit := do
  match (path.splitOn "/").dropLast with
  | [] => pure ()
  | directories => IO.FS.createDirAll ("/".intercalate directories)
  IO.FS.writeFile path text

/-- A name for every report of this run. -/
def reportIds : IO (Nat → String) := do
  let seed ← IO.rand 0 (UInt64.size - 1)
  return fun i => String.ofList (Nat.toDigits 16 (seed + i))

/-- A number with so many digits. -/
def padded (width n : Nat) : String :=
  let digits := toString n
  "".pushn '0' (width - digits.length) ++ digits

/-- The time of day as log lines show it. -/
def now : IO String := do
  let nanos := (← Std.Time.Timestamp.now).toNanosecondsSinceUnixEpoch.val.toNat
  let seconds := nanos / Nat.pow 10 9
  let date := Calendar.dateOf (seconds / 86400 : Nat)
  let ofDay := seconds % 86400
  return padded 4 date.year.toNat ++ "-" ++ padded 2 (date.month.toNat + 1) ++ "-"
    ++ padded 2 date.day.toNat ++ "T" ++ padded 2 (ofDay / 3600) ++ ":"
    ++ padded 2 (ofDay / 60 % 60) ++ ":" ++ padded 2 (ofDay % 60) ++ "."
    ++ padded 6 (nanos / 1000 % Nat.pow 10 6) ++ "Z"

/-- Answers requests line by line until the input ends. -/
partial def converse (setting : Daemon.Setting) (input output : IO.FS.Stream)
    (ch : Channel ScriptEngine.kind) : IO Unit := do
  let line ← input.getLine
  if line.isEmpty then return
  let bytes := Daemon.chompReturn (Utf8.encode (line.dropEndWhile (· == '\n')).toString)
  let ((responses, closed), ch) := Daemon.serve setting [bytes] ch
  for response in responses do
    output.putStrLn response.toJson.compact
  output.flush
  unless closed do converse setting input output ch

/-- Carries out the command line. A daemon that can listen converses over its input and
output. -/
def run (arguments : List String) : IO UInt32 := do
  let environment ← environment
  let files ← contents (candidates arguments environment)
  let runIds ← reportIds
  let world : World ScriptEngine.kind := {
    files := files, environment := environment, time := ← now, runIds := runIds, plan := () }
  let outcome := CommandLine.run world arguments
  let error ← IO.getStderr
  for line in outcome.log do
    error.putStrLn line
  for line in outcome.output do
    IO.println line
  for (path, text) in outcome.written do
    write path text
  match Invocation.read arguments with
  | .ok { command := .serve _, .. } =>
    if outcome.exit = 0 then
      let settings := (Settings.load world.directories world.toSurroundings).toOption.getD {}
      let setting : Daemon.Setting := { config := settings.toJson, runId := runIds 0 }
      converse setting (← IO.getStdin) (← IO.getStdout) (.ofSettings settings ())
  | _ => pure ()
  return UInt32.ofNat outcome.exit

end ScriptHost.Program

/-- The program. -/
def main (arguments : List String) : IO UInt32 := ScriptHost.Program.run arguments
