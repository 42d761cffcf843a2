import ScriptHost.Settings.Basic
import ScriptHost.Settings.Source

/-! Reading the settings of a host. Single values are taken generously: switches and
numbers may be written as texts, and texts as numbers. A section may also be a list of its
fields in their order. -/

namespace ScriptHost

open Yaml (Atom)

/-- A reader of a typed value. -/
abbrev Reading (α : Type) := Layer → Except SettingsError α

namespace Reading

variable {α : Type}

/-- The refusal of a single value. -/
def refuse (layer : Layer) (found expected : String) : Except SettingsError α :=
  .error (.mismatch (.wrongType found expected) "" layer.origin)

/-- The refusal of a value that has the wrong shape. -/
def refuseShape (layer : Layer) (expected : String) : Except SettingsError α :=
  let found := match layer with
    | .atom _ a => a.describe
    | other => other.describe
  .error (.mismatch (.wrongType found expected) "" none)

/-- The words for a switch. -/
def switch? (word : String) : Option Bool :=
  if word == "true" || word == "on" || word == "yes" then some true
  else if word == "false" || word == "off" || word == "no" then some false
  else none

def bool : Reading Bool := fun layer =>
  match layer with
  | .atom _ (.bool b) => .ok b
  | .atom _ (.int i) => .ok (i != 0)
  | .atom _ (.float d) => .ok !d.isZero
  | .atom origin (.text s) =>
    let word := Text.lower s
    let word' := if word == "1" then "true" else if word == "0" then "false" else word
    match switch? word' with
    | some b => .ok b
    | none => refuse layer (Layer.atom origin (.text word)).describe "a boolean"
  | other => refuse other other.describe "a boolean"

/-- A number rounded to a natural one, a half away from zero; as far as 64 bits go. -/
def roundToUnsigned (d : Double) : UInt64 :=
  let clamp (n : Nat) : UInt64 := UInt64.ofNat (min n (UInt64.size - 1))
  if d.isNaN || d.negative then 0
  else if d.isInfinite then clamp UInt64.size
  else if 0 ≤ d.scale then clamp (d.significand * Nat.pow 2 d.scale.toNat)
  else
    let unit := Nat.pow 2 (-d.scale).toNat
    clamp ((2 * d.significand + unit) / (2 * unit))

/-- Decimal digits, perhaps after a plus sign. -/
def unsigned? (s : String) : Option UInt64 :=
  let digits := match s.toList with
    | '+' :: rest => rest
    | rest => rest
  ((Decimal.nat? 10 digits).filter (· < UInt64.size)).map UInt64.ofNat

def unsigned : Reading UInt64 := fun layer =>
  match layer with
  | .atom _ (.bool b) => .ok (if b then 1 else 0)
  | .atom _ (.int i) =>
    if 0 ≤ i then .ok (UInt64.ofNat i.toNat)
    else refuse layer layer.describe "an unsigned 64 bit or less integer"
  | .atom _ (.float d) => .ok (roundToUnsigned d)
  | .atom _ (.text s) =>
    match switch? (Text.lower s) with
    | some b => .ok (if b then 1 else 0)
    | none =>
      match unsigned? s with
      | some n => .ok n
      | none => refuse layer layer.describe "an integer"
  | other => refuse other other.describe "an integer"

def text : Reading String := fun layer =>
  match layer with
  | .atom _ (.text s) => .ok s
  | .atom _ (.bool b) => .ok (if b then "true" else "false")
  | .atom _ (.int i) => .ok (toString i)
  | .atom _ (.float d) => .ok (Layer.describe.floatText d)
  | other => refuse other other.describe "a string"

def list (reading : Reading α) : Reading (List α)
  | .list _ items =>
    items.zipIdx.mapM fun (item, i) =>
      (reading item).mapError (·.inPart ("[" ++ toString i ++ "]") false)
  | other => refuseShape other "a sequence"

end Reading

/-- What is written for a field of a section, and how messages name it. -/
structure WrittenField where
  name : String
  segment : String
  value : Layer

/-- What is written for a section. -/
structure Section where
  type : String
  names : List String
  fields : List WrittenField
  /-- Is it a list of its fields? -/
  positional : Bool

namespace Section

def ofLayer (type : String) (names : List String) : Reading Section
  | .table _ entries =>
    let fields := entries.filterMap fun (name, value) =>
      if names.contains name then some ⟨name, name, value⟩ else none
    .ok ⟨type, names, fields, false⟩
  | .list _ items =>
    let fields := (names.zip items).zipIdx.map fun ((name, value), i) =>
      ⟨name, "[" ++ toString i ++ "]", value⟩
    .ok ⟨type, names, fields, true⟩
  | other => Reading.refuseShape other ("struct " ++ type)

variable {α : Type}

/-- A field, if it is written. -/
def field? (s : Section) (name : String) (reading : Reading α) :
    Except SettingsError (Option α) :=
  match s.fields.find? fun field => field.name == name with
  | some field =>
    ((reading field.value).mapError (·.inPart field.segment !s.positional)).map some
  | none => .ok none

def field (s : Section) (name : String) (reading : Reading α) (default : α) :
    Except SettingsError α :=
  return (← s.field? name reading).getD default

/-- A field that has to be written. -/
def demand (s : Section) (name : String) (value : Option α) : Except SettingsError α :=
  match value with
  | some a => .ok a
  | none =>
    if s.positional then
      let expected := "struct " ++ s.type ++ " with " ++ toString s.names.length ++ " elements"
      .error (.mismatch (.wrongLength s.fields.length expected) "" none)
    else .error (.missing name)

end Section

def EngineLimits.ofLayer : Reading EngineLimits := fun layer => do
  let s ← Section.ofLayer "EngineConfig"
    ["memory_limit_bytes", "max_stack_size_bytes", "gc_threshold_bytes", "execution_timeout_ms",
     "settle_promises", "strict", "max_value_nodes"] layer
  let default : EngineLimits := {}
  return {
    memory := ← s.field "memory_limit_bytes" Reading.unsigned default.memory
    stack := ← s.field "max_stack_size_bytes" Reading.unsigned default.stack
    gcThreshold := ← s.field "gc_threshold_bytes" Reading.unsigned default.gcThreshold
    timeout := ← s.field "execution_timeout_ms" Reading.unsigned default.timeout
    settlePromises := ← s.field "settle_promises" Reading.bool default.settlePromises
    strict := ← s.field "strict" Reading.bool default.strict
    nodes := ← s.field "max_value_nodes" Reading.unsigned default.nodes }

def DispatcherSettings.ofLayer : Reading DispatcherSettings := fun layer => do
  let s ← Section.ofLayer "DispatcherConfig"
    ["default_engine", "worker_stack_size_bytes", "max_payload_bytes"] layer
  let default : DispatcherSettings := {}
  return {
    defaultEngine := ← s.field "default_engine" Reading.bool default.defaultEngine
    workerStack := ← s.field "worker_stack_size_bytes" Reading.unsigned default.workerStack
    maxPayload := ← s.field "max_payload_bytes" Reading.unsigned default.maxPayload }

def LogFormat.ofLayer : Reading LogFormat := fun layer => do
  let s ← Section.ofLayer "LoggingFormatConfig"
    ["show_time", "show_target", "show_file", "show_line"] layer
  let default : LogFormat := {}
  return {
    showTime := ← s.field "show_time" Reading.bool default.showTime
    showTarget := ← s.field "show_target" Reading.bool default.showTarget
    showFile := ← s.field "show_file" Reading.bool default.showFile
    showLine := ← s.field "show_line" Reading.bool default.showLine }

def LogLevels.ofLayer : Reading LogLevels := fun layer => do
  let s ← Section.ofLayer "LoggingLevelsConfig"
    ["debug", "info", "warning", "error", "critical"] layer
  let default : LogLevels := {}
  return {
    debug := ← s.field "debug" Reading.bool default.debug
    info := ← s.field "info" Reading.bool default.info
    warning := ← s.field "warning" Reading.bool default.warning
    error := ← s.field "error" Reading.bool default.error
    critical := ← s.field "critical" Reading.bool default.critical }

def RedactionPattern.ofLayer : Reading RedactionPattern := fun layer => do
  let s ← Section.ofLayer "RedactionPattern" ["name", "regex", "placeholder"] layer
  let name ← s.field? "name" Reading.text
  let regex ← s.field? "regex" Reading.text
  let placeholder ← s.field? "placeholder" Reading.text
  return {
    name := ← s.demand "name" name
    regex := ← s.demand "regex" regex
    placeholder := ← s.demand "placeholder" placeholder }

def Redaction.ofLayer : Reading Redaction := fun layer => do
  let s ← Section.ofLayer "RedactionConfig" ["enabled", "patterns"] layer
  return {
    enabled := ← s.field "enabled" Reading.bool true
    patterns := ← s.field "patterns" (Reading.list RedactionPattern.ofLayer) [] }

def LogSettings.ofLayer : Reading LogSettings := fun layer => do
  let s ← Section.ofLayer "LoggingConfig" ["verbose", "format", "levels", "redaction"] layer
  return {
    verbose := ← s.field "verbose" Reading.bool false
    format := ← s.field "format" LogFormat.ofLayer {}
    levels := ← s.field "levels" LogLevels.ofLayer {}
    redaction := ← s.field "redaction" Redaction.ofLayer {} }

namespace Settings

def ofLayer : Reading Settings := fun layer => do
  let s ← Section.ofLayer "BridgeConfig"
    ["channel_name", "engine", "dispatcher", "logging"] layer
  let default : Settings := {}
  return {
    channelName := ← s.field "channel_name" Reading.text default.channelName
    engine := ← s.field "engine" EngineLimits.ofLayer {}
    dispatcher := ← s.field "dispatcher" DispatcherSettings.ofLayer {}
    logging := ← s.field "logging" LogSettings.ofLayer {} }

/-- The files that settings are read from wherever there is one; the later wins. -/
def usualFiles : List String := ["bridge_config.yaml", ".bridge_config.yaml"]

/-- The variable that names one more file. -/
def fileVariable : String := "QJS_BRIDGE_CONFIG"

/-- The entries of a usual file, which is looked for in some directories and need not be
there. -/
def usualEntries (directories : List String) (s : Surroundings) (name : String) :
    Except SettingsError (List (String × Layer)) :=
  let paths := directories.map fun directory => directory ++ "/" ++ name
  match paths.find? fun path => (s.file? path).isSome with
  | some path => s.readFile path
  | none => .ok []

/-- Reads the settings: the usual files, then the file that the environment names, then
the environment itself; the later wins. -/
def load (directories : List String) (s : Surroundings) : Except SettingsError Settings := do
  let usual ← usualFiles.mapM (usualEntries directories s)
  let named ← match s.valueOf fileVariable with
    | some path => (s.readFile path).map fun entries => [entries]
    | none => pure []
  let sources := usual ++ named ++ [s.variableEntries]
  ofLayer (sources.foldl Layer.addSource Layer.empty)

end Settings

end ScriptHost
