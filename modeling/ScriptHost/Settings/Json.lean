import ScriptHost.Settings.Basic

/-! Settings in JSON. Reading takes the default for every field that is absent. -/

namespace ScriptHost

open Json (Decoder FieldSpec)

private def unsignedJson (n : UInt64) : Json := .int n.toNat

namespace EngineLimits

def toJson (l : EngineLimits) : Json :=
  .ofFields [("memory_limit_bytes", unsignedJson l.memory),
    ("max_stack_size_bytes", unsignedJson l.stack),
    ("gc_threshold_bytes", unsignedJson l.gcThreshold),
    ("execution_timeout_ms", unsignedJson l.timeout),
    ("settle_promises", .bool l.settlePromises), ("strict", .bool l.strict),
    ("max_value_nodes", unsignedJson l.nodes)]

def ofJson? : Decoder EngineLimits :=
  .record "EngineConfig"
    [.defaulted "memory_limit_bytes" .unsigned, .defaulted "max_stack_size_bytes" .unsigned,
     .defaulted "gc_threshold_bytes" .unsigned, .defaulted "execution_timeout_ms" .unsigned,
     .defaulted "settle_promises" .bool, .defaulted "strict" .bool,
     .defaulted "max_value_nodes" .unsigned]
    fun members => do
      let default : EngineLimits := {}
      return {
        memory := ← members.defaulted "memory_limit_bytes" .unsigned default.memory
        stack := ← members.defaulted "max_stack_size_bytes" .unsigned default.stack
        gcThreshold := ← members.defaulted "gc_threshold_bytes" .unsigned default.gcThreshold
        timeout := ← members.defaulted "execution_timeout_ms" .unsigned default.timeout
        settlePromises := ← members.defaulted "settle_promises" .bool default.settlePromises
        strict := ← members.defaulted "strict" .bool default.strict
        nodes := ← members.defaulted "max_value_nodes" .unsigned default.nodes }

end EngineLimits

namespace DispatcherSettings

def toJson (d : DispatcherSettings) : Json :=
  .ofFields [("default_engine", .bool d.defaultEngine),
    ("worker_stack_size_bytes", unsignedJson d.workerStack),
    ("max_payload_bytes", unsignedJson d.maxPayload)]

def ofJson? : Decoder DispatcherSettings :=
  .record "DispatcherConfig"
    [.defaulted "default_engine" .bool, .defaulted "worker_stack_size_bytes" .unsigned,
     .defaulted "max_payload_bytes" .unsigned]
    fun members => do
      let default : DispatcherSettings := {}
      return {
        defaultEngine := ← members.defaulted "default_engine" .bool default.defaultEngine
        workerStack :=
          ← members.defaulted "worker_stack_size_bytes" .unsigned default.workerStack
        maxPayload := ← members.defaulted "max_payload_bytes" .unsigned default.maxPayload }

end DispatcherSettings

namespace LogFormat

def toJson (f : LogFormat) : Json :=
  .ofFields [("show_time", .bool f.showTime), ("show_target", .bool f.showTarget),
    ("show_file", .bool f.showFile), ("show_line", .bool f.showLine)]

def ofJson? : Decoder LogFormat :=
  .record "LoggingFormatConfig"
    [.defaulted "show_time" .bool, .defaulted "show_target" .bool,
     .defaulted "show_file" .bool, .defaulted "show_line" .bool]
    fun members => do
      let default : LogFormat := {}
      return {
        showTime := ← members.defaulted "show_time" .bool default.showTime
        showTarget := ← members.defaulted "show_target" .bool default.showTarget
        showFile := ← members.defaulted "show_file" .bool default.showFile
        showLine := ← members.defaulted "show_line" .bool default.showLine }

end LogFormat

namespace LogLevels

def toJson (l : LogLevels) : Json :=
  .ofFields [("debug", .bool l.debug), ("info", .bool l.info), ("warning", .bool l.warning),
    ("error", .bool l.error), ("critical", .bool l.critical)]

def ofJson? : Decoder LogLevels :=
  .record "LoggingLevelsConfig"
    [.defaulted "debug" .bool, .defaulted "info" .bool, .defaulted "warning" .bool,
     .defaulted "error" .bool, .defaulted "critical" .bool]
    fun members => do
      let default : LogLevels := {}
      return {
        debug := ← members.defaulted "debug" .bool default.debug
        info := ← members.defaulted "info" .bool default.info
        warning := ← members.defaulted "warning" .bool default.warning
        error := ← members.defaulted "error" .bool default.error
        critical := ← members.defaulted "critical" .bool default.critical }

end LogLevels

namespace RedactionPattern

def toJson (p : RedactionPattern) : Json :=
  .ofFields [("name", .string p.name), ("regex", .string p.regex),
    ("placeholder", .string p.placeholder)]

def ofJson? : Decoder RedactionPattern :=
  .record "RedactionPattern"
    [.required "name" .string, .required "regex" .string, .required "placeholder" .string]
    fun members => do
      return {
        name := ← members.required "name" .string
        regex := ← members.required "regex" .string
        placeholder := ← members.required "placeholder" .string }

end RedactionPattern

namespace Redaction

def toJson (r : Redaction) : Json :=
  .ofFields [("enabled", .bool r.enabled),
    ("patterns", .array (r.patterns.map RedactionPattern.toJson))]

def ofJson? : Decoder Redaction :=
  .record "RedactionConfig"
    [.defaulted "enabled" .bool, .defaulted "patterns" (.list RedactionPattern.ofJson?)]
    fun members => do
      return {
        enabled := ← members.defaulted "enabled" .bool true
        patterns := ← members.defaulted "patterns" (.list RedactionPattern.ofJson?) [] }

end Redaction

namespace LogSettings

def toJson (l : LogSettings) : Json :=
  .ofFields [("verbose", .bool l.verbose), ("format", l.format.toJson),
    ("levels", l.levels.toJson), ("redaction", l.redaction.toJson)]

def ofJson? : Decoder LogSettings :=
  .record "LoggingConfig"
    [.defaulted "verbose" .bool, .defaulted "format" LogFormat.ofJson?,
     .defaulted "levels" LogLevels.ofJson?, .defaulted "redaction" Redaction.ofJson?]
    fun members => do
      return {
        verbose := ← members.defaulted "verbose" .bool false
        format := ← members.defaulted "format" LogFormat.ofJson? {}
        levels := ← members.defaulted "levels" LogLevels.ofJson? {}
        redaction := ← members.defaulted "redaction" Redaction.ofJson? {} }

end LogSettings

namespace Settings

def toJson (s : Settings) : Json :=
  .ofFields [("channel_name", .string s.channelName), ("engine", s.engine.toJson),
    ("dispatcher", s.dispatcher.toJson), ("logging", s.logging.toJson)]

def ofJson? : Decoder Settings :=
  .record "BridgeConfig"
    [.defaulted "channel_name" .string, .defaulted "engine" EngineLimits.ofJson?,
     .defaulted "dispatcher" DispatcherSettings.ofJson?,
     .defaulted "logging" LogSettings.ofJson?]
    fun members => do
      let default : Settings := {}
      return {
        channelName := ← members.defaulted "channel_name" .string default.channelName
        engine := ← members.defaulted "engine" EngineLimits.ofJson? {}
        dispatcher := ← members.defaulted "dispatcher" DispatcherSettings.ofJson? {}
        logging := ← members.defaulted "logging" LogSettings.ofJson? {} }

end Settings

end ScriptHost
