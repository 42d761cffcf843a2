import ScriptHost.Engine.Request
import ScriptHost.Json.Decode
import ScriptHost.Wire.Codec

/-! The settings of a host: its engines, its dispatcher and its logging. Every section
and every field has a default. -/

namespace ScriptHost

structure DispatcherSettings where
  /-- Create an engine on demand for operations that name none. -/
  defaultEngine : Bool := true
  workerStack : UInt64 := 4 * 1024 * 1024
  maxPayload : UInt64 := UInt64.ofNat Codec.defaultLimit
deriving DecidableEq, Repr, Inhabited

structure LogFormat where
  showTime : Bool := true
  showTarget : Bool := true
  showFile : Bool := false
  showLine : Bool := false
deriving DecidableEq, Repr, Inhabited

structure LogLevels where
  debug : Bool := false
  info : Bool := true
  warning : Bool := true
  error : Bool := true
  critical : Bool := true
deriving DecidableEq, Repr, Inhabited

/-- The most verbose level that is switched on. -/
def LogLevels.directive (levels : LogLevels) : String :=
  if levels.debug then "debug"
  else if levels.info then "info"
  else if levels.warning then "warn"
  else if levels.error || levels.critical then "error"
  else "off"

/-- A pattern whose matches are replaced in log lines. -/
structure RedactionPattern where
  name : String
  regex : String
  placeholder : String
deriving DecidableEq, Repr, Inhabited

structure Redaction where
  enabled : Bool := true
  patterns : List RedactionPattern := []
deriving DecidableEq, Repr, Inhabited

structure LogSettings where
  verbose : Bool := false
  format : LogFormat := {}
  levels : LogLevels := {}
  redaction : Redaction := {}
deriving DecidableEq, Repr, Inhabited

structure Settings where
  channelName : String := "dart_quickjs"
  engine : EngineLimits := {}
  dispatcher : DispatcherSettings := {}
  logging : LogSettings := {}
deriving DecidableEq, Repr, Inhabited

end ScriptHost
