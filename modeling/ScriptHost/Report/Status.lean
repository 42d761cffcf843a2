import ScriptHost.Json.Decode

/-! The words of reports: how a call ended, and the stable codes of errors. -/

namespace ScriptHost

/-- How a call ended, or how it is expected to end. -/
inductive Status where
  | pass | fail | skip | error
deriving DecidableEq, Repr, Inhabited

namespace Status

def all : List Status := [.pass, .fail, .skip, .error]

def word : Status → String
  | .pass => "pass"
  | .fail => "fail"
  | .skip => "skip"
  | .error => "error"

/-- The word as a heading. -/
def title : Status → String
  | .pass => "Pass"
  | .fail => "Fail"
  | .skip => "Skip"
  | .error => "Error"

def toJson (s : Status) : Json := .string s.word

def ofJson? : Json.Decoder Status := .enumeration (all.map fun s => (s.word, s))

end Status

/-- The kinds of failure that a caller can tell apart. -/
inductive ErrorCode where
  | unknownOperation
  | invalidArgument
  | invalidHandle
  | engineException
  | engineFatal
  | ioError
  | internalError
deriving DecidableEq, Repr, Inhabited

namespace ErrorCode

def all : List ErrorCode :=
  [.unknownOperation, .invalidArgument, .invalidHandle, .engineException, .engineFatal,
   .ioError, .internalError]

def word : ErrorCode → String
  | .unknownOperation => "UNKNOWN_OPERATION"
  | .invalidArgument => "INVALID_ARGUMENT"
  | .invalidHandle => "INVALID_HANDLE"
  | .engineException => "ENGINE_EXCEPTION"
  | .engineFatal => "ENGINE_FATAL"
  | .ioError => "IO_ERROR"
  | .internalError => "INTERNAL_ERROR"

/-- The code as a single capitalised word. -/
def title : ErrorCode → String
  | .unknownOperation => "UnknownOperation"
  | .invalidArgument => "InvalidArgument"
  | .invalidHandle => "InvalidHandle"
  | .engineException => "EngineException"
  | .engineFatal => "EngineFatal"
  | .ioError => "IoError"
  | .internalError => "InternalError"

def toJson (code : ErrorCode) : Json := .string code.word

def ofJson? : Json.Decoder ErrorCode := .enumeration (all.map fun code => (code.word, code))

end ErrorCode

/-- A failure as it is reported; `details` is `null` when there are none. -/
structure ErrorInfo where
  code : ErrorCode
  message : String
  details : Json := .null
deriving Repr, Inhabited

namespace ErrorInfo

def toJson (info : ErrorInfo) : Json :=
  .ofFields ([("code", info.code.toJson), ("message", .string info.message)] ++
    if info.details.isNull then [] else [("details", info.details)])

def ofJson? : Json.Decoder ErrorInfo :=
  .record "ErrorInfo"
    [.required "code" ErrorCode.ofJson?, .required "message" .string,
     .defaulted "details" .any]
    fun members => do
      return {
        code := ← members.required "code" ErrorCode.ofJson?
        message := ← members.required "message" .string
        details := ← members.defaulted "details" .any .null }

end ErrorInfo

end ScriptHost
