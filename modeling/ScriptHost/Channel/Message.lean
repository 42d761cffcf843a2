import ScriptHost.Report.Status

/-! The JSON messages of a channel and of the daemon that serves one. -/

namespace ScriptHost

/-- A call of a method. -/
structure MethodCall where
  method : String
  arguments : Json := .null
deriving Repr, Inhabited

namespace MethodCall

def toJson (c : MethodCall) : Json :=
  .ofFields [("method", .string c.method), ("arguments", c.arguments)]

def ofJson? : Json.Decoder MethodCall :=
  .record "MethodCall" [.required "method" .string, .defaulted "arguments" .any]
    fun members => do
      return {
        method := ← members.required "method" .string
        arguments := ← members.defaulted "arguments" .any .null }

end MethodCall

/-- The answer to a call. -/
inductive ChannelResponse where
  | result (value : Json)
  | error (info : ErrorInfo)
deriving Repr, Inhabited

namespace ChannelResponse

def toJson : ChannelResponse → Json
  | .result value => .object [("result", value)]
  | .error info => .object [("error", info.toJson)]

def ofJson? : Json.Decoder ChannelResponse := fun value => do
  let (name, content) ← Json.Decoder.variant ["result", "error"] value
  match content with
  | none => throw (.wrongType "unit variant" "newtype variant")
  | some content =>
    if name = "result" then return .result content
    else return .error (← ErrorInfo.ofJson? content)

end ChannelResponse

/-- A request to the daemon: a call with an id of the client's choice. -/
structure DaemonRequest where
  id : String
  method : String
  arguments : Json := .null
deriving Repr, Inhabited

namespace DaemonRequest

def toJson (r : DaemonRequest) : Json :=
  .ofFields [("id", .string r.id), ("method", .string r.method), ("arguments", r.arguments)]

def ofJson? : Json.Decoder DaemonRequest :=
  .record "DaemonRequest"
    [.required "id" .string, .required "method" .string, .defaulted "arguments" .any]
    fun members => do
      return {
        id := ← members.required "id" .string
        method := ← members.required "method" .string
        arguments := ← members.defaulted "arguments" .any .null }

end DaemonRequest

/-- The daemon's answer, under the id of the request. -/
structure DaemonResponse where
  id : String
  result : Option Json := none
  error : Option ErrorInfo := none
deriving Repr, Inhabited

namespace DaemonResponse

def toJson (r : DaemonResponse) : Json :=
  .ofFields (("id", .string r.id) ::
    ((r.result.map fun value => ("result", value)).toList ++
     (r.error.map fun info => ("error", info.toJson)).toList))

def ofJson? : Json.Decoder DaemonResponse :=
  .record "DaemonResponse"
    [.required "id" .string, .required "result" (.optional .any),
     .required "error" (.optional ErrorInfo.ofJson?)]
    fun members => do
      return {
        id := ← members.required "id" .string
        result := ← members.optional "result" .any
        error := ← members.optional "error" ErrorInfo.ofJson? }

end DaemonResponse

end ScriptHost
