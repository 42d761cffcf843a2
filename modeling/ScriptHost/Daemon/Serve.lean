import ScriptHost.Daemon.Request
import ScriptHost.Doctor
import ScriptHost.Text.Letter

/-! Serving a channel line by line. Every line that is not blank is answered by one line,
in order; a line that is no request is answered under the id `unknown`. -/

namespace ScriptHost.Daemon

variable {K : EngineKind}

/-- What the daemon reports about itself when it is asked for the doctor. -/
structure Setting where
  facts : Doctor.HostFacts := {}
  config : Json
  runId : String

/-- Answers a request. -/
def answer (s : Setting) (r : DaemonRequest) (ch : Channel K) : DaemonResponse × Channel K :=
  if r.method = "doctor" then
    let (report, ch) := Doctor.run s.facts s.runId s.config ch
    ({ id := r.id, result := some report.toJson }, ch)
  else
    let (response, ch) := ch.handle ⟨r.method, r.arguments⟩
    match response with
    | .result value => ({ id := r.id, result := some value }, ch)
    | .error info => ({ id := r.id, error := some info }, ch)

/-- Answers a line that is not blank. -/
def answerLine (s : Setting) (line : String) (ch : Channel K) : DaemonResponse × Channel K :=
  match DaemonRequest.read line with
  | .ok r => answer s r ch
  | .error fault =>
    ({ id := "unknown"
       error := some ⟨.invalidArgument, "invalid JSON request: " ++ fault.message, .null⟩ }, ch)

/-- What is answered when the handler of a request panicked. -/
def panicked (reason : String) : DaemonResponse where
  id := "unknown"
  error := some ⟨.internalError, "request handler panicked: " ++ reason, .null⟩

/-- Serves a connection, given as the bytes of its lines without their line breaks, by a
handler that answers a line or panics. Gives the responses in order, and whether the daemon
closed the connection itself, as it does at a line that is not text. -/
def serveBy (handler : String → Channel K → Except String DaemonResponse × Channel K) :
    List (List UInt8) → Channel K → (List DaemonResponse × Bool) × Channel K
  | [], ch => (([], false), ch)
  | bytes :: rest, ch =>
    match Utf8.decode bytes with
    | .error _ => (([], true), ch)
    | .ok line =>
      if Text.allBlank line then serveBy handler rest ch
      else
        let (outcome, ch) := handler line ch
        let response := match outcome with
          | .ok response => response
          | .error reason => panicked reason
        let ((responses, closed), ch) := serveBy handler rest ch
        ((response :: responses, closed), ch)

/-- Serves a connection. Whatever engines do, their panics are caught where they happen. -/
def serve (s : Setting) : List (List UInt8) → Channel K →
    (List DaemonResponse × Bool) × Channel K :=
  serveBy fun line ch =>
    let (response, ch) := answerLine s line ch
    (.ok response, ch)

/-- A line without the carriage return that may end it. -/
def chompReturn (bytes : List UInt8) : List UInt8 :=
  if bytes.getLast? = some 13 then bytes.dropLast else bytes

end ScriptHost.Daemon
