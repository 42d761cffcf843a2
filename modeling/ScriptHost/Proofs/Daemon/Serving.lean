import ScriptHost.Daemon.Serve
import ScriptHost.Proofs.Data.Fields
import ScriptHost.Proofs.Text.Utf8

/-! A connection of the daemon as a conversation. Each line that is not blank is answered once and in
its turn, and the requests among the lines come to what they come to when they are handed to the
channel one after another. A request whose handler panics is answered like any other, though not
under its own id. -/

namespace ScriptHost

namespace DaemonResponse

/-- Is there either a result or an error, in the response as it is written? The result may be null. -/
def OneSided (r : DaemonResponse) : Prop :=
  (r.toJson.get? "result").isSome = !(r.toJson.get? "error").isSome

theorem get?_toJson (r : DaemonResponse) :
    r.toJson.get? "id" = some (.string r.id) ∧ r.toJson.get? "result" = r.result ∧
      r.toJson.get? "error" = r.error.map ErrorInfo.toJson := by
  obtain ⟨id, result, error⟩ := r
  simp only [toJson, Json.ofFields, Json.get?, Fields.get?, Fields.lookup_ofList]
  cases result <;> cases error <;> simp [List.lookup]

theorem oneSided_iff {r : DaemonResponse} : r.OneSided ↔ r.result.isSome = !r.error.isSome := by
  obtain ⟨-, result, error⟩ := r.get?_toJson
  rw [OneSided, result, error, Option.isSome_map]

end DaemonResponse

namespace Daemon

variable {K : EngineKind}

/-- What a request comes to. -/
inductive Handled where
  | report (report : CallResult)
  | reply (response : ChannelResponse)
  | panicked (reason : String)

/-- Which requests make their handler panic, for what reason, and how that leaves the channel. -/
abbrev Panics (K : EngineKind) := DaemonRequest → Channel K → Option (String × Channel K)

/-- Hands a request over: to the doctor if that is its method, and to the channel if it is not. -/
def handOver (s : Setting) (panics : Panics K) (q : DaemonRequest) (ch : Channel K) :
    Handled × Channel K :=
  match panics q ch with
  | some (reason, ch) => (.panicked reason, ch)
  | none =>
    if q.method = "doctor" then
      let (report, ch) := Doctor.run s.facts s.runId s.config ch
      (.report report, ch)
    else
      let (response, ch) := ch.handle ⟨q.method, q.arguments⟩
      (.reply response, ch)

/-- Hands requests over, one after another. -/
def handOverAll (s : Setting) (panics : Panics K) :
    List DaemonRequest → Channel K → List Handled × Channel K
  | [], ch => ([], ch)
  | q :: rest, ch =>
    let (handled, ch) := handOver s panics q ch
    let (others, ch) := handOverAll s panics rest ch
    (handled :: others, ch)

/-- The daemon's handler of lines, where these requests make it panic. -/
def handler (s : Setting) (panics : Panics K) (line : String) (ch : Channel K) :
    Except String DaemonResponse × Channel K :=
  let panicked := (DaemonRequest.read line).toOption.bind (panics · ch)
  match panicked with
  | some (reason, ch) => (.error reason, ch)
  | none =>
    let (response, ch) := answerLine s line ch
    (.ok response, ch)

/-- The lines that are to be answered. -/
def spoken (lines : List String) : List String := lines.filter fun line => !Text.allBlank line

/-- The requests among the lines. -/
def requests (lines : List String) : List DaemonRequest :=
  (spoken lines).filterMap fun line => (DaemonRequest.read line).toOption

/-- What the client of this id is told of what its request came to. -/
inductive Told (id : String) : Handled → DaemonResponse → Prop where
  | report (report : CallResult) : Told id (.report report) { id := id, result := some report.toJson }
  | result (value : Json) : Told id (.reply (.result value)) { id := id, result := some value }
  | error (info : ErrorInfo) : Told id (.reply (.error info)) { id := id, error := some info }
  | panicked (reason : String) : Told id (.panicked reason)
      { id := "unknown",
        error := some ⟨.internalError, "request handler panicked: " ++ reason, .null⟩ }

/-- Each line has its response, in the same order. A line that is no request uses up nothing of what
requests came to. -/
inductive Conversation : List String → List Handled → List DaemonResponse → Prop where
  | done : Conversation [] [] []
  | malformed {line lines fault handled responses} : DaemonRequest.read line = .error fault →
      Conversation lines handled responses →
      Conversation (line :: lines) handled
        ({ id := "unknown",
           error := some ⟨.invalidArgument, "invalid JSON request: " ++ fault.message, .null⟩ } ::
          responses)
  | request {line lines q outcome handled response responses} :
      DaemonRequest.read line = .ok q → Told q.id outcome response →
      Conversation lines handled responses →
      Conversation (line :: lines) (outcome :: handled) (response :: responses)

theorem Told.oneSided {id : String} {outcome : Handled} {response : DaemonResponse}
    (told : Told id outcome response) : response.OneSided := by
  rw [DaemonResponse.oneSided_iff]
  cases told <;> rfl

theorem Conversation.length_eq {lines : List String} {handled : List Handled}
    {responses : List DaemonResponse} (conversation : Conversation lines handled responses) :
    responses.length = lines.length := by
  induction conversation with
  | done => rfl
  | malformed _ _ ih | request _ _ _ ih => exact congrArg (· + 1) ih

theorem Conversation.oneSided {lines : List String} {handled : List Handled}
    {responses : List DaemonResponse} (conversation : Conversation lines handled responses) :
    ∀ response ∈ responses, response.OneSided := by
  induction conversation with
  | done =>
    intro response member
    cases member
  | malformed read rest ih =>
    intro response member
    rcases List.mem_cons.mp member with rfl | later
    · exact DaemonResponse.oneSided_iff.mpr rfl
    · exact ih response later
  | request read told rest ih =>
    intro response member
    rcases List.mem_cons.mp member with rfl | later
    · exact told.oneSided
    · exact ih response later

variable {s : Setting} {panics : Panics K} {line : String} {ch : Channel K}

/-- The response to a line that its handler answers or fails to answer. -/
def responseOf : Except String DaemonResponse → DaemonResponse
  | .ok response => response
  | .error reason => panicked reason

theorem handler_malformed {fault : DaemonRequest.Fault} (read : DaemonRequest.read line = .error fault) :
    handler s panics line ch = (.ok
      { id := "unknown",
        error := some ⟨.invalidArgument, "invalid JSON request: " ++ fault.message, .null⟩ }, ch) := by
  simp only [handler, answerLine, read]
  rfl

/-- The handler of a request tells what it comes to when it is handed over. -/
theorem handler_request {q : DaemonRequest} (read : DaemonRequest.read line = .ok q) :
    ∃ outcome, handler s panics line ch = (outcome, (handOver s panics q ch).2) ∧
      Told q.id (handOver s panics q ch).1 (responseOf outcome) := by
  have parsed : (DaemonRequest.read line).toOption.bind (panics · ch) = panics q ch := by
    rw [read]
    rfl
  simp only [handler, handOver, parsed]
  cases panics q ch with
  | some panic => exact ⟨_, rfl, .panicked panic.1⟩
  | none =>
    simp only [answerLine, read, answer]
    by_cases doctor : q.method = "doctor"
    · simp only [doctor, ↓reduceIte]
      exact ⟨_, rfl, .report _⟩
    · simp only [doctor, ↓reduceIte]
      rcases ch.handle ⟨q.method, q.arguments⟩ with ⟨value | info, after⟩
      · exact ⟨_, rfl, .result value⟩
      · exact ⟨_, rfl, .error info⟩

theorem serveBy_blank {lines : List (List UInt8)}
    {respond : String → Channel K → Except String DaemonResponse × Channel K}
    (blank : Text.allBlank line = true) :
    serveBy respond (Utf8.encode line :: lines) ch = serveBy respond lines ch := by
  simp only [serveBy, Utf8.decode_encode, blank, ↓reduceIte]

theorem serveBy_spoken {lines : List (List UInt8)} {after : Channel K}
    {respond : String → Channel K → Except String DaemonResponse × Channel K}
    {outcome : Except String DaemonResponse} (speaks : Text.allBlank line = false)
    (answered : respond line ch = (outcome, after)) :
    serveBy respond (Utf8.encode line :: lines) ch =
      ((responseOf outcome :: (serveBy respond lines after).1.1, (serveBy respond lines after).1.2),
        (serveBy respond lines after).2) := by
  simp only [serveBy, Utf8.decode_encode, speaks, answered, Bool.false_eq_true, ↓reduceIte]
  cases outcome <;> rfl

/-- A connection is a conversation, and it leaves the channel as the requests leave it when they are
handed over. -/
theorem serveBy_handler (s : Setting) (panics : Panics K) (lines : List String) (ch : Channel K) :
    ∃ responses, serveBy (handler s panics) (lines.map Utf8.encode) ch =
        ((responses, false), (handOverAll s panics (requests lines) ch).2) ∧
      Conversation (spoken lines) (handOverAll s panics (requests lines) ch).1 responses := by
  induction lines generalizing ch with
  | nil => exact ⟨[], rfl, .done⟩
  | cons line rest ih =>
    rw [List.map_cons]
    cases blank : Text.allBlank line with
    | true =>
      have skipped : spoken (line :: rest) = spoken rest := by simp [spoken, blank]
      rw [serveBy_blank blank, requests, skipped]
      exact ih ch
    | false =>
      have kept : spoken (line :: rest) = line :: spoken rest := by simp [spoken, blank]
      rw [requests, kept]
      cases read : DaemonRequest.read line with
      | error fault =>
        obtain ⟨responses, served, conversation⟩ := ih ch
        have dropped : (line :: spoken rest).filterMap
            (fun line => (DaemonRequest.read line).toOption) = requests rest := by
          simp [requests, read, Except.toOption]
        rw [serveBy_spoken blank (handler_malformed read), served, dropped]
        exact ⟨_, rfl, .malformed read conversation⟩
      | ok q =>
        obtain ⟨outcome, answered, told⟩ := @handler_request _ s panics _ ch _ read
        obtain ⟨responses, served, conversation⟩ := ih (handOver s panics q ch).2
        have taken : (line :: spoken rest).filterMap
            (fun line => (DaemonRequest.read line).toOption) = q :: requests rest := by
          simp [requests, read, Except.toOption]
        rw [serveBy_spoken blank answered, served, taken]
        exact ⟨_, rfl, .request read told conversation⟩

theorem serve_eq (s : Setting) : serve (K := K) s = serveBy (handler s fun _ _ => none) := by
  have same : handler (K := K) s (fun _ _ => none) = fun line ch =>
      let (response, ch) := answerLine s line ch
      (.ok response, ch) := by
    funext line ch
    unfold handler
    cases DaemonRequest.read line <;> rfl
  rw [serve, same]

/-- Every line that is not blank is answered by one response and every other by none, in order, with
either a result or an error. The response to a request has the request's id, unless its handler
panicked; every other response has the id `unknown`. What is told, and how the channel is left, is as
if the requests alone had been handed over one after another. -/
theorem lines_answered (s : Setting) (panics : Panics K) (lines : List String) (ch : Channel K) :
    (∃ responses, serveBy (handler s panics) (lines.map Utf8.encode) ch =
        ((responses, false), (handOverAll s panics (requests lines) ch).2) ∧
      responses.length = (spoken lines).length ∧ (∀ response ∈ responses, response.OneSided) ∧
      Conversation (spoken lines) (handOverAll s panics (requests lines) ch).1 responses) ∧
    serve (K := K) s = serveBy (handler s fun _ _ => none) := by
  obtain ⟨responses, served, conversation⟩ := serveBy_handler s panics lines ch
  refine ⟨⟨responses, served, ?_, ?_, conversation⟩, serve_eq s⟩
  · exact conversation.length_eq
  · exact conversation.oneSided

end Daemon

end ScriptHost
