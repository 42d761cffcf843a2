import ScriptHost.Channel.Basic
import ScriptHost.Proofs.Dispatch.Direct

/-! Calls of `evalScript` over a channel. What such a call asks for reaches the dispatcher as one
operation, whose answer is what the caller is shown. A command that an engine turns down without
doing anything leaves the channel as it was, but for the log. -/

namespace ScriptHost

variable {K : EngineKind}

namespace Dispatcher

open Dispatch Worker

variable {d : Dispatcher K}

/-- An engine that is put in its place again is where it was. -/
theorem update_held (ordered : d.activeHandles.Pairwise (· < ·)) {worker : Worker K}
    (held : d.worker? worker.handle = some worker) : d.update worker = d := by
  have only (entry : Nat × Worker K) (member : entry ∈ d.engines)
      (own : entry.1 = worker.handle) : entry = (worker.handle, worker) := by
    obtain ⟨before, rest, shape, -⟩ := List.lookup_eq_some_iff.mp held
    rw [activeHandles, shape, List.map_append, List.map_cons, List.pairwise_append,
      List.pairwise_cons] at ordered
    obtain ⟨-, ⟨above, -⟩, below⟩ := ordered
    rw [shape, List.mem_append, List.mem_cons] at member
    rcases member with earlier | rfl | later
    · have lower := below _ (List.mem_map_of_mem earlier) _ List.mem_cons_self
      omega
    · rfl
    · have higher := above _ (List.mem_map_of_mem later)
      omega
  have same : d.engines.map (fun entry =>
      if entry.1 = worker.handle then (worker.handle, worker) else entry) = d.engines := by
    refine (List.map_congr_left fun entry member => ?_).trans d.engines.map_id
    split
    · rename_i own
      exact (only entry member own).symm
    · rfl
  unfold update
  rw [same]

/-- An engine that logged nothing and ended as it began: only the log has changed. -/
theorem RanOnce.unmoved (consistent : d.Consistent) {handle : Nat} {engine : K.Engine}
    (held : d.worker? handle = some (.live handle engine)) {error : EngineError}
    {after : Dispatcher K} (lives : ∀ reason, error ≠ .fatal reason)
    (once : RanOnce d handle [] engine (.error error : Except EngineError Datum) after) :
    ∃ notes, Notes notes ∧ after = d.record notes := by
  generalize said : (.error error : Except EngineError Datum) = result at once
  cases once with
  | @stays _ before later _ first last =>
    refine ⟨before ++ later, ?_, ?_⟩
    · simpa [Notes, or_imp, forall_and] using And.intro first last
    · have same : (d.record before).update (.live handle engine) = d.record before :=
        update_held (d := d.record before) consistent.active_ordered held
      rw [same, List.nil_append, record_record]
  | goes first last => exact absurd (Except.error.inj said) (lives _)

end Dispatcher

namespace Channel

open Dispatcher Dispatch

/-- Does the call ask for the evaluation of this request, on the engine of this handle or on the
default one? Options that are absent or `null` have no part in the request. -/
structure AsksEval (call : MethodCall) (named : Option Nat) (request : EvalRequest) : Prop where
  method : call.method = OperationName.evalScript.word
  handle : handleArg call.arguments = .ok named
  source : call.arguments.get? "source" = some (.string request.source)
  fileName : optionalArg call.arguments "fileName" Json.asString? "a string" = .ok request.fileName
  asModule : (optionalArg call.arguments "module" Json.asBool? "a boolean").map (·.getD false) =
    .ok request.asModule
  strict : optionalArg call.arguments "strict" Json.asBool? "a boolean" = .ok request.strict

theorem operation_eval {call : MethodCall} {named : Option Nat} {request : EvalRequest}
    (asks : AsksEval call named request) {codec : Codec} {bytes : List UInt8}
    (written : codec.encodeEval request = .ok bytes) :
    operation codec call = .ok ⟨OperationName.evalScript.word, named, bytes⟩ := by
  obtain ⟨method, handle, source, fileName, asModule, strict⟩ := asks
  have object : call.arguments.isObject = true := by
    cases shape : call.arguments with
    | object members => rfl
    | _ => simp [shape, Json.get?] at source
  have text : requiredString call.arguments "source" = .ok request.source := by
    simp [requiredString, source, Json.asString?]
  obtain ⟨given, read, isModule⟩ : ∃ given,
      optionalArg call.arguments "module" Json.asBool? "a boolean" = .ok given ∧
        given.getD false = request.asModule := by
    rcases read : optionalArg call.arguments "module" Json.asBool? "a boolean" with e | given
    · simp [read, Except.map] at asModule
    · exact ⟨given, rfl, by simpa [read, Except.map] using asModule⟩
  have encoded : payload codec .evalScript call.arguments = .ok bytes := by
    simp only [payload, text, fileName, read, strict, isModule, bind, Except.bind, written]
    rfl
  have known : OperationName.ofWord? OperationName.evalScript.word = some .evalScript := rfl
  simp only [operation, method, known, object, handle, encoded, Bool.or_true, Bool.not_true,
    Bool.false_eq_true, ↓reduceIte, bind, Except.bind, pure, Except.pure]

/-- What the caller is shown of an answer. -/
def shown (answer : Except DispatchError (List UInt8)) : ChannelResponse :=
  match answer >>= readable with
  | .ok value => .result value.toJson
  | .error e => .error e.info

theorem exec_liftExcept {α : Type} (result : Except DispatchError α) (d : Dispatcher K) :
    exec (liftExcept result) d = (result, d) := by
  cases result <;> rfl

/-- A call is the dispatch of its operation, and the JSON view of the answer. -/
theorem exec_invoke {call : MethodCall} {op : Operation} {d : Dispatcher K}
    (operated : operation d.codec call = .ok op) :
    exec (invoke call) d = match exec (dispatch op) d with
      | (.ok answer, after) => ((readable answer).map Datum.toJson, after)
      | (.error e, after) => (.error e, after) := by
  simp only [invoke, exec_bind, exec_get, operated, exec_liftExcept]
  rcases exec (dispatch op) d with ⟨e | answer, after⟩
  · rfl
  · simp only [exec_readValue]
    cases readable answer <;> rfl

theorem handle_eval {ch : Channel K} {call : MethodCall} {named : Option Nat}
    {request : EvalRequest} (asks : AsksEval call named request) {bytes : List UInt8}
    (written : ch.dispatcher.codec.encodeEval request = .ok bytes)
    {answer : Except DispatchError (List UInt8)} {after : Dispatcher K}
    (answered : exec (dispatch ⟨OperationName.evalScript.word, named, bytes⟩) ch.dispatcher =
      (answer, after)) :
    handle call ch = (shown answer, { ch with dispatcher := after }) := by
  have invoked : exec (invoke call) ch.dispatcher =
      ((answer >>= readable).map Datum.toJson, after) := by
    rw [exec_invoke (operation_eval asks written), answered]
    cases answer <;> rfl
  unfold handle
  rw [show (invoke call).run ch.dispatcher = _ from invoked, shown]
  cases answer >>= readable <;> rfl

theorem admitted_eval {codec : Codec} {bytes : List UInt8} (fits : bytes.length ≤ codec.limit)
    {read : EvalRequest} (decoded : Codec.decodeEval bytes = .ok read) (named : Option Nat) :
    admitted codec ⟨OperationName.evalScript.word, named, bytes⟩ = .ok (.command (.eval read)) :=
  admitted_eq_ok_iff.mpr ⟨.evalScript, rfl, fits, by
    simp only [OperationName.request, decoded]
    rfl⟩

/-- A call that an engine turns down, having done nothing, changes nothing but the log. -/
theorem handle_turnedDown {ch : Channel K} (consistent : ch.dispatcher.Consistent)
    {call : MethodCall} {named : Option Nat} {request : EvalRequest}
    (asks : AsksEval call named request) {bytes : List UInt8}
    (written : ch.dispatcher.codec.encodeEval request = .ok bytes)
    (fits : bytes.length ≤ ch.dispatcher.codec.limit) {key : Nat} {engine : K.Engine}
    (meant : ch.dispatcher.Means named key)
    (held : ch.dispatcher.worker? key = some (.live key engine)) {read : EvalRequest}
    (decoded : Codec.decodeEval bytes = .ok read) {error : EngineError}
    (turnsDown : K.run (.eval read) engine = (.error error, [], engine))
    (lives : ∀ reason, error ≠ .fatal reason) (lasts : error ≠ .terminated) :
    ∃ notes, Notes notes ∧ handle call ch =
      (.error (DispatchError.ofEngine error).info,
        { ch with dispatcher := ch.dispatcher.record notes }) := by
  have asked := admitted_eval fits decoded named
  have result : Worker.resultOf (.eval read) engine = .error error := by
    rw [Worker.resultOf, turnsDown]
    rfl
  have survives : Worker.resultOf (.eval read) engine ≠ .error .terminated := by
    simpa [result] using lasts
  obtain ⟨after, answered, once⟩ := exec_dispatch_live asked meant held survives
  rw [result, Worker.engineAfter, turnsDown] at once
  obtain ⟨notes, own, rfl⟩ := once.unmoved consistent held lives
  refine ⟨notes, own, ?_⟩
  rw [handle_eval asks written answered, result]
  rfl

/-- A call whose payload cannot be read changes nothing but the log. -/
theorem handle_unread {ch : Channel K} {call : MethodCall} {named : Option Nat}
    {request : EvalRequest} (asks : AsksEval call named request) {bytes : List UInt8}
    (written : ch.dispatcher.codec.encodeEval request = .ok bytes)
    (fits : bytes.length ≤ ch.dispatcher.codec.limit) {error : CodecError}
    (unread : Codec.decodeEval bytes = .error error) :
    ∃ notes, Notes notes ∧ handle call ch =
      (.error (DispatchError.ofCodec error).info,
        { ch with dispatcher := ch.dispatcher.record notes }) := by
  have rejected : OperationName.evalScript.request bytes = .error error := by
    simp only [OperationName.request, unread]
    rfl
  obtain ⟨notes, own, answered⟩ : ∃ notes, Notes notes ∧
      exec (dispatch ⟨OperationName.evalScript.word, named, bytes⟩) ch.dispatcher =
        (.error (.ofCodec error), ch.dispatcher.record notes) :=
    exec_dispatch_unread rfl fits rejected
  exact ⟨notes, own, handle_eval asks written answered⟩

end Channel

end ScriptHost
