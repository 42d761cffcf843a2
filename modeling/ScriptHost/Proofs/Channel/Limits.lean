import ScriptHost.Proofs.Channel.HostCalls
import ScriptHost.Proofs.Dispatch.Lifecycle
import ScriptHost.Proofs.Wire.Writing

/-! Calls over a channel and the limit on payloads. Two places look at it. A document is measured as it is
written, and one that is too long is an internal error; whatever was written is measured when it is
dispatched, the bare text and the tag that stand outside of documents included, and then the caller is at
fault. The answer is a document too. So an internal error says that one document was too long, and does
not say which. -/

namespace ScriptHost

variable {K : EngineKind}

/-! ### What a call sends -/

namespace HostCall

/-- What is sent as it is: bare text, or the tag of a script with options. -/
def bare : HostCall → List UInt8
  | command (.evalRequest request) _ =>
    if request.hasOptions then [Codec.evalTag] else Utf8.encode request.source
  | command (.evalScript text) _ | command (.getGlobal text) _ => Utf8.encode text
  | _ => []

/-- What is sent as a document, that is, written under the limit. -/
def document : HostCall → List UInt8
  | create options => if options = {} then [] else Wire.write options
  | command (.evalRequest request) _ => if request.hasOptions then Wire.write request else []
  | command (.callFunction request) _ => Wire.write request
  | command (.setGlobal assignment) _ => Wire.write assignment
  | command (.releaseFunction id) _ => Wire.write id
  | _ => []

def payload (w : HostCall) : List UInt8 := w.bare ++ w.document

end HostCall

namespace Dispatcher

open Dispatch

variable {α : Type} {d : Dispatcher K} {op : Operation}

/-- The refusal of a payload that is too long to be dispatched. -/
def oversized (codec : Codec) (length : Nat) : DispatchError :=
  .invalidArgument ("payload of " ++ toString length ++ " bytes exceeds limit of " ++
    toString codec.limit)

theorem mapError_encode [Wire α] (codec : Codec) (a : α) :
    (codec.encode a).mapError .ofCodec =
      if codec.limit < (Wire.write a).length then .error noRoom else .ok (Wire.write a) := by
  unfold Codec.encode
  by_cases long : codec.limit < (Wire.write a).length
  · simp only [Nat.not_le.mpr long, long, ↓reduceIte]
    rfl
  · simp only [Nat.not_lt.mp long, long, ↓reduceIte]
    rfl

/-! ### What an operation comes to -/

/-- The operation comes to this value, which is its answer if there is room for it: the handle of the engine
that it makes, nothing for a disposal, and for a command what the engine gives. -/
inductive Yields (d : Dispatcher K) (op : Operation) : Datum → Prop where
  | created {options : EngineOptions} {handle : Nat}
      (asked : admitted d.codec op = .ok (.create options))
      (made : (effect (spawn (d.limits.withOptions options)) d).1 = .ok handle) :
      Yields d op (.int (Int64.ofNat handle))
  | disposed {handle : Nat} (asked : admitted d.codec op = .ok .dispose)
      (named : op.handle = some handle) (active : handle ∈ d.activeHandles) : Yields d op .undefined
  | given {command : Command} {worker : Worker K} {value : Datum}
      (asked : admitted d.codec op = .ok (.command command))
      (found : (effect (resolve op.handle) d).1 = .ok worker)
      (gave : (worker.run command).1 = .ok value) : Yields d op value

/-- What an operation that is admitted comes to. -/
theorem yields_iff {request : Request} {value : Datum} : admitted d.codec op = .ok request →
    (Yields d op value ↔ match request with
      | .create options => ∃ handle, (effect (spawn (d.limits.withOptions options)) d).1 = .ok handle ∧
          value = .int (Int64.ofNat handle)
      | .dispose => ∃ handle, op.handle = some handle ∧ handle ∈ d.activeHandles ∧ value = .undefined
      | .command command => ∃ worker, (effect (resolve op.handle) d).1 = .ok worker ∧
          (worker.run command).1 = .ok value) := by
  intro asked
  constructor
  · rintro (⟨same, made⟩ | ⟨same, named, active⟩ | ⟨same, found, gave⟩) <;>
      obtain rfl := Except.ok.inj (asked.symm.trans same)
    · exact ⟨_, made, rfl⟩
    · exact ⟨_, named, active, rfl⟩
    · exact ⟨_, found, gave⟩
  · cases request with
    | create options =>
      rintro ⟨handle, made, rfl⟩
      exact .created asked made
    | dispose =>
      rintro ⟨handle, named, active, rfl⟩
      exact .disposed asked named active
    | command command =>
      rintro ⟨worker, found, gave⟩
      exact .given asked found gave

theorem Yields.admitted {value : Datum} (yields : Yields d op value) :
    ∃ request, Dispatcher.admitted d.codec op = .ok request := by
  cases yields <;> exact ⟨_, by assumption⟩

theorem Yields.unique {value other : Datum} (first : Yields d op value) (second : Yields d op other) :
    value = other := by
  obtain ⟨request, asked⟩ := first.admitted
  rw [yields_iff asked] at first second
  cases request with
  | create options =>
    obtain ⟨handle, made, rfl⟩ := first
    obtain ⟨handle', made', rfl⟩ := second
    obtain rfl := Except.ok.inj (made.symm.trans made')
    rfl
  | dispose =>
    obtain ⟨_, -, -, rfl⟩ := first
    obtain ⟨_, -, -, rfl⟩ := second
    rfl
  | command command =>
    obtain ⟨worker, found, gave⟩ := first
    obtain ⟨worker', found', gave'⟩ := second
    obtain rfl := Except.ok.inj (found.symm.trans found')
    exact Except.ok.inj (gave.symm.trans gave')

/-- It failed, for a reason that is not internal. -/
def External (answer : Except DispatchError α) : Prop :=
  ∃ e, answer = .error e ∧ e.code ≠ .internalError

theorem External.ne {answer : Except DispatchError α} (external : External answer) {e : DispatchError}
    (internal : e.code = .internalError) : answer ≠ .error e := by
  obtain ⟨e', rfl, outside⟩ := external
  rintro ⟨⟩
  exact outside internal

@[simp] theorem code_eq_internalError_iff {e : DispatchError} :
    e.code = .internalError ↔ ∃ reason, e = .internal reason := by
  cases e <;> simp [DispatchError.code]

theorem code_ofEngine (e : EngineError) : (DispatchError.ofEngine e).code ≠ .internalError := by
  cases e <;> simp [DispatchError.ofEngine]

theorem admitted_external {codec : Codec} {e : DispatchError}
    (refused : admitted codec op = .error e) : e.code ≠ .internalError := by
  unfold admitted at refused
  split at refused
  · cases refused
    simp
  · rename_i name _
    split at refused
    · cases refused
      simp
    · cases read : name.request op.payload with
      | ok request =>
        rw [read] at refused
        cases refused
      | error fault =>
        rw [read] at refused
        cases refused
        simp [OperationName.ofCodec_of_request read]

theorem made_answer (limits : EngineLimits) (d : Dispatcher K) :
    (∃ worker after, d.made limits = (.ok worker, after) ∧ after.codec = d.codec) ∨
    ∃ e after, d.made limits = (.error e, after) ∧ e.code ≠ .internalError := by
  unfold made
  rcases Worker.spawn d.next limits d.settings.workerStack d.plan with ⟨e | worker, log, plan⟩
  · exact .inr ⟨_, _, rfl, code_ofEngine e⟩
  · exact .inl ⟨_, _, rfl, rfl⟩

theorem resolved_answer (named : Option Nat) (d : Dispatcher K) :
    (∃ worker after, d.resolved named = (.ok worker, after) ∧ after.codec = d.codec) ∨
    ∃ e after, d.resolved named = (.error e, after) ∧ e.code ≠ .internalError := by
  unfold resolved
  cases named with
  | some handle =>
    cases found : d.worker? handle with
    | some worker => exact .inl ⟨worker, d, by simp only [found], rfl⟩
    | none => exact .inr ⟨notActive handle, d, by simp only [found], by simp [notActive]⟩
  | none =>
    by_cases allowed : d.settings.defaultEngine
    · cases d.default.bind d.worker? with
      | some worker => exact .inl ⟨worker, d, by simp only [allowed, ↓reduceIte], rfl⟩
      | none =>
        simp only [allowed, ↓reduceIte]
        obtain ⟨worker, after, shape, same⟩ | ⟨e, after, shape, outside⟩ := made_answer d.limits d
        · have named : ({ after with default := some worker.handle } : Dispatcher K).codec = d.codec :=
            same
          exact .inl ⟨worker, _, by simp only [shape], named⟩
        · exact .inr ⟨e, after, by simp only [shape], outside⟩
    · have refused : (DispatchError.invalidHandle "operation requires an engine handle").code ≠
          .internalError := by simp
      exact .inr ⟨_, d, by simp only [allowed, Bool.false_eq_true, ↓reduceIte], refused⟩

/-- What a worker gives is the answer, and what it fails for is not internal. -/
theorem carried_answer (command : Command) (worker : Worker K) (d : Dispatcher K) :
    (∃ value, (worker.run command).1 = .ok value ∧
      (d.carried command worker).1 = reported d.codec (.ok value)) ∨
    (∀ value, (worker.run command).1 ≠ .ok value) ∧ External (d.carried command worker).1 := by
  unfold carried
  rcases worker.run command with ⟨(thrown | reason | reason | _) | value, log, after⟩
  · exact .inr ⟨by simp, _, rfl, code_ofEngine _⟩
  · exact .inr ⟨by simp, _, rfl, by simp⟩
  · exact .inr ⟨by simp, _, rfl, code_ofEngine _⟩
  · exact .inr ⟨by simp, _, rfl, by simp [stopped]⟩
  · exact .inl ⟨value, rfl, rfl⟩

/-- An operation comes to a value and answers with it, if there is room, or it fails for a reason that is
not internal. -/
theorem dispatch_answer (consistent : d.Consistent) (op : Operation) :
    (∃ value, Yields d op value ∧ (effect (dispatch op) d).1 = reported d.codec (.ok value)) ∨
    (∀ value, ¬ Yields d op value) ∧ External (effect (dispatch op) d).1 := by
  rw [effect_dispatch consistent op, respond, unlogged_codec]
  cases asked : admitted d.codec op with
  | error e =>
    refine .inr ⟨fun value yields => ?_, e, rfl, admitted_external asked⟩
    obtain ⟨request, granted⟩ := yields.admitted
    rw [asked] at granted
    cases granted
  | ok request =>
    cases request with
    | create options =>
      simp only [yields_iff asked, effect_spawn, answered, unlogged_limits]
      obtain ⟨worker, after, made, same⟩ | ⟨e, after, made, outside⟩ :=
        made_answer (d.limits.withOptions options) d.unlogged <;>
        simp only [made]
      · exact .inl ⟨_, ⟨worker.handle, rfl, rfl⟩, by rw [same, unlogged_codec]⟩
      · refine .inr ⟨?_, e, rfl, outside⟩
        rintro value ⟨_, failed, -⟩
        cases failed
    | dispose =>
      simp only [yields_iff asked]
      cases named : op.handle with
      | none =>
        refine .inr ⟨?_, _, rfl, by simp⟩
        rintro value ⟨_, held, -⟩
        cases held
      | some handle =>
        have active := worker?_isSome_iff (d := d) handle
        simp only [answered, unlogged_worker?]
        cases found : d.worker? handle with
        | some worker =>
          rw [found] at active
          exact .inl ⟨.undefined, ⟨handle, rfl, active.mp rfl, rfl⟩, rfl⟩
        | none =>
          rw [found] at active
          refine .inr ⟨?_, _, rfl, by simp [notActive]⟩
          rintro value ⟨other, same, listed, -⟩
          obtain rfl := Option.some.inj same
          cases active.mpr listed
    | command command =>
      simp only [yields_iff asked, effect_resolve consistent, answered]
      obtain ⟨worker, after, found, same⟩ | ⟨e, after, found, outside⟩ :=
        resolved_answer op.handle d.unlogged <;>
        simp only [found]
      · obtain ⟨value, gave, told⟩ | ⟨nothing, outside⟩ := carried_answer command worker after
        · rw [same] at told
          exact .inl ⟨value, ⟨worker, rfl, gave⟩, told⟩
        · refine .inr ⟨?_, outside⟩
          rintro value ⟨other, shared, gave⟩
          obtain rfl := Except.ok.inj shared
          exact nothing value gave
      · refine .inr ⟨?_, e, rfl, outside⟩
        rintro value ⟨_, failed, -⟩
        cases failed

/-- An answer that there was room for can be read. -/
theorem readable_told {value : Datum} {answer : List UInt8}
    (told : reported d.codec (.ok value) = .ok answer) : readable answer = .ok value.tidied := by
  rw [reported, mapError_encode] at told
  split at told
  · cases told
  · rename_i fits
    cases told
    have small : (Wire.write value).length < 2 ^ 64 :=
      Nat.lt_of_le_of_lt (Nat.not_lt.mp fits) d.settings.maxPayload.toNat_lt
    rw [readable, Codec.decode_write small]
    rfl

end Dispatcher

namespace Channel

open Dispatch Dispatcher

variable {d : Dispatcher K} {args : Json} {name : OperationName} {w : HostCall}

theorem Conveys.payload_eq (conveys : Conveys args name w) (codec : Codec) :
    payload codec name args =
      if codec.limit < w.document.length then .error noRoom else .ok w.payload := by
  cases w with
  | create options =>
    cases conveys with
    | createEngine _ memory stack time =>
      rw [payload_createEngine memory stack time]
      show _ = if codec.limit < (if options = {} then [] else Wire.write options).length then _
        else Except.ok (if options = {} then [] else Wire.write options)
      split
      · rfl
      · exact mapError_encode codec options
  | dispose handle =>
    cases conveys
    rfl
  | command call handle =>
    rw [payload_command conveys]
    cases conveys with
    | @evalScript _ source fileName asModule strict =>
      simp only [TypedCall.payload, Codec.encodeEval, HostCall.payload, HostCall.document,
        HostCall.bare]
      split
      · have written := mapError_encode codec
          (⟨source, fileName, asModule.getD false, strict⟩ : EvalRequest)
        cases made : codec.encode (⟨source, fileName, asModule.getD false, strict⟩ : EvalRequest) <;>
          rw [made] at written <;>
          split at written <;>
          simp_all [Except.mapError, Except.map]
      · rw [List.append_nil]
        rfl
    | callFunction => exact mapError_encode codec _
    | setGlobal => exact mapError_encode codec _
    | getGlobal =>
      simp only [HostCall.payload, HostCall.document, HostCall.bare, List.append_nil]
      rfl
    | releaseFunction => exact mapError_encode codec _
    | executePendingJobs => rfl

theorem Conveys.operation_eq (conveys : Conveys args name w) (codec : Codec) : ∃ named : Option Nat,
    operation codec ⟨name.word, args⟩ = if codec.limit < w.document.length then .error noRoom
      else .ok ⟨name.word, named, w.payload⟩ := by
  obtain ⟨handle, addressed⟩ : ∃ handle, Addresses args handle := by
    cases conveys <;> exact ⟨_, by assumption⟩
  refine ⟨handle.map UInt64.toNat, ?_⟩
  rw [operation_addressed addressed, conveys.payload_eq]
  split <;> rfl

/-- The call has well-formed arguments, and the document that it sends is longer than the limit. -/
def DocumentTooLong (codec : Codec) (call : MethodCall) : Prop :=
  ∃ name w, call.method = OperationName.word name ∧ Conveys call.arguments name w ∧
    codec.limit < w.document.length

/-- The call comes to a value, and the document that shows it is longer than the limit. -/
def AnswerTooLong (d : Dispatcher K) (call : MethodCall) : Prop :=
  ∃ op value, operation d.codec call = .ok op ∧ Yields d op value ∧
    d.codec.limit < (Wire.write value).length

/-- A call that is sent comes to a value and shows it, if there is room, or it fails for a reason that is
not internal. -/
theorem invoke_answer (consistent : d.Consistent) {call : MethodCall} {op : Operation}
    (operated : operation d.codec call = .ok op) :
    (∃ value, Yields d op value ∧ (effect (invoke call) d).1 =
      if d.codec.limit < (Wire.write value).length then .error noRoom else .ok value.tidied.toJson) ∨
    (∀ value, ¬ Yields d op value) ∧ External (effect (invoke call) d).1 := by
  have sent := (sends_invoke operated).effect consistent
  rw [← effect_dispatch consistent op] at sent
  obtain ⟨value, yields, told⟩ | ⟨nothing, e, failed, outside⟩ := dispatch_answer consistent op
  · refine .inl ⟨value, yields, ?_⟩
    rw [sent]
    rcases ran : effect (dispatch op) d with ⟨e | answer, after⟩ <;> rw [ran] at told
    · obtain ⟨long, rfl⟩ := reported_eq_error_iff.mp told.symm
      rw [if_pos long]
    · have fits : ¬ d.codec.limit < (Wire.write value).length := fun long => by
        have refused := reported_eq_error_iff.mpr ⟨long, rfl⟩
        rw [refused] at told
        cases told
      have read := readable_told told.symm
      simp only [read, if_neg fits, Except.map]
  · refine .inr ⟨nothing, e, ?_, outside⟩
    rw [sent]
    rcases ran : effect (dispatch op) d with ⟨e' | answer, after⟩ <;> rw [ran] at failed <;>
      cases failed
    rfl

/-- A call is sent, its document is too long, or it is refused for a reason that is not internal. -/
theorem operation_sent (codec : Codec) (call : MethodCall) : (∃ op, operation codec call = .ok op) ∨
    DocumentTooLong codec call ∨ External (operation codec call) := by
  obtain ⟨method, args⟩ := call
  cases known : OperationName.ofWord? method with
  | none =>
    refine .inr (.inr ⟨.unknownOperation method, ?_, by simp⟩)
    rw [operation, known]
    rfl
  | some name =>
    obtain rfl := Dispatcher.word_of_ofWord? known
    by_cases wellFormed : ∃ w, Conveys args name w
    · obtain ⟨w, conveys⟩ := wellFormed
      obtain ⟨named, operated⟩ := conveys.operation_eq codec
      rw [operated]
      split
      · rename_i long
        exact .inr (.inl ⟨name, w, rfl, conveys, long⟩)
      · exact .inl ⟨_, rfl⟩
    · obtain ⟨text, refused⟩ | disposal :=
        @operation_illFormed args codec name (not_exists.mp wellFormed)
      · exact .inr (.inr ⟨_, refused, by simp⟩)
      · exact .inl ⟨_, disposal⟩

theorem DocumentTooLong.operation_eq {codec : Codec} {call : MethodCall}
    (tooLong : DocumentTooLong codec call) : operation codec call = .error noRoom := by
  obtain ⟨method, args⟩ := call
  obtain ⟨name, w, rfl, conveys, long⟩ := tooLong
  obtain ⟨named, operated⟩ := conveys.operation_eq codec
  rw [operated, if_pos long]

/-- The refusal of a payload that is too long. -/
theorem effect_too_long (consistent : d.Consistent) (conveys : Conveys args name w)
    (long : d.codec.limit < w.payload.length) : effect (invoke ⟨name.word, args⟩) d =
      (.error (if d.codec.limit < w.document.length then noRoom
        else oversized d.codec w.payload.length), d.unlogged) := by
  obtain ⟨named, operated⟩ := conveys.operation_eq d.codec
  split
  · rename_i document
    rw [if_pos document] at operated
    exact effect_of_exec (exec_invoke_error operated)
  · rename_i document
    rw [if_neg document] at operated
    rw [(sends_invoke operated).effect consistent]
    simp only [respond, admitted, OperationName.ofWord?_word, unlogged_codec, long, ↓reduceIte]
    rfl

/-- An internal error says that a document was too long: the one that the call sends, or its answer. -/
theorem invoke_internal_iff (consistent : d.Consistent) (call : MethodCall) {e : DispatchError}
    (internal : e.code = .internalError) : (effect (invoke call) d).1 = .error e ↔
      e = noRoom ∧ (DocumentTooLong d.codec call ∨ AnswerTooLong d call) := by
  by_cases tooLong : DocumentTooLong d.codec call
  · rw [effect_of_exec (exec_invoke_error tooLong.operation_eq)]
    simp [tooLong, eq_comm]
  obtain ⟨op, operated⟩ | sent | ⟨e', refused, outside⟩ := operation_sent d.codec call
  · simp only [tooLong, false_or, AnswerTooLong, operated, Except.ok.injEq, exists_and_left,
      exists_eq_left']
    obtain ⟨value, yields, shows⟩ | ⟨nothing, external⟩ := invoke_answer consistent operated
    · have only (other : Datum) : Yields d op other ↔ other = value :=
        ⟨fun also => also.unique yields, fun same => same ▸ yields⟩
      rw [shows]
      by_cases long : d.codec.limit < (Wire.write value).length <;> simp [only, long, eq_comm]
    · simp [nothing, external.ne internal]
  · exact absurd sent tooLong
  · rw [effect_of_exec (exec_invoke_error refused)]
    have other : e' ≠ e := fun same => outside (same ▸ internal)
    simp [tooLong, AnswerTooLong, refused, other]

/-- A call with well-formed arguments whose payload is longer than the limit is refused and leaves
everything as it was, as having an invalid argument if its document is short enough, and with an
internal error otherwise. No call has an internal error but this and that of an answer that is too long. -/
theorem too_long_refused (reachable : d.Reachable) (call : MethodCall) :
    (∀ name w, call.method = OperationName.word name → Conveys call.arguments name w →
      d.codec.limit < w.payload.length → effect (invoke call) d =
        (.error (if d.codec.limit < w.document.length then noRoom
          else oversized d.codec w.payload.length), d.unlogged)) ∧
    ∀ e, e.code = .internalError → ((effect (invoke call) d).1 = .error e ↔
      e = noRoom ∧ (DocumentTooLong d.codec call ∨ AnswerTooLong d call)) := by
  have consistent := reachable.consistent
  refine ⟨?_, fun e internal => invoke_internal_iff consistent call internal⟩
  obtain ⟨method, args⟩ := call
  rintro name w rfl conveys long
  exact effect_too_long consistent conveys long

/-- A dispatcher whose payloads have room for eight bytes. -/
def terse : Dispatcher (ScriptedEngine.kind false) :=
  Dispatcher.ofSettings { dispatcher := { maxPayload := 8 } } ()

/-- A script that is one byte too long. -/
theorem too_long_refused_script :
    effect (invoke ⟨"evalScript", .object [("source", .string "123456789")]⟩) terse =
      (.error (.invalidArgument "payload of 9 bytes exceeds limit of 8"), terse) := by
  have conveys : Conveys (.object [("source", .string "123456789")]) .evalScript
      (.command (.evalRequest ⟨"123456789", none, false, none⟩) none) :=
    @Conveys.evalScript _ none "123456789" none none none ⟨.inr rfl, .inl rfl⟩ rfl (.inl rfl)
      (.inl rfl) (.inl rfl)
  have refused := (too_long_refused (d := terse) ⟨_, _, [], rfl⟩
    ⟨"evalScript", .object [("source", .string "123456789")]⟩).1 .evalScript _ rfl conveys (by decide)
  exact refused

/-- The arguments of a call are at fault in the same way, and the caller is told of an internal error. -/
theorem long_arguments_internal :
    Conveys (.object [("args", .array [.string "a long text"]), ("function", .string "echo")])
      .callFunction (.command (.callFunction ⟨.path "echo", [.string "a long text"]⟩) none) ∧
    terse.codec.limit <
      (HostCall.command (.callFunction ⟨.path "echo", [.string "a long text"]⟩) none).payload.length ∧
    effect (invoke ⟨"callFunction",
      .object [("args", .array [.string "a long text"]), ("function", .string "echo")]⟩) terse =
        (.error (.internal "the size limit has been reached"), terse) := by
  refine ⟨?_, by decide, rfl⟩
  exact @Conveys.callFunction _ none (.path "echo") (some [.string "a long text"]) ⟨.inr rfl, .inl rfl⟩
    rfl rfl

end Channel

end ScriptHost
