import ScriptHost.Dispatch.Operation
import ScriptHost.Proofs.Wire.Decoding

/-! What the payload of an operation stands for, told by the format alone. Reading a payload finds
what it stands for; a payload that stands for nothing is the caller's fault, whichever of the
decoders it was meant for. -/

namespace ScriptHost.Wire

variable {α : Type}

theorem takes_target : Takes (read : Reader FunctionRef) (TargetForm .tolerant) := by
  refine (takes_case 2).bind fun index tag ⟨number, known⟩ => ?_
  match index, known with
  | 0, _ => exact takes_text.map fun {_ body} text => ⟨tag, body, rfl, number, text⟩
  | 1, _ => exact takes_word.map fun {_ body} word => ⟨tag, body, rfl, number, word⟩

theorem takes_eval : Takes (read : Reader EvalRequest) (EvalForm .tolerant) :=
  takes_text.bind fun _ source text =>
    (takes_option takes_text).bind fun _ name named =>
      takes_bool.bind fun _ kind kinded =>
        (takes_option takes_bool).map fun {_ mode} strict =>
          ⟨source, name ++ (kind ++ mode), rfl, text, name, kind ++ mode, rfl, named, kind, mode, rfl,
            kinded, strict⟩

theorem takes_call : Takes (read : Reader CallRequest) (CallForm .tolerant) := by
  refine takes_target.bind fun f target called => takes_number.bind fun count size number => ?_
  have args : Takes (fun bytes => readItems (2 * bytes.length + 2) count [] bytes)
      fun items bytes => items.length = count ∧ ItemsForm .tolerant items bytes := by
    intro bytes items rest ran
    obtain ⟨front, same, _, rfl, length, formed⟩ := takes_items _ count [] ran
    exact ⟨front, same, length, formed⟩
  refine args.map fun {items body} ⟨length, formed⟩ => ?_
  subst length
  exact ⟨target, size ++ body, rfl, called, size, body, rfl, number, formed⟩

theorem takes_assignment : Takes (read : Reader GlobalAssignment) (AssignmentForm .tolerant) := by
  have value : Takes (read : Reader Datum) (DatumForm .tolerant) := fun _ _ _ ran => takes_datum _ ran
  exact takes_text.bind fun _ name text =>
    value.map fun {_ body} formed => ⟨name, body, rfl, text, formed⟩

theorem takes_options : Takes (read : Reader EngineOptions) (OptionsForm .tolerant) :=
  have word := takes_option takes_word
  word.bind fun _ memory first => word.bind fun _ stack second =>
    word.map fun {_ time} third =>
      ⟨memory, stack ++ time, rfl, first, stack, time, rfl, second, third⟩

/-- Does the payload of an operation ask for this? Options that are left out are the default ones, and
operations that take nothing do not look at their payload. -/
def Asks (payload : List UInt8) : OperationName → Request → Prop
  | .createEngine, .create o => payload = [] ∧ o = {} ∨ OptionsForm .tolerant o payload
  | .disposeEngine, .dispose => True
  | .evalScript, .command (.eval r) =>
    (∃ bytes, payload = Codec.evalTag :: bytes ∧ EvalForm .tolerant r bytes) ∨
      payload.head? ≠ some Codec.evalTag ∧ payload = Utf8.encode r.source ∧
        r = { source := r.source }
  | .callFunction, .command (.call r) => CallForm .tolerant r payload
  | .setGlobal, .command (.setGlobal a) => AssignmentForm .tolerant a payload
  | .getGlobal, .command (.getGlobal name) => payload = Utf8.encode name
  | .releaseFunction, .command (.release id) => WordForm .tolerant id payload
  | .executePendingJobs, .command .runJobs => True
  | _, _ => False

end ScriptHost.Wire

namespace ScriptHost.Codec

open Wire

variable {α β ε : Type}

theorem pure_eq_ok_iff {a b : α} : (pure a : Except ε α) = .ok b ↔ a = b := by
  simp [pure, Except.pure]

theorem pure_ne_error {a : α} {e : ε} : (pure a : Except ε α) ≠ .error e := by
  simp [pure, Except.pure]

theorem map_eq_ok_iff {x : Except ε α} {f : α → β} {b : β} :
    f <$> x = .ok b ↔ ∃ a, x = .ok a ∧ f a = b := by
  cases x <;> simp

theorem map_eq_error_iff {x : Except ε α} {f : α → β} {e : ε} :
    f <$> x = .error e ↔ x = .error e := by
  cases x <;> simp

/-- Bytes are decoded to the values that they are a form of. -/
theorem decode_eq_ok_iff [Wire α] {form : α → List UInt8 → Prop}
    (takes : Takes (read : Reader α) form)
    (reads : ∀ {a bytes}, form a bytes → Reads (read : Reader α) bytes a) {bytes : List UInt8}
    {a : α} : decode bytes = .ok a ↔ form a bytes := by
  constructor
  · intro decoded
    unfold decode at decoded
    split at decoded <;> cases decoded
    rename_i ran
    obtain ⟨front, whole, formed⟩ := takes (readAll_eq_ok ran)
    rw [List.append_nil] at whole
    exact whole ▸ formed
  · intro formed
    have ran : readAll bytes = .ok a := readAll_eq (reads formed)
    simp [decode, ran]

theorem decodeText_eq_ok_iff {bytes : List UInt8} {s : String} :
    decodeText bytes = .ok s ↔ bytes = Utf8.encode s := by
  rw [← Utf8.decode_ok_iff]
  unfold decodeText
  cases Utf8.decode bytes <;> simp

theorem decodeEval_text {bytes : List UInt8} (untagged : bytes.head? ≠ some evalTag) :
    decodeEval bytes = (decodeText bytes).map fun s => { source := s } := by
  cases bytes with
  | nil => rfl
  | cons b rest =>
    have other : b ≠ evalTag := by simpa using untagged
    simp only [decodeEval, other, ↓reduceIte]
    cases decodeText (b :: rest) <;> rfl

theorem decodeOptions_eq_ok_iff {bytes : List UInt8} {o : EngineOptions} :
    decodeOptions bytes = .ok o ↔ bytes = [] ∧ o = {} ∨ OptionsForm .tolerant o bytes := by
  unfold decodeOptions
  rcases bytes with _ | ⟨b, rest⟩
  · -- Three options take a byte each at least.
    have none : ¬ OptionsForm .tolerant o [] := by
      obtain ⟨memory, stack, time⟩ := o
      rintro ⟨first, _, empty, known, -⟩
      cases known <;> simp at empty
    simp [none, eq_comm]
  · simp [decode_eq_ok_iff takes_options (OptionsForm.reads tolerant_readable)]

theorem decodeEval_eq_ok_iff {bytes : List UInt8} {r : EvalRequest} :
    decodeEval bytes = .ok r ↔ (∃ rest, bytes = evalTag :: rest ∧ EvalForm .tolerant r rest) ∨
      bytes.head? ≠ some evalTag ∧ bytes = Utf8.encode r.source ∧ r = { source := r.source } := by
  by_cases tagged : bytes.head? = some evalTag
  · obtain ⟨rest, rfl⟩ := List.head?_eq_some_iff.mp tagged
    simp [decodeEval, decode_eq_ok_iff takes_eval (EvalForm.reads tolerant_readable)]
  · have untagged (rest : List UInt8) : bytes ≠ evalTag :: rest := by
      rintro rfl
      exact tagged rfl
    rw [decodeEval_text tagged]
    simp only [untagged, false_and, exists_false, false_or, ne_eq, tagged, not_false_eq_true,
      true_and, ← decodeText_eq_ok_iff]
    cases decodeText bytes with
    | error e => simp [Except.map]
    | ok s =>
      simp only [Except.map, Except.ok.injEq]
      constructor
      · rintro rfl
        exact ⟨rfl, rfl⟩
      · rintro ⟨same, shape⟩
        rw [shape, same]

/-! ### Why a payload cannot be read -/

theorem decode_malformed [Wire α] {bytes : List UInt8} {e : CodecError}
    (unread : (decode bytes : Except CodecError α) = .error e) :
    ∃ reason, e = .malformed reason := by
  unfold decode at unread
  split at unread <;> cases unread
  exact ⟨_, rfl⟩

theorem ofCodec_of_decode [Wire α] {bytes : List UInt8} {e : CodecError}
    (unread : (decode bytes : Except CodecError α) = .error e) :
    DispatchError.ofCodec e = .invalidArgument e.message := by
  obtain ⟨reason, rfl⟩ := decode_malformed unread
  rfl

theorem ofCodec_of_decodeText {bytes : List UInt8} {e : CodecError}
    (unread : decodeText bytes = .error e) :
    DispatchError.ofCodec e = .invalidArgument e.message := by
  unfold decodeText at unread
  split at unread <;> cases unread
  rfl

theorem ofCodec_of_decodeOptions {bytes : List UInt8} {e : CodecError}
    (unread : decodeOptions bytes = .error e) :
    DispatchError.ofCodec e = .invalidArgument e.message := by
  unfold decodeOptions at unread
  split at unread
  · cases unread
  · exact ofCodec_of_decode unread

theorem ofCodec_of_decodeEval {bytes : List UInt8} {e : CodecError}
    (unread : decodeEval bytes = .error e) :
    DispatchError.ofCodec e = .invalidArgument e.message := by
  by_cases tagged : bytes.head? = some evalTag
  · obtain ⟨rest, rfl⟩ := List.head?_eq_some_iff.mp tagged
    exact ofCodec_of_decode (by simpa [decodeEval] using unread)
  · rw [decodeEval_text tagged] at unread
    exact ofCodec_of_decodeText (map_eq_error_iff.mp unread)

end ScriptHost.Codec

namespace ScriptHost.OperationName

open Wire Codec

theorem ofWord?_word (name : OperationName) : ofWord? name.word = some name := by
  cases name <;> rfl

theorem word_inj {name other : OperationName} (same : name.word = other.word) : name = other :=
  Option.some.inj <| by rw [← ofWord?_word name, same, ofWord?_word]

/-- Reading a payload finds what it asks for, and nothing else. -/
theorem request_eq_ok_iff {name : OperationName} {payload : List UInt8} {request : Request} :
    name.request payload = .ok request ↔ Asks payload name request := by
  -- Each operation has one kind of request, and a decoder for what that holds.
  cases name <;> rcases request with options | _ | (r | r | a | key | id | _) <;>
    simp [OperationName.request, Asks, map_eq_ok_iff, pure_eq_ok_iff, decodeOptions_eq_ok_iff,
      decodeEval_eq_ok_iff, decodeText_eq_ok_iff,
      decode_eq_ok_iff takes_call (CallForm.reads tolerant_readable),
      decode_eq_ok_iff takes_assignment (AssignmentForm.reads tolerant_readable),
      decode_eq_ok_iff takes_word (WordForm.reads tolerant_readable)]

/-- What cannot be read is the caller's fault. -/
theorem ofCodec_of_request {name : OperationName} {payload : List UInt8} {e : CodecError}
    (unread : name.request payload = .error e) :
    DispatchError.ofCodec e = .invalidArgument e.message := by
  cases name <;>
    simp only [OperationName.request, bind_pure_comp, map_eq_error_iff, pure_ne_error] at unread
  case createEngine => exact ofCodec_of_decodeOptions unread
  case evalScript => exact ofCodec_of_decodeEval unread
  case getGlobal => exact ofCodec_of_decodeText unread
  all_goals exact ofCodec_of_decode unread

end ScriptHost.OperationName
