import ScriptHost.Proofs.Channel.Arguments
import ScriptHost.Proofs.Dispatch.Changes

/-! Calls over a channel do what the typed calls of the dispatcher do. Each is one operation whose answer
is read; the two operations ask for the same, and whatever they are answered reads the same. -/

namespace ScriptHost

variable {K : EngineKind} {α β : Type}

/-! ### What the calls return -/

/-- The JSON view of what a typed call returned. -/
def TypedCall.view : TypedCall α → α → Json
  | evalScript _, value | evalRequest _, value | callFunction _, value | getGlobal _, value =>
    value.toJson
  | setGlobal _, _ => .null
  | releaseFunction _, known => .bool known
  | executePendingJobs, count => .int count

/-- Makes the call, and shows what it returned. -/
def HostCall.perform : HostCall → Dispatch K Json
  | create options => return .int (← Dispatcher.createEngine (some options))
  | dispose handle => do
    Dispatcher.disposeEngine handle.toNat
    return .null
  | command call handle => return call.view (← call.through (handle.map UInt64.toNat))

theorem TypedCall.toJson_shown {call : TypedCall α} {a : α} (counted : call.Counted a) :
    (call.shown a).toJson = call.view a := by
  cases call with
  | executePendingJobs =>
    have small : (Int64.ofNat a).toInt = a := Int64.toInt_ofNat_of_lt counted
    rw [shown, Datum.toJson, small, view]
  | _ => rfl

theorem Outcome.map_eq_value {o : Outcome α} {f : α → β} {b : β} (given : o.map f = .value b) :
    ∃ a, o = .value a ∧ f a = b := by
  cases o <;> cases given
  exact ⟨_, rfl, rfl⟩

namespace Dispatcher

open Dispatch

variable {d : Dispatcher K}

/-! ### One operation and its answer -/

/-- Does the action send this operation, and read the answer like this? -/
def Sends (action : Dispatch K α) (d : Dispatcher K) (op : Operation)
    (read : List UInt8 → Except DispatchError α) : Prop :=
  exec action d = match exec (dispatch op) d with
    | (.ok answer, after) => (read answer, after)
    | (.error e, after) => (.error e, after)

theorem Sends.effect {action : Dispatch K α} {op : Operation}
    {read : List UInt8 → Except DispatchError α} (sends : Sends action d op read)
    (consistent : d.Consistent) : Dispatch.effect action d = match d.unlogged.respond op with
      | (.ok answer, after) => (read answer, after)
      | (.error e, after) => (.error e, after) := by
  rw [← effect_dispatch consistent op, Dispatch.effect, sends, Dispatch.effect]
  rcases exec (dispatch op) d with ⟨_ | _, _⟩ <;> rfl

theorem Sends.after {action : Dispatch K α} {op : Operation}
    {read : List UInt8 → Except DispatchError α} (sends : Sends action d op read) :
    (exec action d).2 = (exec (dispatch op) d).2 := by
  rw [sends]
  rcases exec (dispatch op) d with ⟨_ | _, after⟩ <;> rfl

/-- Actions whose operations are answered alike, and that read the answer alike, have one effect. -/
theorem Sends.effect_eq {one other : Dispatch K α} {op op' : Operation}
    {read read' : List UInt8 → Except DispatchError α} (first : Sends one d op read)
    (second : Sends other d op' read') (consistent : d.Consistent)
    (alike : d.unlogged.respond op = d.unlogged.respond op')
    (agree : ∀ answer after, d.unlogged.respond op = (.ok answer, after) → read answer = read' answer) :
    Dispatch.effect one d = Dispatch.effect other d := by
  rw [first.effect consistent, second.effect consistent, ← alike]
  rcases responds : d.unlogged.respond op with ⟨e | answer, after⟩
  · rfl
  · simp only [agree answer after responds]

theorem Sends.shown {action : Dispatch K α} {op : Operation}
    {read : List UInt8 → Except DispatchError α} (sends : Sends action d op read) (f : α → β) :
    Sends (do return f (← action)) d op fun answer => (read answer).map f := by
  rw [Sends, exec_bind, sends]
  rcases exec (dispatch op) d with ⟨e | answer, after⟩
  · rfl
  · dsimp only
    cases read answer <;> rfl

/-- The handle in the answer of a creation. -/
def handleOf (value : Datum) : Except DispatchError Nat :=
  match value.asNat? with
  | some handle => .ok handle
  | none => .error (unexpected .createEngine value)

/-- A creation is its operation, once the payload is made, and the handle in the answer. -/
theorem sends_createEngine {options : Option EngineOptions} {bytes : List UInt8}
    (written : options.elim (.ok []) d.codec.encode = .ok bytes) : Sends (createEngine options) d
      ⟨OperationName.createEngine.word, none, bytes⟩ fun answer => readable answer >>= handleOf := by
  have takes (value : Datum) (after : Dispatcher K) :
      exec (match value.asNat? with
        | some handle => return handle
        | none => throw (unexpected .createEngine value)) after = (handleOf value, after) := by
    unfold handleOf
    cases value.asNat? <;> rfl
  refine Eq.trans ?_ (exec_taking takes _)
  cases options with
  | none =>
    cases written
    exact exec_bind (pure []) _ d
  | some given => exact exec_writing (·.encode given) written

theorem sends_disposeEngine (handle : Nat) : Sends (disposeEngine handle) d
    ⟨OperationName.disposeEngine.word, some handle, []⟩ fun _ => .ok () := by
  rw [Sends, disposeEngine, exec_bind]
  rcases exec (dispatch _) d with ⟨_ | _, _⟩ <;> rfl

theorem sends_invoke {call : MethodCall} {op : Operation}
    (operated : Channel.operation d.codec call = .ok op) :
    Sends (Channel.invoke call) d op fun answer => (readable answer).map Datum.toJson :=
  Channel.exec_invoke operated

theorem exec_invoke_error {call : MethodCall} {e : DispatchError}
    (failed : Channel.operation d.codec call = .error e) :
    exec (Channel.invoke call) d = (.error e, d) := by
  simp only [Channel.invoke, exec_bind, exec_get, failed, Channel.exec_liftExcept]

/-! ### What an answer says -/

/-- What is told of a value is read as that value. -/
theorem readable_reported {value : Datum} (ordered : value.Ordered) {answer : List UInt8}
    (told : reported d.codec (.ok value) = .ok answer) : readable answer = .ok value := by
  have trips := Codec.roundTrips (Wire.only_datum value ordered) (Wire.reads_datum Wire.canonical_readable)
  rw [reported] at told
  cases written : d.codec.encode value with
  | error e =>
    rw [written] at told
    cases told
  | ok bytes =>
    rw [written] at told
    cases told
    rw [readable, Codec.decode_of_encode trips written]
    rfl

/-- The answer to a command is the value that an engine gave. -/
theorem answered_command {named : Option Nat} {command : Command} {answer : List UInt8}
    {after : Dispatcher K} (consistent : d.Consistent)
    (ran : d.answered named (.command command) = (.ok answer, after)) :
    ∃ (engine : K.Engine) (owner : Dispatcher K) (value : Datum),
      (K.run command engine).1 = .value value ∧ reported owner.codec (.ok value) = .ok answer := by
  rw [answered] at ran
  rcases found : d.resolved named with ⟨e | worker, owner⟩
  · simp [found] at ran
  · obtain ⟨handle, engine, rfl⟩ := resolved_live consistent found
    refine ⟨engine, owner, ?_⟩
    rcases given : K.run command engine with ⟨outcome, records, final⟩
    simp only [found, carried, Worker.run_live, given] at ran
    cases outcome with
    | value value => exact ⟨value, rfl, congrArg Prod.fst ran⟩
    | error e => cases e <;> cases congrArg Prod.fst ran
    | panicked p => cases congrArg Prod.fst ran

theorem respond_ok {name : OperationName} {named : Option Nat} {bytes answer : List UInt8}
    {after : Dispatcher K} (responds : d.respond ⟨name.word, named, bytes⟩ = (.ok answer, after)) :
    ∃ request, name.request bytes = .ok request ∧ d.answered named request = (.ok answer, after) := by
  rw [respond] at responds
  cases asked : admitted d.codec ⟨name.word, named, bytes⟩ with
  | error e =>
    rw [asked] at responds
    cases responds
  | ok request =>
    rw [asked] at responds
    obtain ⟨known, same, -, read⟩ := admitted_eq_ok_iff.mp asked
    rw [OperationName.ofWord?_word] at same
    cases same
    exact ⟨request, read, responds⟩

/-- The answer to a creation is the handle of the engine. -/
theorem answered_create {named : Option Nat} {options : EngineOptions} {answer : List UInt8}
    {after : Dispatcher K} (ran : d.answered named (.create options) = (.ok answer, after)) :
    ∃ owner : Dispatcher K, reported owner.codec (.ok (.int (Int64.ofNat d.next))) = .ok answer := by
  rw [answered] at ran
  obtain ⟨e, plan, made⟩ | ⟨engine, plan, made⟩ := made_cases (d.limits.withOptions options) d
  · rw [made] at ran
    cases congrArg Prod.fst ran
  · rw [made] at ran
    exact ⟨_, congrArg Prod.fst ran⟩

theorem answered_dispose {named : Option Nat} {answer : List UInt8} {after : Dispatcher K}
    (ran : d.answered named .dispose = (.ok answer, after)) :
    reported d.codec (.ok .undefined) = .ok answer := by
  unfold answered at ran
  cases named with
  | none => cases congrArg Prod.fst ran
  | some handle =>
    dsimp only at ran
    split at ran
    · cases congrArg Prod.fst ran
    · exact congrArg Prod.fst ran

/-- Whatever is asked with a handle, a creation does not look at it, and options may be left out. -/
theorem respond_create_eq {named other : Option Nat} {bytes bytes' : List UInt8}
    (fits : bytes.length ≤ d.codec.limit) (fits' : bytes'.length ≤ d.codec.limit)
    (same : Codec.decodeOptions bytes = Codec.decodeOptions bytes') :
    d.respond ⟨OperationName.createEngine.word, named, bytes⟩ =
      d.respond ⟨OperationName.createEngine.word, other, bytes'⟩ := by
  simp only [respond, admitted, OperationName.ofWord?_word, Nat.not_lt.mpr fits, Nat.not_lt.mpr fits',
    ↓reduceIte, OperationName.request, same]
  cases Codec.decodeOptions bytes' <;> rfl

end Dispatcher

theorem Codec.decodeOptions_of_encode {limit : UInt64} {options : EngineOptions} {bytes : List UInt8}
    (written : (Codec.mk limit.toNat).encode options = .ok bytes) :
    decodeOptions bytes = .ok options := by
  have trips := roundTrips (Wire.only_options options) (Wire.OptionsForm.reads Wire.canonical_readable)
  have decoded := decode_of_encode trips written
  cases bytes with
  | nil => cases decoded
  | cons b rest => exact decoded

/-- A payload that is read asks for a command with what was read. -/
theorem OperationName.command_of_read {read : Except CodecError β} (command : β → Command)
    {request : Request} (asked : (do return .command (command (← read))) = Except.ok request) :
    ∃ b, request = .command (command b) := by
  cases read <;> cases asked
  exact ⟨_, rfl⟩

namespace TypedCall

open Dispatcher

variable {d after : Dispatcher K} {named : Option Nat} {answer : List UInt8}

/-- The answer to a command that a method carries out, shown as it is and as what the method gave. -/
theorem view_performed {call : TypedCall α} {command : Command}
    {method : K.Engine → Performed K.Engine α}
    (runs : ∀ engine, K.run command engine = (method engine).map call.shown)
    (counted : ∀ engine a, (method engine).1 = .value a → call.Counted a)
    (ordered : ∀ a, (call.shown a).Ordered) (consistent : d.Consistent)
    (ran : d.answered named (.command command) = (.ok answer, after)) :
    (readable answer).map Datum.toJson = (readable answer >>= call.taken).map call.view := by
  obtain ⟨engine, owner, value, given, told⟩ := answered_command consistent ran
  rw [runs] at given
  obtain ⟨a, gave, rfl⟩ := Outcome.map_eq_value given
  have small := counted engine a gave
  rw [readable_reported (ordered a) told]
  show Except.ok (call.shown a).toJson = (call.taken (call.shown a)).map call.view
  rw [taken_shown small, toJson_shown small]
  rfl

/-- The answer to a command, shown as it is and as the result of the typed call. -/
theorem view_answer {m : Methods K.Engine} (runs : K.Runs m)
    (counts : ∀ engine count, (m.runJobs engine).1 = .value count → count < 2 ^ 63)
    (consistent : d.Consistent) (call : TypedCall α) {bytes : List UInt8}
    (responds : d.respond ⟨call.operation.word, named, bytes⟩ = (.ok answer, after)) :
    (readable answer).map Datum.toJson = (readable answer >>= call.taken).map call.view := by
  obtain ⟨request, read, ran⟩ := respond_ok responds
  cases call with
  | evalScript source => cases readable answer <;> rfl
  | evalRequest request => cases readable answer <;> rfl
  | callFunction request => cases readable answer <;> rfl
  | getGlobal name => cases readable answer <;> rfl
  | setGlobal a =>
    obtain ⟨assignment, rfl⟩ := OperationName.command_of_read .setGlobal read
    exact view_performed (runs _) (fun _ _ _ => trivial) (fun _ => trivial) consistent ran
  | releaseFunction id =>
    obtain ⟨key, rfl⟩ := OperationName.command_of_read .release read
    exact view_performed (runs _) (fun _ _ _ => trivial) (fun _ => trivial) consistent ran
  | executePendingJobs =>
    cases read
    exact view_performed (runs _) counts (fun _ => trivial) consistent ran

end TypedCall

/-- No options take three bytes. -/
theorem Codec.encode_noOptions {codec : Codec} (room : 3 ≤ codec.limit) :
    codec.encode ({} : EngineOptions) = .ok (Wire.write ({} : EngineOptions)) := by
  have length : (Wire.write ({} : EngineOptions)).length = 3 := by decide
  exact (encode_eq_ok _ _ _).mpr ⟨rfl, by omega⟩

namespace Channel

open Dispatch Dispatcher

variable {d : Dispatcher K} {args : Json} {name : OperationName}

theorem Conveys.addresses {call : TypedCall α} {handle : Option UInt64}
    (conveys : Conveys args name (.command call handle)) :
    Addresses args handle ∧ name = call.operation := by
  cases conveys <;> exact ⟨by assumption, rfl⟩

/-! ### The effects of calls -/

theorem effect_illFormed (consistent : d.Consistent) (illFormed : ∀ w, ¬ Conveys args name w) :
    ∃ reason,
      effect (invoke ⟨name.word, args⟩) d = (.error (.invalidArgument reason), d.unlogged) := by
  obtain ⟨reason, refused⟩ | disposal := @operation_illFormed args d.codec name illFormed
  · exact ⟨reason, effect_of_exec (exec_invoke_error refused)⟩
  · refine ⟨"disposeEngine requires a handle", ?_⟩
    rw [(sends_invoke disposal).effect consistent]
    simp only [respond, admitted, OperationName.ofWord?_word, List.length_nil, Nat.not_lt_zero,
      ↓reduceIte]
    rfl

theorem effect_command {m : Methods K.Engine} (runs : K.Runs m)
    (counts : ∀ engine count, (m.runJobs engine).1 = .value count → count < 2 ^ 63)
    (consistent : d.Consistent) {call : TypedCall α} {handle : Option UInt64}
    (conveys : Conveys args name (.command call handle)) :
    effect (invoke ⟨name.word, args⟩) d = effect (HostCall.command call handle).perform d := by
  obtain ⟨addressed, rfl⟩ := conveys.addresses
  have operated := @operation_addressed args d.codec handle addressed call.operation
  rw [payload_command conveys] at operated
  cases written : call.payload d.codec with
  | error e =>
    rw [written] at operated
    have unsent := TypedCall.exec_through_unwritten written (handle.map UInt64.toNat)
    have failed : exec (HostCall.command call handle).perform d = (.error (.ofCodec e), d) := by
      rw [HostCall.perform, exec_bind, unsent]
    rw [effect_of_exec (exec_invoke_error operated), effect_of_exec failed]
  | ok bytes =>
    rw [written] at operated
    have sends : Sends (call.through (handle.map UInt64.toNat)) d
        ⟨call.operation.word, handle.map UInt64.toNat, bytes⟩ _ := TypedCall.exec_through written _
    refine (sends_invoke operated).effect_eq (sends.shown call.view) consistent rfl ?_
    intro answer after responds
    exact call.view_answer runs counts (consistent_unlogged.mpr consistent) responds

/-- A payload that reads as these options will do for a creation, also an empty one. -/
theorem effect_creation (consistent : d.Consistent) (few : d.next < 2 ^ 63) {call : MethodCall}
    {named : Option Nat} {options : EngineOptions} {bytes given : List UInt8}
    (written : d.codec.encode options = .ok bytes)
    (operated : operation d.codec call = .ok ⟨OperationName.createEngine.word, named, given⟩)
    (fits : given.length ≤ d.codec.limit) (meant : Codec.decodeOptions given = .ok options) :
    effect (invoke call) d = effect (HostCall.create options).perform d := by
  have sends : Sends (createEngine (some options)) d _ _ := sends_createEngine written
  obtain ⟨rfl, small⟩ := (Codec.encode_eq_ok _ _ _).mp written
  have alike := meant.trans (Codec.decodeOptions_of_encode written).symm
  refine (sends_invoke operated).effect_eq (sends.shown fun handle => Json.int handle) consistent
    (respond_create_eq fits small alike) ?_
  intro answer after responds
  obtain ⟨request, read, ran⟩ := respond_ok responds
  rw [OperationName.request, meant] at read
  cases read
  obtain ⟨owner, told⟩ := answered_create ran
  have handle : handleOf (.int (Int64.ofNat d.next)) = .ok d.next := by
    rw [handleOf, Datum.asNat?_ofNat few]
  have number : (Int64.ofNat d.next).toInt = d.next := Int64.toInt_ofNat_of_lt few
  have ordered : (Datum.int (Int64.ofNat d.next)).Ordered := trivial
  rw [readable_reported ordered told]
  show Except.ok (Json.int (Int64.ofNat d.next).toInt) = (handleOf (.int (Int64.ofNat d.next))).map _
  rw [handle, number]
  rfl

theorem effect_createEngine (consistent : d.Consistent) (few : d.next < 2 ^ 63)
    (room : 3 ≤ d.codec.limit) {options : EngineOptions} (conveys : Conveys args name (.create options)) :
    effect (invoke ⟨name.word, args⟩) d = effect (HostCall.create options).perform d := by
  obtain @⟨handle, _, addressed, memory, stack, time⟩ := conveys
  have operated := @operation_addressed args d.codec handle addressed .createEngine
  rw [payload_createEngine memory stack time] at operated
  by_cases none : options = {}
  · subst none
    rw [if_pos rfl] at operated
    exact effect_creation consistent few (Codec.encode_noOptions room) operated (Nat.zero_le _) rfl
  · rw [if_neg none] at operated
    cases written : d.codec.encode options with
    | error e =>
      rw [written] at operated
      have failed : exec (HostCall.create options).perform d = (.error (.ofCodec e), d) := by
        have unsent : exec (createEngine (some options)) d = (.error (.ofCodec e), d) :=
          exec_unwritten (·.encode options) written
        rw [HostCall.perform, exec_bind, unsent]
      rw [effect_of_exec (exec_invoke_error operated), effect_of_exec failed]
    | ok bytes =>
      rw [written] at operated
      obtain ⟨rfl, small⟩ := (Codec.encode_eq_ok _ _ _).mp written
      exact effect_creation consistent few written operated small (Codec.decodeOptions_of_encode written)

theorem effect_disposeEngine (consistent : d.Consistent) {handle : UInt64}
    (conveys : Conveys args name (.dispose handle)) :
    effect (invoke ⟨name.word, args⟩) d = effect (HostCall.dispose handle).perform d := by
  cases conveys with
  | disposeEngine addressed =>
    have operated := @operation_addressed args d.codec _ addressed .disposeEngine
    have sends := sends_disposeEngine (d := d) handle.toNat
    refine (sends_invoke operated).effect_eq (sends.shown fun _ => Json.null) consistent rfl ?_
    intro answer after responds
    obtain ⟨request, read, ran⟩ := respond_ok responds
    cases read
    have ordered : Datum.undefined.Ordered := trivial
    rw [readable_reported ordered (answered_dispose ran)]
    rfl

/-- A call over a channel with ill-formed arguments is refused and changes nothing. Any other has the
effect of the typed call that its arguments convey, in its answer or error and in the state it leaves.
To ask for a new engine without options is to ask for one with empty options. -/
theorem invoke_refines {m : Methods K.Engine} (runs : K.Runs m)
    (counts : ∀ engine count, (m.runJobs engine).1 = .value count → count < 2 ^ 63)
    (reachable : d.Reachable) (few : d.next < 2 ^ 63) (room : 3 ≤ d.codec.limit)
    (name : OperationName) (args : Json) :
    ((∀ w, ¬ Conveys args name w) → ∃ reason,
      effect (invoke ⟨name.word, args⟩) d = (.error (.invalidArgument reason), d.unlogged)) ∧
    (∀ w, Conveys args name w → effect (invoke ⟨name.word, args⟩) d = effect w.perform d) ∧
    effect (createEngine none) d = effect (createEngine (some {})) d := by
  have consistent := reachable.consistent
  refine ⟨effect_illFormed consistent, fun w conveys => ?_, ?_⟩
  · cases w with
    | create options => exact effect_createEngine consistent few room conveys
    | dispose handle => exact effect_disposeEngine consistent conveys
    | command call handle => exact effect_command runs counts consistent conveys
  · have written := Codec.encode_noOptions room
    have small := ((Codec.encode_eq_ok _ _ _).mp written).2
    have none : Sends (createEngine none) d _ _ := sends_createEngine rfl
    have empty : Sends (createEngine (some {})) d _ _ := sends_createEngine written
    refine none.effect_eq empty consistent (respond_create_eq (Nat.zero_le _) small ?_) fun _ _ _ => rfl
    exact (Codec.decodeOptions_of_encode written).symm

/-- A function that echoes its arguments, called over the channel on an engine that was made before. -/
theorem invoke_refines_echo :
    (effect (invoke ⟨"callFunction",
        .object [("args", .array [.int 7]), ("function", .string "echo"), ("handle", .int 1)]⟩)
      ((Dispatcher.ofSettings {} () : Dispatcher (ScriptedEngine.kind false)).after
        [{ name := "createEngine" }])).1 = .ok (.array [.int 7]) := by
  have counts (engine : ScriptedEngine) (count : Nat)
      (given : (ScriptedEngine.methods.runJobs engine).1 = .value count) : count < 2 ^ 63 := by
    cases given
    decide
  have refines := invoke_refines (ScriptedEngine.runs_methods false) counts
    ⟨{}, (), [{ name := "createEngine" }], rfl⟩ (by decide) (by decide) .callFunction
    (.object [("args", .array [.int 7]), ("function", .string "echo"), ("handle", .int 1)])
  have conveys := @Conveys.callFunction
    (.object [("args", .array [.int 7]), ("function", .string "echo"), ("handle", .int 1)])
    (some 1) (.path "echo") (some [.int 7]) ⟨.inr rfl, rfl⟩ rfl rfl
  exact (congrArg Prod.fst (refines.2.1 _ conveys)).trans rfl

end Channel

end ScriptHost
