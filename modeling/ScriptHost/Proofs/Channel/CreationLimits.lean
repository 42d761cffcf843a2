import ScriptHost.Proofs.Channel.HostCalls
import ScriptHost.Proofs.Dispatch.Handles
import ScriptHost.Proofs.Dispatch.Noting

/-! The limits of engines over whole runs. Hosts send operations of their own making, typed calls and
calls over a channel, in any order; each is one operation at most. Whatever came before, an engine is made
with the configured limits and the options of the deed that asks for it, and one that is made because there
is no default engine with the configured limits alone. -/

namespace ScriptHost

variable {K : EngineKind} {α : Type}

/-- What a host does with a dispatcher: it sends an operation, or makes a typed call or one over a
channel. -/
inductive Deed : Type 1 where
  | send (op : Operation)
  | create (options : Option EngineOptions)
  | dispose (handle : Nat)
  | command {α : Type} (call : TypedCall α) (handle : Option Nat)
  | method (call : MethodCall)

namespace Deed

open Dispatcher Dispatch

/-- Does it; what comes back is of no interest here. -/
def perform : Deed → Dispatch K Unit
  | send op => do let _ ← Dispatcher.dispatch op
  | create options => do let _ ← createEngine options
  | dispose handle => disposeEngine handle
  | command call handle => do let _ ← call.through handle
  | method call => do let _ ← Channel.invoke call

/-- The operation that a deed comes to, if it comes to one. -/
def operation? (codec : Codec) : Deed → Option Operation
  | send op => some op
  | create options => (options.elim (.ok []) codec.encode).toOption.map
      (⟨OperationName.createEngine.word, none, ·⟩)
  | dispose handle => some ⟨OperationName.disposeEngine.word, some handle, []⟩
  | command call handle => (call.payload codec).toOption.map (⟨call.operation.word, handle, ·⟩)
  | method call => (Channel.operation codec call).toOption

/-- The options that a deed gives for an engine of its own. -/
inductive Asks : Deed → EngineOptions → Prop where
  | send {op : Operation} {options : EngineOptions} (named : op.name = OperationName.createEngine.word)
      (meant : Wire.Asks op.payload .createEngine (.create options)) : Asks (.send op) options
  | create (options : Option EngineOptions) : Asks (.create options) (options.getD {})
  | method {args : Json} {options : EngineOptions}
      (conveys : Channel.Conveys args .createEngine (.create options)) :
      Asks (.method ⟨OperationName.createEngine.word, args⟩) options

variable {d : Dispatcher K}

/-- The state that an action leaves when what it returns is dropped. -/
theorem exec_dropped (action : Dispatch K α) (d : Dispatcher K) :
    (exec (do let _ ← action : Dispatch K Unit) d).2 = (exec action d).2 := by
  rw [exec_bind]
  rcases exec action d with ⟨_ | _, after⟩ <;> rfl

theorem exec_perform (deed : Deed) (d : Dispatcher K) : (exec deed.perform d).2 =
    match deed.operation? d.codec with
    | some op => (exec (dispatch op) d).2
    | none => d := by
  cases deed with
  | send op => exact exec_dropped _ d
  | create options =>
    rw [perform, exec_dropped, operation?]
    cases written : options.elim (.ok []) d.codec.encode with
    | ok bytes => exact (sends_createEngine written).after
    | error e =>
      cases options with
      | none => cases written
      | some given => exact congrArg Prod.snd (exec_unwritten (·.encode given) written)
  | dispose handle => exact (sends_disposeEngine handle).after
  | command call handle =>
    rw [perform, exec_dropped, operation?]
    cases written : call.payload d.codec with
    | ok bytes => exact Sends.after (TypedCall.exec_through written handle)
    | error e => exact congrArg Prod.snd (TypedCall.exec_through_unwritten written handle)
  | method call =>
    rw [perform, exec_dropped, operation?]
    cases operated : Channel.operation d.codec call with
    | ok op => exact (sends_invoke operated).after
    | error e => exact congrArg Prod.snd (exec_invoke_error operated)

theorem ok_of_toOption {ε : Type} {result : Except ε α} {a : α} (given : result.toOption = some a) :
    result = .ok a := by
  cases result <;> cases given
  rfl

/-- The parts that the operation of a call over a channel is made of. -/
theorem operation_parts {codec : Codec} {call : MethodCall} {op : Operation}
    (operated : Channel.operation codec call = .ok op) : ∃ name handle bytes,
      call.method = OperationName.word name ∧ Channel.Addresses call.arguments handle ∧
      Channel.payload codec name call.arguments = .ok bytes ∧
      op = ⟨name.word, handle.map UInt64.toNat, bytes⟩ := by
  obtain ⟨method, args⟩ := call
  cases known : OperationName.ofWord? method with
  | none =>
    simp only [Channel.operation, known] at operated
    cases operated
  | some name =>
    obtain rfl := word_of_ofWord? known
    obtain ⟨text, refused⟩ | ⟨handle, addressed⟩ := Channel.operation_cases codec args name
    · rw [refused] at operated
      cases operated
    · rw [Channel.operation_addressed addressed] at operated
      cases written : Channel.payload codec name args with
      | error e =>
        rw [written] at operated
        cases operated
      | ok bytes =>
        rw [written] at operated
        cases operated
        exact ⟨name, handle, bytes, rfl, addressed, written, rfl⟩

/-- A creation that is admitted has the options that its payload stands for. -/
theorem admitted_options {codec : Codec} {op : Operation} {options : EngineOptions}
    (asked : admitted codec op = .ok (.create options)) :
    op.name = OperationName.createEngine.word ∧ Codec.decodeOptions op.payload = .ok options := by
  refine ⟨admitted_create asked, ?_⟩
  obtain ⟨name, -, -, read⟩ := admitted_eq_ok_iff.mp asked
  obtain rfl := request_create read
  rw [OperationName.request] at read
  cases decoded : Codec.decodeOptions op.payload with
  | error e =>
    rw [decoded] at read
    cases read
  | ok given =>
    rw [decoded] at read
    cases read
    rfl

/-- The options in a payload that was written for a creation. -/
theorem decodeOptions_written {options : Option EngineOptions} {bytes : List UInt8}
    (written : options.elim (.ok []) d.codec.encode = .ok bytes) :
    Codec.decodeOptions bytes = .ok (options.getD {}) := by
  cases options with
  | none =>
    cases written
    rfl
  | some given => exact Codec.decodeOptions_of_encode written

/-- The options in a payload that was made of arguments, which is empty if there are none. -/
theorem decodeOptions_conveyed {args : Json} {options : EngineOptions} {bytes : List UInt8}
    (conveys : Channel.Conveys args .createEngine (.create options))
    (written : Channel.payload d.codec .createEngine args = .ok bytes) :
    Codec.decodeOptions bytes = .ok options := by
  obtain @⟨_, _, _, memory, stack, time⟩ := conveys
  rw [Channel.payload_createEngine memory stack time] at written
  by_cases none : options = {}
  · rw [if_pos none] at written
    cases written
    rw [none]
    rfl
  · rw [if_neg none] at written
    cases encoded : d.codec.encode options with
    | error e =>
      rw [encoded] at written
      cases written
    | ok given =>
      rw [encoded] at written
      cases written
      exact Codec.decodeOptions_of_encode encoded

/-- A creation that is admitted has the options that the deed gives. -/
theorem asks_of_create {deed : Deed} {op : Operation} {options : EngineOptions}
    (operated : deed.operation? d.codec = some op)
    (asked : admitted d.codec op = .ok (.create options)) : deed.Asks options := by
  obtain ⟨named, meant⟩ := admitted_options asked
  cases deed with
  | send op =>
    cases operated
    exact .send named (Codec.decodeOptions_eq_ok_iff.mp meant)
  | create given =>
    obtain ⟨bytes, written, rfl⟩ := Option.map_eq_some_iff.mp operated
    cases meant.symm.trans (decodeOptions_written (ok_of_toOption written))
    exact .create given
  | dispose handle =>
    cases operated
    cases @OperationName.word_inj .disposeEngine .createEngine named
  | command call handle =>
    obtain ⟨bytes, -, rfl⟩ := Option.map_eq_some_iff.mp operated
    exact absurd (OperationName.word_inj named) call.operation_ne
  | method call =>
    obtain ⟨_, args⟩ := call
    obtain ⟨name, handle, bytes, rfl, addressed, written, rfl⟩ :=
      operation_parts (ok_of_toOption operated)
    obtain rfl := OperationName.word_inj named
    obtain ⟨text, refused⟩ | ⟨_, conveys⟩ | ⟨isDisposal, -⟩ :=
      Channel.payload_cases d.codec addressed .createEngine
    · cases refused.symm.trans written
    · obtain @⟨_, given, _, memory, stack, time⟩ := conveys
      have conveys := Channel.Conveys.createEngine addressed memory stack time
      cases meant.symm.trans (decodeOptions_conveyed conveys written)
      exact .method conveys
    · cases isDisposal

/-- A deed that gives options asks for an engine. -/
theorem Asks.name {deed : Deed} {op : Operation} {options : EngineOptions} (asks : deed.Asks options)
    {codec : Codec} (operated : deed.operation? codec = some op) :
    op.name = OperationName.createEngine.word := by
  cases asks with
  | send named meant =>
    cases operated
    exact named
  | create options =>
    obtain ⟨bytes, -, rfl⟩ := Option.map_eq_some_iff.mp operated
    rfl
  | method conveys =>
    obtain ⟨name, handle, bytes, method, -, -, rfl⟩ := operation_parts (ok_of_toOption operated)
    exact method.symm

/-! ### What a deed makes -/

/-- Limits that are those given by options, and the configured ones where the options give none. -/
structure Settled (configured : EngineLimits) (options : EngineOptions) (limits : EngineLimits) :
    Prop where
  memory : limits.memory = options.memoryLimit.getD configured.memory
  stack : limits.stack = options.stackLimit.getD configured.stack
  timeout : limits.timeout = options.timeout.getD configured.timeout
  gcThreshold : limits.gcThreshold = configured.gcThreshold
  settlePromises : limits.settlePromises = configured.settlePromises
  strict : limits.strict = configured.strict
  nodes : limits.nodes = configured.nodes

/-- The creations that may be noted in the course of a deed: one at most, with the limits that the
options of the deed leave, or with the configured ones if it is not for an engine of its own. -/
inductive Makes (configured : EngineLimits) (deed : Deed) : List (Nat × EngineLimits) → Prop where
  | nothing : Makes configured deed []
  | own (handle : Nat) {options : EngineOptions} {limits : EngineLimits} (asks : deed.Asks options)
      (settled : Settled configured options limits) : Makes configured deed [(handle, limits)]
  | default (handle : Nat) (silent : ∀ options, ¬ deed.Asks options) :
      Makes configured deed [(handle, configured)]

theorem perform_makes {d : Dispatcher K.noting} (consistent : d.Consistent) (deed : Deed) :
    ∃ notes, deed.Makes d.limits notes ∧ (exec deed.perform d).2.notes = d.notes ++ notes := by
  rw [exec_perform]
  cases operated : deed.operation? d.codec with
  | none => exact ⟨[], .nothing, (List.append_nil _).symm⟩
  | some op =>
    obtain same | ⟨request, asked, same | noted⟩ := dispatch_enters consistent op
    · exact ⟨[], .nothing, same.trans (List.append_nil _).symm⟩
    · exact ⟨[], .nothing, same.trans (List.append_nil _).symm⟩
    · refine ⟨_, ?_, noted⟩
      have silent (other : ∀ options, request ≠ .create options) (options : EngineOptions) :
          ¬ deed.Asks options := by
        intro asks
        obtain ⟨given, create⟩ := admitted_of_create asked (asks.name operated)
        exact other given create
      cases request with
      | create options =>
        exact .own d.next (asks_of_create operated asked) ⟨rfl, rfl, rfl, rfl, rfl, rfl, rfl⟩
      | dispose => exact .default d.next (silent (by simp))
      | command command => exact .default d.next (silent (by simp))

end Deed

/-! ### Runs -/

namespace Dispatcher

open Dispatch

/-- The state after deeds, one after another. -/
def afterDeeds (deeds : List Deed) (d : Dispatcher K) : Dispatcher K :=
  deeds.foldl (fun d deed => (deed.perform.run d).2) d

theorem Changes.limits {before after : Dispatcher K} (changes : Changes before after) :
    after.limits = before.limits := by
  induction changes with
  | refl => rfl
  | tail _ change ih =>
    rw [← ih]
    cases change <;> rfl

theorem perform_consistent {d : Dispatcher K} (consistent : d.Consistent) (deed : Deed) :
    (exec deed.perform d).2.Consistent := by
  rw [Deed.exec_perform]
  cases deed.operation? d.codec with
  | none => exact consistent
  | some op => exact dispatch_consistent consistent op

theorem perform_limits {d : Dispatcher K} (consistent : d.Consistent) (deed : Deed) :
    (exec deed.perform d).2.limits = d.limits := by
  rw [Deed.exec_perform]
  cases deed.operation? d.codec with
  | none => rfl
  | some op => exact (dispatch_changes consistent op).limits

theorem Booked.perform {d : Dispatcher K.noting} (consistent : d.Consistent) (booked : d.Booked)
    (deed : Deed) : (exec deed.perform d).2.Booked := by
  rw [Deed.exec_perform]
  cases deed.operation? d.codec with
  | none => exact booked
  | some op => exact booked.dispatch consistent op

/-- A deed does without the notes what it does with them. -/
theorem perform_forget {d : Dispatcher K.noting} {plain : Dispatcher K} (consistent : d.Consistent)
    (consistent' : plain.Consistent) (same : plain.unlogged = d.unlogged.forget) (deed : Deed) :
    (exec deed.perform plain).2.unlogged = (exec deed.perform d).2.unlogged.forget := by
  have codec : plain.codec = d.codec := congrArg Dispatcher.codec same
  rw [Deed.exec_perform, Deed.exec_perform, codec]
  cases deed.operation? d.codec with
  | none => exact same
  | some op => exact (dispatch_forget consistent consistent' same op).2

/-- What a run with notes comes to. Each deed adds what it may make, whatever was done before it and
whatever comes after; the notes are right about the engines; and without them the run is the same. -/
structure Noted (configured : EngineLimits) (deeds : List Deed) (before after : Dispatcher K.noting)
    (plain : Dispatcher K) : Prop where
  made : ∃ notes, List.Forall₂ (Deed.Makes configured) deeds notes ∧
    after.notes = before.notes ++ notes.flatten
  booked : after.Booked
  same : plain.unlogged = after.unlogged.forget

theorem afterDeeds_noted {d : Dispatcher K.noting} {plain : Dispatcher K} (consistent : d.Consistent)
    (consistent' : plain.Consistent) (booked : d.Booked) (same : plain.unlogged = d.unlogged.forget)
    (deeds : List Deed) :
    Noted d.limits deeds d (d.afterDeeds deeds) (plain.afterDeeds deeds) := by
  induction deeds generalizing d plain with
  | nil => exact ⟨⟨[], .nil, (List.append_nil _).symm⟩, booked, same⟩
  | cons deed rest ih =>
    obtain ⟨own, makes, noted⟩ := deed.perform_makes consistent
    obtain ⟨⟨notes, made, later⟩, booked, same⟩ := ih (perform_consistent consistent deed)
      (perform_consistent consistent' deed) (booked.perform consistent deed)
      (perform_forget consistent consistent' same deed)
    rw [perform_limits consistent deed] at made
    refine ⟨⟨own :: notes, .cons makes made, later.trans ?_⟩, booked, same⟩
    rw [noted, List.append_assoc, List.flatten_cons]

theorem afterDeeds_append (deeds more : List Deed) (d : Dispatcher K) :
    d.afterDeeds (deeds ++ more) = (d.afterDeeds deeds).afterDeeds more :=
  List.foldl_append

theorem afterDeeds_consistent {d : Dispatcher K} (consistent : d.Consistent) (deeds : List Deed) :
    (d.afterDeeds deeds).Consistent := by
  induction deeds generalizing d with
  | nil => exact consistent
  | cons deed rest ih => exact ih (perform_consistent consistent deed)

/-- The notes have one entry for a handle. -/
theorem Booked.unique {d : Dispatcher K.noting} (booked : d.Booked) {handle : Nat}
    {limits limits' : EngineLimits} (one : (handle, limits) ∈ d.notes)
    (other : (handle, limits') ∈ d.notes) : limits' = limits := by
  have once : (d.notes.map Prod.fst).Nodup := booked.once.imp Nat.ne_of_lt
  have same := List.inj_on_of_nodup_map once other one rfl
  exact congrArg Prod.snd same

theorem ofSettings_booked (settings : Settings) (plan : K.Plan) :
    (ofSettings settings (plan, []) : Dispatcher K.noting).Booked where
  below _ member := absurd member List.not_mem_nil
  once := .nil
  created _ member := absurd member List.not_mem_nil
  engines _ _ _ member := absurd member List.not_mem_nil

/-- In every run every engine is made with limits that are settled by the configuration and the options
of the deed it was made for, and it has them for as long as it is in the table, whatever options other
engines are made with. -/
theorem creation_limits (settings : Settings) (plan : K.Plan) (deeds more : List Deed) :
    let start : Dispatcher K.noting := ofSettings settings (plan, [])
    Noted settings.engine deeds start (start.afterDeeds deeds)
      ((ofSettings settings plan).afterDeeds deeds) ∧
    (start.afterDeeds deeds).notes <+: (start.afterDeeds (deeds ++ more)).notes ∧
    ∀ handle engine limits engine' limits',
      (handle, .live handle (engine, limits)) ∈ (start.afterDeeds deeds).engines →
      (handle, .live handle (engine', limits')) ∈ (start.afterDeeds (deeds ++ more)).engines →
      limits' = limits := by
  intro start
  have consistent : start.Consistent := ofSettings_consistent (K := K.noting) settings (plan, [])
  have noted := afterDeeds_noted consistent (ofSettings_consistent settings plan)
    (ofSettings_booked settings plan) rfl deeds
  have consistent' := afterDeeds_consistent consistent deeds
  have later := afterDeeds_noted consistent'
    (afterDeeds_consistent (ofSettings_consistent settings plan) deeds) noted.booked noted.same more
  rw [afterDeeds_append]
  obtain ⟨notes, -, grown⟩ := later.made
  have kept : (start.afterDeeds deeds).notes <+: ((start.afterDeeds deeds).afterDeeds more).notes :=
    grown ▸ List.prefix_append _ _
  refine ⟨noted, kept, fun handle engine limits engine' limits' now then' => ?_⟩
  have one := kept.subset (noted.booked.engines handle engine limits now)
  have other := later.booked.engines handle engine' limits' then'
  exact later.booked.unique one other

/-- A memory limit of zero is a limit, and the default engine that is made after it has the configured
one. -/
example : ((ofSettings {} ((), []) : Dispatcher (ScriptedEngine.kind false).noting).afterDeeds
      [.method ⟨"createEngine", .object [("memoryLimitBytes", .int 0)]⟩,
        .command (.evalScript "1") none]).notes =
    [(1, { memory := 0 }), (2, {})] := by
  decide

end Dispatcher

end ScriptHost
