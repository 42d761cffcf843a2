import ScriptHost.Proofs.Channel.Script
import ScriptHost.Proofs.Datum.JsonView

/-! The arguments of calls over a channel. Arguments that are well-formed for a method convey a call of
the dispatcher's own: what its fields say is said here without regard to how they are read. Any others are
refused before there is an operation, but for the disposal of no engine, which the dispatcher refuses. -/

namespace ScriptHost

/-- A typed call of the dispatcher with all its arguments. -/
inductive HostCall : Type 1 where
  | create (options : EngineOptions)
  | dispose (handle : UInt64)
  | command {α : Type} (call : TypedCall α) (handle : Option UInt64)

namespace Channel

open Dispatcher Dispatch

variable {α β : Type} {args : Json} {key reason : String}

/-- Does this member hold the value, written like this? Without a value it is absent or `null`. -/
def Holds (args : Json) (key : String) (write : α → Json) : Option α → Prop
  | some a => args.get? key = some (write a)
  | none => args.get? key = none ∨ args.get? key = some .null

/-- A number of 64 bits. -/
def word (n : UInt64) : Json := .int n.toNat

/-- The arguments are members of an object, if there are any, and name this engine. -/
structure Addresses (args : Json) (handle : Option UInt64) : Prop where
  shape : args.isNull = true ∨ args.isObject = true
  handle : Holds args "handle" word handle

/-- The call that well-formed arguments of a method stand for. What `createEngine` is given as a handle
has to be one, and has no meaning. -/
inductive Conveys (args : Json) : OperationName → HostCall → Prop where
  | createEngine {handle : Option UInt64} {options : EngineOptions}
      (addressed : Addresses args handle)
      (memory : Holds args "memoryLimitBytes" word options.memoryLimit)
      (stack : Holds args "maxStackSizeBytes" word options.stackLimit)
      (time : Holds args "executionTimeoutMs" word options.timeout) :
      Conveys args .createEngine (.create options)
  | disposeEngine {handle : UInt64} (addressed : Addresses args (some handle)) :
      Conveys args .disposeEngine (.dispose handle)
  | evalScript {handle : Option UInt64} {source : String} {fileName : Option String}
      {asModule strict : Option Bool} (addressed : Addresses args handle)
      (text : args.get? "source" = some (.string source))
      (named : Holds args "fileName" .string fileName) (kind : Holds args "module" .bool asModule)
      (strictness : Holds args "strict" .bool strict) :
      Conveys args .evalScript
        (.command (.evalRequest ⟨source, fileName, asModule.getD false, strict⟩) handle)
  | callFunction {handle : Option UInt64} {function : FunctionRef} {items : Option (List Json)}
      (addressed : Addresses args handle)
      (aimed : (args.get? "function").bind FunctionRef.ofJson? = some function)
      (passed : Holds args "args" .array items) :
      Conveys args .callFunction
        (.command (.callFunction ⟨function, (items.getD []).map Datum.ofJson⟩) handle)
  | setGlobal {handle : Option UInt64} {name : String} (addressed : Addresses args handle)
      (named : args.get? "name" = some (.string name)) :
      Conveys args .setGlobal
        (.command (.setGlobal ⟨name, ((args.get? "value").map Datum.ofJson).getD .undefined⟩) handle)
  | getGlobal {handle : Option UInt64} {name : String} (addressed : Addresses args handle)
      (named : args.get? "name" = some (.string name)) :
      Conveys args .getGlobal (.command (.getGlobal name) handle)
  | releaseFunction {handle : Option UInt64} {id : UInt64} (addressed : Addresses args handle)
      (aimed : (args.get? "function").bind FunctionRef.ofJson? = some (.retained id)) :
      Conveys args .releaseFunction (.command (.releaseFunction id) handle)
  | executePendingJobs {handle : Option UInt64} (addressed : Addresses args handle) :
      Conveys args .executePendingJobs (.command .executePendingJobs handle)

/-! ### Reading members -/

/-- Reading takes what is written like this, for what it means, and nothing else. -/
structure Reads (read? : Json → Option β) (means : α → β) (write : α → Json) : Prop where
  written : ∀ a, read? (write a) = some (means a)
  only : ∀ value b, read? value = some b → ∃ a, means a = b ∧ value = write a
  present : ∀ a, write a ≠ .null

theorem reads_string : Reads Json.asString? id .string where
  written _ := rfl
  only value s read := by
    cases value <;> cases read
    exact ⟨s, rfl, rfl⟩
  present _ := nofun

theorem reads_bool : Reads Json.asBool? id .bool where
  written _ := rfl
  only value b read := by
    cases value <;> cases read
    exact ⟨b, rfl, rfl⟩
  present _ := nofun

theorem reads_word : Reads Json.asNatural? UInt64.toNat word where
  written n := Json.asNatural?_toNat n
  only value n read := by
    cases value with
    | int i =>
      rw [Json.asNatural?] at read
      split at read
      · rename_i natural
        cases read
        have small : i.toNat < UInt64.size := by omega
        have same : (UInt64.ofNat i.toNat).toNat = i.toNat := UInt64.toNat_ofNat_of_lt' small
        refine ⟨UInt64.ofNat i.toNat, same, ?_⟩
        rw [word, same, Int.toNat_of_nonneg natural.1]
      · cases read
    | _ => cases read
  present _ := nofun

theorem optionalArg_of_holds {read? : Json → Option β} {means : α → β} {write : α → Json}
    (reads : Reads read? means write) {a : Option α} (holds : Holds args key write a) :
    optionalArg args key read? reason = .ok (a.map means) := by
  unfold optionalArg
  cases a with
  | none =>
    obtain absent | null := holds
    · simp only [absent, Option.map_none]
    · simp only [null, Option.map_none]
  | some a =>
    have held : args.get? key = some (write a) := holds
    have present := reads.present a
    rw [held]
    split
    · contradiction
    · rename_i same
      exact absurd (Option.some.inj same) present
    · rename_i value _ same
      cases same
      rw [reads.written]
      rfl

/-- The call is refused as having an invalid argument. -/
def Refused (result : Except DispatchError α) : Prop := ∃ text, result = .error (.invalidArgument text)

theorem optionalArg_cases {read? : Json → Option β} {means : α → β} {write : α → Json}
    (reads : Reads read? means write) (args : Json) (key reason : String) :
    Refused (optionalArg args key read? reason) ∨ ∃ a, Holds args key write a := by
  unfold optionalArg
  split
  · rename_i absent
    exact .inr ⟨none, .inl absent⟩
  · rename_i null
    exact .inr ⟨none, .inr null⟩
  · rename_i value _ held
    cases read : read? value with
    | none => exact .inl ⟨_, rfl⟩
    | some b =>
      obtain ⟨a, -, rfl⟩ := reads.only value b read
      exact .inr ⟨some a, held⟩

theorem requiredString_of_holds {text : String} (held : args.get? key = some (.string text)) :
    requiredString args key = .ok text := by
  simp only [requiredString, held, Option.bind_some, Json.asString?]

theorem requiredString_cases (args : Json) (key : String) :
    Refused (requiredString args key) ∨ ∃ text, args.get? key = some (.string text) := by
  unfold requiredString
  cases held : (args.get? key).bind Json.asString? with
  | none => exact .inl ⟨_, rfl⟩
  | some text =>
    obtain ⟨value, found, read⟩ := Option.bind_eq_some_iff.mp held
    obtain ⟨_, rfl, rfl⟩ := reads_string.only value text read
    exact .inr ⟨_, found⟩

theorem limitArg_of_holds {limit : Option UInt64} (holds : Holds args key word limit) :
    limitArg args key = .ok limit := by
  simp only [limitArg, optionalArg_of_holds reads_word holds, bind, Except.bind, pure, Except.pure,
    Option.map_map]
  cases limit <;> simp

/-! ### Payloads -/

variable {codec : Codec}

theorem payload_createEngine {options : EngineOptions}
    (memory : Holds args "memoryLimitBytes" word options.memoryLimit)
    (stack : Holds args "maxStackSizeBytes" word options.stackLimit)
    (time : Holds args "executionTimeoutMs" word options.timeout) :
    payload codec .createEngine args =
      if options = {} then .ok [] else (codec.encode options).mapError .ofCodec := by
  simp only [payload, limitArg_of_holds memory, limitArg_of_holds stack, limitArg_of_holds time,
    bind, Except.bind]
  rfl

/-- The payload that is made of well-formed arguments is that of the typed call. -/
theorem payload_command {name : OperationName} {call : TypedCall α} {handle : Option UInt64}
    (conveys : Conveys args name (.command call handle)) :
    payload codec name args = (call.payload codec).mapError .ofCodec := by
  cases conveys with
  | evalScript addressed text named kind strictness =>
    simp only [payload, requiredString_of_holds text, optionalArg_of_holds reads_string named,
      optionalArg_of_holds reads_bool kind, optionalArg_of_holds reads_bool strictness, bind,
      Except.bind, Option.map_id_fun, id_eq]
    rfl
  | @callFunction _ _ items addressed aimed passed =>
    cases items with
    | some items =>
      have held : args.get? "args" = some (.array items) := passed
      simp only [payload, aimed, held]
      rfl
    | none =>
      obtain absent | null := passed
      · simp only [payload, aimed, absent]
        rfl
      · simp only [payload, aimed, null]
        rfl
  | setGlobal addressed named =>
    simp only [payload, requiredString_of_holds named, bind, Except.bind]
    rfl
  | getGlobal addressed named =>
    simp only [payload, requiredString_of_holds named, bind, Except.bind]
    rfl
  | releaseFunction addressed aimed =>
    simp only [payload, aimed]
    rfl
  | executePendingJobs addressed => rfl

theorem Refused.bind {result : Except DispatchError α} (refused : Refused result)
    (next : α → Except DispatchError β) : Refused (result >>= next) := by
  obtain ⟨text, rfl⟩ := refused
  exact ⟨text, rfl⟩

theorem limitArg_cases (args : Json) (key : String) :
    Refused (limitArg args key) ∨ ∃ limit, Holds args key word limit :=
  (optionalArg_cases reads_word args key _).imp_left fun refused => refused.bind _

/-- Arguments that convey no call of a method are refused, unless they are to dispose of no engine. -/
theorem payload_cases (codec : Codec) {handle : Option UInt64} (addressed : Addresses args handle)
    (name : OperationName) : Refused (payload codec name args) ∨ (∃ w, Conveys args name w) ∨
      name = .disposeEngine ∧ handle = none := by
  cases name with
  | createEngine =>
    obtain refused | ⟨memory, first⟩ := limitArg_cases args "memoryLimitBytes"
    · exact .inl (refused.bind _)
    obtain refused | ⟨stack, second⟩ := limitArg_cases args "maxStackSizeBytes"
    · refine .inl ?_
      simp only [payload, limitArg_of_holds first]
      exact refused.bind _
    obtain refused | ⟨time, third⟩ := limitArg_cases args "executionTimeoutMs"
    · refine .inl ?_
      simp only [payload, limitArg_of_holds first, limitArg_of_holds second]
      exact refused.bind _
    have conveys := @Conveys.createEngine _ _ ⟨memory, stack, time⟩ addressed first second third
    exact .inr (.inl ⟨_, conveys⟩)
  | disposeEngine =>
    cases handle with
    | none => exact .inr (.inr ⟨rfl, rfl⟩)
    | some handle => exact .inr (.inl ⟨_, .disposeEngine addressed⟩)
  | evalScript =>
    obtain refused | ⟨source, text⟩ := requiredString_cases args "source"
    · exact .inl (refused.bind _)
    obtain refused | ⟨fileName, named⟩ := optionalArg_cases reads_string args "fileName" "a string"
    · refine .inl ?_
      simp only [payload, requiredString_of_holds text]
      exact refused.bind _
    obtain refused | ⟨asModule, kind⟩ := optionalArg_cases reads_bool args "module" "a boolean"
    · refine .inl ?_
      simp only [payload, requiredString_of_holds text, optionalArg_of_holds reads_string named]
      exact refused.bind _
    obtain refused | ⟨strict, strictness⟩ := optionalArg_cases reads_bool args "strict" "a boolean"
    · refine .inl ?_
      simp only [payload, requiredString_of_holds text, optionalArg_of_holds reads_string named,
        optionalArg_of_holds reads_bool kind]
      exact refused.bind _
    exact .inr (.inl ⟨_, .evalScript addressed text named kind strictness⟩)
  | callFunction =>
    cases aimed : (args.get? "function").bind FunctionRef.ofJson? with
    | none =>
      refine .inl ?_
      simp only [payload, aimed]
      exact ⟨_, rfl⟩
    | some function =>
      cases passed : args.get? "args" with
      | none => exact .inr (.inl ⟨_, @Conveys.callFunction _ _ _ none addressed aimed (.inl passed)⟩)
      | some value =>
        cases value with
        | null => exact .inr (.inl ⟨_, @Conveys.callFunction _ _ _ none addressed aimed (.inr passed)⟩)
        | array items =>
          exact .inr (.inl ⟨_, @Conveys.callFunction _ _ _ (some items) addressed aimed passed⟩)
        | _ =>
          refine .inl ?_
          simp only [payload, aimed, passed]
          exact ⟨_, rfl⟩
  | setGlobal =>
    obtain refused | ⟨name, named⟩ := requiredString_cases args "name"
    · exact .inl (refused.bind _)
    · exact .inr (.inl ⟨_, .setGlobal addressed named⟩)
  | getGlobal =>
    obtain refused | ⟨name, named⟩ := requiredString_cases args "name"
    · exact .inl (refused.bind _)
    · exact .inr (.inl ⟨_, .getGlobal addressed named⟩)
  | releaseFunction =>
    cases aimed : (args.get? "function").bind FunctionRef.ofJson? with
    | none =>
      refine .inl ?_
      simp only [payload, aimed]
      exact ⟨_, rfl⟩
    | some function =>
      cases function with
      | retained id => exact .inr (.inl ⟨_, .releaseFunction addressed aimed⟩)
      | path path =>
        refine .inl ?_
        simp only [payload, aimed]
        exact ⟨_, rfl⟩
  | executePendingJobs => exact .inr (.inl ⟨_, .executePendingJobs addressed⟩)

/-! ### Operations -/

theorem operation_addressed {handle : Option UInt64} (addressed : Addresses args handle)
    (name : OperationName) : operation codec ⟨name.word, args⟩ = (payload codec name args).map
      fun bytes => ⟨name.word, handle.map UInt64.toNat, bytes⟩ := by
  have shape : (args.isNull || args.isObject) = true := by simpa using addressed.shape
  have named : handleArg args = .ok (handle.map UInt64.toNat) :=
    optionalArg_of_holds reads_word addressed.handle
  simp only [operation, OperationName.ofWord?_word, shape, named, bind, Except.bind]
  cases payload codec name args <;> rfl

theorem operation_cases (codec : Codec) (args : Json) (name : OperationName) :
    Refused (operation codec ⟨name.word, args⟩) ∨ ∃ handle, Addresses args handle := by
  cases shape : args.isNull || args.isObject with
  | false =>
    refine .inl ?_
    simp only [operation, OperationName.ofWord?_word, shape]
    exact ⟨_, rfl⟩
  | true =>
    obtain refused | ⟨handle, held⟩ := optionalArg_cases reads_word args "handle" "a positive integer"
    · refine .inl ?_
      simp only [operation, OperationName.ofWord?_word, shape]
      exact refused.bind _
    · exact .inr ⟨handle, by simpa using shape, held⟩

/-- Arguments that convey no call are refused, or name no engine where one is to be disposed of. -/
theorem operation_illFormed {name : OperationName} (illFormed : ∀ w, ¬ Conveys args name w) :
    Refused (operation codec ⟨name.word, args⟩) ∨
      operation codec ⟨name.word, args⟩ = .ok ⟨OperationName.disposeEngine.word, none, []⟩ := by
  obtain refused | ⟨handle, addressed⟩ := operation_cases codec args name
  · exact .inl refused
  rw [operation_addressed addressed]
  obtain ⟨text, refused⟩ | ⟨w, conveys⟩ | ⟨rfl, rfl⟩ := payload_cases codec addressed name
  · rw [refused]
    exact .inl ⟨text, rfl⟩
  · exact absurd conveys (illFormed w)
  · exact .inr rfl

end Channel

end ScriptHost
