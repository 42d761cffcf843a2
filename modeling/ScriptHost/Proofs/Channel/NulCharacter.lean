import ScriptHost.Proofs.Channel.Script
import ScriptHost.Proofs.Script.Refusal

/-! Texts and file names with a NUL in them, over a channel of script engines. Nothing is evaluated
and the argument is called invalid, with two exceptions. A text without options that begins with
NUL is taken for a request in its encoded form, if what stands behind the NUL can be read as one,
and that request is carried out. The file name of a module is an exception of the script. -/

namespace ScriptHost.Channel

open Dispatcher Dispatch Worker

/-- Is there a NUL in the text or in the file name? -/
def HasNul (request : EvalRequest) : Prop :=
  '\x00' ∈ request.source.toList ∨
    ∃ name, request.fileName = some name ∧ '\x00' ∈ name.toList

/-- The request that stands behind the NUL which a bare text begins with, if there is one. -/
def hidden? (request : EvalRequest) : Option EvalRequest :=
  match request.hasOptions, request.source.toList with
  | false, '\x00' :: tail => (Codec.decode (Utf8.encode (.ofList tail))).toOption
  | _, _ => none

/-- Is the call answered with an invalid argument, and nothing changed but the log, to which the
dispatcher added notes of its own? -/
def Refuses {K : EngineKind} (ch : Channel K) (call : MethodCall) : Prop :=
  ∃ reason notes, Notes notes ∧ handle call ch =
    (.error (DispatchError.invalidArgument reason).info,
      { ch with dispatcher := ch.dispatcher.record notes })

section

variable {ch : Channel ScriptEngine.kind} {call : MethodCall} {named : Option Nat}
  {request : EvalRequest} {bytes : List UInt8} {key : Nat}

/-- What is read of a request is the request, or what a bare text hides behind a NUL. -/
theorem decodeEval_written (written : ch.dispatcher.codec.encodeEval request = .ok bytes) :
    Codec.decodeEval bytes = .ok ((hidden? request).getD request) ∨
      hidden? request = none ∧ ∃ reason, Codec.decodeEval bytes = .error (.malformed reason) := by
  by_cases plain : request.hasOptions = false → request.source.toList.head? ≠ some '\x00'
  · have visible : hidden? request = none := by
      unfold hidden?
      split
      · rename_i bare begins
        exact absurd (by rw [begins]; rfl) (plain bare)
      · rfl
    rw [visible]
    exact .inl (Codec.decodeEval_encodeEval plain written)
  · obtain ⟨bare, begins⟩ := Classical.not_imp.mp plain
    obtain ⟨tail, text⟩ := List.head?_eq_some_iff.mp (not_not.mp begins)
    have isText : Utf8.encode request.source = bytes := by
      simpa [Codec.encodeEval, bare] using written
    have tagged := Codec.decodeEval_encode_nul text
    rw [isText] at tagged
    rcases read : (Codec.decode (Utf8.encode (.ofList tail)) : Except CodecError EvalRequest) with
      error | other
    · obtain ⟨reason, rfl⟩ := Codec.decode_malformed read
      exact .inr ⟨by simp [hidden?, bare, text, read, Except.toOption], reason, tagged.trans read⟩
    · exact .inl (by simp [hidden?, bare, text, tagged, read, Except.toOption])

theorem engine_held (reachable : ch.dispatcher.Reachable)
    (active : key ∈ ch.dispatcher.activeHandles) : ∃ engine : ScriptEngine.kind.Engine,
      ch.dispatcher.worker? key = some (.live key engine) ∧ ScriptEngine.Quiet engine := by
  obtain ⟨engine, held⟩ := live_of_active reachable.consistent active
  exact ⟨engine, held, reachable.all ScriptEngine.keeps_quiet key engine (mem_of_worker? held)⟩

/-- A text or a file name with a NUL is refused, unless the text hides a request behind a NUL that
it begins with, or the NUL is in the file name of a module only. -/
theorem nul_refused (reachable : ch.dispatcher.Reachable) (asks : AsksEval call named request)
    (written : ch.dispatcher.codec.encodeEval request = .ok bytes)
    (fits : bytes.length ≤ ch.dispatcher.codec.limit) (meant : ch.dispatcher.Means named key)
    (active : key ∈ ch.dispatcher.activeHandles) (nul : HasNul request)
    (visible : hidden? request = none)
    (script : request.asModule = true → '\x00' ∈ request.source.toList) : Refuses ch call := by
  obtain ⟨engine, held, quiet⟩ := engine_held reachable active
  rcases decodeEval_written written with decoded | ⟨-, reason, unread⟩
  · rw [visible, Option.getD_none] at decoded
    have refused : ∃ reason, ScriptEngine.run (.eval request) engine =
        (.error (.invalidArgument reason), [], engine) := by
      by_cases inText : '\x00' ∈ request.source.toList
      · exact ⟨_, ScriptEngine.run_source_nul inText engine⟩
      · obtain ⟨name, given, inName⟩ := nul.resolve_left inText
        have notModule : request.asModule = false := by
          simpa using fun asModule => inText (script asModule)
        exact ⟨_, ScriptEngine.run_name_nul inText notModule given inName quiet⟩
    obtain ⟨reason, turnsDown⟩ := refused
    obtain ⟨notes, own, answered⟩ := handle_turnedDown reachable.consistent asks written fits meant
      held decoded turnsDown (by simp) (by simp)
    exact ⟨reason, notes, own, answered⟩
  · obtain ⟨notes, own, answered⟩ := handle_unread asks written fits unread
    exact ⟨_, notes, own, answered⟩

/-- The file name of a module with a NUL is an exception of the script. -/
theorem nul_module_name (reachable : ch.dispatcher.Reachable) (asks : AsksEval call named request)
    (written : ch.dispatcher.codec.encodeEval request = .ok bytes)
    (fits : bytes.length ≤ ch.dispatcher.codec.limit) (meant : ch.dispatcher.Means named key)
    (active : key ∈ ch.dispatcher.activeHandles) {name : String}
    (given : request.fileName = some name) (nul : '\x00' ∈ name.toList)
    (asModule : request.asModule = true) (plain : '\x00' ∉ request.source.toList) :
    ∃ place notes, ScriptEngine.nulPlace? name = some place ∧ Notes notes ∧ handle call ch =
      (.error (DispatchError.engineException { message := ScriptEngine.nulFault place }).info,
        { ch with dispatcher := ch.dispatcher.record notes }) := by
  obtain ⟨engine, held, quiet⟩ := engine_held reachable active
  have options : request.hasOptions = true := by simp [EvalRequest.hasOptions, given]
  have visible : hidden? request = none := by simp [hidden?, options]
  have decoded : Codec.decodeEval bytes = .ok request :=
    Codec.decodeEval_encodeEval (by simp [options]) written
  obtain ⟨place, found, turnsDown⟩ :=
    ScriptEngine.run_module_name_nul plain asModule given nul quiet
  obtain ⟨notes, own, answered⟩ := handle_turnedDown reachable.consistent asks written fits meant
    held decoded turnsDown (by simp) (by simp)
  exact ⟨place, notes, found, own, answered⟩

/-- A bare text that hides a request behind a NUL is carried out as that request. -/
theorem nul_reinterpreted (reachable : ch.dispatcher.Reachable) (asks : AsksEval call named request)
    (written : ch.dispatcher.codec.encodeEval request = .ok bytes)
    (fits : bytes.length ≤ ch.dispatcher.codec.limit) (meant : ch.dispatcher.Means named key)
    (active : key ∈ ch.dispatcher.activeHandles) {other : EvalRequest}
    (hides : hidden? request = some other) : ∃ engine : ScriptEngine.kind.Engine,
      ch.dispatcher.worker? key = some (.live key engine) ∧
      (handle call ch).1 =
        shown (ch.dispatcher.unlogged.carried (.eval other) (.live key engine)).1 ∧
      (handle call ch).2.dispatcher.unlogged =
        (ch.dispatcher.unlogged.carried (.eval other) (.live key engine)).2 := by
  obtain ⟨engine, held, -⟩ := engine_held reachable active
  refine ⟨engine, held, ?_⟩
  have decoded : Codec.decodeEval bytes = .ok other := by
    rcases decodeEval_written written with decoded | ⟨visible, -⟩
    · simpa [hides] using decoded
    · simp [hides] at visible
  have asked := admitted_eval fits decoded named
  have resolves : ch.dispatcher.unlogged.resolved named =
      (.ok (.live key engine), ch.dispatcher.unlogged) := by
    rw [← effect_resolve reachable.consistent, effect_of_exec (exec_resolve_live meant held)]
  have carried := (effect_dispatch reachable.consistent _).trans (respond_command asked resolves)
  rw [handle_eval asks written rfl]
  exact ⟨congrArg (shown ·.1) carried, congrArg Prod.snd carried⟩

end

/-- A channel with one engine, which was made for its caller. -/
def trial : Channel ScriptEngine.kind :=
  ⟨"trial", (Dispatcher.ofSettings {} ()).after [{ name := "createEngine" }]⟩

theorem trial_reachable : trial.dispatcher.Reachable :=
  ⟨{}, (), [{ name := "createEngine" }], rfl⟩

theorem trial_active : 1 ∈ trial.dispatcher.activeHandles := by decide

def evalCall (members : List (String × Json)) : MethodCall :=
  ⟨OperationName.evalScript.word, .object members⟩

/-- A script with a NUL in its file name. -/
theorem nul_refused_file_name : Refuses trial (evalCall
    [("fileName", .string "a\x00"), ("handle", .int 1), ("source", .string "1")]) := by
  have asks : AsksEval (evalCall
      [("fileName", .string "a\x00"), ("handle", .int 1), ("source", .string "1")]) (some 1)
      ⟨"1", some "a\x00", false, none⟩ := ⟨rfl, rfl, rfl, rfl, rfl, rfl⟩
  exact nul_refused trial_reachable asks rfl (by decide) (.inl rfl) trial_active
    (.inr ⟨_, rfl, by decide⟩) rfl (by simp)

/-- The engine of the trial channel. -/
def trialEngine : ScriptEngine.kind.Engine :=
  ScriptEngine.mk 1 {} { Script.Realm.initial with
    quota := ScriptEngine.quota {}, used := ScriptEngine.baseline } #[]

theorem trial_held : trial.dispatcher.worker? 1 = some (.live 1 trialEngine) := by rfl

theorem eq_ok_int {result : Except EngineError Datum} {i : Int64}
    (number : result.toOption.bind Datum.asInt? = some i) : result = .ok (.int i) := by
  rcases result with e | value
  · simp [Except.toOption] at number
  · cases value <;> simp_all [Except.toOption, Datum.asInt?]

theorem trial_sum :
    (ScriptEngine.run (.eval ⟨"1+1", none, false, none⟩) trialEngine).1.caught "engine" =
      .ok (.int 2) := by
  apply eq_ok_int
  unfold trialEngine
  -- The objects of the realm keep their name: a sum looks at none of them.
  rw [Script.Realm.initial_furnished]
  decide +kernel

/-- A sum in the form of an encoded request, behind a NUL. -/
def hiddenSum : EvalRequest := { source := "\x00\x031+1\x00\x00\x00" }

def hiddenSumCall : MethodCall :=
  evalCall [("handle", .int 1), ("source", .string hiddenSum.source)]

/-- Behind a NUL a sum is worked out. -/
theorem nul_sum_evaluated :
    (trial.dispatcher.Reachable ∧ 1 ∈ trial.dispatcher.activeHandles) ∧
    (AsksEval hiddenSumCall (some 1) hiddenSum ∧ HasNul hiddenSum) ∧
    (∃ bytes, trial.dispatcher.codec.encodeEval hiddenSum = .ok bytes ∧
      bytes.length ≤ trial.dispatcher.codec.limit) ∧
    (handle hiddenSumCall trial).1 = .result (.int 2) := by
  have asks : AsksEval hiddenSumCall (some 1) hiddenSum := ⟨rfl, rfl, rfl, rfl, rfl, rfl⟩
  have hides : hidden? hiddenSum = some ⟨"1+1", none, false, none⟩ := by rfl
  refine ⟨⟨trial_reachable, trial_active⟩, ⟨asks, .inl (by decide)⟩, ⟨_, rfl, by decide⟩, ?_⟩
  obtain ⟨engine, held, told, -⟩ := nul_reinterpreted trial_reachable asks rfl (by decide)
    (.inl rfl) trial_active hides
  have same : trialEngine = engine :=
    Option.some.inj (congrArg Worker.engine (Option.some.inj (trial_held.symm.trans held)))
  have sum : resultOf (.eval ⟨"1+1", none, false, none⟩) trialEngine = .ok (.int 2) := trial_sum
  rw [told, ← same, carried_live, sum]
  rfl

end ScriptHost.Channel
