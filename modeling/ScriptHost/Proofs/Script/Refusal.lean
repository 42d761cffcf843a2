import ScriptHost.Proofs.Dispatch.Retiring
import ScriptHost.Proofs.Script.Realm
import ScriptHost.Script.Engine

/-! What a script engine does when it is asked to evaluate a text or a file name with a NUL in it.
It evaluates nothing and stays as it was. A text is refused, and so is the file name of a script;
the file name of a module is an exception. -/

namespace ScriptHost.ScriptEngine

open Script Script.Host

theorem nulPlace?_isSome_iff (s : String) : (nulPlace? s).isSome ↔ '\x00' ∈ s.toList := by
  have parts : s = String.ofList (s.toList.takeWhile (· != '\x00')) ++
      String.ofList (s.toList.dropWhile (· != '\x00')) := by
    rw [← String.ofList_append, List.takeWhile_append_dropWhile, String.ofList_toList]
  have size := congrArg String.utf8ByteSize parts
  rw [String.utf8ByteSize_append] at size
  have behind : '\x00' ∈ s.toList ↔
      0 < (String.ofList (s.toList.dropWhile (· != '\x00'))).utf8ByteSize := by
    rw [Nat.pos_iff_ne_zero, Ne, String.utf8ByteSize_eq_zero_iff, String.ofList_eq_empty_iff,
      List.dropWhile_eq_nil_iff]
    simp
  rw [behind]
  unfold nulPlace?
  dsimp only
  split
  · exact iff_of_true rfl (by omega)
  · exact iff_of_false (by simp) (by omega)

variable {request : EvalRequest} {e : ScriptEngine}

theorem run_source_nul (nul : '\x00' ∈ request.source.toList) (e : ScriptEngine) :
    run (.eval request) e = (.error (.invalidArgument "source must not contain NUL"), [], e) := by
  have found := (nulPlace?_isSome_iff request.source).mpr nul
  simp [run, refusal?, found]

/-- Has everything that was printed been taken? -/
def Quiet (e : ScriptEngine) : Prop := e.heap.printed = []

theorem within_quiet (action : Host Datum) (timed : Bool) (e : ScriptEngine) :
    (within action timed e).2.2.Quiet := by
  obtain ⟨handle, limits, heap, coroutines⟩ := e
  rfl

theorem create_quiet {handle : Nat} {limits : EngineLimits} {engine : ScriptEngine}
    (made : (create handle limits).1 = .value engine) : engine.Quiet := by
  -- A heap of any name: what is in the one of a new engine plays no part.
  have furnished (heap : Heap) (quiet : heap.printed = []) :
      Quiet ⟨handle, limits, { heap with quota := quota limits, used := baseline }, #[]⟩ := quiet
  unfold create at made
  split at made
  · cases made
  · rw [← Outcome.value.inj made]
    exact furnished Realm.initial Realm.initial_printed

theorem run_quiet {command : Command} (quiet : e.Quiet) : (run command e).2.2.Quiet := by
  unfold run
  cases refusal? command with
  | some reason => exact quiet
  | none =>
    cases command with
    | release key => exact quiet
    | _ => exact within_quiet _ _ e

theorem keeps_quiet : kind.Keeps Quiet where
  created := create_quiet
  kept _ := run_quiet

/-- What the host wants done fails before the engine has done anything. -/
theorem within_throw {action : Host Datum} {error : EngineError} (quiet : e.Quiet) (timed : Bool)
    (fails : ∀ s, action.run s = (.error error, s))
    (named : ∀ stack interrupted, error ≠ .exception ⟨"null", none, stack, interrupted⟩) :
    within action timed e = (.error error, [], e) := by
  obtain ⟨handle, limits, heap, coroutines⟩ := e
  have cleared : { heap with printed := [] } = heap := by
    rw [← show heap.printed = [] from quiet]
  have classified : classify limits heap (.error error) = (.error error, false) := by
    unfold classify
    split
    · rename_i stack interrupted shape
      exact absurd (Except.error.inj shape) (named stack interrupted)
    · rfl
  unfold within
  simp only [fails, classified, cleared, show heap.printed = [] from quiet]
  rfl

theorem run_name_nul {name : String} (plain : '\x00' ∉ request.source.toList)
    (script : request.asModule = false) (named : request.fileName = some name)
    (nul : '\x00' ∈ name.toList) (quiet : e.Quiet) :
    run (.eval request) e =
      (.error (.invalidArgument "file name must not contain NUL"), [], e) := by
  have found := (nulPlace?_isSome_iff name).mpr nul
  have clean : (nulPlace? request.source).isSome = false := by
    simpa [← nulPlace?_isSome_iff] using plain
  have fails (s : Session) : (evaluate e.limits request).run s =
      (.error (.invalidArgument "file name must not contain NUL"), s) := by
    simp [evaluate, script, evalScript, named, found]
    rfl
  simp only [run, refusal?, clean]
  exact within_throw quiet true fails (by simp)

/-- What is said of a NUL in the name of a module, this far into it. -/
def nulFault (place : Nat) : String :=
  "String contained internal null bytes: nul byte found in provided data at position: " ++
    toString place

theorem nulFault_ne_null (place : Nat) : nulFault place ≠ "null" := by
  have begins : (nulFault place).toList.head? = some 'S' := by
    unfold nulFault
    generalize toString place = digits
    rw [String.toList_append]
    simp
  intro same
  simp [same] at begins

theorem run_module_name_nul {name : String} (plain : '\x00' ∉ request.source.toList)
    (asModule : request.asModule = true) (named : request.fileName = some name)
    (nul : '\x00' ∈ name.toList) (quiet : e.Quiet) :
    ∃ place, nulPlace? name = some place ∧
      run (.eval request) e = (.error (.exception { message := nulFault place }), [], e) := by
  obtain ⟨place, found⟩ := Option.isSome_iff_exists.mp ((nulPlace?_isSome_iff name).mpr nul)
  have clean : (nulPlace? request.source).isSome = false := by
    simpa [← nulPlace?_isSome_iff] using plain
  refine ⟨place, found, ?_⟩
  have fails (s : Session) : (evaluate e.limits request).run s =
      (.error (.exception { message := nulFault place }), s) := by
    simp [evaluate, asModule, evalModule, named, found]
    rfl
  simp only [run, refusal?, clean]
  refine within_throw quiet true fails fun stack interrupted same => nulFault_ne_null place ?_
  exact congrArg EngineError.message same

end ScriptHost.ScriptEngine
