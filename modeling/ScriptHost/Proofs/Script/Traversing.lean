import ScriptHost.Proofs.Script.Clock
import ScriptHost.Proofs.Script.Diverging
import ScriptHost.Proofs.Script.NodeLimit

/-! The time of commands. A command has the engine carry out one computation after another, in scripts,
functions, jobs, getters and setters alike, and all of them take their time from what the command was
given at its start. Evaluating, calling and running jobs are given the time that the limits say, so at
every point of theirs the clock runs. Setting and getting a global are given none, and a getter can go
on for as long as it likes. -/

namespace ScriptHost.Script.Host

open Machine

/-- The machine that carries out a computation for the host. -/
def machine (p : Prog) (s : Session) : Machine where
  prog := p
  heap := s.heap
  coroutines := s.coroutines
  time := s.time
  tripped := s.tripped

/-- The machines that the engine goes through for an action of the host, and how that ends. -/
inductive Traverses : {α : Type} → Host α → Session → List Machine →
    Except EngineError α × Session → Prop where
  | pure {α : Type} (a : α) (s : Session) : Traverses (Pure.pure a : Host α) s [] (.ok a, s)
  | throw {α : Type} (e : EngineError) (s : Session) :
      Traverses (throw e : Host α) s [] (.error e, s)
  | get (s : Session) : Traverses (MonadState.get : Host Session) s [] (.ok s, s)
  | exec (p : Prog) (s : Session) :
      Traverses (exec p) s (passes scripts stepBound (machine p s)) (after (exec p) s)
  | retain (f : Ref) (s : Session) : Traverses (retain f) s [] (after (retain f) s)
  | spend (s : Session) :
      Traverses (modify fun s : Session => { s with nodesLeft := s.nodesLeft - 1 } : Host Unit) s []
        (.ok ⟨⟩, { s with nodesLeft := s.nodesLeft - 1 })
  | bind {α β : Type} {m : Host α} {f : α → Host β} {s t : Session} {a : α}
      {before later : List Machine} {ended : Except EngineError β × Session} :
      Traverses m s before (.ok a, t) → Traverses (f a) t later ended →
      Traverses (m >>= f) s (before ++ later) ended
  | stop {α β : Type} {m : Host α} {f : α → Host β} {s t : Session} {e : EngineError}
      {before : List Machine} :
      Traverses m s before (.error e, t) → Traverses (m >>= f) s before (.error e, t)

variable {α : Type} {m : Host α} {s : Session} {machines : List Machine}
  {ended : Except EngineError α × Session}

/-- It ends as the action does. -/
theorem Traverses.ended_eq (traverses : Traverses m s machines ended) : ended = after m s := by
  induction traverses with
  | bind _ _ first second => rw [after_bind, ← first, second]
  | stop _ first => rw [after_bind, ← first]
  | _ => rfl

theorem Traverses.followed {β : Type} {f : α → Host β} (first : Traverses m s machines (after m s))
    (rest : ∀ a t, ∃ later, Traverses (f a) t later (after (f a) t)) :
    ∃ later, Traverses (m >>= f) s (machines ++ later) (after (m >>= f) s) := by
  rw [after_bind]
  rcases ran : after m s with ⟨e | a, t⟩ <;> rw [ran] at first
  · exact ⟨[], (List.append_nil machines).symm ▸ .stop first⟩
  · obtain ⟨later, second⟩ := rest a t
    exact ⟨later, .bind first second⟩

/-- Whatever is put together goes through some machines. -/
theorem Composed.traverses {spends : Bool} {named : Nat → Prop} (composed : Composed spends named m)
    (s : Session) : ∃ machines, Traverses m s machines (after m s) := by
  induction composed generalizing s with
  | pure a => exact ⟨[], .pure a s⟩
  | throw e => exact ⟨[], .throw e s⟩
  | restore id _ =>
    have looked : Traverses (Host.look (·.retained.functions.lookup id)) s []
        (.ok (s.heap.retained.functions.lookup id), s) := .bind (.get s) (.pure _ s)
    rw [after_restore]
    refine ⟨[], .bind looked ?_⟩
    generalize s.heap.retained.functions.lookup id = found
    cases found with
    | some f => exact .pure f s
    | none => exact .throw _ s
  | get => exact ⟨[], .get s⟩
  | exec p => exact ⟨_, .exec p s⟩
  | retain f => exact ⟨[], .retain f s⟩
  | spend => exact ⟨[], .spend s⟩
  | bind _ _ first rest =>
    obtain ⟨before, goes⟩ := first s
    obtain ⟨later, traverses⟩ := goes.followed rest
    exact ⟨before ++ later, traverses⟩

/-- The engine goes through this machine first. -/
def Begins (m : Host α) (s : Session) (first : Machine) : Prop :=
  ∃ later, Traverses m s (first :: later) (after m s)

theorem Begins.exec (p : Prog) (s : Session) : Begins (exec p) s (machine p s) := by
  obtain ⟨bound, steps⟩ : ∃ bound, stepBound = bound + 1 := ⟨stepBound - 1, rfl⟩
  have traverses := Traverses.exec p s
  rw [steps, passes] at traverses
  exact ⟨_, traverses⟩

theorem Begins.bind {β : Type} {f : α → Host β} {first : Machine} (begins : Begins m s first)
    (rest : ∀ a, Composed true (fun _ => False) (f a)) : Begins (m >>= f) s first := by
  obtain ⟨later, traverses⟩ := begins
  obtain ⟨more, followed⟩ := traverses.followed fun a => (rest a).traverses
  exact ⟨later ++ more, followed⟩

/-- The clock goes on from one computation to the next. -/
theorem Traverses.elapses (traverses : Traverses m s machines ended) :
    Elapses s.time machines ended.2.time := by
  induction traverses with
  | exec p s => exact elapses_passes scripts stepBound (machine p s)
  | bind _ _ first second => exact first.append second
  | stop _ first => exact first
  | _ => rfl

end ScriptHost.Script.Host

namespace ScriptHost.ScriptEngine

open Script Script.Host Script.Machine

variable {e : ScriptEngine} {command : Command} {machines : List Machine}
  {outcome : Outcome Datum × List Log.Record × ScriptEngine}

/-! ### Commands -/

/-- What comes of a command once the host is through with it. -/
def closing (e : ScriptEngine) (ended : Except EngineError Datum × Session) :
    Outcome Datum × List Log.Record × ScriptEngine :=
  let (r, warned) := classify e.limits ended.2.heap ended.1
  let owner := [("engine", toString e.handle)]
  let printed := ended.2.heap.printed.reverse.map fun (level, line) =>
    ({ level := level, target := consoleTarget, message := line, values := owner } : Log.Record)
  let warning : List Log.Record := if warned then
    [{ level := .warn, target := logTarget, message := "null thrown at the memory limit"
       values := owner }] else []
  let answer := match r with
    | .ok d => .value d
    | .error failure => .error failure
  (answer, printed ++ warning,
    { e with heap := { ended.2.heap with printed := [] }, coroutines := ended.2.coroutines })

theorem within_eq_closing (action : Host Datum) (timed : Bool) (e : ScriptEngine) :
    within action timed e = closing e (after action (opening e timed)) := rfl

/-- What the host does for a command that it carries out. -/
def work? (limits : EngineLimits) : Command → Option (Host Datum)
  | .eval request => some (evaluate limits request)
  | .call request => some (call limits request)
  | .setGlobal a => some (setGlobal a)
  | .getGlobal name => some (getGlobal name)
  | .runJobs => some runJobs
  | .release _ => none

/-- Is the command given a time? -/
def isArmed : Command → Bool
  | .eval _ | .call _ | .runJobs => true
  | .setGlobal _ | .getGlobal _ | .release _ => false

/-- What comes of a command is what comes of that work, within the time that it is given. -/
theorem run_eq_within {action : Host Datum} (allowed : refusal? command = none)
    (found : work? e.limits command = some action) :
    run command e = within action (isArmed command) e := by
  unfold run
  rw [allowed]
  cases command <;> cases found <;> rfl

/-- Where a value is copied out, the work is to find it and to copy it. -/
theorem work?_of_source {limits : EngineLimits} {source : Host Value}
    (found : source? limits command = some source) :
    work? limits command = some (source >>= exportValue) := by
  cases command with
  | eval request => exact congrArg some (evaluate_eq found)
  | call request => exact congrArg some (call_eq found)
  | getGlobal name =>
    obtain rfl := Option.some.inj found
    rfl
  | setGlobal | release | runJobs => cases found

/-- Where no value is copied out, nothing is kept and nothing taken from the number of values. -/
theorem work_composed_of_none {limits : EngineLimits} {action : Host Datum} {spends : Bool}
    (none : source? limits command = none) (found : work? limits command = some action) :
    Composed spends command.Names action := by
  cases command with
  | eval | call | getGlobal => cases none
  | setGlobal a =>
    obtain rfl := Option.some.inj found
    exact .bind (.copyIn 0 a.value fun id member => ⟨id, member, rfl⟩) fun v =>
      .bind (.discard (.demand _)) fun _ => .pure _
  | runJobs =>
    obtain rfl := Option.some.inj found
    refine .bind (.demand _) fun v => ?_
    split <;> exact .pure _
  | release => cases found

theorem work_composed {limits : EngineLimits} {action : Host Datum}
    (found : work? limits command = some action) : Composed true command.Names action := by
  cases given : source? limits command with
  | none => exact work_composed_of_none given found
  | some source =>
    rw [work?_of_source given] at found
    obtain rfl := Option.some.inj found
    exact .bind (source_composed given) (.copyOut _)

/-- The machines that an engine goes through for a command, and what comes of it. -/
inductive Passes (e : ScriptEngine) : Command → List Machine →
    Outcome Datum × List Log.Record × ScriptEngine → Prop where
  | refused {command : Command} {reason : String} : refusal? command = some reason →
      Passes e command [] (.error (.invalidArgument reason), [], e)
  | released (id : UInt64) :
      Passes e (.release id) [] (.value (.bool (e.release id).1), [], (e.release id).2)
  | worked {command : Command} {action : Host Datum} {machines : List Machine}
      {ended : Except EngineError Datum × Session} :
      refusal? command = none → work? e.limits command = some action →
      Traverses action (opening e (isArmed command)) machines ended →
      Passes e command machines (closing e ended)

theorem Passes.outcome_eq (passes : Passes e command machines outcome) : outcome = run command e := by
  cases passes with
  | refused refused =>
    unfold run
    rw [refused]
  | released id => rfl
  | worked allowed found traverses =>
    rw [run_eq_within allowed found, within_eq_closing, ← traverses.ended_eq]

theorem exists_passes (e : ScriptEngine) (command : Command) :
    ∃ machines, Passes e command machines (run command e) := by
  have some_passes : ∃ machines outcome, Passes e command machines outcome := by
    cases refused : refusal? command with
    | some reason => exact ⟨[], _, .refused refused⟩
    | none =>
      cases found : work? e.limits command with
      | some action =>
        obtain ⟨machines, traverses⟩ := (work_composed found).traverses (opening e (isArmed command))
        exact ⟨machines, _, .worked refused found traverses⟩
      | none =>
        cases command with
        | release id => exact ⟨[], _, .released id⟩
        | _ => cases found
  obtain ⟨machines, outcome, passes⟩ := some_passes
  exact ⟨machines, passes.outcome_eq ▸ passes⟩

theorem Passes.elapses (passes : Passes e command machines outcome) :
    ∃ final, Elapses (opening e (isArmed command)).time machines final := by
  cases passes with
  | refused => exact ⟨_, rfl⟩
  | released => exact ⟨_, rfl⟩
  | worked _ _ traverses => exact ⟨_, traverses.elapses⟩

/-- Every point of a command that is given a time is on that time: what is left of it and the tasks that
were begun come to the limit of one command, and to one more period for each time it was over; and
when it is over no task is begun. -/
theorem armed_commands_timed (limited : e.limits.timeout ≠ 0) (armed : isArmed command) :
    (∃ machines, Passes e command machines (run command e)) ∧
    ∀ machines outcome, Passes e command machines outcome → outcome = run command e ∧
      ∀ before m later, machines = before ++ m :: later →
        (∃ left, m.time = some left ∧
          left + begun before =
            e.limits.timeout.toNat * tasksPerMs + grace * interruptions before) ∧
        (m.isOverdue →
          m.step scripts = .on { m with prog := interrupted, time := some grace, tripped := true }) := by
  refine ⟨exists_passes e command, fun machines outcome passes => ⟨passes.outcome_eq, ?_⟩⟩
  intro before m later split
  refine ⟨?_, step_of_isOverdue⟩
  obtain ⟨final, elapses⟩ := passes.elapses
  have given : (opening e (isArmed command)).time = some (e.limits.timeout.toNat * tasksPerMs) := by
    simp [opening, armed, budget, limited]
  rw [given, split] at elapses
  exact elapses.remaining

/-- A command that is given no time has no limit at any point. -/
theorem unarmed_commands_unlimited (unarmed : isArmed command = false)
    (passes : Passes e command machines outcome) : ∀ m ∈ machines, m.time = none := by
  obtain ⟨final, elapses⟩ := passes.elapses
  have given : (opening e (isArmed command)).time = none := by simp [opening, unarmed]
  rw [given] at elapses
  exact elapses.unlimited.1

/-- Getting a global begins with the machine that looks it up. -/
theorem getGlobal_begins (name : String) (s : Session) : Begins (getGlobal name) s
    (machine (Comp.get Intrinsic.global.ref (Key.ofString name)).toProg s) := by
  have value : Begins (value (Comp.get Intrinsic.global.ref (Key.ofString name))) s _ :=
    (Begins.exec _ s).bind fun ended => by split <;> exact .pure _
  have demand : Begins (demand (Comp.get Intrinsic.global.ref (Key.ofString name))) s _ :=
    value.bind fun ended => by
      split
      · exact .pure _
      · exact .fail _
  exact demand.bind (.copyOut _)

/-- An engine whose commands may take a millisecond, with a global whose getter never returns. -/
def endless : ScriptEngine :=
  let (getter, h) := Realm.bare.allocate
    { kind := .closure { code := Comp.forever, scope := {} }, proto := none }
  { handle := 1, limits := { timeout := 1 }
    heap := Realm.put h Intrinsic.global.ref "slow"
      ⟨.accessor (.object getter) .undefined, true, true⟩ }

/-- Calling what a getter gives is on time all the while that the getter runs. -/
theorem armed_commands_timed_path : endless.limits.timeout ≠ 0 ∧
    isArmed (.call ⟨.path "slow", []⟩) ∧
    ∃ machines, Passes endless (.call ⟨.path "slow", []⟩) machines
        (run (.call ⟨.path "slow", []⟩) endless) ∧
      ∀ m ∈ machines, m.time.isSome := by
  have limited : endless.limits.timeout ≠ 0 := by decide
  have armed : isArmed (.call ⟨.path "slow", []⟩) := rfl
  obtain ⟨⟨machines, passes⟩, timed⟩ := armed_commands_timed limited armed
  refine ⟨limited, armed, machines, passes, fun m member => ?_⟩
  obtain ⟨before, later, split⟩ := List.append_of_mem member
  obtain ⟨⟨left, time, -⟩, -⟩ := (timed machines _ passes).2 before m later split
  rw [time]
  rfl

/-- Getting a global runs its getter without a limit, for as many steps as there may be. -/
theorem endless_getter : endless.limits.timeout ≠ 0 ∧
    (∃ m later, Passes endless (.getGlobal "slow") (m :: later) (run (.getGlobal "slow") endless) ∧
      ∀ bound, (Machine.run scripts bound m).1 = .unfinished) ∧
    ∀ machines outcome, Passes endless (.getGlobal "slow") machines outcome →
      ∀ m ∈ machines, m.time = none := by
  refine ⟨by decide, ?_, fun machines outcome => unarmed_commands_unlimited rfl⟩
  obtain ⟨later, traverses⟩ := getGlobal_begins "slow" (opening endless false)
  have passes : Passes endless (.getGlobal "slow") _ _ := .worked rfl rfl traverses
  refine ⟨_, later, passes.outcome_eq ▸ passes, fun bound => ?_⟩
  have own : endless.heap.ownProperty Intrinsic.global.ref (Key.ofString "slow") =
      some ⟨.accessor (.object Realm.bare.objects.size) .undefined, true, true⟩ := by decide +kernel
  have code : endless.heap.kind Realm.bare.objects.size =
      .closure { code := Comp.forever, scope := {} } := by rfl
  exact Comp.get_diverges rfl (by decide +kernel) (by decide +kernel) own code (by decide)
    _ #[] [] [] false bound

end ScriptHost.ScriptEngine
