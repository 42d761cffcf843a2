import ScriptHost.Proofs.Dispatch.Contention
import ScriptHost.Proofs.Dispatch.Solo

/-! Operations that wait for every lock can do whatever they do when they wait for one alone: each
step of the latter is a few of the former. So what the dispatcher does with operations one after
another can be seen of operations that contend for its locks, too. -/

namespace ScriptHost

variable {K : EngineKind}

/-- Is there something to be seen of it? -/
def Sight.loud : Sight → Bool
  | .quiet => false
  | _ => true

namespace Dispatcher

variable {trace : List Sight} {s s' : Shared K} {sight : Sight} {call handle : Nat}

/-- What can be seen of a run. -/
def visible (trace : List Sight) : List Sight := trace.filter Sight.loud

theorem visible_append (trace more : List Sight) :
    visible (trace ++ more) = visible trace ++ visible more :=
  List.filter_append _ _

theorem dispatches_visible (trace : List Sight) : dispatches (visible trace) = dispatches trace := by
  rw [dispatches, visible, List.filterMap_filter]
  refine List.filterMap_congr fun sight _ => ?_
  cases sight <;> rfl

theorem answers_visible (trace : List Sight) : answers (visible trace) = answers trace := by
  rw [answers, visible, List.filterMap_filter]
  refine List.filterMap_congr fun sight _ => ?_
  cases sight <;> rfl

/-- The two ways in which making an engine ends. -/
theorem Step.of_making {purpose : Purpose} {limits : EngineLimits} (step : Step s sight s')
    (changed : s'.stages call ≠ s.stages call) (stage : s.stages call = .making purpose limits handle) :
    (∃ e log plan, Worker.spawn handle limits s.settings.workerStack s.plan = (.error e, log, plan) ∧
      sight = .answered call (.error (.ofEngine e)) ∧
      s' = { s.stageAt call .returned with plan := plan, lock := purpose.lockAfter s.lock }) ∨
    (∃ worker log plan, Worker.spawn handle limits s.settings.workerStack s.plan =
      (.ok worker, log, plan) ∧ sight = .quiet ∧ s'.stages call = .made purpose handle) := by
  cases step with
  | work => exact absurd rfl changed
  | @unmade mover purpose' limits' handle' e log plan before spawned =>
    obtain rfl : mover = call := by
      by_contra apart
      exact changed (Function.update_of_ne (Ne.symm apart) _ _)
    cases before.symm.trans stage
    refine .inl ⟨e, log, plan, spawned, rfl, ?_⟩
    cases purpose <;> rfl
  | @make mover purpose' limits' handle' worker engine log plan before spawned =>
    obtain rfl : mover = call := by
      by_contra apart
      exact changed (Function.update_of_ne (Ne.symm apart) _ _)
    cases before.symm.trans stage
    exact .inr ⟨worker, log, plan, spawned, rfl, Function.update_self _ _ _⟩
  | dispatch _ before =>
    refine absurd (Function.update_of_ne ?_ _ _) changed
    rintro rfl
    cases before.symm.trans stage
  | _ before =>
    refine absurd (Function.update_of_ne ?_ _ _) changed
    rintro rfl
    cases before.symm.trans stage

namespace Contended

variable {c c' middle : Contended K} {base : Shared K}

theorem Run.append {more : List Sight} (run : Run c trace middle) (rest : Run middle more c') :
    Run c (trace ++ more) c' := by
  induction rest with
  | nil => simpa using run
  | snoc _ step ih => simpa using ih.snoc step

/-- No lock is taken but that of whoever makes the default engine, no thread is making an engine, and
every call knows of the one it made. -/
structure Rested (c : Contended K) : Prop where
  table : c.tableLock = none
  clearing : c.clearing = none
  making : ∀ call purpose limits handle, c.base.stages call = .making purpose limits handle →
    c.births handle = .unborn
  made : ∀ call, c.Heard call

theorem Rested.start (settings : Settings) (plan : K.Plan) : Rested (start settings plan) where
  table := rfl
  clearing := rfl
  making _ _ _ _ stage := by cases stage
  made _ _ _ stage := by cases stage

/-- A step that makes no engine. -/
theorem Rested.kept (rested : Rested c) (born : Born c) (step : Dispatcher.Step c.base sight base)
    (makes : ∀ call purpose handle, base.stages call = .made purpose handle →
      c.base.stages call = .made purpose handle)
    (same : c'.base = base) (births : c'.births = c.births) (table : c'.tableLock = none)
    (clearing : c'.clearing = none) : Rested c' := by
  subst same
  refine ⟨table, clearing, fun call purpose limits handle stage => ?_,
    fun call purpose handle stage => ?_⟩
  · rw [births]
    obtain before | rfl := step.making_back stage
    · exact rested.making call purpose limits handle before
    · exact born.unborn _ (Nat.le_refl _)
  · rw [births]
    exact rested.made call purpose handle (makes call purpose handle stage)

/-- A step of the call that makes the engine of this handle. -/
theorem Rested.made_known {purpose : Purpose} {limits : EngineLimits} (rested : Rested c)
    (sound : Sound trace c) (step : Dispatcher.Step c.base sight base)
    (stage : c.base.stages call = .making purpose limits handle) (same : c'.base = base)
    (ends : base.stages call = .returned ∨
      base.stages call = .made purpose handle ∧ c'.births handle = .heard)
    (births : ∀ other, other ≠ handle → c'.births other = c.births other)
    (table : c'.tableLock = none) (clearing : c'.clearing = none) : Rested c' := by
  subst same
  have changed : c'.base.stages call ≠ c.base.stages call := by
    obtain returns | ⟨made, -⟩ := ends
    · simp [stage, returns]
    · simp [stage, made]
  have waits : (c.base.stages call).pending? = some handle := by rw [stage]; rfl
  refine ⟨table, clearing, fun other purpose limits given there => ?_,
    fun other purpose given there => ?_⟩
  · have differs : other ≠ call := by
      rintro rfl
      obtain returns | ⟨made, -⟩ := ends
      · cases returns.symm.trans there
      · cases made.symm.trans there
    rw [step.stages_other changed differs] at there
    rw [births given (sound.apart waits differs (by rw [there]; rfl))]
    exact rested.making other purpose limits given there
  · by_cases own : other = call
    · subst own
      obtain returns | ⟨made, heard⟩ := ends
      · cases returns.symm.trans there
      · cases made.symm.trans there
        exact heard
    · rw [step.stages_other changed own] at there
      rw [births given (sound.apart waits own (by rw [there]; rfl))]
      exact rested.made other purpose given there

/-- Steps lead to this base and to rest again, and show what this sight shows. -/
def Follows (c : Contended K) (base : Shared K) (sight : Sight) : Prop :=
  ∃ more c', Run c more c' ∧ c'.base = base ∧ Rested c' ∧ visible more = visible [sight]

/-- An engine is made on its thread, or is not, and the call hears of it. -/
theorem Rested.follows_making {purpose : Purpose} {limits : EngineLimits} (rested : Rested c)
    (sound : Sound trace c) (step : Dispatcher.Step c.base sight base)
    (changed : base.stages call ≠ c.base.stages call)
    (stage : c.base.stages call = .making purpose limits handle) : Follows c base sight := by
  have unborn := rested.making call purpose limits handle stage
  obtain ⟨e, log, plan, spawned, rfl, rfl⟩ | ⟨worker, log, plan, spawned, rfl, made⟩ :=
    step.of_making changed stage
  · by_cases ceiling : Worker.stackCeiling ≤ c.base.settings.workerStack.toNat
    · refine ⟨_, _, Run.nil.snoc (.unstarted stage unborn ceiling step (by simp)), rfl, ?_, rfl⟩
      exact rested.made_known sound step stage rfl (.inl (by simp)) (fun _ _ => rfl) rested.table
        rested.clearing
    · refine ⟨_, _, Run.nil
        |>.snoc (@Step.start _ _ call _ _ _ stage unborn (Nat.not_le.mp ceiling))
        |>.snoc (@Step.miscarry _ _ call _ _ handle _ _ _ stage (Function.update_self ..) spawned)
        |>.snoc (@Step.announceFailure _ _ handle _ (Function.update_self ..))
        |>.snoc (@Step.learn _ _ call _ _ handle _ _ stage (Function.update_self ..))
        |>.snoc (@Step.finish _ _ handle _ _ (Function.update_self ..))
        |>.snoc (@Step.bury _ _ call _ _ handle _ stage (Function.update_self ..)), rfl, ?_, rfl⟩
      refine rested.made_known sound step stage rfl (.inl (by simp)) (fun other differs => ?_)
        rested.table rested.clearing
      simp [differs]
  · have below : c.base.settings.workerStack.toNat < Worker.stackCeiling := by
      by_contra ceiling
      simp [Worker.spawn, Nat.not_lt.mp ceiling] at spawned
    refine ⟨_, _, Run.nil
      |>.snoc (@Step.start _ _ call _ _ _ stage unborn below)
      |>.snoc (@Step.create _ _ call _ _ handle _ base stage (Function.update_self ..) step made)
      |>.snoc (@Step.announce _ _ handle (Function.update_self ..))
      |>.snoc (@Step.hear _ _ call _ handle made (Function.update_self ..)), rfl, ?_, rfl⟩
    refine rested.made_known sound step stage rfl (.inr ⟨made, by simp⟩) (fun other differs => ?_)
      rested.table rested.clearing
    simp [differs]

/-- Any step can be followed, once its call has what it needs. -/
theorem Rested.follows (rested : Rested c) (sound : Sound trace c) (born : Born c)
    (step : Dispatcher.Step c.base sight base) : Follows c base sight := by
  by_cases same : base.stages = c.base.stages
  · refine ⟨_, _, Run.nil.snoc (.work step same), rfl, ?_, rfl⟩
    exact rested.kept born step (fun call purpose handle made => by rwa [← same]) rfl rfl
      rested.table rested.clearing
  · obtain ⟨call, changed⟩ := Function.ne_iff.mp same
    cases need : c.need call with
    | nothing =>
      have run := Run.nil.snoc (.move need step changed fun _ _ => rested.clearing)
      refine ⟨_, _, run, rfl, ?_, rfl⟩
      exact rested.kept born step (made_kept step changed (by simp [need])) rfl rfl rested.table
        rested.clearing
    | table =>
      have locked := Run.nil.snoc (.lockTable need (rested.made call) rested.table)
      refine ⟨_, _, locked.snoc (.underTable rfl step changed), rfl, ?_, rfl⟩
      exact rested.kept born step (made_kept step changed (by simp [need])) rfl rfl rfl
        rested.clearing
    | default =>
      obtain ⟨handle, reason, stage⟩ := removed_of_need need
      have free := step.lock_free changed stage
      have locked := Run.nil.snoc (.lockDefault need free rested.clearing)
      refine ⟨_, _, locked.snoc (.underDefault rfl step changed), rfl, ?_, rfl⟩
      exact rested.kept born step (made_kept step changed (by simp [need])) rfl rfl rested.table
        rfl
    | thread =>
      obtain ⟨purpose, limits, handle, stage⟩ := making_of_need need
      exact rested.follows_making sound step changed stage

/-- Whatever operations do that wait for one lock alone, those that wait for every lock can do. -/
theorem run_contended {settings : Settings} {plan : K.Plan}
    (run : Dispatcher.Run (.start settings plan) trace s) :
    ∃ whole c, Run (start settings plan) whole c ∧ c.base = s ∧ visible whole = visible trace := by
  suffices follows : ∃ whole c, Run (start settings plan) whole c ∧ c.base = s ∧ Rested c ∧
      visible whole = visible trace by
    obtain ⟨whole, c, after, same, -, seen⟩ := follows
    exact ⟨whole, c, after, same, seen⟩
  induction run with
  | nil => exact ⟨[], _, .nil, rfl, .start settings plan, rfl⟩
  | snoc _ step ih =>
    obtain ⟨whole, c, before, rfl, rested, seen⟩ := ih
    obtain ⟨sound, -, born, -⟩ := before.sound
    obtain ⟨more, c', after, same, rested, last⟩ := rested.follows sound born step
    refine ⟨_, c', before.append after, same, rested, ?_⟩
    rw [visible_append, visible_append, seen, last]

/-- What a dispatcher does with operations one after another is what can be seen of it when they
wait for every lock, and have nobody to wait for. -/
theorem run_alone (settings : Settings) (plan : K.Plan) (ops : List Operation) :
    ∃ trace c, Run (start settings plan) trace c ∧
      dispatches trace = (List.range ops.length).zip ops ∧
      answers trace = (List.range ops.length).zip
        ((ofSettings settings plan : Dispatcher K).answersTo ops) ∧
      Mirrors ((ofSettings settings plan).after ops) c.base := by
  obtain ⟨trace, s, run, asked, answered, mirrors⟩ := run_of_after settings plan ops
  obtain ⟨whole, c, after, rfl, seen⟩ := run_contended run
  refine ⟨whole, c, after, ?_, ?_, mirrors⟩
  · rw [← dispatches_visible, seen, dispatches_visible, asked]
  · rw [← answers_visible, seen, answers_visible, answered]

end Contended

end Dispatcher

end ScriptHost
