import ScriptHost.Proofs.Dispatch.Tables
import ScriptHost.Proofs.Worker.Progress

/-! What operations find where they go: the engine of a handle was made before anyone gets to
know the handle, no worker knows a call before it is there, and the lock on the default handle is
with whoever chooses an engine by default. -/

namespace ScriptHost

variable {K : EngineKind}

namespace Stage

/-- The handle of the engine that the call has to do with. -/
@[simp] def engine? : Stage → Option Nat
  | .made _ handle | .created handle | .naming handle _ | .named handle _ | .found handle _
  | .running handle | .retiring handle _ | .removed handle _ | .cleared handle _
  | .disposing handle _ => some handle
  | _ => none

/-- Has the call the lock on the default handle? -/
@[simp] def holds : Stage → Bool
  | .choosing _ | .spawning (.default _) _ | .making (.default _) _ _ | .made (.default _) _
  | .naming .. | .named .. => true
  | _ => false

/-- May the call have been at a worker with its command? -/
@[simp] def called : Stage → Bool
  | .running _ | .retiring .. | .removed .. | .cleared .. | .disposing .. | .returned => true
  | _ => false

/-- May the call have been at a worker to dispose of it? -/
@[simp] def parted : Stage → Bool
  | .disposing .. | .returned => true
  | _ => false

/-- Is the operation under way? -/
@[simp] def busy : Stage → Bool
  | .idle | .returned => false
  | _ => true

end Stage

namespace Dispatcher

/-- A worker knows of the calls that are there, and of no call that was not there yet. -/
structure Known (stages : Nat → Stage) (handle : Nat) (worker : Worker.Shared K) : Prop where
  called : ∀ call, worker.runs call ≠ .idle → (stages call).called = true
  running : ∀ call, stages call = .running handle → worker.runs call ≠ .idle
  parted : ∀ call, worker.disposals call ≠ .idle → (stages call).parted = true
  disposing : ∀ call reason, stages call = .disposing handle reason →
    worker.disposals call ≠ .idle

structure Places (s : Shared K) : Prop where
  table : ∀ handle ∈ s.table, (s.workers handle).isSome
  engine : ∀ call handle, (s.stages call).engine? = some handle → (s.workers handle).isSome
  known : ∀ handle worker, s.workers handle = some worker → Known s.stages handle worker
  lock : Held Stage.holds id s.stages s.lock

variable {trace : List Sight} {s s' : Shared K} {sight : Sight} {call handle : Nat}
  {stages : Nat → Stage} {stage : Stage} {worker next : Worker.Shared K} {event : Event}

theorem Places.start (settings : Settings) (plan : K.Plan) : Places (.start settings plan) where
  table _ member := absurd member List.not_mem_nil
  engine _ _ held := by cases held
  known _ _ held := by cases held
  lock _ := by simp [Shared.start]

/-- A call moves on, and neither to this worker nor from where it was known. -/
theorem Known.moved (known : Known stages handle worker)
    (called : (stages call).called = true → stage.called = true)
    (parted : (stages call).parted = true → stage.parted = true)
    (running : stage ≠ .running handle) (disposing : ∀ reason, stage ≠ .disposing handle reason) :
    Known (Function.update stages call stage) handle worker := by
  refine ⟨?_, ?_, ?_, ?_⟩
  · refine (Function.forall_update_iff stages
      (fun other stage => worker.runs other ≠ .idle → stage.called = true)).mpr ⟨?_, ?_⟩
    · exact fun begun => called (known.called call begun)
    · exact fun other _ => known.called other
  · refine (Function.forall_update_iff stages
      (fun other stage => stage = .running handle → worker.runs other ≠ .idle)).mpr ⟨?_, ?_⟩
    · exact fun there => absurd there running
    · exact fun other _ => known.running other
  · refine (Function.forall_update_iff stages
      (fun other stage => worker.disposals other ≠ .idle → stage.parted = true)).mpr ⟨?_, ?_⟩
    · exact fun begun => parted (known.parted call begun)
    · exact fun other _ => known.parted other
  · refine (Function.forall_update_iff stages (fun other stage => ∀ reason,
      stage = .disposing handle reason → worker.disposals other ≠ .idle)).mpr ⟨?_, ?_⟩
    · exact fun reason there => absurd there (disposing reason)
    · exact fun other _ => known.disposing other

/-- The worker takes a step of its own. -/
theorem Known.worked (known : Known stages handle worker) (step : Worker.Step worker event next)
    (inner : event.begins = false) : Known stages handle next := by
  have runs (caller : Nat) : next.runs caller = .idle ↔ worker.runs caller = .idle := by
    rw [step.runs_idle caller, and_iff_left]
    rintro command rfl
    cases inner
  have disposals (caller : Nat) :
      next.disposals caller = .idle ↔ worker.disposals caller = .idle := by
    rw [step.disposals_idle caller, and_iff_left]
    rintro rfl
    cases inner
  exact ⟨fun call begun => known.called call (mt (runs call).mpr begun),
    fun call there => mt (runs call).mp (known.running call there),
    fun call begun => known.parted call (mt (disposals call).mpr begun),
    fun call reason there => mt (disposals call).mp (known.disposing call reason there)⟩

/-- The worker takes the step with which the call begins there. -/
theorem Known.begun (known : Known stages handle worker) (step : Worker.Step worker event next)
    (own : ∀ other, event.beginner? = some other → other = call) (called : stage.called = true)
    (parted : next.disposals call ≠ .idle → stage.parted = true)
    (running : stage = .running handle → next.runs call ≠ .idle)
    (disposing : ∀ reason, stage = .disposing handle reason → next.disposals call ≠ .idle) :
    Known (Function.update stages call stage) handle next := by
  have runs {other : Nat} (differs : other ≠ call) :
      next.runs other = .idle ↔ worker.runs other = .idle := by
    rw [step.runs_idle other, and_iff_left]
    rintro command rfl
    exact differs (own other rfl)
  have disposals {other : Nat} (differs : other ≠ call) :
      next.disposals other = .idle ↔ worker.disposals other = .idle := by
    rw [step.disposals_idle other, and_iff_left]
    rintro rfl
    exact differs (own other rfl)
  refine ⟨?_, ?_, ?_, ?_⟩
  · refine (Function.forall_update_iff stages
      (fun other stage => next.runs other ≠ .idle → stage.called = true)).mpr ⟨fun _ => called, ?_⟩
    exact fun other differs begun => known.called other (mt (runs differs).mpr begun)
  · refine (Function.forall_update_iff stages
      (fun other stage => stage = .running handle → next.runs other ≠ .idle)).mpr ⟨running, ?_⟩
    exact fun other differs there => mt (runs differs).mp (known.running other there)
  · refine (Function.forall_update_iff stages
      (fun other stage => next.disposals other ≠ .idle → stage.parted = true)).mpr ⟨parted, ?_⟩
    exact fun other differs begun => known.parted other (mt (disposals differs).mpr begun)
  · refine (Function.forall_update_iff stages (fun other stage => ∀ reason,
      stage = .disposing handle reason → next.disposals other ≠ .idle)).mpr ⟨disposing, ?_⟩
    exact fun other differs reason there =>
      mt (disposals differs).mp (known.disposing other reason there)

/-- Steps of a call that leave the workers alone. -/
theorem Places.moved (places : Places s) (workers : s'.workers = s.workers)
    (stages : s'.stages = Function.update s.stages call stage)
    (table : ∀ handle ∈ s'.table, (s.workers handle).isSome)
    (engine : ∀ handle, stage.engine? = some handle → (s.workers handle).isSome)
    (called : (s.stages call).called = true → stage.called = true)
    (parted : (s.stages call).parted = true → stage.parted = true)
    (elsewhere : ∀ handle, stage ≠ .running handle ∧ ∀ reason, stage ≠ .disposing handle reason)
    (lock : Held Stage.holds id s'.stages s'.lock) : Places s' := by
  refine ⟨workers ▸ table, ?_, ?_, lock⟩
  · rw [stages, workers]
    exact (Function.forall_update_iff s.stages (fun _ stage => ∀ handle,
      stage.engine? = some handle → (s.workers handle).isSome)).mpr
        ⟨engine, fun other _ => places.engine other⟩
  · rw [stages, workers]
    exact fun handle worker held => (places.known handle worker held).moved called parted
      (elsewhere handle).1 (elsewhere handle).2

/-- Steps of a call in which a worker comes to be or changes. -/
theorem Places.joined (places : Places s)
    (workers : s'.workers = Function.update s.workers handle (some next))
    (stages : s'.stages = Function.update s.stages call stage) (table : s'.table = s.table)
    (engine : ∀ other, stage.engine? = some other → other = handle)
    (called : (s.stages call).called = true → stage.called = true)
    (parted : (s.stages call).parted = true → stage.parted = true)
    (elsewhere : ∀ other, other ≠ handle →
      stage ≠ .running other ∧ ∀ reason, stage ≠ .disposing other reason)
    (known : Known (Function.update s.stages call stage) handle next)
    (lock : Held Stage.holds id s'.stages s'.lock) : Places s' := by
  have made : (s'.workers handle).isSome := by simp [workers]
  have kept {other : Nat} (held : (s.workers other).isSome) : (s'.workers other).isSome := by
    by_cases same : other = handle
    · exact same ▸ made
    · rwa [workers, Function.update_of_ne same]
  refine ⟨fun other member => kept (places.table other (table ▸ member)), ?_, ?_, lock⟩
  · rw [stages]
    refine (Function.forall_update_iff s.stages (fun _ stage => ∀ handle,
      stage.engine? = some handle → (s'.workers handle).isSome)).mpr ⟨?_, ?_⟩
    · exact fun other there => engine other there ▸ made
    · exact fun other _ place there => kept (places.engine other place there)
  · rw [stages, workers]
    refine (Function.forall_update_iff s.workers (fun place worker? => ∀ worker,
      worker? = some worker →
        Known (Function.update s.stages call stage) place worker)).mpr ⟨?_, ?_⟩
    · rintro worker ⟨⟩
      exact known
    · exact fun other differs worker held => (places.known other worker held).moved called parted
        (elsewhere other differs).1 (elsewhere other differs).2

/-- A call comes back that does not have the lock. -/
theorem Places.returned (places : Places s) (free : (s.stages call).holds = false) :
    Places (s.stageAt call .returned) :=
  places.moved rfl rfl places.table (by simp) (by simp) (by simp) (by simp)
    (places.lock.kept (by rw [free]; rfl))

theorem Places.step (handles : Handles trace s) (places : Places s) (step : Step s sight s') :
    Places s' := by
  obtain ⟨table, engine, known, lock⟩ := id places
  cases step with
  | dispatch op stage =>
    exact places.moved rfl rfl table (by simp) (by simp [stage]) (by simp [stage]) (by simp)
      (lock.kept (by simp [stage]))
  | reject stage | disposeNothing stage | disposeMissing stage | missing stage | noDefault stage
  | tell stage | answer stage | retired stage | gone stage =>
    exact places.returned (by simp [stage])
  | create stage =>
    exact places.moved rfl rfl table (by simp) (by simp [stage]) (by simp [stage]) (by simp)
      (lock.kept (by simp [stage]))
  | @number call purpose limits stage =>
    exact places.moved rfl rfl table (by simp) (by simp [stage]) (by simp [stage]) (by simp)
      (lock.kept (by cases purpose <;> simp [stage]))
  | @dispose call op handle stage asked named active =>
    refine places.moved rfl rfl (fun other member => table other (List.mem_filter.mp member).1) ?_
      (by simp) (by simp [stage]) (by simp) (lock.kept (by simp [stage]))
    rintro other ⟨⟩
    exact table handle active
  | @find call op command handle stage asked named active =>
    refine places.moved rfl rfl table ?_ (by simp [stage]) (by simp [stage]) (by simp)
      (lock.kept (by simp [stage]))
    rintro other ⟨⟩
    exact table handle active
  | choose stage asked named on free =>
    rw [free] at lock
    exact places.moved rfl rfl table (by simp) (by simp [stage]) (by simp [stage]) (by simp)
      (lock.taken Function.injective_id rfl)
  | @chosen call command handle stage set active =>
    refine places.moved rfl rfl table ?_ (by simp [stage]) (by simp [stage]) (by simp)
      (lock.released Function.injective_id (by simp [stage]) rfl)
    rintro other ⟨⟩
    exact table handle active
  | unchosen stage unset =>
    exact places.moved rfl rfl table (by simp) (by simp [stage]) (by simp [stage]) (by simp)
      (lock.kept (by simp [stage]))
  | @unmade call purpose limits handle e log plan stage failed =>
    cases purpose with
    | create =>
      exact places.moved rfl rfl table (by simp) (by simp) (by simp) (by simp)
        (lock.kept (by simp [stage]))
    | default command =>
      exact places.moved rfl rfl table (by simp) (by simp) (by simp) (by simp)
        (lock.released Function.injective_id (by simp [stage]) rfl)
  | @make call purpose limits handle worker made log plan stage spawned held =>
    have unmade := handles.unmade call purpose limits handle stage
    have unknown (other : Nat) : (s.stages other).engine? ≠ some handle := by
      intro there
      have made := engine other handle there
      simp [unmade] at made
    refine places.joined rfl rfl rfl (by simp) (by simp [stage]) (by simp [stage]) (by simp) ?_
      (lock.kept (by cases purpose <;> simp [stage]))
    refine ⟨by simp [Worker.Shared.start], ?_, by simp [Worker.Shared.start], ?_⟩
    · intro other there
      have there := Worker.back_of_update (by simp) other there
      exact absurd (by rw [there]; rfl) (unknown other)
    · intro other reason there
      have there := Worker.back_of_update (by simp) other there
      exact absurd (by rw [there]; rfl) (unknown other)
  | @insert call handle stage | @insertDefault call handle command stage =>
    have made : (s.workers handle).isSome := engine call handle (by simp [stage])
    refine places.moved rfl rfl ?_ ?_ (by simp [stage]) (by simp [stage]) (by simp)
      (lock.kept (by simp [stage]))
    · intro other member
      rcases List.mem_append.mp member with member | member
      · exact table other member
      · exact List.mem_singleton.mp member ▸ made
    · rintro other ⟨⟩
      exact made
  | name stage | fatal stage | unanswered stage | clear stage =>
    refine places.moved rfl rfl table ?_ (by simp [stage]) (by simp [stage]) (by simp)
      (lock.kept (by simp [stage]))
    rintro other ⟨⟩
    exact engine _ _ (by rw [stage]; rfl)
  | named stage active =>
    refine places.moved rfl rfl table ?_ (by simp [stage]) (by simp [stage]) (by simp)
      (lock.released Function.injective_id (by simp [stage]) rfl)
    rintro other ⟨⟩
    exact table _ active
  | unnamed stage gone =>
    exact places.moved rfl rfl table (by simp) (by simp) (by simp) (by simp)
      (lock.released Function.injective_id (by simp [stage]) rfl)
  | retire stage active =>
    refine places.moved rfl rfl (fun other member => table other (List.mem_filter.mp member).1) ?_
      (by simp) (by simp [stage]) (by simp) (lock.kept (by simp [stage]))
    rintro other ⟨⟩
    exact table _ active
  | @run call handle command worker next stage held moved =>
    have was := known handle worker held
    refine places.joined rfl rfl rfl (by simp [eq_comm]) (by simp) (by simp [stage]) ?_ ?_
      (lock.kept (by simp [stage]))
    · exact fun other differs => ⟨by simp [differs.symm], by simp⟩
    · refine was.begun moved (by simp [eq_comm]) rfl ?_ ?_ (by simp)
      · intro begun
        have unparted := mt (was.parted call) (by rw [stage]; exact Bool.false_ne_true)
        exact absurd ((moved.disposals_idle call).mpr ⟨not_not.mp unparted, by simp⟩) begun
      · intro _ idle
        exact ((moved.runs_idle call).mp idle).2 command rfl
  | @work handle event worker next held moved inner =>
    have kept {other : Nat} (made : (s.workers other).isSome) :
        (Function.update s.workers handle (some next) other).isSome := by
      rwa [workers_update held]
    refine ⟨fun other member => kept (table other member),
      fun other place there => kept (engine other place there), ?_, lock⟩
    refine (Function.forall_update_iff s.workers (fun place worker? => ∀ worker,
      worker? = some worker → Known s.stages place worker)).mpr ⟨?_, fun other _ => known other⟩
    rintro _ ⟨⟩
    exact (known handle worker held).worked moved inner
  | @letGo call handle reason worker next stage held moved =>
    refine places.joined rfl rfl rfl (by simp [eq_comm]) (by simp) (by simp) ?_ ?_
      (lock.kept (by simp [stage]))
    · exact fun other differs => ⟨by simp, by simp [differs.symm]⟩
    · refine (known handle worker held).begun moved (by simp [eq_comm]) rfl (fun _ => rfl)
        (by simp) ?_
      intro _ _ idle
      exact ((moved.disposals_idle call).mp idle).2 rfl

end Dispatcher

end ScriptHost
