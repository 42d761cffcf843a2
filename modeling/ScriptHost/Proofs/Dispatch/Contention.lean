import ScriptHost.Proofs.Dispatch.Locking

/-! Operations that wait for one another at every lock do not wait for one another for good.
Whoever has the lock on the table, or has that on the default handle to clear it, can do what it
took the lock for, which needs no other lock. Whoever keeps the lock on the default handle while
it makes the default engine waits for the lock on the table and for a thread, and the thread for
nobody. So when no lock is taken for one look, whoever could go on without such locks can take
the one it needs. -/

namespace ScriptHost

variable {K : EngineKind}

namespace Dispatcher

variable {trace : List Sight} {s s' : Shared K} {sight : Sight} {call other handle : Nat}

/-! ### What a step leaves as it is -/

/-- A step is a step of one call at most. -/
theorem Step.mover (step : Step s sight s') :
    ∃ call stage, s'.stages = s.stages ∨ s'.stages = Function.update s.stages call stage := by
  cases step with
  | work => exact ⟨0, .idle, .inl rfl⟩
  | _ => exact ⟨_, _, .inr rfl⟩

theorem Step.stages_other (step : Step s sight s') (moved : s'.stages call ≠ s.stages call)
    (differs : other ≠ call) : s'.stages other = s.stages other := by
  obtain ⟨mover, stage, same | updated⟩ := step.mover
  · rw [same]
  · have own : call = mover := by
      by_contra apart
      rw [updated, Function.update_of_ne apart] at moved
      exact moved rfl
    rw [updated, Function.update_of_ne (own ▸ differs)]

/-- The default handle is not changed under whoever has the lock on it. -/
theorem Step.default_kept (places : Places s) (step : Step s sight s')
    (holds : (s.stages call).holds = true) (still : s'.stages call = s.stages call) :
    s'.default = s.default := by
  have held := (places.lock call).mp holds
  cases step with
  | @name other handle command stage =>
    have own := (places.lock other).mp (by simp [stage])
    obtain rfl : other = call := by simpa [held, eq_comm] using own
    simp [stage] at still
  | clear stage free =>
    rw [held] at free
    cases free
  | _ => rfl

/-- The lock on the default handle is taken by a call that has need of nothing else. -/
theorem Step.lock_taken (step : Step s sight s') (free : s.lock = none) (taken : s'.lock ≠ none) :
    ∃ call command, s'.stages call = .choosing command ∧ s'.stages call ≠ s.stages call ∧
      (s.stages call).need s.codec s.default = .nothing := by
  cases step with
  | @choose call op command stage asked named =>
    refine ⟨call, command, by simp, by simp [stage], ?_⟩
    simp [stage, Stage.need, asked, named]
  | @unmade _ purpose => cases purpose <;> contradiction
  | _ => contradiction

/-- A call that is to clear the default handle goes on when the lock is free. -/
theorem Step.lock_free {reason : Reason} (step : Step s sight s')
    (changed : s'.stages call ≠ s.stages call) (stage : s.stages call = .removed handle reason) :
    s.lock = none := by
  cases step with
  | clear _ free => exact free
  | work => exact absurd rfl changed
  | dispatch _ before =>
    refine absurd (Function.update_of_ne ?_ _ _) changed
    rintro rfl
    cases before.symm.trans stage
  | _ before =>
    refine absurd (Function.update_of_ne ?_ _ _) changed
    rintro rfl
    cases before.symm.trans stage

theorem Step.next_le (step : Step s sight s') : s.next ≤ s'.next := by
  cases step with
  | number => exact Nat.le_succ _
  | _ => exact Nat.le_refl _

/-- Whoever makes an engine now did so before, or has just taken the next handle. -/
theorem Step.making_back {purpose : Purpose} {limits : EngineLimits} (step : Step s sight s')
    (making : s'.stages call = .making purpose limits handle) :
    s.stages call = .making purpose limits handle ∨ handle = s.next := by
  cases step with
  | work => exact .inl making
  | @number mover =>
    by_cases own : call = mover
    · subst own
      simp only [Shared.stageAt, Function.update_self, Stage.making.injEq] at making
      exact .inr making.2.2.symm
    · exact .inl (by simpa [own] using making)
  | _ => exact .inl (Worker.back_of_update (by simp) call making)

/-- Whoever has made an engine did so before, or has come from making it. -/
theorem Step.made_back {purpose : Purpose} (step : Step s sight s')
    (made : s'.stages call = .made purpose handle) :
    s.stages call = .made purpose handle ∨
      ∃ limits, s.stages call = .making purpose limits handle := by
  cases step with
  | work => exact .inl made
  | @make mover purpose' limits handle' _ _ _ _ stage =>
    by_cases own : call = mover
    · subst own
      simp only [Shared.stageAt, Function.update_self, Stage.made.injEq] at made
      obtain ⟨rfl, rfl⟩ := made
      exact .inr ⟨limits, stage⟩
    · exact .inl (by simpa [own] using made)
  | _ => exact .inl (Worker.back_of_update (by simp) call made)

/-- No worker goes away, and no disposal is undone. -/
def Stays (workers workers' : Nat → Option (Worker.Shared K)) : Prop :=
  ∀ handle worker, workers handle = some worker → ∃ next, workers' handle = some next ∧
    ∀ caller, worker.disposals caller ≠ .idle → next.disposals caller ≠ .idle

theorem Stays.refl (workers : Nat → Option (Worker.Shared K)) : Stays workers workers :=
  fun _ worker held => ⟨worker, held, fun _ => id⟩

theorem Stays.worked {workers : Nat → Option (Worker.Shared K)} {worker next : Worker.Shared K}
    {event : Event} (held : workers handle = some worker) (step : Worker.Step worker event next) :
    Stays workers (Function.update workers handle (some next)) := by
  intro other before there
  by_cases own : other = handle
  · subst own
    obtain rfl : worker = before := Option.some.inj (held.symm.trans there)
    refine ⟨next, Function.update_self _ _ _, fun caller begun idle => begun ?_⟩
    exact ((step.disposals_idle caller).mp idle).1
  · exact ⟨before, (Function.update_of_ne own _ _).trans there, fun _ => id⟩

theorem Step.workers_stay (handles : Handles trace s) (step : Step s sight s') :
    Stays s.workers s'.workers := by
  cases step with
  | run stage there moved | letGo stage there moved => exact .worked there moved
  | work there moved => exact .worked there moved
  | @make call purpose limits handle _ _ _ _ stage =>
    intro other worker held
    have unmade := handles.unmade call purpose limits handle stage
    have differs : other ≠ handle := by
      rintro rfl
      rw [unmade] at held
      cases held
    exact ⟨worker, (Function.update_of_ne differs _ _).trans held, fun _ => id⟩
  | _ => exact .refl _

theorem Step.need_kept (places : Places s) (step : Step s sight s')
    (still : s'.stages call = s.stages call) :
    (s'.stages call).need s'.codec s'.default = (s.stages call).need s.codec s.default := by
  rw [still, step.codec]
  cases stage : s.stages call with
  | choosing command =>
    rw [step.default_kept places (by simp [stage]) still]
  | _ => rfl

theorem begun_update {stages : Nat → Stage} (finite : {call | stages call ≠ .idle}.Finite)
    (mover : Nat) (stage : Stage) :
    {call | Function.update stages mover stage call ≠ .idle}.Finite := by
  refine (finite.insert mover).subset fun call begun => ?_
  by_cases own : call = mover
  · exact .inl own
  · refine .inr fun idle => begun ?_
    rw [Function.update_of_ne own, idle]

theorem Step.begun_finite (step : Step s sight s') (finite : {call | s.stages call ≠ .idle}.Finite) :
    {call | s'.stages call ≠ .idle}.Finite := by
  obtain ⟨mover, stage, same | updated⟩ := step.mover
  · rwa [same]
  · rw [updated]
    exact begun_update finite mover stage

/-- A call that has not got to an engine waits for the lock on the table at most. -/
theorem need_asked (codec : Codec) (default : Option Nat) (op : Operation) :
    (Stage.asked op).need codec default = .nothing ∨ (Stage.asked op).need codec default = .table := by
  rw [Stage.need]
  split
  · split <;> simp
  · split <;> simp
  · exact .inl rfl

theorem need_choosing (codec : Codec) (default : Option Nat) (command : Command) :
    (Stage.choosing command).need codec default = .nothing ∨
      (Stage.choosing command).need codec default = .table := by
  rw [Stage.need]
  split <;> simp

theorem making_of_need (need : (s.stages call).need s.codec s.default = .thread) :
    ∃ purpose limits handle, s.stages call = .making purpose limits handle := by
  cases stage : s.stages call with
  | making purpose limits handle => exact ⟨purpose, limits, handle, rfl⟩
  | asked op =>
    rw [stage] at need
    have early := need_asked s.codec s.default op
    simp [need] at early
  | choosing command =>
    rw [stage] at need
    have early := need_choosing s.codec s.default command
    simp [need] at early
  | _ => simp [stage, Stage.need] at need

/-- A call that needs the lock on the table can go on when it has it. -/
theorem moves_table (need : (s.stages call).need s.codec s.default = .table) :
    ∃ sight s', Step s sight s' ∧ s'.stages call ≠ s.stages call ∧ sight.dispatched? = none := by
  cases stage : s.stages call with
  | asked op =>
    rw [stage, Stage.need] at need
    cases asked : admitted s.codec op with
    | error e => simp [asked] at need
    | ok request =>
      cases named : op.handle with
      | none => cases request <;> simp [asked, named] at need
      | some handle =>
        cases request with
        | create options => simp [asked] at need
        | dispose =>
          by_cases active : handle ∈ s.table
          · exact ⟨_, _, .dispose stage asked named active, by simp, rfl⟩
          · exact ⟨_, _, .disposeMissing stage asked named active, by simp, rfl⟩
        | command command =>
          by_cases active : handle ∈ s.table
          · exact ⟨_, _, .find stage asked named active, by simp, rfl⟩
          · exact ⟨_, _, .missing stage asked named active, by simp, rfl⟩
  | choosing command =>
    by_cases set : ∃ handle, s.default = some handle ∧ handle ∈ s.table
    · obtain ⟨handle, set, active⟩ := set
      exact ⟨_, _, .chosen stage set active, by simp, rfl⟩
    · exact ⟨_, _, .unchosen stage fun handle held active => set ⟨handle, held, active⟩, by simp, rfl⟩
  | made purpose handle =>
    cases purpose with
    | create => exact ⟨_, _, .insert stage, by simp, rfl⟩
    | default command => exact ⟨_, _, .insertDefault stage, by simp, rfl⟩
  | named handle command =>
    by_cases active : handle ∈ s.table
    · exact ⟨_, _, .named stage active, by simp, rfl⟩
    · exact ⟨_, _, .unnamed stage active, by simp, rfl⟩
  | retiring handle reason =>
    by_cases active : handle ∈ s.table
    · exact ⟨_, _, .retire stage active, by simp, rfl⟩
    · exact ⟨_, _, .retired stage active, by simp, rfl⟩
  | _ => simp [stage, Stage.need] at need

theorem removed_of_need (need : (s.stages call).need s.codec s.default = .default) :
    ∃ handle reason, s.stages call = .removed handle reason := by
  cases stage : s.stages call with
  | removed handle reason => exact ⟨handle, reason, rfl⟩
  | asked op =>
    rw [stage] at need
    have early := need_asked s.codec s.default op
    simp [need] at early
  | choosing command =>
    rw [stage] at need
    have early := need_choosing s.codec s.default command
    simp [need] at early
  | _ => simp [stage, Stage.need] at need

/-! ### What holds at every time -/

namespace Contended

variable {s s' : Contended K} {base : Shared K}

/-- What is known of operations that wait for no lock but that on the default handle holds of those
that wait for every lock. Calls are finitely many. -/
structure Sound (trace : List Sight) (s : Contended K) : Prop where
  histories : Histories trace s.base
  handles : Handles trace s.base
  places : Places s.base
  begun : {call | s.base.stages call ≠ .idle}.Finite

/-- Whoever has a lock needs it. The lock on the default handle is in one hand only. -/
structure Locked (s : Contended K) : Prop where
  table : ∀ call, s.tableLock = some call → s.need call = .table
  clearing : ∀ call, s.clearing = some call → s.need call = .default ∧ s.base.lock = none

/-- The threads of new engines are as far as the calls that wait for them. -/
structure Born (s : Contended K) : Prop where
  making : ∀ call purpose limits handle, s.base.stages call = .making purpose limits handle →
    (s.births handle).early = true
  made : ∀ call purpose handle, s.base.stages call = .made purpose handle →
    (s.births handle).early = false
  unborn : ∀ handle, s.base.next ≤ handle → s.births handle = .unborn

/-- What is to be let go of is there, and its disposal has begun if it is being disposed of. -/
def Present (workers : Nat → Option (Worker.Shared K)) : Leaving → Prop
  | .nothing => True
  | .owning handle => (workers handle).isSome
  | .dropping handle agent => ∃ worker, workers handle = some worker ∧ worker.disposals agent ≠ .idle

def Parting (s : Contended K) : Prop := ∀ call, Present s.base.workers (s.leaving call)

theorem Sound.start (settings : Settings) (plan : K.Plan) : Sound [] (start settings plan) where
  histories := .start settings plan
  handles := .start settings plan
  places := .start settings plan
  begun := by simp [Contended.start, Shared.start]

theorem Sound.based (sound : Sound trace s) (step : Dispatcher.Step s.base sight base)
    (same : s'.base = base) : Sound (trace ++ [sight]) s' := by
  subst same
  exact ⟨sound.histories.step sound.handles step, sound.handles.step step,
    sound.places.step sound.handles step, step.begun_finite sound.begun⟩

/-- Steps that calls and engines do not notice. -/
theorem Sound.aside (sound : Sound trace s) (plan : K.Plan)
    (same : s'.base = { s.base with plan := plan }) : Sound (trace ++ [.quiet]) s' := by
  obtain ⟨histories, handles, places, begun⟩ := sound
  obtain ⟨_, _, _, _, _⟩ := s'
  subst same
  refine ⟨histories.same rfl rfl fun _ => by simp,
    handles.same rfl rfl (by simp) (fun _ => rfl) fun _ => .inl rfl,
    ⟨places.table, places.engine, places.known, places.lock⟩, begun⟩

theorem Sound.bury {purpose : Purpose} {limits : EngineLimits} (sound : Sound trace s)
    (stage : s.base.stages call = .making purpose limits handle)
    {answer : Except DispatchError (List UInt8)} : Sound (trace ++ [.answered call answer])
      (s.moved call { s.base.stageAt call .returned with lock := purpose.lockAfter s.base.lock }) := by
  obtain ⟨histories, handles, places, begun⟩ := sound
  refine ⟨histories.same rfl rfl fun _ => by simp,
    handles.same rfl rfl (by simp) (fun _ => rfl) (stages_update rfl), ?_, ?_⟩
  · cases purpose with
    | create =>
      exact places.moved rfl rfl places.table (by simp) (by simp) (by simp) (by simp)
        (places.lock.kept (by simp [stage]))
    | default command =>
      exact places.moved rfl rfl places.table (by simp) (by simp) (by simp) (by simp)
        (places.lock.released Function.injective_id (by simp [stage]) rfl)
  · exact begun_update begun call .returned

theorem Sound.dropLast {agent : Nat} {worker next : Worker.Shared K} (sound : Sound trace s)
    (idle : s.base.stages agent = .idle) (held : s.base.workers handle = some worker)
    (moved : Worker.Step worker (.disposing agent) next)
    (same : s'.base = (s.base.workerAt handle next).stageAt agent .returned) :
    Sound (trace ++ [.inside handle (.disposing agent)]) s' := by
  obtain ⟨histories, handles, places, begun⟩ := sound
  obtain ⟨_, _, _, _, _⟩ := s'
  subst same
  refine ⟨histories.worked held moved rfl rfl,
    handles.same rfl rfl (by simp) (workers_update held) (stages_update rfl), ?_,
    begun_update begun agent .returned⟩
  refine places.joined rfl rfl rfl (by simp) (by simp) (by simp) (by simp) ?_
    (places.lock.kept (by simp [idle]))
  exact (places.known handle worker held).begun moved (by simp [eq_comm]) rfl (fun _ => rfl)
    (by simp) (by simp)

theorem Sound.step (sound : Sound trace s) (step : Step s sight s') : Sound (trace ++ [sight]) s' := by
  cases step with
  | underTable _ moved | underDefault _ moved | move _ moved | work moved | unstarted _ _ _ moved
  | create _ _ moved => exact sound.based moved rfl
  | lockTable | lockDefault | start | announce | hear | announceFailure | learn | finish | release
  | dropped => exact sound.aside s.base.plan rfl
  | miscarry => exact sound.aside _ rfl
  | bury stage => exact sound.bury stage
  | dropLast _ _ _ idle held moved => exact sound.dropLast idle held moved rfl

/-- Nobody else has to do with the handle of an engine to be. -/
theorem Sound.apart {given : Nat} (sound : Sound trace s)
    (own : (s.base.stages call).pending? = some handle) (differs : other ≠ call)
    (pending : (s.base.stages other).pending? = some given) : given ≠ handle := by
  rintro rfl
  exact differs (sound.handles.pending_once other call given pending own)

theorem Locked.start (settings : Settings) (plan : K.Plan) : Locked (start settings plan) where
  table _ held := by cases held
  clearing _ held := by cases held

theorem Locked.table_ne (locked : Locked s) (need : s.need call ≠ .table) (other : Nat)
    (held : s.tableLock = some other) : s.tableLock = some other ∧ other ≠ call :=
  ⟨held, fun same => need (same ▸ locked.table other held)⟩

theorem Locked.clearing_ne (locked : Locked s) (need : s.need call ≠ .default) (other : Nat)
    (held : s.clearing = some other) : s.clearing = some other ∧ other ≠ call :=
  ⟨held, fun same => need (same ▸ (locked.clearing other held).1)⟩

/-- A call goes on, and the locks that others have stay with them. -/
theorem Locked.moved (locked : Locked s) (sound : Sound trace s)
    (step : Dispatcher.Step s.base sight base) (changed : base.stages call ≠ s.base.stages call)
    (choosing : s.need call = .nothing → ∀ command, base.stages call = .choosing command →
      s.clearing = none)
    (same : s'.base = base)
    (table : ∀ other, s'.tableLock = some other → s.tableLock = some other ∧ other ≠ call)
    (clearing : ∀ other, s'.clearing = some other → s.clearing = some other ∧ other ≠ call) :
    Locked s' := by
  subst same
  constructor
  · intro other held
    obtain ⟨held, differs⟩ := table other held
    have still := step.stages_other changed differs
    exact (step.need_kept sound.places still).trans (locked.table other held)
  · intro other held
    obtain ⟨held, differs⟩ := clearing other held
    have still := step.stages_other changed differs
    obtain ⟨need, free⟩ := locked.clearing other held
    refine ⟨(step.need_kept sound.places still).trans need, ?_⟩
    by_contra taken
    obtain ⟨mover, command, chooses, turned, nothing⟩ := step.lock_taken free taken
    obtain rfl : mover = call := by
      by_contra apart
      exact turned (step.stages_other changed apart)
    rw [choosing nothing command chooses] at held
    cases held

/-- Steps in which no call with a lock goes on. -/
theorem Locked.kept (locked : Locked s) (table : s'.tableLock = s.tableLock)
    (clearing : s'.clearing = s.clearing)
    (need : ∀ other, s.need other = .table ∨ s.need other = .default → s'.need other = s.need other)
    (lock : s.base.lock = none → s'.base.lock = none) : Locked s' := by
  constructor
  · intro other held
    have own := locked.table other (table ▸ held)
    exact (need other (.inl own)).trans own
  · intro other held
    obtain ⟨own, free⟩ := locked.clearing other (clearing ▸ held)
    exact ⟨(need other (.inr own)).trans own, lock free⟩

theorem need_making {purpose : Purpose} {limits : EngineLimits}
    (stage : s.base.stages call = .making purpose limits handle) : s.need call = .thread := by
  rw [Contended.need, stage]
  rfl

/-- A call that waits for a thread has no lock but that on the default handle, and goes on. -/
theorem Locked.delivered {purpose : Purpose} {limits : EngineLimits} (locked : Locked s)
    (sound : Sound trace s) (stage : s.base.stages call = .making purpose limits handle)
    (step : Dispatcher.Step s.base sight base) (changed : base.stages call ≠ s.base.stages call)
    (same : s'.base = base) (table : s'.tableLock = s.tableLock)
    (clearing : s'.clearing = s.clearing) : Locked s' := by
  have need := need_making stage
  refine locked.moved sound step changed (by simp [need]) same ?_ ?_
  · rw [table]
    exact locked.table_ne (by simp [need])
  · rw [clearing]
    exact locked.clearing_ne (by simp [need])

theorem Locked.step (sound : Sound trace s) (locked : Locked s) (step : Step s sight s') :
    Locked s' := by
  cases step with
  | @lockTable call need heard free =>
    refine ⟨?_, locked.clearing⟩
    rintro _ ⟨⟩
    exact need
  | @lockDefault call need free unclaimed =>
    refine ⟨locked.table, ?_⟩
    rintro _ ⟨⟩
    exact ⟨need, free⟩
  | @underTable call _ base held moved changed =>
    have need := locked.table call held
    exact locked.moved sound moved changed (by simp [need]) rfl nofun
      (locked.clearing_ne (by simp [need]))
  | @underDefault call _ base held moved changed =>
    have need := (locked.clearing call held).1
    exact locked.moved sound moved changed (by simp [need]) rfl (locked.table_ne (by simp [need]))
      nofun
  | @move call _ base need moved changed choosing =>
    exact locked.moved sound moved changed (fun _ => choosing) rfl (locked.table_ne (by simp [need]))
      (locked.clearing_ne (by simp [need]))
  | unstarted stage _ _ moved returns =>
    exact locked.delivered sound stage moved (by simp [stage, returns]) rfl rfl rfl
  | create stage _ moved made =>
    exact locked.delivered sound stage moved (by simp [stage, made]) rfl rfl rfl
  | work moved same =>
    refine locked.kept rfl rfl (fun other _ => moved.need_kept sound.places (by rw [same])) ?_
    intro free
    by_contra taken
    obtain ⟨mover, _, _, turned, _⟩ := moved.lock_taken free taken
    exact turned (by rw [same])
  | @bury call purpose limits handle e stage _ =>
    refine locked.kept rfl rfl (fun other has => ?_) fun free => ?_
    · have differs : other ≠ call := by
        rintro rfl
        simp [need_making stage] at has
      simp [Contended.need, differs, Shared.codec]
    · cases purpose with
      | create => exact free
      | default => rfl
  | @dropLast call handle agent worker next _ _ _ idle held moved =>
    refine locked.kept rfl rfl (fun other has => ?_) id
    have differs : other ≠ agent := by
      rintro rfl
      simp [Contended.need, idle, Stage.need] at has
    simp [Contended.need, differs, Shared.codec]
  | start | miscarry | announce | hear | announceFailure | learn | finish | release | dropped =>
    exact locked.kept rfl rfl (fun _ _ => rfl) id

theorem Born.start (settings : Settings) (plan : K.Plan) : Born (start settings plan) where
  making _ _ _ _ stage := by cases stage
  made _ _ _ stage := by cases stage
  unborn _ _ := rfl

/-- A call goes on, and has not made an engine. -/
theorem Born.moved (born : Born s) (step : Dispatcher.Step s.base sight base)
    (makes : ∀ call purpose handle, base.stages call = .made purpose handle →
      s.base.stages call = .made purpose handle)
    (same : s'.base = base) (births : s'.births = s.births) : Born s' := by
  subst same
  refine ⟨fun call purpose limits handle stage => ?_, fun call purpose handle stage => ?_, ?_⟩
  · rw [births]
    obtain before | rfl := step.making_back stage
    · exact born.making call purpose limits handle before
    · rw [born.unborn _ (Nat.le_refl _)]
      rfl
  · rw [births]
    exact born.made call purpose handle (makes call purpose handle stage)
  · intro handle above
    rw [births]
    exact born.unborn handle (Nat.le_trans step.next_le above)

/-- A call comes back. -/
theorem Born.returned (born : Born s)
    (stages : s'.base.stages = Function.update s.base.stages call .returned)
    (next : s'.base.next = s.base.next) (births : s'.births = s.births) : Born s' := by
  refine ⟨?_, ?_, fun other above => ?_⟩
  · intro other purpose limits given stage
    rw [stages] at stage
    rw [births]
    exact born.making other purpose limits given (Worker.back_of_update (by simp) other stage)
  · intro other purpose given stage
    rw [stages] at stage
    rw [births]
    exact born.made other purpose given (Worker.back_of_update (by simp) other stage)
  · rw [births]
    exact born.unborn other (next ▸ above)

/-- The thread goes on, or the call that waits for it hears of it. -/
theorem Born.turned (born : Born s) {birth : Birth} (below : handle < s.base.next)
    (same : birth.early = (s.births handle).early) (stages : s'.base.stages = s.base.stages)
    (next : s'.base.next = s.base.next)
    (births : s'.births = Function.update s.births handle birth) : Born s' := by
  have early (other : Nat) : (s'.births other).early = (s.births other).early := by
    rw [births]
    by_cases own : other = handle
    · rw [own, Function.update_self, same]
    · rw [Function.update_of_ne own]
  refine ⟨?_, ?_, fun other above => ?_⟩
  · intro call purpose limits other stage
    rw [early]
    exact born.making call purpose limits other (stages ▸ stage)
  · intro call purpose other stage
    rw [early]
    exact born.made call purpose other (stages ▸ stage)
  · rw [next] at above
    rw [births, Function.update_of_ne (by omega)]
    exact born.unborn other above

/-- A handle whose thread is under way was taken. -/
theorem Born.below (born : Born s) (started : s.births handle ≠ .unborn) : handle < s.base.next := by
  by_contra above
  exact started (born.unborn handle (Nat.not_lt.mp above))

/-- A call has an engine. -/
theorem Born.create {purpose : Purpose} {limits : EngineLimits} (sound : Sound trace s)
    (born : Born s) (stage : s.base.stages call = .making purpose limits handle)
    (step : Dispatcher.Step s.base sight base) (made : base.stages call = .made purpose handle) :
    Born ((s.moved call base).birthAt handle .fresh) := by
  have changed : base.stages call ≠ s.base.stages call := by simp [stage, made]
  have waits : (s.base.stages call).pending? = some handle := by rw [stage]; rfl
  have below := (sound.handles.pending call handle waits).1
  refine ⟨fun other purpose limits given there => ?_, fun other purpose given there => ?_, ?_⟩
  · have differs : other ≠ call := by
      rintro rfl
      exact absurd (made.symm.trans there) (by simp)
    have there : base.stages other = _ := there
    rw [step.stages_other changed differs] at there
    simp only [birthAt, Function.update_of_ne (sound.apart waits differs (by rw [there]; rfl))]
    exact born.making other purpose limits given there
  · have there : base.stages other = _ := there
    by_cases own : other = call
    · obtain rfl : given = handle := by
        rw [own, made] at there
        cases there
        rfl
      simp [birthAt]
    · rw [step.stages_other changed own] at there
      simp only [birthAt, Function.update_of_ne (sound.apart waits own (by rw [there]; rfl))]
      exact born.made other purpose given there
  · intro other above
    have above : base.next ≤ other := above
    have later := step.next_le
    simp only [birthAt, Function.update_of_ne (show other ≠ handle by omega)]
    exact born.unborn other (by omega)

/-- A call that needs no thread does not make an engine. -/
theorem made_kept (step : Dispatcher.Step s.base sight base)
    (changed : base.stages call ≠ s.base.stages call) (need : s.need call ≠ .thread) (other : Nat)
    (purpose : Purpose) (handle : Nat) (made : base.stages other = .made purpose handle) :
    s.base.stages other = .made purpose handle := by
  obtain before | ⟨limits, before⟩ := step.made_back made
  · exact before
  · obtain rfl : other = call := by
      by_contra apart
      have still := step.stages_other changed apart
      rw [made, before] at still
      cases still
    exact absurd (need_making before) need

theorem Born.step (sound : Sound trace s) (locked : Locked s) (born : Born s)
    (step : Step s sight s') : Born s' := by
  have below {call handle : Nat} {purpose : Purpose} {limits : EngineLimits}
      (stage : s.base.stages call = .making purpose limits handle) : handle < s.base.next :=
    (sound.handles.pending call handle (by rw [stage]; rfl)).1
  cases step with
  | lockTable | lockDefault | release | dropped => exact ⟨born.making, born.made, born.unborn⟩
  | @underTable call _ base held moved changed =>
    exact born.moved moved (made_kept moved changed (by simp [locked.table call held])) rfl rfl
  | @underDefault call _ base held moved changed =>
    exact born.moved moved (made_kept moved changed (by simp [(locked.clearing call held).1])) rfl rfl
  | move need moved changed => exact born.moved moved (made_kept moved changed (by simp [need])) rfl rfl
  | work moved same => exact born.moved moved (fun call purpose handle made => by rwa [← same]) rfl rfl
  | @unstarted call _ _ _ _ base stage _ _ moved returns =>
    have changed : base.stages call ≠ s.base.stages call := by simp [stage, returns]
    refine born.moved moved (fun other purpose handle made => ?_) rfl rfl
    have differs : other ≠ call := by
      rintro rfl
      exact absurd (returns.symm.trans made) (by simp)
    rwa [← moved.stages_other changed differs]
  | start stage unborn => exact born.turned (below stage) (by simp [unborn]) rfl rfl rfl
  | create stage creating moved made => exact born.create sound stage moved made
  | miscarry stage creating => exact born.turned (below stage) (by simp [creating]) rfl rfl rfl
  | announce fresh | announceFailure fresh | finish fresh =>
    exact born.turned (born.below (by simp [fresh])) (by simp [fresh]) rfl rfl rfl
  | hear _ told | learn _ told =>
    exact born.turned (born.below (by simp [told])) (by simp [told]) rfl rfl rfl
  | bury => exact born.returned rfl rfl rfl
  | dropLast => exact born.returned rfl rfl rfl

theorem Present.stays {workers workers' : Nat → Option (Worker.Shared K)} {leaving : Leaving}
    (present : Present workers leaving) (stays : Stays workers workers') : Present workers' leaving := by
  cases leaving with
  | nothing => trivial
  | owning handle =>
    obtain ⟨worker, there⟩ := Option.isSome_iff_exists.mp present
    obtain ⟨next, there, -⟩ := stays handle worker there
    exact Option.isSome_iff_exists.mpr ⟨next, there⟩
  | dropping handle agent =>
    obtain ⟨worker, there, begun⟩ := present
    obtain ⟨next, there, kept⟩ := stays handle worker there
    exact ⟨next, there, kept agent begun⟩

/-- One call has something else to let go of. -/
theorem Parting.turned {leaving : Leaving} (parting : Parting s)
    (stays : Stays s.base.workers s'.base.workers)
    (turned : s'.leaving = Function.update s.leaving call leaving)
    (present : Present s'.base.workers leaving) : Parting s' := by
  rw [Parting, turned]
  exact (Function.forall_update_iff s.leaving fun _ leaving => Present s'.base.workers leaving).mpr
    ⟨present, fun other _ => (parting other).stays stays⟩

theorem Parting.kept (parting : Parting s) (stays : Stays s.base.workers s'.base.workers)
    (same : s'.leaving = s.leaving) : Parting s' := by
  intro call
  rw [same]
  exact (parting call).stays stays

/-- What a call has to let go of when it comes back was there when it had to do with it. -/
theorem present_leftAt (places : Places s.base) (stays : Stays s.base.workers base.workers) :
    Present base.workers (leftAt (s.base.stages call) (base.stages call)) := by
  cases base.stages call with
  | returned =>
    cases stage : s.base.stages call with
    | found | running | retiring | removed | cleared | disposing =>
      have there := places.engine call _ (by rw [stage]; rfl)
      exact @Present.stays _ _ _ (.owning _) there stays
    | _ => trivial
  | _ => trivial

theorem Parting.step (sound : Sound trace s) (parting : Parting s) (step : Step s sight s') :
    Parting s' := by
  cases step with
  | underTable _ moved | underDefault _ moved | move _ moved | unstarted _ _ _ moved
  | create _ _ moved =>
    have stays := moved.workers_stay sound.handles
    exact parting.turned stays rfl (present_leftAt sound.places stays)
  | work moved same => exact parting.kept (moved.workers_stay sound.handles) rfl
  | lockTable | lockDefault | start | miscarry | announce | hear | announceFailure | learn | finish =>
    exact parting.kept (.refl _) rfl
  | bury stage => exact parting.turned (.refl _) rfl (present_leftAt sound.places (.refl _))
  | release | dropped => exact parting.turned (.refl _) rfl trivial
  | @dropLast call handle agent worker next _ _ _ idle held moved =>
    refine parting.turned (.worked held moved) rfl ⟨next, Function.update_self _ _ _, fun begins => ?_⟩
    exact ((moved.disposals_idle agent).mp begins).2 rfl

/-! ### Somebody can go on -/

theorem Run.sound {settings : Settings} {plan : K.Plan} (run : Run (start settings plan) trace s) :
    Sound trace s ∧ Locked s ∧ Born s ∧ Parting s := by
  induction run with
  | nil => exact ⟨.start settings plan, .start settings plan, .start settings plan, fun _ => trivial⟩
  | snoc run step ih =>
    obtain ⟨sound, locked, born, parting⟩ := ih
    exact ⟨sound.step step, locked.step sound step, born.step sound locked step,
      parting.step sound step⟩

/-- Whoever has the lock on the table can go on. -/
theorem Locked.moves_table (locked : Locked s) (held : s.tableLock = some call) : Moves s := by
  obtain ⟨sight, base, step, changed, inner⟩ := Dispatcher.moves_table (locked.table call held)
  exact ⟨sight, _, .underTable held step changed, inner⟩

/-- Whoever has the lock on the default handle to clear it can go on. -/
theorem Locked.moves_clearing (locked : Locked s) (held : s.clearing = some call) : Moves s := by
  obtain ⟨need, free⟩ := locked.clearing call held
  obtain ⟨handle, reason, stage⟩ := removed_of_need need
  exact ⟨_, _, .underDefault held (.clear stage free) (by simp [stage]), rfl⟩

/-- A call that waits for the lock on the table can have it, once it knows of its engine. -/
theorem Born.moves_lock (born : Born s) (free : s.tableLock = none) (need : s.need call = .table) :
    Moves s := by
  by_cases heard : s.Heard call
  · exact ⟨_, _, .lockTable need heard free, rfl⟩
  · simp only [Heard, not_forall] at heard
    obtain ⟨purpose, handle, stage, unheard⟩ := heard
    have late := born.made call purpose handle stage
    cases birth : s.births handle with
    | fresh => exact ⟨_, _, .announce birth, rfl⟩
    | announced => exact ⟨_, _, .hear stage birth, rfl⟩
    | heard => exact absurd birth unheard
    | _ => simp [birth] at late

/-- A call that makes an engine is told how that ends. -/
theorem Born.moves_making {purpose : Purpose} {limits : EngineLimits} (born : Born s)
    (stage : s.base.stages call = .making purpose limits handle) : Moves s := by
  have early := born.making call purpose limits handle stage
  cases birth : s.births handle with
  | unborn =>
    by_cases ceiling : Worker.stackCeiling ≤ s.base.settings.workerStack.toNat
    · rcases spawned : Worker.spawn handle limits s.base.settings.workerStack s.base.plan with
        ⟨made, log, plan⟩
      cases made with
      | error e =>
        exact ⟨_, _, .unstarted stage birth ceiling (.unmade stage spawned) (by simp), rfl⟩
      | ok worker => simp [Worker.spawn, ceiling] at spawned
    · exact ⟨_, _, .start stage birth (Nat.not_le.mp ceiling), rfl⟩
  | creating =>
    rcases spawned : Worker.spawn handle limits s.base.settings.workerStack s.base.plan with
      ⟨made, log, plan⟩
    cases made with
    | error e => exact ⟨_, _, .miscarry stage birth spawned, rfl⟩
    | ok worker =>
      obtain ⟨engine, rfl⟩ := Worker.spawn_live spawned
      exact ⟨_, _, .create stage birth (.make stage spawned rfl) (by simp), rfl⟩
  | failing e => exact ⟨_, _, .announceFailure birth, rfl⟩
  | failed e heard ended =>
    cases heard with
    | false => exact ⟨_, _, .learn stage birth, rfl⟩
    | true =>
      cases ended with
      | false => exact ⟨_, _, .finish birth, rfl⟩
      | true => exact ⟨_, _, .bury stage birth, rfl⟩
  | _ => simp [birth] at early

/-- Where no lock is taken but that of whoever makes the default engine, somebody can go on who could
with no other locks. -/
theorem Born.moves_based (born : Born s) (table : s.tableLock = none) (clearing : s.clearing = none)
    (step : Dispatcher.Step s.base sight base) (inner : sight.dispatched? = none) : Moves s := by
  by_cases same : base.stages = s.base.stages
  · exact ⟨sight, _, .work step same, inner⟩
  · obtain ⟨call, changed⟩ := Function.ne_iff.mp same
    cases need : s.need call with
    | nothing => exact ⟨sight, _, .move need step changed fun _ _ => clearing, inner⟩
    | table => exact born.moves_lock table need
    | default =>
      obtain ⟨handle, reason, stage⟩ := removed_of_need need
      exact ⟨_, _, .lockDefault need (step.lock_free changed stage) clearing, rfl⟩
    | thread =>
      obtain ⟨purpose, limits, handle, stage⟩ := making_of_need need
      exact born.moves_making stage

/-- Whoever has come back can let go of its worker: the worker is disposed of if nobody else has it,
and nobody can be in the way of that. -/
theorem Parting.moves (sound : Sound trace s) (parting : Parting s) (left : s.leaving call ≠ .nothing) :
    Moves s := by
  have present := parting call
  cases place : s.leaving call with
  | nothing => exact absurd place left
  | owning handle =>
    rw [place] at present
    by_cases others : handle ∈ s.base.table ∨ ∃ other, other ≠ call ∧ s.Owns other handle
    · exact ⟨_, _, .release place others, rfl⟩
    · rw [not_or, not_exists] at others
      obtain ⟨worker, held⟩ := Option.isSome_iff_exists.mp present
      obtain ⟨agent, idle⟩ := sound.begun.exists_notMem
      have idle : s.base.stages agent = .idle := not_not.mp idle
      have unknown := mt ((sound.places.known handle worker held).parted agent) (by simp [idle])
      refine ⟨_, _, .dropLast place others.1 (fun other differs owns => ?_) idle held
        (.dispose (not_not.mp unknown)), rfl⟩
      exact others.2 other ⟨differs, owns⟩
  | dropping handle agent =>
    rw [place] at present
    obtain ⟨worker, held, begun⟩ := present
    obtain ⟨engine, -, run⟩ := sound.histories.runs handle worker held
    obtain ⟨locks, awaits⟩ := run.awaits
    cases stage : worker.disposals agent with
    | idle => exact absurd stage begun
    | returned => exact ⟨_, _, .dropped place held stage, rfl⟩
    | _ =>
      obtain ⟨event, next, moved, inner⟩ := awaits.moves locks (.inr (by rw [stage]; rfl))
      exact ⟨_, _, .work (.work held moved inner) rfl, rfl⟩

/-- No deadlock: as long as a call is under way, a step can be taken by a call that is or by a
thread, whoever has which lock and waits for which answer. -/
theorem call_goes_on {settings : Settings} {plan : K.Plan} (run : Run (start settings plan) trace s)
    {call : Nat} (unfinished : s.Unfinished call) : Moves s := by
  obtain ⟨sound, locked, born, parting⟩ := run.sound
  cases table : s.tableLock with
  | some holder => exact locked.moves_table table
  | none =>
    cases clearing : s.clearing with
    | some holder => exact locked.moves_clearing clearing
    | none =>
      obtain busy | left := unfinished
      · obtain ⟨sight, base, step, inner⟩ := sound.places.moves sound.histories busy
        exact born.moves_based table clearing step inner
      · exact parting.moves sound left

/-- A call has the lock on the default handle while its engine is made, and another waits for that
lock, while a third has the lock on the table to take the engine away that is not there yet. -/
theorem call_goes_on_behind : ∃ trace, ∃ s : Contended (ScriptedEngine.kind false),
    Run (start {} ()) trace s ∧ s.base.lock = some 0 ∧ s.tableLock = some 2 ∧
      s.births 1 = .creating ∧ s.Unfinished 1 ∧ Moves s := by
  have begun : Run (start {} () : Contended (ScriptedEngine.kind false)) [] _ := .nil
  have run := begun
    |>.snoc (@Step.move _ _ 0 _ _ rfl (@Step.dispatch _ _ 0 { name := "executePendingJobs" } rfl)
      nofun fun _ _ => rfl)
    |>.snoc (@Step.move _ _ 0 _ _ rfl (@Step.choose _ _ 0 _ _ rfl rfl rfl rfl rfl)
      nofun fun _ _ => rfl)
    |>.snoc (@Step.move _ _ 0 _ _ rfl (@Step.unchosen _ _ 0 _ rfl nofun) nofun fun _ _ => rfl)
    |>.snoc (@Step.move _ _ 0 _ _ rfl (@Step.number _ _ 0 _ _ rfl) nofun fun _ _ => rfl)
    |>.snoc (@Step.start _ _ 0 _ _ _ rfl rfl (by decide))
    |>.snoc (@Step.move _ _ 1 _ _ rfl (@Step.dispatch _ _ 1 { name := "executePendingJobs" } rfl)
      nofun fun _ _ => rfl)
    |>.snoc (@Step.move _ _ 2 _ _ rfl
      (@Step.dispatch _ _ 2 { name := "disposeEngine", handle := some 1 } rfl) nofun fun _ _ => rfl)
    |>.snoc (@Step.lockTable _ _ 2 rfl nofun rfl)
  exact ⟨_, _, run, rfl, rfl, rfl, .inl rfl, @call_goes_on _ _ _ _ _ run 1 (.inl rfl)⟩

end Contended

end Dispatcher

end ScriptHost
