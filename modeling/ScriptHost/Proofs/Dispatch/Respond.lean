import ScriptHost.Proofs.Dispatch.Effect

/-! The answer to an operation as a plain function of the state. Commands on a worker of the
table reach a live engine: a worker whose engine is gone has left the table already. With that
invariant, `effect_dispatch` says that carrying out an operation is `respond`, the log left
aside. -/

namespace ScriptHost

variable {K : EngineKind} {α : Type}

namespace Worker

/-- A worker as it stands in the table: its engine is there and it takes commands. -/
def live (handle : Nat) (engine : K.Engine) : Worker K :=
  { handle := handle, engine := some engine }

theorem spawn_created {handle : Nat} {limits : EngineLimits} {stack : UInt64} {plan after : K.Plan}
    {worker : Worker K} {log : List Log.Record}
    (spawned : spawn handle limits stack plan = (.ok worker, log, after)) :
    ∃ engine, worker = live handle engine ∧ (K.create handle limits plan).1 = .value engine := by
  unfold spawn at spawned
  split at spawned
  · simp at spawned
  · rcases made : K.create handle limits plan with ⟨outcome, records, next⟩
    simp only [made] at spawned
    cases outcome with
    | value engine =>
      simp only [Outcome.caught, Prod.mk.injEq, Except.ok.injEq] at spawned
      exact ⟨engine, spawned.1.symm, rfl⟩
    | _ => simp [Outcome.caught] at spawned

theorem spawn_live {handle : Nat} {limits : EngineLimits} {stack : UInt64} {plan after : K.Plan}
    {worker : Worker K} {log : List Log.Record}
    (spawned : spawn handle limits stack plan = (.ok worker, log, after)) :
    ∃ engine, worker = live handle engine :=
  (spawn_created spawned).imp fun _ => And.left

/-- A command on a live worker is a run of its engine. -/
theorem run_live (command : Command) (handle : Nat) (engine : K.Engine) :
    run command (live handle engine) =
      match (K.run command engine).1.caught "engine" with
      | .error (.fatal reason) =>
        (.error (.fatal reason),
          (K.run command engine).2.1 ++ farewell handle (K.run command engine).2.2,
          { handle := handle, engine := none, failed := true })
      | result => (result, (K.run command engine).2.1, live handle (K.run command engine).2.2) :=
  rfl

/-- Only a fatal result ends a worker. -/
theorem run_live_next {command : Command} {handle : Nat} {engine : K.Engine}
    {result : Except EngineError Datum} {log : List Log.Record} {next : Worker K}
    (ran : run command (live handle engine) = (result, log, next)) :
    (∃ reason, result = .error (.fatal reason)) ∨ ∃ after, next = live handle after := by
  rw [run_live] at ran
  split at ran
  · simp only [Prod.mk.injEq] at ran
    exact .inl ⟨_, ran.1.symm⟩
  · simp only [Prod.mk.injEq] at ran
    exact .inr ⟨_, ran.2.2.symm⟩

end Worker

namespace Dispatcher

open Dispatch

/-- What a caller is told of the result of its own command. -/
def reported (codec : Codec) : Except EngineError Datum → Except DispatchError (List UInt8)
  | .ok value => (codec.encode value).mapError .ofCodec
  | .error e => .error (.ofEngine e)

/-- The state after an attempt to make an engine: the handle is used up. -/
def attempted (plan : K.Plan) (d : Dispatcher K) : Dispatcher K :=
  { d with next := d.next + 1, plan := plan }

/-- The state after an engine was made. -/
def joined (worker : Worker K) (plan : K.Plan) (d : Dispatcher K) : Dispatcher K :=
  { d.attempted plan with
    engines := d.engines ++ [(d.next, worker)], created := d.next :: d.created }

/-- The state after the engine of a handle left the table and was dropped. -/
def dismissed (handle : Nat) (d : Dispatcher K) : Dispatcher K :=
  { d.remove handle with dropped := handle :: d.dropped }

/-- Making an engine. -/
def made (limits : EngineLimits) (d : Dispatcher K) :
    Except DispatchError (Worker K) × Dispatcher K :=
  match Worker.spawn d.next limits d.settings.workerStack d.plan with
  | (.error e, _, plan) => (.error (.ofEngine e), d.attempted plan)
  | (.ok worker, _, plan) => (.ok worker, d.joined worker plan)

/-- Finding the engine that an operation is for. -/
def resolved (handle : Option Nat) (d : Dispatcher K) :
    Except DispatchError (Worker K) × Dispatcher K :=
  match handle with
  | some handle =>
    match d.worker? handle with
    | some worker => (.ok worker, d)
    | none => (.error (notActive handle), d)
  | none =>
    if d.settings.defaultEngine then
      match d.default.bind d.worker? with
      | some worker => (.ok worker, d)
      | none =>
        match d.made d.limits with
        | (.ok worker, after) => (.ok worker, { after with default := some worker.handle })
        | failed => failed
    else (.error (.invalidHandle "operation requires an engine handle"), d)

def stopped : DispatchError := .engineFatal "engine worker stopped unexpectedly"

/-- Running a command on an engine of the table. -/
def carried (command : Command) (worker : Worker K) (d : Dispatcher K) :
    Except DispatchError (List UInt8) × Dispatcher K :=
  match worker.run command with
  | (.error (.fatal reason), _, _) => (.error (.engineFatal reason), d.dismissed worker.handle)
  | (.error .terminated, _, _) => (.error stopped, d.dismissed worker.handle)
  | (result, _, after) => (reported d.codec result, d.update after)

/-- What an operation asks for, if its name is known, its payload within the limit and
readable. -/
def admitted (codec : Codec) (op : Operation) : Except DispatchError Request :=
  match OperationName.ofWord? op.name with
  | none => .error (.unknownOperation op.name)
  | some name =>
    if codec.limit < op.payload.length then
      .error (.invalidArgument ("payload of " ++ toString op.payload.length ++
        " bytes exceeds limit of " ++ toString codec.limit))
    else (name.request op.payload).mapError .ofCodec

/-- Answering a request. -/
def answered (handle : Option Nat) (request : Request) (d : Dispatcher K) :
    Except DispatchError (List UInt8) × Dispatcher K :=
  match request with
  | .create options =>
    match d.made (d.limits.withOptions options) with
    | (.ok worker, after) =>
      (reported after.codec (.ok (.int (Int64.ofNat worker.handle))), after)
    | (.error e, after) => (.error e, after)
  | .dispose =>
    match handle with
    | none => (.error (.invalidArgument "disposeEngine requires a handle"), d)
    | some handle =>
      match d.worker? handle with
      | none => (.error (notActive handle), d)
      | some _ => (reported d.codec (.ok .undefined), d.dismissed handle)
  | .command command =>
    match d.resolved handle with
    | (.ok worker, after) => after.carried command worker
    | (.error e, after) => (.error e, after)

/-- The answer to an operation and the state it leaves. -/
def respond (op : Operation) (d : Dispatcher K) :
    Except DispatchError (List UInt8) × Dispatcher K :=
  match admitted d.codec op with
  | .ok request => d.answered op.handle request
  | .error e => (.error e, d)

theorem admitted_eq_ok_iff {codec : Codec} {op : Operation} {request : Request} :
    admitted codec op = .ok request ↔ ∃ name, OperationName.ofWord? op.name = some name ∧
      op.payload.length ≤ codec.limit ∧ name.request op.payload = .ok request := by
  unfold admitted
  cases OperationName.ofWord? op.name with
  | none => simp
  | some name =>
    by_cases large : codec.limit < op.payload.length
    · simp [large, Nat.not_le.mpr large]
    · have fits := Nat.not_lt.mp large
      rcases read : name.request op.payload with e | asked <;>
        simp [large, fits, read, Except.mapError]

theorem reported_fatal {codec : Codec} {result : Except EngineError Datum} {message : String}
    (said : reported codec result = .error (.engineFatal message)) :
    result = .error (.fatal message) := by
  rcases result with e | value
  · cases e <;> simp_all [reported, DispatchError.ofEngine]
  · rcases shape : codec.encode value with e | bytes
    · cases e <;> simp [reported, shape, Except.mapError, DispatchError.ofCodec] at said
    · simp [reported, shape, Except.mapError] at said

/-- What holds whenever no operation is in progress. -/
structure Consistent (d : Dispatcher K) : Prop where
  next_pos : 0 < d.next
  created_below : ∀ handle ∈ d.created, 0 < handle ∧ handle < d.next
  created_ordered : d.created.Pairwise (· > ·)
  active_created : ∀ handle ∈ d.activeHandles, handle ∈ d.created
  active_ordered : d.activeHandles.Pairwise (· < ·)
  live : ∀ entry ∈ d.engines, ∃ engine, entry.2 = .live entry.1 engine
  default_active : ∀ handle, d.default = some handle → handle ∈ d.activeHandles

variable {d : Dispatcher K}

theorem mem_of_worker? {handle : Nat} {worker : Worker K} (found : d.worker? handle = some worker) :
    (handle, worker) ∈ d.engines := by
  obtain ⟨before, after, shape, -⟩ := List.lookup_eq_some_iff.mp found
  rw [shape]
  simp

theorem worker?_live (consistent : d.Consistent) {handle : Nat} {worker : Worker K}
    (found : d.worker? handle = some worker) :
    (handle, worker) ∈ d.engines ∧ ∃ engine, worker = .live handle engine :=
  ⟨mem_of_worker? found, consistent.live _ (mem_of_worker? found)⟩

theorem worker?_isSome_iff (handle : Nat) :
    (d.worker? handle).isSome ↔ handle ∈ d.activeHandles := by
  simp only [worker?, activeHandles]
  induction d.engines with
  | nil => simp
  | cons entry rest ih =>
    obtain ⟨key, worker⟩ := entry
    by_cases same : handle = key
    · simp [List.lookup, same]
    · have differs : (handle == key) = false := by simpa using same
      simp [List.lookup, differs, ih, same]

theorem live_of_active (consistent : d.Consistent) {handle : Nat}
    (active : handle ∈ d.activeHandles) :
    ∃ engine, d.worker? handle = some (.live handle engine) := by
  obtain ⟨worker, held⟩ := Option.isSome_iff_exists.mp ((worker?_isSome_iff handle).mpr active)
  obtain ⟨-, engine, rfl⟩ := worker?_live consistent held
  exact ⟨engine, held⟩

theorem worker?_eq_none_iff (handle : Nat) :
    d.worker? handle = none ↔ handle ∉ d.activeHandles := by
  rw [← worker?_isSome_iff]
  simp

theorem Consistent.attempted (consistent : d.Consistent) (plan : K.Plan) :
    (d.attempted plan).Consistent where
  next_pos := Nat.succ_pos _
  created_below handle member := by
    have below := consistent.created_below handle member
    simp only [Dispatcher.attempted]
    omega
  created_ordered := consistent.created_ordered
  active_created := consistent.active_created
  active_ordered := consistent.active_ordered
  live := consistent.live
  default_active := consistent.default_active

theorem Consistent.active_below (consistent : d.Consistent) {handle : Nat}
    (active : handle ∈ d.activeHandles) : 0 < handle ∧ handle < d.next :=
  consistent.created_below handle (consistent.active_created handle active)

theorem activeHandles_joined (worker : Worker K) (plan : K.Plan) :
    (d.joined worker plan).activeHandles = d.activeHandles ++ [d.next] := by
  simp [activeHandles, joined]

theorem Consistent.joined (consistent : d.Consistent) (engine : K.Engine) (plan : K.Plan) :
    (d.joined (.live d.next engine) plan).Consistent where
  next_pos := Nat.succ_pos _
  created_below handle member := by
    have pos := consistent.next_pos
    simp only [Dispatcher.joined, Dispatcher.attempted, List.mem_cons] at member ⊢
    rcases member with rfl | member
    · omega
    · have below := consistent.created_below handle member
      omega
  created_ordered := by
    simp only [Dispatcher.joined, List.pairwise_cons]
    exact ⟨fun handle member => (consistent.created_below handle member).2,
      consistent.created_ordered⟩
  active_created handle active := by
    rw [activeHandles_joined, List.mem_append, List.mem_singleton] at active
    simp only [Dispatcher.joined, List.mem_cons]
    exact active.symm.imp_right (consistent.active_created handle)
  active_ordered := by
    rw [activeHandles_joined, List.pairwise_append]
    refine ⟨consistent.active_ordered, List.pairwise_singleton _ _, ?_⟩
    intro handle active later isNext
    rw [List.mem_singleton.mp isNext]
    exact (consistent.active_below active).2
  live entry member := by
    simp only [Dispatcher.joined, List.mem_append, List.mem_singleton] at member
    rcases member with member | rfl
    · exact consistent.live entry member
    · exact ⟨engine, rfl⟩
  default_active handle isDefault := by
    rw [activeHandles_joined, List.mem_append]
    exact .inl (consistent.default_active handle isDefault)

theorem activeHandles_remove (handle : Nat) :
    (d.remove handle).activeHandles = d.activeHandles.filter (· != handle) := by
  simp [activeHandles, remove, List.filter_map, Function.comp_def]

theorem not_active_dismissed (handle : Nat) : handle ∉ (d.dismissed handle).activeHandles := by
  intro active
  have kept : handle ∈ (d.remove handle).activeHandles := active
  simp [activeHandles_remove] at kept

theorem Consistent.dismissed (consistent : d.Consistent) (handle : Nat) :
    (d.dismissed handle).Consistent where
  next_pos := consistent.next_pos
  created_below := consistent.created_below
  created_ordered := consistent.created_ordered
  active_created other active := by
    have kept : other ∈ (d.remove handle).activeHandles := active
    rw [activeHandles_remove] at kept
    exact consistent.active_created other (List.mem_filter.mp kept).1
  active_ordered := by
    show ((d.remove handle).activeHandles).Pairwise (· < ·)
    rw [activeHandles_remove]
    exact consistent.active_ordered.filter _
  live entry member := consistent.live entry (List.mem_filter.mp member).1
  default_active other isDefault := by
    show other ∈ (d.remove handle).activeHandles
    rw [activeHandles_remove]
    simp only [Dispatcher.dismissed, remove] at isDefault
    split at isDefault
    · cases isDefault
    · rename_i differs
      have distinct : other ≠ handle := fun same => differs (same ▸ isDefault)
      exact List.mem_filter.mpr ⟨consistent.default_active other isDefault, by simpa using distinct⟩

theorem activeHandles_update (worker : Worker K) :
    (d.update worker).activeHandles = d.activeHandles := by
  simp only [activeHandles, update, List.map_map]
  apply List.map_congr_left
  intro entry member
  by_cases same : entry.1 = worker.handle <;> simp [same]

theorem Consistent.update (consistent : d.Consistent) (handle : Nat) (engine : K.Engine) :
    (d.update (.live handle engine)).Consistent where
  next_pos := consistent.next_pos
  created_below := consistent.created_below
  created_ordered := consistent.created_ordered
  active_created := by rw [activeHandles_update]; exact consistent.active_created
  active_ordered := by rw [activeHandles_update]; exact consistent.active_ordered
  live entry member := by
    simp only [Dispatcher.update, List.mem_map] at member
    obtain ⟨before, member, rfl⟩ := member
    split
    · exact ⟨engine, rfl⟩
    · exact consistent.live before member
  default_active := by rw [activeHandles_update]; exact consistent.default_active

theorem consistent_unlogged : d.unlogged.Consistent ↔ d.Consistent :=
  ⟨fun c => ⟨c.1, c.2, c.3, c.4, c.5, c.6, c.7⟩, fun c => ⟨c.1, c.2, c.3, c.4, c.5, c.6, c.7⟩⟩

theorem exec_note (level : Log.Level) (message : String) (values : List (String × String)) :
    exec (note level message values) d =
      (.ok ⟨⟩, d.record [⟨level, logTarget, message, values⟩]) := rfl

theorem exec_liftCodec (result : Except CodecError α) :
    exec (liftCodec result) d = (result.mapError .ofCodec, d) := by
  cases result <;> rfl

theorem worker?_joined (consistent : d.Consistent) (worker : Worker K) (plan : K.Plan) :
    (d.joined worker plan).worker? d.next = some worker := by
  have absent : d.engines.lookup d.next = none := by
    apply worker?_eq_none_iff (d := d) d.next |>.mpr
    intro active
    exact absurd (consistent.active_below active).2 (Nat.lt_irrefl _)
  simp [worker?, joined, List.lookup_append, absent]

theorem made_cases (limits : EngineLimits) (d : Dispatcher K) :
    (∃ e plan, d.made limits = (.error e, d.attempted plan)) ∨
    (∃ engine plan, d.made limits =
      (.ok (.live d.next engine), d.joined (.live d.next engine) plan)) := by
  unfold made
  rcases spawned : Worker.spawn d.next limits d.settings.workerStack d.plan with
    ⟨e | worker, log, plan⟩
  · exact .inl ⟨.ofEngine e, plan, rfl⟩
  · obtain ⟨engine, rfl⟩ := Worker.spawn_live spawned
    exact .inr ⟨engine, plan, rfl⟩

theorem worker?_made (consistent : d.Consistent) {limits : EngineLimits} {worker : Worker K}
    {after : Dispatcher K} (ran : d.made limits = (.ok worker, after)) :
    after.worker? worker.handle = some worker := by
  obtain ⟨e, plan, failed⟩ | ⟨engine, plan, made⟩ := made_cases limits d
  · simp [failed] at ran
  · rw [made] at ran
    cases ran
    exact worker?_joined consistent _ plan

theorem effect_spawn (limits : EngineLimits) :
    effect (spawn limits) d = match d.unlogged.made limits with
      | (.ok worker, after) => (.ok worker.handle, after)
      | (.error e, after) => (.error e, after) := by
  unfold spawn effect made
  simp only [exec_bind, exec_get, exec_set, unlogged_next, unlogged_settings, unlogged_plan]
  rcases spawned : Worker.spawn d.next limits d.settings.workerStack d.plan with
    ⟨_ | worker, log, plan⟩
  · rfl
  · obtain ⟨engine, rfl⟩ := Worker.spawn_live spawned
    rfl

theorem exec_spawn_ok {limits : EngineLimits} {handle : Nat} {after : Dispatcher K}
    (ran : exec (spawn limits) d = (.ok handle, after)) :
    ∃ worker, d.unlogged.made limits = (.ok worker, after.unlogged) ∧ worker.handle = handle := by
  have spawned := effect_spawn (d := d) limits
  rw [effect_of_exec ran] at spawned
  rcases made : d.unlogged.made limits with ⟨_ | worker, next⟩
  · simp [made] at spawned
  · simp only [made, Prod.mk.injEq, Except.ok.injEq] at spawned
    exact ⟨worker, by rw [spawned.2], spawned.1.symm⟩

theorem exec_spawn_error {limits : EngineLimits} {e : DispatchError} {after : Dispatcher K}
    (ran : exec (spawn limits) d = (.error e, after)) :
    d.unlogged.made limits = (.error e, after.unlogged) := by
  have spawned := effect_spawn (d := d) limits
  rw [effect_of_exec ran] at spawned
  rcases made : d.unlogged.made limits with ⟨_ | worker, next⟩
  · simp only [made, Prod.mk.injEq, Except.error.injEq] at spawned
    rw [spawned.1, spawned.2]
  · simp [made] at spawned

theorem effect_resolve (consistent : d.Consistent) (handle : Option Nat) :
    effect (resolve handle) d = d.unlogged.resolved handle := by
  unfold resolve effect resolved
  simp only [exec_bind, exec_get]
  cases handle with
  | some handle =>
    simp only [unlogged_worker?]
    cases d.worker? handle <;> rfl
  | none =>
    have lookup : d.unlogged.worker? = d.worker? := rfl
    simp only [unlogged_settings, unlogged_default, unlogged_limits, lookup]
    by_cases allowed : d.settings.defaultEngine
    · simp only [allowed, Bool.not_true, Bool.false_eq_true, ↓reduceIte]
      rcases d.default.bind d.worker? with _ | worker
      · rcases ran : exec (spawn d.limits) d with ⟨e | handle, after⟩
        · simp only [exec_spawn_error ran, exec_bind, ran]
        · obtain ⟨worker, made, rfl⟩ := exec_spawn_ok ran
          have present : after.unlogged.worker? worker.handle = some worker :=
            worker?_made (consistent_unlogged.mpr consistent) made
          have named : ({ after with default := some worker.handle } : Dispatcher K).worker?
              worker.handle = some worker := present
          simp only [made, exec_bind, ran, exec_modify, exec_get, named]
          rfl
      · rfl
    · simp only [allowed, Bool.not_false, ↓reduceIte]
      rfl

/-- Taking over the role of the default engine. -/
theorem Consistent.withDefault (consistent : d.Consistent) {handle : Nat}
    (active : handle ∈ d.activeHandles) : ({ d with default := some handle }).Consistent where
  next_pos := consistent.next_pos
  created_below := consistent.created_below
  created_ordered := consistent.created_ordered
  active_created := consistent.active_created
  active_ordered := consistent.active_ordered
  live := consistent.live
  default_active other isDefault := by
    cases isDefault
    exact active

/-- The four ways of finding an engine: there is none, there is one in the table, or one
had to be made as the default engine and was or was not. -/
theorem resolved_cases (consistent : d.Consistent) (handle : Option Nat) :
    (∃ e, d.resolved handle = (.error e, d)) ∨
    (∃ key engine, (key, .live key engine) ∈ d.engines ∧
      d.resolved handle = (.ok (.live key engine), d)) ∨
    (∃ e plan, handle = none ∧ d.resolved handle = (.error e, d.attempted plan)) ∨
    (∃ engine plan, handle = none ∧ d.resolved handle = (.ok (.live d.next engine),
      { d.joined (.live d.next engine) plan with default := some d.next })) := by
  have known {key : Nat} {worker : Worker K} (found : d.worker? key = some worker) :
      ∃ key engine, (key, .live key engine) ∈ d.engines ∧ worker = .live key engine := by
    obtain ⟨member, engine, rfl⟩ := worker?_live consistent found
    exact ⟨key, engine, member, rfl⟩
  unfold resolved
  cases handle with
  | some handle =>
    cases found : d.worker? handle with
    | none => exact .inl ⟨notActive handle, by simp only [found]⟩
    | some worker =>
      obtain ⟨key, engine, member, rfl⟩ := known found
      exact .inr (.inl ⟨key, engine, member, by simp only [found]⟩)
  | none =>
    by_cases allowed : d.settings.defaultEngine
    · simp only [allowed, ↓reduceIte]
      cases found : d.default.bind d.worker? with
      | some worker =>
        obtain ⟨_, -, held⟩ := Option.bind_eq_some_iff.mp found
        obtain ⟨key, engine, member, rfl⟩ := known held
        exact .inr (.inl ⟨key, engine, member, rfl⟩)
      | none =>
        obtain ⟨e, plan, failed⟩ | ⟨engine, plan, made⟩ := made_cases d.limits d
        · refine .inr (.inr (.inl ⟨e, plan, trivial, ?_⟩))
          simp only [failed]
        · refine .inr (.inr (.inr ⟨engine, plan, trivial, ?_⟩))
          simp only [made]
          rfl
    · exact .inl ⟨.invalidHandle "operation requires an engine handle", by simp [allowed]⟩

theorem resolved_live (consistent : d.Consistent) {handle : Option Nat} {worker : Worker K}
    {after : Dispatcher K} (ran : d.resolved handle = (.ok worker, after)) :
    ∃ key engine, worker = .live key engine := by
  obtain ⟨e, shape⟩ | ⟨key, engine, -, shape⟩ | ⟨e, plan, -, shape⟩ | ⟨engine, plan, -, shape⟩ :=
    resolved_cases consistent handle <;> rw [shape] at ran <;> cases ran
  · exact ⟨key, engine, rfl⟩
  · exact ⟨d.next, engine, rfl⟩

theorem remove_update (worker : Worker K) :
    (d.update worker).remove worker.handle = d.remove worker.handle := by
  have same : (d.update worker).engines.filter (fun entry => entry.1 != worker.handle) =
      d.engines.filter (fun entry => entry.1 != worker.handle) := by
    simp only [update]
    induction d.engines with
    | nil => rfl
    | cons entry rest ih =>
      by_cases own : entry.1 = worker.handle <;> simp [own, ih]
  simp only [remove, same]
  rfl

theorem dismissed_update (worker : Worker K) :
    (d.update worker).dismissed worker.handle = d.dismissed worker.handle := by
  simp only [dismissed, remove_update]
  rfl

theorem exec_retire (handle : Nat) (engine : K.Engine) :
    exec (retire (.live handle engine)) d =
      (.ok ⟨⟩, (d.dismissed handle).record (Worker.farewell handle engine)) := rfl

theorem effect_runCommand (consistent : d.Consistent) (op : Operation) (command : Command) :
    effect (runCommand op command) d = match d.unlogged.resolved op.handle with
      | (.ok worker, after) => after.carried command worker
      | (.error e, after) => (.error e, after) := by
  unfold runCommand
  rw [effect_bind fun worker after => after.carried command worker]
  · rw [effect_resolve consistent]
    rcases d.unlogged.resolved op.handle with ⟨_ | _, _⟩ <;> rfl
  · intro worker after resolved
    rw [effect_resolve consistent] at resolved
    obtain ⟨handle, engine, rfl⟩ := resolved_live (consistent_unlogged.mpr consistent) resolved
    unfold effect carried
    rcases ran : Worker.run command (.live handle engine) with ⟨result, log, next⟩
    rcases result with (thrown | reason | reason | _) | value
    · rfl
    · rfl
    · rfl
    · obtain ⟨reason, fatal⟩ | ⟨final, rfl⟩ := Worker.run_live_next ran
      · cases fatal
      · simp only [Bool.not_false, ↓reduceIte, exec_bind, exec_modify, exec_retire]
        simp only [Worker.live, exec_note, exec_throw, exec_bind, Bool.false_eq_true, ↓reduceIte,
          stopped, Prod.mk.injEq, true_and]
        exact dismissed_update (d := after.unlogged) (.live handle final)
    · simp only [Bool.not_false, ↓reduceIte, exec_bind, exec_modify, exec_get, exec_liftCodec]
      rfl

theorem effect_answered (consistent : d.Consistent) (name : OperationName) (op : Operation) :
    effect (perform name op) d = match (name.request op.payload).mapError .ofCodec with
      | .ok request => d.unlogged.answered op.handle request
      | .error e => (.error e, d.unlogged) := by
  unfold perform
  rcases name.request op.payload with e | request
  · rfl
  · cases request with
    | create options =>
      unfold effect answered
      simp only [exec_bind, exec_liftCodec, Except.mapError, exec_get, unlogged_limits]
      rcases ran : exec (spawn (d.limits.withOptions options)) d with ⟨e | handle, after⟩
      · simp only [exec_spawn_error ran]
      · obtain ⟨worker, made, rfl⟩ := exec_spawn_ok ran
        simp only [made]
        rfl
    | dispose =>
      unfold effect answered
      simp only [exec_bind, exec_liftCodec, Except.mapError]
      cases op.handle with
      | none => rfl
      | some handle =>
        simp only [exec_bind, exec_get, unlogged_worker?]
        cases found : d.worker? handle with
        | none => rfl
        | some worker =>
          obtain ⟨-, engine, rfl⟩ := worker?_live consistent found
          simp only [exec_bind, exec_retire, exec_note, exec_get, exec_liftCodec]
          rfl
    | command command =>
      have ran := effect_runCommand consistent op command
      unfold effect at ran ⊢
      simp only [exec_bind, exec_liftCodec, Except.mapError]
      exact ran

/-- The answer to any operation and the state it leaves. -/
theorem effect_dispatch (consistent : d.Consistent) (op : Operation) :
    effect (dispatch op) d = d.unlogged.respond op := by
  unfold dispatch effect respond admitted
  cases OperationName.ofWord? op.name with
  | none => rfl
  | some name =>
    simp only [exec_bind, exec_get, unlogged_codec]
    by_cases large : d.codec.limit < op.payload.length
    · simp only [large, ↓reduceIte]
      rfl
    · simp only [large, ↓reduceIte, exec_bind, exec_note, exec_tryCatch]
      generalize noted : d.record _ = started
      have same : started.unlogged = d.unlogged := by rw [← noted, unlogged_record]
      have answered := effect_answered (d := started)
        (consistent_unlogged.mp (same ▸ consistent_unlogged.mpr consistent)) name op
      rw [same] at answered
      refine Eq.trans ?_ answered
      rcases ran : exec (perform name op) started with ⟨e | bytes, after⟩
      · rw [effect_of_exec ran]
        rfl
      · rw [effect_of_exec ran]

end Dispatcher

end ScriptHost
