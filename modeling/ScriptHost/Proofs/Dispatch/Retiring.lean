import ScriptHost.Engine.Scripted
import ScriptHost.Proofs.Dispatch.Changes
import ScriptHost.Proofs.Worker.Step

/-! A command costs an engine its place in the table if and only if the caller is told of a fatal
error. The engine is dropped then, and is no longer the default one. After any other answer the
same engine stands under the same handle, in the state that the command left; and whatever the
answer, the engines of all other handles stay as they were. So what every new engine has and no command
takes away, every engine of a table has, at every time. -/

namespace ScriptHost

variable {K : EngineKind}

namespace Dispatcher

open Dispatch Worker

variable {d : Dispatcher K}

theorem worker?_dismissed (handle key : Nat) :
    (d.dismissed handle).worker? key = if key = handle then none else d.worker? key := by
  show List.lookup key (d.engines.filter fun entry => entry.1 != handle) = _
  unfold worker?
  induction d.engines with
  | nil => simp
  | cons entry rest ih =>
    obtain ⟨other, worker⟩ := entry
    by_cases gone : other = handle
    · subst gone
      by_cases own : key = other
      · simpa [own] using ih
      · simpa [List.lookup, own, beq_false_of_ne own] using ih
    · by_cases own : key = other
      · simp [List.lookup, own, gone]
      · simpa [List.lookup, gone, beq_false_of_ne own] using ih

theorem worker?_update (worker : Worker K) (key : Nat) :
    (d.update worker).worker? key =
      if key = worker.handle then (d.worker? key).map fun _ => worker else d.worker? key := by
  unfold worker? update
  induction d.engines with
  | nil => simp
  | cons entry rest ih =>
    obtain ⟨other, held⟩ := entry
    by_cases own : key = other
    · by_cases same : other = worker.handle <;> simp [List.lookup, own, same]
    · by_cases same : other = worker.handle
      · subst same
        simpa [List.lookup, beq_false_of_ne own] using ih
      · simpa [List.lookup, beq_false_of_ne own, same] using ih

/-- What becomes of a command on a live engine: the engine is given up after a fatal result, or one
that says it is gone; otherwise it stays in its new state. -/
theorem carried_live (command : Command) (handle : Nat) (engine : K.Engine) (d : Dispatcher K) :
    d.carried command (.live handle engine) = match resultOf command engine with
      | .error (.fatal reason) => (.error (.engineFatal reason), d.dismissed handle)
      | .error .terminated => (.error stopped, d.dismissed handle)
      | result =>
        (reported d.codec result, d.update (.live handle (engineAfter command engine))) := by
  unfold carried resultOf engineAfter
  rw [run_live]
  rcases (K.run command engine).1.caught "engine" with (_ | _ | _ | _) | _ <;> rfl

/-- The engine that an operation is for, `found` being the state once it was found: the one that is
named, or the default one, which may have been made for the operation. -/
structure Finds (d : Dispatcher K) (named : Option Nat) (handle : Nat) (engine : K.Engine)
    (found : Dispatcher K) : Prop where
  chosen : named = some handle ∧ found.unlogged = d.unlogged ∨
    named = none ∧ found.default = some handle
  active : found.worker? handle = some (.live handle engine)
  others : ∀ other, other ≠ handle → found.worker? other = d.worker? other
  created : found.created = d.created ∨
    handle ∉ d.activeHandles ∧ found.created = handle :: d.created
  dropped : found.dropped = d.dropped

theorem worker?_joined_other (worker : Worker K) (plan : K.Plan) {other : Nat}
    (differs : other ≠ d.next) : (d.joined worker plan).worker? other = d.worker? other := by
  simp [worker?, joined, List.lookup_append, List.lookup, beq_false_of_ne differs]

theorem resolved_finds (consistent : d.Consistent) {named : Option Nat} {worker : Worker K}
    {found : Dispatcher K} (ran : d.resolved named = (.ok worker, found)) :
    ∃ engine, worker = .live worker.handle engine ∧
      d.Finds named worker.handle engine found := by
  cases named with
  | some key =>
    cases held : d.worker? key with
    | none => simp [resolved, held] at ran
    | some known =>
      obtain ⟨rfl, rfl⟩ : known = worker ∧ d = found := by simpa [resolved, held] using ran
      obtain ⟨-, engine, rfl⟩ := worker?_live consistent held
      exact ⟨engine, rfl, .inl ⟨rfl, rfl⟩, held, fun _ _ => rfl, .inl rfl, rfl⟩
  | none =>
    have allowed : d.settings.defaultEngine = true := by
      by_contra forbidden
      simp [resolved, forbidden] at ran
    simp only [resolved, allowed, ↓reduceIte] at ran
    cases held : d.default.bind d.worker? with
    | some known =>
      obtain ⟨key, isDefault, held'⟩ := Option.bind_eq_some_iff.mp held
      obtain ⟨rfl, rfl⟩ : known = worker ∧ d = found := by simpa [held] using ran
      obtain ⟨-, engine, rfl⟩ := worker?_live consistent held'
      exact ⟨engine, rfl, .inr ⟨rfl, isDefault⟩, held', fun _ _ => rfl, .inl rfl, rfl⟩
    | none =>
      obtain ⟨e, plan, shape⟩ | ⟨engine, plan, shape⟩ := made_cases d.limits d
      · simp [held, shape] at ran
      · simp only [held, shape, Prod.mk.injEq, Except.ok.injEq] at ran
        obtain ⟨rfl, rfl⟩ := ran
        have fresh : d.next ∉ d.activeHandles :=
          fun active => absurd (consistent.active_below active).2 (Nat.lt_irrefl _)
        exact ⟨engine, rfl, .inr ⟨rfl, rfl⟩, worker?_joined consistent _ plan,
          fun other differs => worker?_joined_other _ plan differs, .inr ⟨fresh, rfl⟩, rfl⟩

/-- What is left of an engine and of the others once a command was carried out on it. -/
structure Aftermath (d found : Dispatcher K) (handle : Nat) (engine : K.Engine) (command : Command)
    (answer : Except DispatchError (List UInt8)) (after : Dispatcher K) : Prop where
  inactive_iff : handle ∉ after.activeHandles ↔ ∃ reason, answer = .error (.engineFatal reason)
  retired : ∀ reason, answer = .error (.engineFatal reason) →
    after.dropped = handle :: d.dropped ∧ after.default ≠ some handle
  running : (∀ reason, answer ≠ .error (.engineFatal reason)) →
    after.worker? handle = some (.live handle (engineAfter command engine)) ∧
      after.dropped = d.dropped ∧ after.default = found.default
  others : ∀ other, other ≠ handle → after.worker? other = d.worker? other
  created : after.created = found.created

theorem Finds.dismissed {named : Option Nat} {handle : Nat} {engine : K.Engine}
    {found : Dispatcher K} (finds : d.Finds named handle engine found) (command : Command)
    (reason : String) : Aftermath d found handle engine command (.error (.engineFatal reason))
      (found.dismissed handle) where
  inactive_iff := iff_of_true (not_active_dismissed handle) ⟨reason, rfl⟩
  retired _ _ := by
    refine ⟨congrArg _ finds.dropped, ?_⟩
    show (if found.default = some handle then none else found.default) ≠ some handle
    split
    · simp
    · assumption
  running other := absurd rfl (other reason)
  others other differs := by
    rw [worker?_dismissed, if_neg differs, finds.others other differs]
  created := rfl

theorem Finds.updated {named : Option Nat} {handle : Nat} {engine : K.Engine}
    {found : Dispatcher K} (finds : d.Finds named handle engine found) {command : Command}
    {answer : Except DispatchError (List UInt8)}
    (harmless : ∀ reason, answer ≠ .error (.engineFatal reason)) :
    Aftermath d found handle engine command answer
      (found.update (.live handle (engineAfter command engine))) where
  inactive_iff := by
    refine iff_of_false (not_not_intro ?_) fun ⟨reason, fatal⟩ => harmless reason fatal
    rw [activeHandles_update, ← worker?_isSome_iff, finds.active]
    rfl
  retired reason fatal := absurd fatal (harmless reason)
  running _ := by
    refine ⟨?_, finds.dropped, rfl⟩
    rw [worker?_update, finds.active]
    exact if_pos rfl
  others other differs := by
    rw [worker?_update, finds.others other differs]
    exact if_neg differs
  created := rfl

theorem Finds.carried {named : Option Nat} {handle : Nat} {engine : K.Engine}
    {found : Dispatcher K} (finds : d.Finds named handle engine found) (command : Command) :
    Aftermath d found handle engine command (found.carried command (.live handle engine)).1
      (found.carried command (.live handle engine)).2 := by
  rw [carried_live]
  split
  · exact finds.dismissed command _
  · exact finds.dismissed command _
  · rename_i notFatal _
    exact finds.updated fun reason said => notFatal reason (reported_fatal said)

theorem respond_command {op : Operation} {command : Command} {worker : Worker K}
    {found : Dispatcher K} (asked : admitted d.codec op = .ok (.command command))
    (resolves : d.resolved op.handle = (.ok worker, found)) :
    d.respond op = found.carried command worker := by
  simp only [respond, asked, answered, resolves]

/-- A command operation that finds an engine makes its handle inactive if and only if it is answered
with a fatal error; then the engine is dropped and not the default one. Otherwise the engine goes
on under its handle in the state the command left it in. No other engine is touched. -/
theorem command_retires_iff_fatal (reachable : d.Reachable) {op : Operation} {command : Command}
    {worker : Worker K} {found : Dispatcher K}
    (asked : admitted d.codec op = .ok (.command command))
    (resolves : (resolve op.handle).run d = (.ok worker, found)) :
    ∃ engine, worker = .live worker.handle engine ∧
      d.Finds op.handle worker.handle engine found ∧
      Aftermath d found worker.handle engine command
        ((dispatch op).run d).1 ((dispatch op).run d).2 := by
  have consistent := reachable.consistent
  have resolved : d.unlogged.resolved op.handle = (.ok worker, found.unlogged) := by
    rw [← effect_resolve consistent, effect_of_exec resolves]
  obtain ⟨engine, live, finds⟩ := resolved_finds (consistent_unlogged.mpr consistent) resolved
  have responded := respond_command (d := d.unlogged) asked resolved
  rw [← effect_dispatch consistent op, live] at responded
  have aftermath := finds.carried command
  rw [← responded] at aftermath
  -- Nothing that is said of the states looks at their logs.
  obtain ⟨inactive, retired, running, others, created⟩ := aftermath
  obtain ⟨chosen, active, same, given, dropped⟩ := finds
  exact ⟨engine, live, ⟨chosen, active, same, given, dropped⟩,
    ⟨inactive, retired, running, others, created⟩⟩

/-- A default engine that is made for a command and does not survive it. -/
theorem command_retires_iff_fatal_default : ∃ worker found,
    (resolve none).run (ofSettings {} () : Dispatcher (ScriptedEngine.kind false)) =
      (.ok worker, found) ∧
    worker.handle ∉ ((dispatch { name := "evalScript", payload := Utf8.encode "fatal" }).run
      (ofSettings {} () : Dispatcher (ScriptedEngine.kind false))).2.activeHandles := by
  refine ⟨_, _, rfl, ?_⟩
  have reachable : (ofSettings {} () : Dispatcher (ScriptedEngine.kind false)).Reachable :=
    ⟨{}, (), [], rfl⟩
  have asked : admitted (ofSettings {} () : Dispatcher (ScriptedEngine.kind false)).codec
      { name := "evalScript", payload := Utf8.encode "fatal" } =
        .ok (.command (.eval ⟨"fatal", none, false, none⟩)) := by rfl
  obtain ⟨engine, live, finds, aftermath⟩ := command_retires_iff_fatal reachable asked rfl
  exact aftermath.inactive_iff.mpr ⟨"scripted fatal", by rfl⟩

end Dispatcher

end ScriptHost

/-! ### What all engines of a table have -/

namespace ScriptHost

variable {K : EngineKind}

/-- Do new engines have it, and do engines keep it whatever they are asked? -/
structure EngineKind.Keeps (K : EngineKind) (P : K.Engine → Prop) : Prop where
  created : ∀ {handle limits plan engine},
    (K.create handle limits plan).1 = .value engine → P engine
  kept : ∀ {engine} command, P engine → P (Worker.engineAfter command engine)

namespace Dispatcher

open Dispatch Worker

variable {P : K.Engine → Prop} {d : Dispatcher K}

/-- Do all engines of the table have it? -/
def All (P : K.Engine → Prop) (d : Dispatcher K) : Prop :=
  ∀ handle engine, (handle, .live handle engine) ∈ d.engines → P engine

theorem All.dismissed (all : d.All P) (handle : Nat) : (d.dismissed handle).All P :=
  fun key engine member => all key engine (List.mem_filter.mp member).1

theorem All.update (all : d.All P) (handle : Nat) {engine : K.Engine} (own : P engine) :
    (d.update (.live handle engine)).All P := by
  intro key other member
  obtain ⟨entry, before, same⟩ := List.mem_map.mp member
  split at same
  · cases same
    exact own
  · exact all key other (same ▸ before)

theorem All.joined (all : d.All P) {engine : K.Engine} (own : P engine) (plan : K.Plan) :
    (d.joined (.live d.next engine) plan).All P := by
  intro key other member
  rcases List.mem_append.mp member with before | new
  · exact all key other before
  · cases List.mem_singleton.mp new
    exact own

theorem All.made (keeps : K.Keeps P) (all : d.All P) (limits : EngineLimits) :
    (d.made limits).2.All P := by
  unfold Dispatcher.made
  rcases spawned : Worker.spawn d.next limits d.settings.workerStack d.plan with
    ⟨e | worker, log, plan⟩
  · exact all
  · obtain ⟨engine, rfl, created⟩ := spawn_created spawned
    exact all.joined (keeps.created created) plan

theorem All.resolved (keeps : K.Keeps P) (all : d.All P) (handle : Option Nat) :
    (d.resolved handle).2.All P := by
  have made := all.made keeps d.limits
  unfold Dispatcher.resolved
  cases handle with
  | some handle => cases found : d.worker? handle <;> simpa only [found] using all
  | none =>
    by_cases allowed : d.settings.defaultEngine
    · simp only [allowed, ↓reduceIte]
      cases d.default.bind d.worker? with
      | some worker => exact all
      | none =>
        rcases shape : d.made d.limits with ⟨_ | worker, after⟩ <;>
          rw [shape] at made <;>
          exact made
    · simpa only [allowed, Bool.false_eq_true, ↓reduceIte] using all

theorem All.carried (keeps : K.Keeps P) (all : d.All P) (command : Command) {handle : Nat}
    {engine : K.Engine} (own : P engine) : (d.carried command (.live handle engine)).2.All P := by
  rw [carried_live]
  split
  · exact all.dismissed handle
  · exact all.dismissed handle
  · exact all.update handle (keeps.kept command own)

theorem All.answered (keeps : K.Keeps P) (consistent : d.Consistent) (all : d.All P)
    (handle : Option Nat) (request : Request) : (d.answered handle request).2.All P := by
  unfold Dispatcher.answered
  cases request with
  | create options =>
    have made := all.made keeps (d.limits.withOptions options)
    rcases shape : d.made (d.limits.withOptions options) with ⟨_ | worker, after⟩ <;>
      simpa only [shape] using made
  | dispose =>
    cases handle with
    | none => exact all
    | some handle =>
      cases found : d.worker? handle with
      | none => simpa only [found] using all
      | some worker => simpa only [found] using all.dismissed handle
  | command command =>
    have found := all.resolved keeps handle
    rcases shape : d.resolved handle with ⟨_ | worker, after⟩
    · simpa only [shape] using found
    · obtain ⟨engine, live, finds⟩ := resolved_finds consistent shape
      rw [shape] at found
      have own : P engine := found worker.handle engine (mem_of_worker? finds.active)
      have carried : (after.carried command (.live worker.handle engine)).2.All P :=
        found.carried keeps command own
      rw [← live] at carried
      simpa only [shape] using carried

theorem All.dispatch (keeps : K.Keeps P) (consistent : d.Consistent) (all : d.All P)
    (op : Operation) : (exec (dispatch op) d).2.All P := by
  have answered : (d.unlogged.respond op).2.All P := by
    unfold respond
    cases admitted d.unlogged.codec op with
    | error e => exact all
    | ok request => exact all.answered keeps (consistent_unlogged.mpr consistent) op.handle request
  rw [← effect_dispatch consistent op] at answered
  exact answered

theorem All.after (keeps : K.Keeps P) (consistent : d.Consistent) (all : d.All P)
    (ops : List Operation) : (d.after ops).All P := by
  induction ops generalizing d with
  | nil => exact all
  | cons op rest ih =>
    exact ih (dispatch_consistent consistent op) (all.dispatch keeps consistent op)

theorem Reachable.all (keeps : K.Keeps P) (reachable : d.Reachable) : d.All P := by
  obtain ⟨settings, plan, ops, rfl⟩ := reachable
  exact All.after keeps (ofSettings_consistent settings plan) (fun _ _ member => nomatch member) ops

end Dispatcher

end ScriptHost
