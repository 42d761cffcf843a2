import ScriptHost.Proofs.Dispatch.Handles
import ScriptHost.Proofs.Dispatch.Retiring

/-! Operations that carry different handles do not see one another. What is answered to an operation
with a handle, and what becomes of the engine under it, is decided by that engine alone; and what
is done to the engines of two handles can be done in either order. So two such operations commute,
and in any run of them the answers on one handle are those that its own operations get when nothing
else is done. -/

namespace ScriptHost

variable {K : EngineKind}

namespace Dispatcher

open Dispatch Worker
open scoped List

variable {d : Dispatcher K} {op : Operation} {handle : Nat}

/-- What an operation makes of the engine that it is for. -/
inductive Mark (K : EngineKind) where
  | leaves
  | ends
  | moves (engine : K.Engine)

/-- The state once that is done to the engine of a handle. -/
def marked (handle : Nat) (mark : Mark K) (d : Dispatcher K) : Dispatcher K :=
  match mark with
  | .leaves => d
  | .ends => d.dismissed handle
  | .moves engine => d.update (.live handle engine)

@[simp] theorem settings_marked (mark : Mark K) :
    (d.marked handle mark).settings = d.settings := by
  cases mark <;> rfl

/-- Only the engine of the handle is touched. -/
theorem worker?_marked (mark : Mark K) (key : Nat) : (d.marked handle mark).worker? key =
    if key = handle then match mark with
      | .leaves => d.worker? key
      | .ends => none
      | .moves engine => (d.worker? key).map fun _ => .live handle engine
    else d.worker? key := by
  cases mark with
  | leaves => simp [marked]
  | ends => exact worker?_dismissed handle key
  | moves engine => exact worker?_update (.live handle engine) key

theorem codec_eq {d' : Dispatcher K} (same : d'.settings = d.settings) : d'.codec = d.codec :=
  congrArg (fun s : DispatcherSettings => Codec.mk s.maxPayload.toNat) same

/-- What a command makes of its engine does not depend on the other engines. -/
theorem carried_local (codec : Codec) (command : Command) (handle : Nat) (engine : K.Engine) :
    ∃ answer mark, ∀ d : Dispatcher K, d.codec = codec →
      d.carried command (.live handle engine) = (answer, d.marked handle mark) := by
  rcases result : resultOf command engine with (thrown | reason | reason | _) | value
  case error.fatal =>
    refine ⟨.error (.engineFatal reason), .ends, fun d _ => ?_⟩
    rw [carried_live, result]
    rfl
  case error.terminated =>
    refine ⟨.error stopped, .ends, fun d _ => ?_⟩
    rw [carried_live, result]
    rfl
  all_goals
    refine ⟨reported codec (resultOf command engine), .moves (engineAfter command engine), ?_⟩
    rintro d rfl
    rw [carried_live, result]
    rfl

theorem answered_local (consistent : d.Consistent) (handle : Nat) {request : Request}
    (other : ∀ options, request ≠ .create options) :
    ∃ answer mark, ∀ d' : Dispatcher K, d'.codec = d.codec →
      d'.worker? handle = d.worker? handle →
      d'.answered (some handle) request = (answer, d'.marked handle mark) := by
  cases held : d.worker? handle with
  | none =>
    refine ⟨.error (notActive handle), .leaves, fun d' _ held' => ?_⟩
    cases request with
    | create options => exact absurd rfl (other options)
    | dispose => simp [answered, held', marked]
    | command command => simp [answered, resolved, held', marked]
  | some worker =>
    obtain ⟨-, engine, rfl⟩ := worker?_live consistent held
    cases request with
    | create options => exact absurd rfl (other options)
    | dispose =>
      refine ⟨reported d.codec (.ok .undefined), .ends, fun d' same held' => ?_⟩
      simp [answered, held', same, marked]
    | command command =>
      obtain ⟨answer, mark, carried⟩ := carried_local d.codec command handle engine
      refine ⟨answer, mark, fun d' same held' => ?_⟩
      simp [answered, resolved, held', carried d' same]

theorem respond_local (consistent : d.Consistent) (named : op.handle = some handle)
    (other : op.name ≠ OperationName.createEngine.word) :
    ∃ answer mark, ∀ d' : Dispatcher K, d'.settings = d.settings →
      d'.worker? handle = d.worker? handle → d'.respond op = (answer, d'.marked handle mark) := by
  cases asked : admitted d.codec op with
  | error e =>
    refine ⟨.error e, .leaves, fun d' same _ => ?_⟩
    simp [respond, codec_eq same, asked, marked]
  | ok request =>
    have plain (options : EngineOptions) : request ≠ .create options := by
      rintro rfl
      exact other (admitted_create asked)
    obtain ⟨answer, mark, does⟩ := answered_local consistent handle plain
    refine ⟨answer, mark, fun d' same held => ?_⟩
    simp only [respond, codec_eq same, asked, named]
    exact does d' (codec_eq same) held

/-! ### Two operations -/

/-- The same engines in the same states, the same default engine and the same counter for handles. Only
the order in which engines were dropped may differ. -/
structure Alike (one other : Dispatcher K) : Prop where
  engines : one.engines = other.engines
  default : one.default = other.default
  next : one.next = other.next
  created : one.created = other.created
  dropped : one.dropped ~ other.dropped
  settings : one.settings = other.settings ∧ one.limits = other.limits
  plan : one.plan = other.plan

theorem Alike.of_eq {one other : Dispatcher K} (same : one = other) : Alike one other :=
  same ▸ ⟨rfl, rfl, rfl, rfl, .refl _, ⟨rfl, rfl⟩, rfl⟩

theorem Alike.of_unlogged {one other : Dispatcher K} (alike : Alike one.unlogged other.unlogged) :
    Alike one other :=
  ⟨alike.engines, alike.default, alike.next, alike.created, alike.dropped, alike.settings,
    alike.plan⟩

theorem dismissed_update_comm (worker : Worker K) (handle : Nat) :
    (d.update worker).dismissed handle = (d.dismissed handle).update worker := by
  have engines : ((d.update worker).dismissed handle).engines =
      ((d.dismissed handle).update worker).engines := by
    show (d.engines.map _).filter _ = (d.engines.filter _).map _
    rw [List.filter_map]
    congr 1
    refine List.filter_congr fun entry _ => ?_
    by_cases same : entry.1 = worker.handle <;> simp [same]
  simp only [dismissed, remove, update] at engines ⊢
  rw [engines]
  rfl

theorem update_comm {one other : Worker K} (apart : one.handle ≠ other.handle) :
    (d.update one).update other = (d.update other).update one := by
  simp only [update, List.map_map]
  congr 1
  refine List.map_congr_left fun entry _ => ?_
  by_cases first : entry.1 = one.handle <;> by_cases second : entry.1 = other.handle <;>
    simp [first, second, apart, apart.symm]

theorem dismissed_comm (first second : Nat) :
    Alike ((d.dismissed first).dismissed second) ((d.dismissed second).dismissed first) where
  engines := by
    show (d.engines.filter _).filter _ = (d.engines.filter _).filter _
    simp only [List.filter_filter, Bool.and_comm]
  default := by
    simp only [dismissed, remove]
    by_cases one : d.default = some first <;> by_cases other : d.default = some second <;>
      simp [one, other]
  next := rfl
  created := rfl
  dropped := .swap first second d.dropped
  settings := ⟨rfl, rfl⟩
  plan := rfl

theorem marked_comm {first second : Nat} (apart : first ≠ second) (one other : Mark K) :
    Alike ((d.marked first one).marked second other) ((d.marked second other).marked first one) := by
  cases one with
  | leaves => exact .of_eq rfl
  | ends =>
    cases other with
    | leaves => exact .of_eq rfl
    | ends => exact dismissed_comm first second
    | moves engine => exact .of_eq (dismissed_update_comm _ first).symm
  | moves engine =>
    cases other with
    | leaves => exact .of_eq rfl
    | ends => exact .of_eq (dismissed_update_comm _ second)
    | moves engine' => exact .of_eq (update_comm apart)

/-- What is answered, and what becomes of the engine, is the same from every state in which the engine
of the handle is the same. -/
theorem dispatch_local (consistent : d.Consistent) (named : op.handle = some handle)
    (other : op.name ≠ OperationName.createEngine.word) :
    ∃ answer mark, ∀ d' : Dispatcher K, d'.Consistent → d'.settings = d.settings →
      d'.worker? handle = d.worker? handle →
      ((dispatch op).run d').1 = answer ∧
        ((dispatch op).run d').2.unlogged = d'.unlogged.marked handle mark := by
  obtain ⟨answer, mark, does⟩ := respond_local consistent named other
  refine ⟨answer, mark, fun d' consistent' settings held => ?_⟩
  have responded := (effect_dispatch consistent' op).trans (does d'.unlogged settings held)
  exact Prod.mk.inj responded

theorem settings_of_unlogged {d' : Dispatcher K} {mark : Mark K}
    (same : d'.unlogged = d.unlogged.marked handle mark) : d'.settings = d.settings := by
  rw [← unlogged_settings d', same, settings_marked, unlogged_settings]

theorem worker?_of_unlogged {d' : Dispatcher K} {mark : Mark K}
    (same : d'.unlogged = d.unlogged.marked handle mark) {key : Nat} (apart : key ≠ handle) :
    d'.worker? key = d.worker? key := by
  rw [← unlogged_worker? d', same, worker?_marked, if_neg apart, unlogged_worker?]

theorem dispatch_comm (consistent : d.Consistent) {a b : Operation} {first second : Nat}
    (apart : first ≠ second) (one : a.handle = some first) (other : b.handle = some second)
    (plain : a.name ≠ OperationName.createEngine.word)
    (plain' : b.name ≠ OperationName.createEngine.word) :
    ((dispatch a).run ((dispatch b).run d).2).1 = ((dispatch a).run d).1 ∧
      ((dispatch b).run ((dispatch a).run d).2).1 = ((dispatch b).run d).1 ∧
      Alike ((dispatch b).run ((dispatch a).run d).2).2
        ((dispatch a).run ((dispatch b).run d).2).2 := by
  obtain ⟨answer, mark, does⟩ := dispatch_local consistent one plain
  obtain ⟨answer', mark', does'⟩ := dispatch_local consistent other plain'
  obtain ⟨told, left⟩ := does d consistent rfl rfl
  obtain ⟨told', left'⟩ := does' d consistent rfl rfl
  have kept : ((dispatch a).run d).2.Consistent := dispatch_consistent consistent a
  have kept' : ((dispatch b).run d).2.Consistent := dispatch_consistent consistent b
  -- Either operation finds its engine as it was before the other one.
  obtain ⟨again, final⟩ :=
    does _ kept' (settings_of_unlogged left') (worker?_of_unlogged left' apart)
  obtain ⟨again', final'⟩ :=
    does' _ kept (settings_of_unlogged left) (worker?_of_unlogged left apart.symm)
  rw [left'] at final
  rw [left] at final'
  refine ⟨again.trans told.symm, again'.trans told'.symm, .of_unlogged ?_⟩
  rw [final, final']
  exact marked_comm apart mark mark'

/-! ### Runs -/

/-- The operations, each with its answer, dispatched one after another. -/
def transcript : List Operation → Dispatcher K →
    List (Operation × Except DispatchError (List UInt8))
  | [], _ => []
  | op :: rest, d => (op, ((dispatch op).run d).1) :: transcript rest ((dispatch op).run d).2

/-- Is it for the engine of this handle? -/
def isFor (handle : Nat) (op : Operation) : Bool := op.handle == some handle

/-- Two states that nobody can tell apart who has only this handle. -/
structure SameUnder (handle : Nat) (d d' : Dispatcher K) : Prop where
  consistent : d.Consistent
  consistent' : d'.Consistent
  settings : d'.settings = d.settings
  worker? : d'.worker? handle = d.worker? handle

theorem SameUnder.own {d' : Dispatcher K} (same : SameUnder handle d d')
    (named : op.handle = some handle) (other : op.name ≠ OperationName.createEngine.word) :
    ((dispatch op).run d').1 = ((dispatch op).run d).1 ∧
      SameUnder handle ((dispatch op).run d).2 ((dispatch op).run d').2 := by
  obtain ⟨answer, mark, does⟩ := dispatch_local same.consistent named other
  obtain ⟨told, left⟩ := does d same.consistent rfl rfl
  obtain ⟨told', left'⟩ := does d' same.consistent' same.settings same.worker?
  refine ⟨told'.trans told.symm, dispatch_consistent same.consistent op,
    dispatch_consistent same.consistent' op, ?_, ?_⟩
  · exact (settings_of_unlogged left').trans
      (same.settings.trans (settings_of_unlogged left).symm)
  · rw [← unlogged_worker? ((dispatch op).run d').2, left', worker?_marked,
      ← unlogged_worker? ((dispatch op).run d).2, left, worker?_marked]
    simp only [unlogged_worker?, same.worker?]

theorem SameUnder.foreign {d' : Dispatcher K} (same : SameUnder handle d d') {key : Nat}
    (named : op.handle = some key) (apart : handle ≠ key)
    (other : op.name ≠ OperationName.createEngine.word) :
    SameUnder handle ((dispatch op).run d).2 d' := by
  obtain ⟨answer, mark, does⟩ := dispatch_local same.consistent named other
  obtain ⟨-, left⟩ := does d same.consistent rfl rfl
  exact ⟨dispatch_consistent same.consistent op, same.consistent',
    same.settings.trans (settings_of_unlogged left).symm,
    same.worker?.trans (worker?_of_unlogged left apart).symm⟩

/-- No operation of a run makes an engine, and each has the handle of the one that it is for. -/
def Explicit (ops : List Operation) : Prop :=
  ∀ op ∈ ops, op.handle.isSome ∧ op.name ≠ OperationName.createEngine.word

/-- Of a whole run the holder of one handle sees no more than of the run of its own operations. -/
theorem SameUnder.transcript {ops : List Operation} (explicit : Explicit ops)
    {d' : Dispatcher K} (same : SameUnder handle d d') :
    (d.transcript ops).filter (isFor handle ·.1) = d'.transcript (ops.filter (isFor handle)) ∧
      SameUnder handle (d.after ops) (d'.after (ops.filter (isFor handle))) := by
  induction ops generalizing d d' with
  | nil => exact ⟨rfl, same⟩
  | cons op rest ih =>
    obtain ⟨named, other⟩ := explicit op List.mem_cons_self
    obtain ⟨key, named⟩ := Option.isSome_iff_exists.mp named
    have rest' : Explicit rest := fun op mem => explicit op (List.mem_cons_of_mem _ mem)
    by_cases mine : key = handle
    · have own : isFor handle op = true := by simp [isFor, named, mine]
      obtain ⟨told, same⟩ := same.own (mine ▸ named) other
      obtain ⟨seen, after⟩ := ih rest' same
      refine ⟨?_, ?_⟩
      · rw [List.filter_cons_of_pos own, Dispatcher.transcript, Dispatcher.transcript, told, ← seen]
        exact List.filter_cons_of_pos own
      · rw [List.filter_cons_of_pos own]
        exact after
    · have foreign : isFor handle op = false := by simp [isFor, named, mine]
      obtain ⟨seen, after⟩ := ih rest' (same.foreign named (Ne.symm mine) other)
      refine ⟨?_, ?_⟩
      · rw [List.filter_cons_of_neg (by simp [foreign]), ← seen, Dispatcher.transcript]
        exact List.filter_cons_of_neg (by simp [foreign])
      · rw [List.filter_cons_of_neg (by simp [foreign])]
        exact after

/-- Operations with different handles commute, and in a run of operations with handles those with one
handle are answered, and leave its engine, as if there were no others. -/
theorem handles_independent (reachable : d.Reachable) :
    (∀ a b : Operation, Explicit [a, b] → a.handle ≠ b.handle →
      ((dispatch a).run ((dispatch b).run d).2).1 = ((dispatch a).run d).1 ∧
      ((dispatch b).run ((dispatch a).run d).2).1 = ((dispatch b).run d).1 ∧
      Alike (d.after [a, b]) (d.after [b, a])) ∧
    ∀ ops handle, Explicit ops →
      (d.transcript ops).filter (isFor handle ·.1) = d.transcript (ops.filter (isFor handle)) ∧
      (d.after ops).worker? handle = (d.after (ops.filter (isFor handle))).worker? handle := by
  have consistent := reachable.consistent
  constructor
  · intro a b explicit apart
    obtain ⟨named, plain⟩ := explicit a (by simp)
    obtain ⟨named', plain'⟩ := explicit b (by simp)
    obtain ⟨first, one⟩ := Option.isSome_iff_exists.mp named
    obtain ⟨second, other⟩ := Option.isSome_iff_exists.mp named'
    have distinct : first ≠ second := fun same => apart (by rw [one, other, same])
    exact dispatch_comm consistent distinct one other plain plain'
  · intro ops handle explicit
    obtain ⟨seen, same⟩ := SameUnder.transcript explicit
      (⟨consistent, consistent, rfl, rfl⟩ : SameUnder handle d d)
    exact ⟨seen, same.worker?.symm⟩

/-- The end of one engine does not stop another from counting. -/
theorem handles_independent_fatal :
    let d : Dispatcher (ScriptedEngine.kind false) :=
      (ofSettings {} ()).after [{ name := "createEngine" }, { name := "createEngine" }]
    let dies : Operation := ⟨"evalScript", some 1, Utf8.encode "fatal"⟩
    let counts : Operation := ⟨"evalScript", some 2, Utf8.encode "count"⟩
    Alike (d.after [dies, counts]) (d.after [counts, dies]) ∧
      ((dispatch dies).run d).1 = .error (.engineFatal "scripted fatal") ∧
      ((dispatch counts).run ((dispatch dies).run d).2).1 = .ok [3, 2] := by
  intro d dies counts
  have explicit : Explicit [dies, counts] := by
    simp only [Explicit, List.forall_mem_cons]
    decide
  obtain ⟨-, told, alike⟩ := (handles_independent (d := d) ⟨_, _, _, rfl⟩).1 dies counts
    explicit (by decide)
  exact ⟨alike, by rfl, told.trans (by rfl)⟩

end Dispatcher

end ScriptHost
