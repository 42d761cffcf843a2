import ScriptHost.Proofs.Script.Delivering
import ScriptHost.Proofs.Script.Fresh
import ScriptHost.Proofs.Script.Recalling

/-! The life of an id. It is given to a function when that is kept, which happens once, and the function is
known by it from then on until the id is released. This takes fewer functions than there are ids.

There are functions that nobody can release. Functions are kept while a value is copied out, and what is
copied after them can still fail. Then the command has an error for an answer, and their ids are in no answer.
The same goes for a function in a property that another one of the same name puts away. All other functions
that are kept are those whose ids were in an answer, and a command that fails before there is a value to copy
keeps none. -/

namespace ScriptHost.ScriptEngine

open Script Script.Host

variable {e : ScriptEngine} {commands : List Command} {id : UInt64} {f : Ref}

/-! ### A turn -/

/-- A command, and the engine that it is given to. -/
structure Turn where
  engine : ScriptEngine
  command : Command

namespace Turn

variable {t : Turn} {fs : List Ref}

def answer (t : Turn) : Outcome Datum := (run t.command t.engine).1

/-- The engine as the turn leaves it. -/
def next (t : Turn) : ScriptEngine := (run t.command t.engine).2.2

/-- The functions that are kept in the turn, in order, with the ids that they are given. They are what the
table has more afterwards, and the last one stands first there. -/
def gained (t : Turn) : List (UInt64 × Ref) :=
  let before := t.engine.heap.retained.functions
  let behind := t.next.heap.retained.functions
  (behind.take (behind.length - before.length)).reverse.map fun (id, f) => (UInt64.ofNat id, f)

/-- The ids that are given in the turn. -/
def ids (t : Turn) : List UInt64 := t.gained.map Prod.fst

theorem gained_of_keepAll (kept : t.next.heap.retained = t.engine.heap.retained.keepAll fs) :
    t.gained = (Retained.numbered t.engine.heap.retained.last fs).map
      fun (id, f) => (UInt64.ofNat id, f) := by
  unfold gained
  rw [kept, Retained.keepAll]
  dsimp only
  rw [List.length_append, Nat.add_sub_cancel, List.take_left, List.reverse_reverse]

theorem ids_of_keepAll (kept : t.next.heap.retained = t.engine.heap.retained.keepAll fs) :
    t.ids = idsAfter t.engine.heap.retained.last fs := by
  unfold ids idsAfter
  rw [gained_of_keepAll kept, ← Retained.ids_numbered, List.map_map, List.map_map]
  rfl

/-- A release keeps nothing. -/
theorem gained_of_release (released : t.command = .release id) : t.gained = [] := by
  obtain ⟨e, command⟩ := t
  obtain rfl : command = .release id := released
  have fewer := List.length_filter_le (fun entry => entry.1 != id.toNat) e.heap.retained.functions
  unfold gained next
  rw [run_release]
  dsimp only
  rw [Nat.sub_eq_zero_of_le fewer, List.take_zero]
  rfl

/-- In a turn a function is released, or functions are kept under the ids that come next. -/
theorem releases_or_keeps (t : Turn) : (∃ id, t.command = .release id) ∨
    ((∀ id, t.command ≠ .release id) ∧
      ∃ fs, t.next.heap.retained = t.engine.heap.retained.keepAll fs) := by
  by_cases releases : ∃ id, t.command = .release id
  · exact .inl releases
  · have stays (id : UInt64) : t.command ≠ .release id := fun released => releases ⟨id, released⟩
    exact .inr ⟨stays, run_keeps stays⟩

theorem retained_of_release (released : t.command = .release id) :
    t.next.heap.retained = { t.engine.heap.retained with
      functions := t.engine.heap.retained.functions.filter (·.1 != id.toNat) } := by
  obtain ⟨e, command⟩ := t
  obtain rfl : command = .release id := released
  rfl

theorem tidy_next (tidy : t.engine.heap.retained.Tidy) : t.next.heap.retained.Tidy := by
  rcases t.releases_or_keeps with ⟨id, released⟩ | ⟨-, fs, kept⟩
  · rw [retained_of_release released]
    exact tidy.filter _
  · rw [kept]
    exact tidy.keepAll fs

theorem last_le_next (t : Turn) : t.engine.heap.retained.last ≤ t.next.heap.retained.last := by
  rcases t.releases_or_keeps with ⟨id, released⟩ | ⟨-, fs, kept⟩
  · rw [retained_of_release released]
  · rw [kept]
    exact Nat.le_add_right _ _

/-- The ids that are given in a turn are new, and none is given twice. -/
theorem ids_fresh (few : t.next.heap.retained.last < UInt64.size) : t.ids.Nodup ∧
    ∀ id ∈ t.ids, t.engine.heap.retained.last < id.toNat ∧ id.toNat ≤ t.next.heap.retained.last := by
  rcases t.releases_or_keeps with ⟨id, released⟩ | ⟨-, fs, kept⟩
  · unfold ids
    rw [gained_of_release released]
    exact ⟨.nil, nofun⟩
  · have last : t.next.heap.retained.last = t.engine.heap.retained.last + fs.length := by
      rw [kept]
      rfl
    rw [ids_of_keepAll kept]
    unfold idsAfter
    constructor
    · refine List.Nodup.map_on (fun n member m member' same => ?_) List.nodup_range'
      rw [List.mem_range'_1] at member member'
      have equal := congrArg UInt64.toNat same
      rwa [UInt64.toNat_ofNat_of_lt' (by omega), UInt64.toNat_ofNat_of_lt' (by omega)] at equal
    · intro id member
      obtain ⟨n, inside, rfl⟩ := List.mem_map.mp member
      rw [List.mem_range'_1] at inside
      rw [UInt64.toNat_ofNat_of_lt' (by omega)]
      omega

/-- What is known after a turn was given an id in it, or was known before and is not released in it. -/
theorem kept?_next (tidy : t.engine.heap.retained.Tidy)
    (few : t.next.heap.retained.last < UInt64.size) (id : UInt64) (f : Ref) :
    t.next.kept? id = some f ↔
      (id, f) ∈ t.gained ∨ t.engine.kept? id = some f ∧ t.command ≠ .release id := by
  rcases t.releases_or_keeps with ⟨other, released⟩ | ⟨stays, fs, kept⟩
  · have asked : t.next.kept? id = if id = other then none else t.engine.kept? id := by
      rw [next, released]
      exact kept?_release other id t.engine
    rw [gained_of_release released, asked, released]
    by_cases same : id = other
    · simp [same]
    · have apart : other ≠ id := Ne.symm same
      simp [same, apart]
  · have last : t.next.heap.retained.last = t.engine.heap.retained.last + fs.length := by
      rw [kept]
      rfl
    have entries : (id, f) ∈ t.gained ↔
        (id.toNat, f) ∈ Retained.numbered t.engine.heap.retained.last fs := by
      rw [gained_of_keepAll kept, List.mem_map]
      constructor
      · rintro ⟨⟨n, g⟩, member, same⟩
        obtain ⟨rfl, rfl⟩ := Prod.mk.inj same
        have bounds := Retained.bounds_of_mem_numbered member
        rwa [UInt64.toNat_ofNat_of_lt' (by omega)]
      · intro member
        exact ⟨(id.toNat, f), member, Prod.ext (UInt64.ofNat_toNat) rfl⟩
    have now : t.next.kept? id = some f ↔ (id.toNat, f) ∈ t.next.heap.retained.functions :=
      (tidy_next tidy).lookup_iff
    have before : t.engine.kept? id = some f ↔ (id.toNat, f) ∈ t.engine.heap.retained.functions :=
      tidy.lookup_iff
    rw [now, before, entries, kept, Retained.keepAll, List.mem_append, List.mem_reverse,
      and_iff_left (stays id)]

/-- Each function in what is answered has an id of its own, given in the turn. -/
theorem answer_subperm {d : Datum} (given : t.answer = .value d) : d.handles.Subperm t.ids := by
  by_cases releases : ∃ id, t.command = .release id
  · obtain ⟨id, released⟩ := releases
    obtain ⟨e, command⟩ := t
    obtain rfl : command = .release id := released
    obtain rfl := Outcome.value.inj given
    exact List.nil_subperm
  · obtain ⟨fs, kept, among, -⟩ := run_delivered (fun id released => releases ⟨id, released⟩) given
    rw [ids_of_keepAll kept]
    exact among

end Turn

/-! ### One turn after another -/

/-- The turns in which an engine carries out commands. -/
def turns : ScriptEngine → List Command → List Turn
  | _, [] => []
  | e, command :: rest => ⟨e, command⟩ :: turns (Turn.mk e command).next rest

/-- The engine once all commands are carried out. -/
def final : ScriptEngine → List Command → ScriptEngine
  | e, [] => e
  | e, command :: rest => final (Turn.mk e command).next rest

/-- In one of the turns the function was given the id, which was not released in a later one. -/
def Lives (id : UInt64) (f : Ref) (ts : List Turn) : Prop :=
  ∃ before turn later, ts = before ++ turn :: later ∧ (id, f) ∈ turn.gained ∧
    ∀ t ∈ later, t.command ≠ .release id

theorem not_lives_nil (id : UInt64) (f : Ref) : ¬ Lives id f [] := by
  rintro ⟨before, turn, later, split, -⟩
  simp at split

theorem lives_cons {t : Turn} {ts : List Turn} : Lives id f (t :: ts) ↔
    (id, f) ∈ t.gained ∧ (∀ u ∈ ts, u.command ≠ .release id) ∨ Lives id f ts := by
  constructor
  · rintro ⟨before, turn, later, split, given, stays⟩
    cases before with
    | nil =>
      obtain ⟨rfl, rfl⟩ := List.cons.inj split
      exact .inl ⟨given, stays⟩
    | cons first others =>
      obtain ⟨-, rfl⟩ := List.cons.inj split
      exact .inr ⟨others, turn, later, rfl, given, stays⟩
  · rintro (⟨given, stays⟩ | ⟨before, turn, later, rfl, given, stays⟩)
    · exact ⟨[], t, ts, rfl, given, stays⟩
    · exact ⟨t :: before, turn, later, rfl, given, stays⟩

theorem last_le_final (e : ScriptEngine) (commands : List Command) :
    e.heap.retained.last ≤ (final e commands).heap.retained.last := by
  induction commands generalizing e with
  | nil => exact Nat.le_refl _
  | cons command rest ih => exact (Turn.last_le_next ⟨e, command⟩).trans (ih _)

/-- The ids that are given in all turns are new, and none is given twice. -/
theorem ids_of_turns (few : (final e commands).heap.retained.last < UInt64.size) :
    ((turns e commands).flatMap Turn.ids).Nodup ∧
    ∀ id ∈ (turns e commands).flatMap Turn.ids, e.heap.retained.last < id.toNat := by
  induction commands generalizing e with
  | nil => exact ⟨.nil, nofun⟩
  | cons command rest ih =>
    have later := last_le_final (Turn.mk e command).next rest
    obtain ⟨once, above⟩ := ih few
    obtain ⟨fresh, between⟩ := Turn.ids_fresh (t := ⟨e, command⟩) (later.trans_lt few)
    have grown := Turn.last_le_next ⟨e, command⟩
    rw [turns, List.flatMap_cons]
    constructor
    · refine List.nodup_append.mpr ⟨fresh, once, fun id here other there same => ?_⟩
      have low := (between id here).2
      rw [same] at low
      exact Nat.not_le_of_lt (above other there) low
    · intro id member
      rcases List.mem_append.mp member with here | there
      · exact (between id here).1
      · exact grown.trans_lt (above id there)

/-- What is known in the end was given an id in a turn, or was known in the beginning, and was not released
since. -/
theorem kept?_final (tidy : e.heap.retained.Tidy)
    (few : (final e commands).heap.retained.last < UInt64.size) :
    (final e commands).kept? id = some f ↔ Lives id f (turns e commands) ∨
      e.kept? id = some f ∧ ∀ t ∈ turns e commands, t.command ≠ .release id := by
  induction commands generalizing e with
  | nil =>
    have nothing : ¬ Lives id f [] := not_lives_nil id f
    simp [final, turns, nothing]
  | cons command rest ih =>
    have later := last_le_final (Turn.mk e command).next rest
    have step := Turn.kept?_next (t := ⟨e, command⟩) tidy (later.trans_lt few) id f
    have onward := ih (Turn.tidy_next (t := ⟨e, command⟩) tidy) few
    rw [final, onward, turns, lives_cons, List.forall_mem_cons, step]
    tauto

theorem create_retained {handle : Nat} {limits : EngineLimits} (made : (create handle limits).1 = .value e) :
    e.heap.retained = {} := by
  -- A heap of any name: what is in the one of a new engine plays no part.
  have furnished (heap : Heap) (unused : heap.retained = {}) :
      (ScriptEngine.mk handle limits { heap with quota := quota limits, used := baseline } #[]).heap.retained
        = {} := unused
  unfold create at made
  split at made
  · cases made
  · rw [← Outcome.value.inj made]
    exact furnished Realm.initial (congrArg Heap.retained Realm.initial_furnished)

/-- From the beginning of an engine on, an id is known from the turn in which it is given until it is
released. -/
theorem kept?_iff_lives {handle : Nat} {limits : EngineLimits} (made : (create handle limits).1 = .value e)
    (few : (final e commands).heap.retained.last < UInt64.size) :
    (final e commands).kept? id = some f ↔ Lives id f (turns e commands) := by
  have unused := create_retained made
  have tidy : e.heap.retained.Tidy := by
    rw [unused]
    exact ⟨fun _ member => absurd member List.not_mem_nil, .nil⟩
  have unknown : e.kept? id ≠ some f := by
    intro known
    rw [kept?, unused] at known
    cases known
  rw [kept?_final tidy few]
  exact or_iff_left fun known => unknown known.1

theorem final_quiet (quiet : e.Quiet) : (final e commands).Quiet := by
  induction commands generalizing e with
  | nil => exact quiet
  | cons command rest ih => exact ih (run_quiet quiet)

/-- The ids of functions, from the beginning of an engine on, as far as there are ids: none is given twice,
each function in an answer has one of its own, which it was given in that turn, and an id is known from the
turn in which it is given until it is released. Commands go by the ids that are known. -/
theorem ids_of_functions {handle : Nat} {limits : EngineLimits}
    (made : (create handle limits).1 = .value e) (commands : List Command)
    (few : (final e commands).heap.retained.last < UInt64.size) :
    ((turns e commands).flatMap Turn.ids).Nodup ∧
    (∀ turn ∈ turns e commands, ∀ d, turn.answer = .value d → d.handles.Subperm turn.ids) ∧
    (∀ id f, (final e commands).kept? id = some f ↔ Lives id f (turns e commands)) ∧
    GoesById (final e commands) := by
  have once := (ids_of_turns few).1
  have quiet : (final e commands).Quiet := final_quiet (create_quiet made)
  exact ⟨once, fun turn _ d given => turn.answer_subperm given, fun id f => kept?_iff_lives made few,
    goesById quiet⟩

/-! ### A short life -/

/-- A new engine whose results may have three values. -/
def scant : ScriptEngine where
  handle := 1
  limits := { nodes := 3 }
  heap := { Realm.initial with quota := quota { nodes := 3 }, used := baseline }

theorem create_scant : (create 1 { nodes := 3 }).1 = .value scant := by
  unfold create scant
  generalize Realm.initial = heap
  rfl

/-- The console has five methods, which is too much for the engine. A single function is not. -/
def scantCommands : List Command := [.getGlobal "console", .getGlobal "parseInt", .release 3]

def failure? : Outcome Datum → Option EngineError
  | .error failure => some failure
  | _ => none

theorem error_of_failure? {outcome : Outcome Datum} {failure : EngineError}
    (failed : failure? outcome = some failure) : outcome = .error failure := by
  unfold failure? at failed
  split at failed
  · rw [Option.some.inj failed]
  · cases failed

/-- The heap is evaluated once for all that is read off these turns. -/
theorem scant_evaluated :
    (turns scant scantCommands).flatMap Turn.ids = [1, 2, 3] ∧
    (final scant scantCommands).heap.retained.last = 3 ∧
    ((final scant scantCommands).kept? 2).isSome ∧ (final scant scantCommands).kept? 3 = none ∧
    failure? (run (.getGlobal "console") scant).1 = some (.exception
      { message := "result has too many values to copy out of the engine", name := some "RangeError" }) ∧
    (run (.getGlobal "console") scant).2.2.heap.retained.functions.length = 2 := by
  unfold scant
  generalize placed : Realm.initial = heap
  -- The same heap, with the members of each object put in place together.
  unfold Realm.initial Realm.addPrinters Realm.addObject Realm.addClass Realm.nameFunction at placed
  rw [Realm.addFeatures_eq_placeFeatures, Realm.put_eq_putAt] at placed
  subst placed
  decide +kernel

theorem scant_few : (final scant scantCommands).heap.retained.last < UInt64.size := by
  rw [scant_evaluated.2.1]
  decide

/-- Three ids are given, two of them to methods of the console. The last one is released, and the other
two live on. -/
theorem ids_of_functions_scant : (create 1 { nodes := 3 }).1 = .value scant ∧
    (final scant scantCommands).heap.retained.last < UInt64.size ∧
    (turns scant scantCommands).flatMap Turn.ids = [1, 2, 3] ∧
    ((turns scant scantCommands).flatMap Turn.ids).Nodup ∧
    (∀ turn ∈ turns scant scantCommands, ∀ d, turn.answer = .value d → d.handles.Subperm turn.ids) ∧
    (∃ f, Lives 2 f (turns scant scantCommands)) ∧ (∀ f, ¬ Lives 3 f (turns scant scantCommands)) ∧
    GoesById (final scant scantCommands) := by
  obtain ⟨given, -, second, third, -⟩ := scant_evaluated
  obtain ⟨once, told, known, honest⟩ := ids_of_functions create_scant scantCommands scant_few
  obtain ⟨f, found⟩ := Option.isSome_iff_exists.mp second
  refine ⟨create_scant, scant_few, given, once, told, ⟨f, (known 2 f).mp found⟩, fun g lives => ?_,
    honest⟩
  have found' := (known 3 g).mpr lives
  rw [third] at found'
  cases found'

end ScriptHost.ScriptEngine

/-! ### Functions that nobody can release -/

namespace ScriptHost.ScriptEngine

open Script Script.Host

variable {e : ScriptEngine} {commands : List Command} {id : UInt64} {f : Ref}

namespace Turn

variable {t : Turn}

/-- The turn comes to a value that is copied out, and the copy fails. -/
def BreaksOff (t : Turn) : Prop :=
  ∃ v s failure, copied? t.command t.engine = some (v, s) ∧
    (after (exportValue v) s).1 = .error failure

/-- A function that is given an id in a turn has it in the answer, but for a copy that fails and for
properties of the same name. -/
theorem delivered_of_gained (given : (id, f) ∈ t.gained) :
    (∃ d, t.answer = .value d ∧ id ∈ d.handles) ∨ t.BreaksOff ∨ 0 < shed t.command t.engine := by
  rcases t.releases_or_keeps with ⟨other, released⟩ | ⟨stays, -⟩
  · rw [gained_of_release released] at given
    cases given
  · have member : id ∈ t.ids := List.mem_map_of_mem given
    cases found : copied? t.command t.engine with
    | none =>
      have same : t.next.heap.retained = t.engine.heap.retained.keepAll [] :=
        run_of_not_copied found stays
      rw [gained_of_keepAll same] at given
      cases given
    | some copied =>
      obtain ⟨v, s⟩ := copied
      have ran := (run_of_copied found).2
      rcases ended : after (exportValue v) s with ⟨failure | d, u⟩
      · exact .inr (.inl ⟨v, s, failure, found, by rw [ended]⟩)
      · have answered : t.answer = .value d := by
          rw [answer, ran, ended]
          rfl
        by_cases whole : shed t.command t.engine = 0
        · obtain ⟨fs, kept, -, all⟩ := run_delivered stays answered
          rw [ids_of_keepAll kept] at member
          exact .inl ⟨d, answered, (all whole).mem_iff.mpr member⟩
        · exact .inr (.inr (Nat.pos_of_ne_zero whole))

/-- A turn that ends in an error leaves the functions that are kept as they were, unless a copy breaks off
in it. Then those that the copy came to are kept too. -/
theorem retained_of_error {failure : EngineError} (failed : t.answer = .error failure) :
    t.next.heap.retained = t.engine.heap.retained ∨
    t.BreaksOff ∧ ∃ fs, t.next.heap.retained = t.engine.heap.retained.keepAll fs := by
  rcases t.releases_or_keeps with ⟨other, released⟩ | ⟨stays, kept⟩
  · rw [answer, released] at failed
    cases failed
  · cases found : copied? t.command t.engine with
    | none => exact .inl (run_of_not_copied found stays)
    | some copied =>
      obtain ⟨v, s⟩ := copied
      rcases ended : after (exportValue v) s with ⟨error | d, u⟩
      · exact .inr ⟨⟨v, s, error, found, by rw [ended]⟩, kept⟩
      · rw [answer, (run_of_copied found).2, ended] at failed
        cases failed

end Turn

/-- Each function that is kept was given its id in a turn and was not released since. The answer of that
turn has the id in it, unless a copy broke off or shed properties in the turn. A turn that ends in an error
leaves the functions that are kept as they were, unless a copy broke off in it. -/
theorem kept_functions_delivered {handle : Nat} {limits : EngineLimits}
    (made : (create handle limits).1 = .value e) (commands : List Command)
    (few : (final e commands).heap.retained.last < UInt64.size) :
    (∀ id f, (final e commands).kept? id = some f →
      ∃ before turn later, turns e commands = before ++ turn :: later ∧ (id, f) ∈ turn.gained ∧
        (∀ t ∈ later, t.command ≠ .release id) ∧
        ((∃ d, turn.answer = .value d ∧ id ∈ d.handles) ∨ turn.BreaksOff ∨
          0 < shed turn.command turn.engine)) ∧
    ∀ turn ∈ turns e commands, ∀ failure, turn.answer = .error failure →
      turn.next.heap.retained = turn.engine.heap.retained ∨
      turn.BreaksOff ∧ ∃ fs, turn.next.heap.retained = turn.engine.heap.retained.keepAll fs := by
  refine ⟨fun id f known => ?_, fun turn _ failure failed => turn.retained_of_error failed⟩
  obtain ⟨before, turn, later, split, given, stays⟩ := (kept?_iff_lives made few).mp known
  exact ⟨before, turn, later, split, given, stays, turn.delivered_of_gained given⟩

/-- The function under the second id, a method of the console, has its turn. -/
theorem kept_functions_delivered_scant : (create 1 { nodes := 3 }).1 = .value scant ∧
    (final scant scantCommands).heap.retained.last < UInt64.size ∧
    ∃ turn ∈ turns scant scantCommands, 2 ∈ turn.ids ∧
      ((∃ d, turn.answer = .value d ∧ 2 ∈ d.handles) ∨ turn.BreaksOff ∨
        0 < shed turn.command turn.engine) := by
  obtain ⟨f, known⟩ := Option.isSome_iff_exists.mp scant_evaluated.2.2.1
  obtain ⟨before, turn, later, split, given, -, reason⟩ :=
    (kept_functions_delivered create_scant scantCommands scant_few).1 2 f known
  refine ⟨create_scant, scant_few, turn, ?_, List.mem_map_of_mem given, reason⟩
  rw [split]
  exact List.mem_append_right _ List.mem_cons_self

/-- A command with an error for an answer leaves two functions more than there were. -/
theorem broken_copy_keeps : (create 1 { nodes := 3 }).1 = .value scant ∧
    scant.heap.retained.functions = [] ∧
    (run (.getGlobal "console") scant).1 = .error (.exception
      { message := "result has too many values to copy out of the engine", name := some "RangeError" }) ∧
    (run (.getGlobal "console") scant).2.2.heap.retained.functions.length = 2 := by
  obtain ⟨-, -, -, -, failed, kept⟩ := scant_evaluated
  have unused := congrArg Retained.functions (create_retained create_scant)
  exact ⟨create_scant, unused, error_of_failure? failed, kept⟩

end ScriptHost.ScriptEngine
