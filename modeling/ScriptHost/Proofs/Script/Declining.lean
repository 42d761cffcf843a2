import ScriptHost.Proofs.Script.Recalling
import ScriptHost.Proofs.Script.Records

/-! Commands whose data an engine does not take. Data are copied in before anything is done with them, so
a flaw anywhere in them ends the command: the global is not set, the function is not called, and whatever
the engine had is as it was. A call looks up its function before it copies the arguments, so where code
runs for that, what it does stays done. -/

namespace ScriptHost

namespace Script

/-- No call is under way. -/
def Heap.Idle (h : Heap) : Prop := h.activations = [] ∧ h.depth = 0

namespace Host

variable {α : Type} {s t : Session} {m : Host α}

/-- What the host does begins and ends with no call under way. -/
theorem Composed.idle {spends : Bool} {named : Nat → Prop} (composed : Composed spends named m)
    (idle : s.heap.Idle) : (after m s).2.heap.Idle := by
  induction composed generalizing s with
  | exec p => exact ⟨rfl, rfl⟩
  | restore id _ =>
    rw [after_restore]
    exact idle
  | @bind _ _ m f _ _ first rest =>
    have kept := first idle
    rw [after_bind]
    rcases ran : after m s with ⟨_ | a, t⟩ <;> rw [ran] at kept
    · exact kept
    · exact rest a kept
  | _ => exact idle

/-- Reading a property for which no code runs leaves the session alone. -/
theorem demand_settled {r : Ref} {k : Key} {v : Value} (idle : s.heap.Idle)
    (settled : s.heap.settled? r k = some v) : after (demand (Comp.get r k)) s = (.ok v, s) := by
  have still : s.left s.heap = s := by
    unfold Session.left
    simp only [← idle.1, ← idle.2]
  rw [after_demand (.get settled) (by decide), still]

/-! ### Flaws in data -/

variable {base : Heap} {d : Datum} {args : List Datum}

/-- Exactly what has no flaw is copied. -/
theorem copyIn_ok_iff (ready : Ready base s d.room d.bigInts.length) (usual : d.Usual) :
    (∃ v t, after (copyIn 0 d) s = (.ok v, t)) ↔ d.Importable s.heap.kept? := by
  have copied := copyIn_admits d 0 ready usual.short usual.unnamed usual.ordered
  rw [← Datum.flaw?_eq_none_iff]
  cases flawed : d.flaw? s.heap.kept? 0 with
  | none =>
    obtain ⟨v, h, ran, -⟩ := copied.cast rfl rfl flawed
    exact iff_of_true ⟨v, _, ran⟩ rfl
  | some reason =>
    obtain ⟨h, spent, begun, ran, -⟩ := copied.cast rfl rfl flawed
    refine iff_of_false ?_ nofun
    rintro ⟨v, t, other⟩
    cases ran.symm.trans other

/-- The first flaw is told, whatever comes behind it. -/
theorem copyArguments_flawed {before : List Datum} {reason : String}
    (ready : Ready base s (Datum.roomOfAll before) (Datum.bigIntsOfItems before).length)
    (usual : ∀ arg ∈ before, arg.Usual)
    (flawed : Datum.flawOfItems s.heap.kept? 0 before = some reason) (rest : List Datum) :
    ∃ h begun, after ((before ++ rest).mapM (copyIn 0)) s =
        (.error (.invalidArgument reason), s.later h begun) ∧
      ∃ spent ≤ Datum.roomOfAll before, s.heap.Grows [] spent h := by
  obtain ⟨h, spent, begun, ran, grows, cheap, -⟩ :=
    (copyArguments_admits before ready usual).cast rfl rfl flawed
  refine ⟨h, begun, ?_, spent, cheap, grows⟩
  rw [List.mapM_append, after_bind, ran]

end Host

/-! ### Paths -/

section

open String

/-- The parts of what is left of a path, behind those that were found and the characters of the next one. -/
theorem splitOnAux_dot (l m r : List Char) (found : List String) :
    splitOnAux (ofList (l ++ m ++ r)) "." ⟨utf8Len l⟩ ⟨utf8Len (l ++ m)⟩ 0 found =
      found.reverse ++ (List.splitOnPPrepend (· == '.') r m.reverse).map ofList := by
  have ended := atEnd_of_valid (l ++ m) r
  have taken := extract_of_valid l m r
  rw [← utf8Len_append] at taken
  unfold splitOnAux
  cases r with
  | nil =>
    rw [if_pos (ended.mpr rfl), taken]
    simp
  | cons c r =>
    have here := get_of_valid (l ++ m) (c :: r)
    have next := next_of_valid (l ++ m) c r
    obtain ⟨dot, one, through⟩ : Pos.Raw.get "." 0 = '.' ∧ Pos.Raw.next "." 0 = ⟨1⟩ ∧
        Pos.Raw.atEnd "." ⟨1⟩ = true := by decide
    have behind (l : List Char) : utf8Len (l ++ [c]) = utf8Len l + c.utf8Size := by simp
    rw [if_neg fun none => List.cons_ne_nil c r (ended.mp none), here, dot, one,
      List.splitOnPPrepend_cons_eq_if, List.headD_cons]
    by_cases h : c = '.'
    -- The next part begins behind the dot, and this one ends before it.
    · subst h
      have step := splitOnAux_dot (l ++ m ++ ['.']) [] r (ofList m :: found)
      rw [List.append_nil, behind, List.append_assoc _ ['.'], List.singleton_append] at step
      have back : Pos.Raw.unoffsetBy ⟨utf8Len (l ++ m) + '.'.utf8Size⟩ ⟨1⟩ = ⟨utf8Len (l ++ m)⟩ := rfl
      rw [if_pos (beq_self_eq_true _)]
      dsimp only
      rw [if_pos through, next, back, taken, step]
      simp
    · have step := splitOnAux_dot l (m ++ [c]) r found
      rw [← List.append_assoc l, behind, List.append_assoc _ [c], List.singleton_append] at step
      have back (p : Pos.Raw) : p.unoffsetBy 0 = p := rfl
      rw [if_neg (by simpa using h), back, next, step]
      simp [h]

/-- A path is cut at its dots. -/
theorem splitOn_dot (path : String) :
    path.splitOn "." = (path.toList.splitOnP (· == '.')).map ofList := by
  have whole := splitOnAux_dot [] [] path.toList []
  rw [List.nil_append, List.nil_append, ofList_toList] at whole
  unfold splitOn
  rw [if_neg (by decide)]
  exact whole

end

/-! ### Looking up a function -/

/-- What a path leads to when it is followed without running any code, and what that belongs to. -/
def Heap.ledTo? (h : Heap) (parent current : Value) : List String → Option (Value × Value)
  | [] => some (parent, current)
  | segment :: rest =>
    match current with
    | .object r => (h.settled? r (Key.ofString segment)).bind fun next => h.ledTo? current next rest
    | _ => none

end Script

/-- No code runs when the function is looked up: it is kept, or there are no getters on its path. -/
def FunctionRef.Settled (h : Script.Heap) : FunctionRef → Prop
  | .retained _ => True
  | .path text =>
    (h.ledTo? .undefined (.object Script.Intrinsic.global.ref) (text.splitOn ".")).isSome

namespace ScriptEngine

open Script Script.Host

variable {e e' : ScriptEngine} {command : Command} {s t : Session} {d : Datum} {f this : Value}

theorem follow_settled {path : String} {parent current : Value} {segments : List String}
    {found : Value × Value} (idle : s.heap.Idle)
    (leads : s.heap.ledTo? parent current segments = some found) :
    after (follow path parent current segments) s = (.ok found, s) := by
  induction segments generalizing parent current with
  | nil =>
    obtain rfl := Option.some.inj leads
    rfl
  | cons segment rest ih =>
    unfold follow
    cases current with
    | object r =>
      obtain ⟨next, settled, leads⟩ := Option.bind_eq_some_iff.mp leads
      rw [after_bind_ok (demand_settled idle settled)]
      exact ih leads
    | _ => cases leads

/-- Where no code runs for it, looking up a function changes nothing. -/
theorem resolve_settled {target : FunctionRef} (idle : s.heap.Idle) (settled : target.Settled s.heap)
    (resolved : after (resolve target) s = (.ok (f, this), t)) : t = s := by
  cases target with
  | retained id =>
    cases found : s.heap.retained.functions.lookup id.toNat with
    | none =>
      rw [resolve_unknown found] at resolved
      cases resolved
    | some g =>
      rw [resolve_retained found] at resolved
      exact (Prod.mk.inj resolved).2.symm
  | path path =>
    obtain ⟨found, leads⟩ := Option.isSome_iff_exists.mp settled
    have followed : after (follow path .undefined (.object Intrinsic.global.ref) (path.splitOn ".")) s =
        (.ok found, s) := follow_settled idle leads
    unfold resolve at resolved
    dsimp only at resolved
    split at resolved
    · cases resolved
    · rw [after_bind_ok followed, after_bind, after_look] at resolved
      dsimp only at resolved
      split at resolved
      · exact (Prod.mk.inj resolved).2.symm
      · cases resolved

/-! ### Engines between two commands -/

/-- The engine is as it is between two commands. -/
structure AtRest (e : ScriptEngine) : Prop where
  idle : e.heap.Idle
  quiet : e.Quiet

theorem create_atRest {handle : Nat} {limits : EngineLimits} (made : (create handle limits).1 = .value e) :
    e.AtRest := ⟨(fresh_of_create made).idle, create_quiet made⟩

theorem run_atRest (rests : e.AtRest) : (run command e).2.2.AtRest := by
  refine ⟨?_, run_quiet rests.quiet⟩
  cases refused : refusal? command with
  | some reason =>
    unfold run
    rw [refused]
    exact rests.idle
  | none =>
    cases found : work? e.limits command with
    | some action =>
      rw [run_eq_within refused found, within_eq_closing]
      have idle := (work_composed found).idle (s := opening e (isArmed command)) rests.idle
      exact ⟨idle.1, idle.2⟩
    | none =>
      cases command with
      | release id => exact rests.idle
      | _ => cases found

/-! ### Commands that are declined -/

/-- A command fails for an argument when it has come to this session. What was there by then has not
changed: the heap has grown by objects that nothing leads to, and all other objects, the global one among
them, the names of the scripts and the functions that are kept are as they were. -/
def Declined (e : ScriptEngine) (reached : Session)
    (outcome : Outcome Datum × List Log.Record × ScriptEngine) : Prop :=
  ∃ reason records heap, outcome = (.error (.invalidArgument reason), records,
      { e with heap := heap, coroutines := reached.coroutines }) ∧
    (∃ spent, Heap.Grows { reached.heap with printed := [] } [] spent heap) ∧
    heap.retained = e.heap.retained

theorem declined_of_grows {reached : Session} {h : Heap} {begun spent : Nat} (reason : String)
    (grows : reached.heap.Grows [] spent h) (kept : reached.heap.retained = e.heap.retained) :
    Declined e reached (closing e (.error (.invalidArgument reason), reached.later h begun)) := by
  refine ⟨reason, _, { h with printed := [] }, rfl, ⟨spent, ?_, grows.larger, grows.others⟩, ?_⟩
  · have rest := grows.rest
    rw [rest]
  · show h.retained = _
    rw [grows.rest]
    exact kept

theorem resolve_keeps {target : FunctionRef} {found : Except EngineError (Value × Value)}
    (resolved : after (resolve target) s = (found, t)) : t.heap.retained = s.heap.retained := by
  cases target with
  | path text => exact (resolvePath_composed text).retained_of resolved
  | retained id => exact (resolveRetained_composed trivial).retained_of resolved

/-- Data are copied into an engine exactly if nothing in them is too deep, all big integers are decimal
digits and all functions are kept there. If not, the command is declined before anything is done with the
data: a global is not set, and a function that was found is not called, whichever of its arguments it is;
what was to be done next makes no difference. This takes data that are usual and engines that have their
built-in objects, and memory, stack and time for the copies. -/
theorem flawed_data_declined (rests : e.AtRest) :
    (∀ s d, Ready s.heap s d.room d.bigInts.length → d.Usual →
      ((∃ v t, after (copyIn 0 d) s = (.ok v, t)) ↔ d.Importable s.heap.kept?)) ∧
    (∀ name d, name ≠ "" → d.Usual → Ready e.heap (opening e false) d.room d.bigInts.length →
      ¬ d.Importable e.kept? → Declined e (opening e false) (run (.setGlobal ⟨name, d⟩) e) ∧
        ∀ next, within (copyIn 0 d >>= next) false e = run (.setGlobal ⟨name, d⟩) e) ∧
    ∀ target f this s before d rest, after (resolve target) (opening e true) = (.ok (f, this), s) →
      (∀ arg ∈ before ++ [d], arg.Usual) →
      Ready s.heap s (Datum.roomOfAll (before ++ [d])) (Datum.bigIntsOfItems (before ++ [d])).length →
      ¬ d.Importable e.kept? → Declined e s (run (.call ⟨target, before ++ d :: rest⟩) e) ∧
        (target.Settled e.heap → s = opening e true) ∧
        ∀ next : Value × Value → List Value → Host Datum, within (do
          let found ← resolve target
          let values ← (before ++ d :: rest).mapM (copyIn 0)
          next found values) true e = run (.call ⟨target, before ++ d :: rest⟩) e := by
  refine ⟨fun s d ready usual => copyIn_ok_iff ready usual, ?_, ?_⟩
  · intro name d named usual ready flawed
    have copied := copyIn_admits d 0 ready usual.short usual.unnamed usual.ordered
    rw [← Datum.flaw?_eq_none_iff] at flawed
    obtain ⟨reason, told⟩ := Option.ne_none_iff_exists'.mp flawed
    obtain ⟨h, spent, begun, ran, grows, -⟩ := copied.cast rfl rfl told
    have whatever (next : Value → Host Datum) : within (copyIn 0 d >>= next) false e =
        closing e (.error (.invalidArgument reason), (opening e false).later h begun) := by
      rw [within_eq_closing, after_bind, ran]
    have started : run (.setGlobal ⟨name, d⟩) e = within (copyIn 0 d >>= assign name) false e :=
      run_setGlobal named d e
    rw [started, whatever]
    exact ⟨declined_of_grows reason grows rfl, whatever⟩
  · intro target f this s before d rest resolved usual ready flawed
    have kept : s.heap.retained = e.heap.retained := resolve_keeps resolved
    have same : s.heap.kept? = e.kept? := by
      unfold Heap.kept?
      rw [kept]
      rfl
    obtain ⟨reason, told⟩ : ∃ reason, Datum.flawOfItems s.heap.kept? 0 (before ++ [d]) = some reason := by
      rw [← Option.ne_none_iff_exists', Ne, Datum.flawOfItems_eq_none_iff, same]
      exact fun all => flawed (all d (by simp))
    obtain ⟨h, begun, ran, spent, -, grows⟩ := copyArguments_flawed ready usual told rest
    have whatever (next : Value × Value → List Value → Host Datum) : within (do
        let found ← resolve target
        let values ← (before ++ d :: rest).mapM (copyIn 0)
        next found values) true e =
        closing e (.error (.invalidArgument reason), s.later h begun) := by
      rw [within_eq_closing, after_bind_ok resolved, after_bind, List.append_cons, ran]
    have started : run (.call ⟨target, before ++ d :: rest⟩) e = within (do
        let found ← resolve target
        let values ← (before ++ d :: rest).mapM (copyIn 0)
        callWith e.limits found.1 found.2 values) true e := rfl
    rw [started, whatever]
    exact ⟨declined_of_grows reason grows kept,
      fun settled => resolve_settled rests.idle settled resolved, whatever⟩

/-! ### Where code runs for the path -/

/-- The parts of a path. -/
def partsOf (path : String) : List String := (path.toList.splitOnP (· == '.')).map String.ofList

/-- Looks up the function that a path of these parts leads to. -/
def lookUp (path : String) (segments : List String) : Host (Value × Value) := do
  if segments.any (· == "") then
    throw (.invalidArgument ("invalid function path \x60" ++ path ++ "\x60"))
  let (parent, f) ← follow path .undefined (.object Intrinsic.global.ref) segments
  if ← look (·.callable f) then return (f, parent)
  typeError ("\x60" ++ path ++ "\x60 is not a function")

theorem run_call_path (path : String) (args : List Datum) (e : ScriptEngine) :
    run (.call ⟨.path path, args⟩) e = within (do
      let found ← lookUp path (partsOf path)
      let values ← args.mapM (copyIn 0)
      callWith e.limits found.1 found.2 values) true e := by
  have resolved : resolve (.path path) = lookUp path (partsOf path) := by
    unfold resolve
    dsimp only
    rw [splitOn_dot]
    rfl
  have started : run (.call ⟨.path path, args⟩) e = within (call e.limits ⟨.path path, args⟩) true e := rfl
  rw [started, call_eq_callWith, resolved]

/-- With nothing but commands, a global is made to be a getter that sets the length of the global object
and gives an array. -/
def withGetter (e : ScriptEngine) : ScriptEngine :=
  (run (.call ⟨.path "__defineGetter__", [.string "f", .function ⟨1, none⟩]⟩)
    (run (.call ⟨.path "Array.prototype.splice.valueOf", []⟩) e).2.2).2.2

theorem withGetter_atRest (rests : e.AtRest) : (withGetter e).AtRest := run_atRest (run_atRest rests)

/-- A new engine with next to no stack. -/
def cramped : ScriptEngine where
  handle := 1
  limits := { stack := 1 }
  heap := { Realm.initial with quota := quota { stack := 1 }, used := baseline }

theorem create_cramped : (create 1 { stack := 1 }).1 = .value cramped := by
  unfold create cramped
  generalize Realm.initial = heap
  rfl

/-- Is there memory for something of this size, is a call possible, and is there no limit to the time? -/
def hasRoom (e : ScriptEngine) (size : Nat) : Bool :=
  e.heap.quota.memory.all (fun limit => e.heap.used + size ≤ limit) && 0 < e.heap.quota.calls &&
    (budget e.limits).isNone

theorem ready_of_hasRoom {size : Nat} (rests : e.AtRest) (standard : e.heap.Standard)
    (room : hasRoom e size) (timed : Bool) (tasks : Nat) : Ready e.heap (opening e timed) size tasks := by
  simp only [hasRoom, Bool.and_eq_true, decide_eq_true_eq, Option.isNone_iff_eq_none] at room
  obtain ⟨⟨affords, callable⟩, endless⟩ := room
  have timeless : (opening e timed).time = none := by
    unfold opening
    simp [endless]
  refine ⟨rests.idle, standard, fun _ _ known => known, ?_, fun _ => callable, ?_⟩
  · intro limit bound
    have memory : e.heap.quota.memory = some limit := bound
    rw [memory] at affords
    exact of_decide_eq_true affords
  · rw [timeless]
    exact nofun

def isUndefined : Outcome Datum → Bool
  | .value .undefined => true
  | _ => false

def isZero : Outcome Datum → Bool
  | .value (.int i) => i == 0
  | _ => false

def isDeclined : Outcome Datum → Bool
  | .error (.invalidArgument _) => true
  | _ => false

/-- Does an action give something? -/
def gives {α : Type} : Except EngineError α × Session → Bool
  | (.ok _, _) => true
  | _ => false

theorem eq_of_isUndefined {outcome : Outcome Datum} (told : isUndefined outcome) :
    outcome = .value .undefined := by
  unfold isUndefined at told
  split at told
  · rfl
  · cases told

theorem eq_of_isZero {outcome : Outcome Datum} (told : isZero outcome) : outcome = .value (.int 0) := by
  unfold isZero at told
  split at told
  · rw [eq_of_beq told]
  · cases told

theorem exists_of_isDeclined {outcome : Outcome Datum} (told : isDeclined outcome) :
    ∃ reason, outcome = .error (.invalidArgument reason) := by
  unfold isDeclined at told
  split at told
  · exact ⟨_, rfl⟩
  · cases told

theorem ne_of_not_gives {α : Type} {ended : Except EngineError α × Session} (fails : gives ended = false)
    (a : α) (t : Session) : ended ≠ (.ok a, t) := by
  rintro rfl
  cases fails

/-- A call for which a getter runs, with an argument that is not taken. -/
def hasty : Command := .call ⟨.path "f.push", [.bigInt "x"]⟩

/-- The heap is evaluated for what is there beside the getter, for what comes of the call, and for copies
where there is no stack, or no time. -/
theorem getter_evaluated :
    (isStandard (withGetter usual).heap ∧ hasRoom (withGetter usual) 1000 ∧
      ((withGetter usual).kept? 1).isSome) ∧
    (isUndefined (run (.getGlobal "length") (withGetter usual)).1 ∧
      isDeclined (run hasty (withGetter usual)).1 ∧
      isZero (run (.getGlobal "length") (run hasty (withGetter usual)).2.2).1) ∧
    gives (after (copyIn 0 (.bigInt "1")) (opening cramped false)) = false ∧
    gives (after (copyIn 0 (.bigInt "1")) { opening usual true with time := some 0 }) = false := by
  unfold withGetter hasty
  simp only [run_call_path]
  unfold usual cramped
  generalize placed : Realm.initial = heap
  -- The same heap, with the members of each object put in place together.
  unfold Realm.initial Realm.addPrinters Realm.addObject Realm.addClass Realm.nameFunction at placed
  rw [Realm.addFeatures_eq_placeFeatures, Realm.put_eq_putAt] at placed
  subst placed
  decide +kernel

/-- A function that is kept where there is the getter, and a big integer. -/
def sound : Datum := .array [.function ⟨1, none⟩, .bigInt "-1"]

/-- The same with a big integer behind it that is not decimal. -/
def flawed : Datum := .object [("a", .array [sound, .bigInt "1n"])]

theorem sound_usual : sound.Usual := by
  refine ⟨?_, ?_, by decide⟩
  · simp [sound, Datum.Ordered, Datum.OrderedItems]
  · simp [sound, Datum.Short, Datum.ShortItems, sizeBound]

theorem flawed_usual : flawed.Usual := by
  refine ⟨?_, ?_, by decide⟩
  · simp [flawed, sound, Datum.Ordered, Datum.OrderedFields, Datum.OrderedItems, Wire.Ascending]
  · simp [flawed, sound, Datum.Short, Datum.ShortFields, Datum.ShortItems, sizeBound]

theorem sound_importable {kept : UInt64 → Option Ref} (first : (kept 1).isSome) :
    sound.Importable kept := by
  refine ⟨by decide, ?_, ?_⟩
  · intro text member
    obtain rfl : text = "-1" := by simpa [sound, Datum.bigInts, Datum.bigIntsOfItems] using member
    exact (Datum.isDecimal_iff "-1").mp (by decide)
  · intro id member
    obtain rfl : id = 1 := by simpa [sound, Datum.handles, Datum.handlesOfItems] using member
    exact first

theorem not_importable_of_mem {kept : UInt64 → Option Ref} (text : String) (member : text ∈ d.bigInts)
    (other : isDecimal text = false) : ¬ d.Importable kept := by
  intro importable
  have decimal := (Datum.isDecimal_iff text).mpr (importable.decimal text member)
  rw [other] at decimal
  cases decimal

theorem flawed_data_declined_at_once :
    (∃ v t, after (copyIn 0 sound) (opening (withGetter usual) true) = (.ok v, t)) ∧
    Declined (withGetter usual) (opening (withGetter usual) false)
      (run (.setGlobal ⟨"v", flawed⟩) (withGetter usual)) ∧
    Declined (withGetter usual) (opening (withGetter usual) true)
      (run (.call ⟨.retained 1, [.null, flawed, .int 1]⟩) (withGetter usual)) := by
  obtain ⟨⟨standard, room, kept⟩, -⟩ := getter_evaluated
  have rests := withGetter_atRest (create_atRest create_usual)
  -- An engine of any name: what else is in its heap plays no part.
  generalize withGetter usual = e at standard room kept rests ⊢
  have able {size : Nat} (timed : Bool) (tasks : Nat) (small : size ≤ 1000) :
      Ready e.heap (opening e timed) size tasks :=
    (ready_of_hasRoom rests (standard_of_isStandard standard) room timed tasks).mono small
      (Nat.le_refl _)
  have spoilt : ¬ flawed.Importable e.kept? := not_importable_of_mem "1n" (by decide) (by decide)
  have null : Datum.null.Usual := ⟨trivial, trivial, List.not_mem_nil⟩
  obtain ⟨g, found⟩ := Option.isSome_iff_exists.mp kept
  have resolved : after (resolve (.retained 1)) (opening e true) =
      (.ok (.object g, .undefined), opening e true) := resolve_retained found
  obtain ⟨copied, assigned, called⟩ := flawed_data_declined rests
  refine ⟨(copied (opening e true) sound (able true _ (by decide)) sound_usual).mpr (sound_importable kept),
    (assigned "v" flawed (by decide) flawed_usual (able false _ (by decide)) spoilt).1,
    (called (.retained 1) _ _ _ [.null] flawed [.int 1] resolved ?_ (able true _ (by decide)) spoilt).1⟩
  exact List.forall_mem_cons.mpr ⟨null, List.forall_mem_singleton.mpr flawed_usual⟩

/-- Where the path has a getter, it has run by the time the call is declined, and a global has changed.
And without stack, or when the time is over, not everything is copied that has no flaw. -/
theorem getter_runs_before_refusal :
    ((create 1 {}).1 = .value usual ∧ (withGetter usual).heap.Standard ∧
      ¬ (Datum.bigInt "x").Importable (withGetter usual).kept? ∧
      (∃ reason, (run hasty (withGetter usual)).1 = .error (.invalidArgument reason)) ∧
      (run (.getGlobal "length") (withGetter usual)).1 = .value .undefined ∧
      (run (.getGlobal "length") (run hasty (withGetter usual)).2.2).1 = .value (.int 0)) ∧
    ((create 1 { stack := 1 }).1 = .value cramped ∧ (Datum.bigInt "1").Importable cramped.kept? ∧
      ∀ v t, after (copyIn 0 (.bigInt "1")) (opening cramped false) ≠ (.ok v, t)) ∧
    (Datum.bigInt "1").Importable usual.kept? ∧ ∀ v t,
      after (copyIn 0 (.bigInt "1")) { opening usual true with time := some 0 } ≠ (.ok v, t) := by
  obtain ⟨⟨standard, -, -⟩, ⟨before, refused, changed⟩, narrow, late⟩ := getter_evaluated
  have one (kept : UInt64 → Option Ref) : (Datum.bigInt "1").Importable kept := by
    refine ⟨by decide, ?_, List.forall_mem_nil _⟩
    intro text member
    obtain rfl := List.mem_singleton.mp member
    exact (Datum.isDecimal_iff "1").mp (by decide)
  refine ⟨⟨create_usual, standard_of_isStandard standard, ?_, exists_of_isDeclined refused,
    eq_of_isUndefined before, eq_of_isZero changed⟩, ⟨create_cramped, one _, ne_of_not_gives narrow⟩,
    one _, ne_of_not_gives late⟩
  exact not_importable_of_mem "x" (by decide) (by decide)

end ScriptEngine

end ScriptHost
