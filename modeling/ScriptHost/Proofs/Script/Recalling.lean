import ScriptHost.Proofs.Script.Keeping
import ScriptHost.Proofs.Script.Refusal

/-! The functions that commands name. A function that is kept can be called by its id, and can stand
anywhere in the data of a command. An id under which no function is kept fails the command that comes to
it; if the command fails before it comes to that id, it fails in the same way whatever else stands
there. -/

namespace ScriptHost.Script.Host

open Datum

variable {α β : Type} {kept : Retained} {ids more : List UInt64} {s t : Session}
  {fill : FunctionHandle → Datum}

/-! ### Coming to the ids one after the other -/

/-- The first action, which is about these ids, fails over one of them; or the second does the same, and
if they end well, a function is kept under each of the ids. -/
def Recalls (kept : Retained) (ids : List UInt64) (m n : Host α) (s : Session) : Prop :=
  (∃ id ∈ ids, (after m s).1 = .error (unknownFunction id.toNat)) ∨
  (after n s = after m s ∧ ∀ a t, after m s = (.ok a, t) →
    ∀ id ∈ ids, (kept.functions.lookup id.toNat).isSome)

namespace Recalls

variable {m n : Host α} {f g : α → Host β}

theorem refl (m : Host α) (s : Session) : Recalls kept [] m m s := .inr ⟨rfl, fun _ _ _ _ => nofun⟩

theorem bind (first : Recalls kept ids m n s)
    (rest : ∀ a t, after m s = (.ok a, t) → Recalls kept more (f a) (g a) t) :
    Recalls kept (ids ++ more) (m >>= f) (n >>= g) s := by
  unfold Recalls
  rw [after_bind, after_bind]
  rcases first with ⟨id, member, failed⟩ | ⟨same, known⟩
  · left
    refine ⟨id, List.mem_append_left _ member, ?_⟩
    rcases ran : after m s with ⟨failure | a, t⟩ <;> rw [ran] at failed
    · exact congrArg Except.error (Except.error.inj failed)
    · cases failed
  · rw [same]
    rcases ran : after m s with ⟨failure | a, t⟩
    · exact .inr ⟨rfl, fun _ _ ended => by cases congrArg Prod.fst ended⟩
    · dsimp only
      rcases rest a t ran with ⟨id, member, failed⟩ | ⟨same', known'⟩
      · exact .inl ⟨id, List.mem_append_right _ member, failed⟩
      · refine .inr ⟨same', fun b u ended id member => ?_⟩
        rcases List.mem_append.mp member with before | later
        · exact known a t ran id before
        · exact known' b u ended id later

/-- What is done first, with no id, is the same for both. -/
theorem after_same (rest : ∀ a t, after m s = (.ok a, t) → Recalls kept ids (f a) (g a) t) :
    Recalls kept ids (m >>= f) (m >>= g) s :=
  (refl m s).bind rest

/-- What is done last, with no id, is the same for both. -/
theorem before_same (first : Recalls kept ids m n s) : Recalls kept ids (m >>= f) (n >>= f) s := by
  have whole : Recalls kept (ids ++ []) (m >>= f) (n >>= f) s :=
    first.bind fun a t _ => refl (f a) t
  rwa [List.append_nil] at whole

end Recalls

/-! ### Copying in -/

/-- A function that is kept leaves nothing to fill. -/
def Fills (kept : Retained) (fill : FunctionHandle → Datum) : Prop :=
  ∀ handle, (kept.functions.lookup handle.id.toNat).isSome → fill handle = .function handle

/-- The function of an id is what is kept under it. -/
theorem copyIn_function {depth : Nat} (shallow : depth ≤ maxDepth) {handle : FunctionHandle} {f : Ref}
    (found : s.heap.retained.functions.lookup handle.id.toNat = some f) :
    after (copyIn depth (.function handle)) s = (.ok (.object f), s) := by
  have level : after (checkLevel depth) s = (.ok (), s) := by
    rw [checkLevel, if_neg (by omega)]
    rfl
  rw [copyIn, after_bind, level]
  dsimp only
  rw [after_bind, after_restore, found]
  rfl

mutual

theorem copyIn_recalls (fills : Fills kept fill) (depth : Nat) (d : Datum) (s : Session)
    (same : s.heap.retained = kept) :
    Recalls kept d.handles (copyIn depth d) (copyIn depth (d.filled fill)) s := by
  cases d with
  | array items =>
    rw [filled, copyIn, copyIn]
    refine .after_same fun _ t checked => .after_same fun r u made => .before_same ?_
    have still : t.heap.retained = kept := ((Composed.checkLevel depth).retained_of checked).trans same
    exact putItems_recalls fills depth r 0 items u (((Composed.newObject _).retained_of made).trans still)
  | object fields =>
    rw [filled, copyIn, copyIn]
    refine .after_same fun _ t checked => .after_same fun r u made => .before_same ?_
    have still : t.heap.retained = kept := ((Composed.checkLevel depth).retained_of checked).trans same
    exact putFields_recalls fills depth r fields u (((Composed.newObject _).retained_of made).trans still)
  | function handle =>
    rw [filled]
    cases found : kept.functions.lookup handle.id.toNat with
    | some f =>
      have known : (kept.functions.lookup handle.id.toNat).isSome := by rw [found]; rfl
      rw [fills handle known]
      refine .inr ⟨rfl, fun _ _ _ id member => ?_⟩
      rw [List.mem_singleton.mp member]
      exact known
    | none =>
      unfold Host.copyIn
      refine .after_same fun _ t checked => .inl ⟨handle.id, List.mem_singleton_self _, ?_⟩
      have still : t.heap.retained = kept := ((Composed.checkLevel depth).retained_of checked).trans same
      rw [after_bind, after_restore, still, found]
  | _ => exact .refl _ s

theorem putItems_recalls (fills : Fills kept fill) (depth : Nat) (r : Ref) (index : Nat)
    (items : List Datum) (s : Session) (same : s.heap.retained = kept) :
    Recalls kept (handlesOfItems items) (putItems depth r index items)
      (putItems depth r index (filledItems fill items)) s := by
  cases items with
  | nil => exact .refl _ s
  | cons item rest =>
    rw [filledItems, putItems, putItems]
    refine (copyIn_recalls fills (depth + 1) item s same).bind fun v t copied => ?_
    refine .after_same fun _ u put => putItems_recalls fills depth r (index + 1) rest u ?_
    have still : t.heap.retained = kept :=
      ((Composed.copyIn (depth + 1) item fun _ _ => trivial).retained_of copied).trans same
    exact ((Composed.discard (.demand _)).retained_of put).trans still

theorem putFields_recalls (fills : Fills kept fill) (depth : Nat) (r : Ref)
    (fields : List (String × Datum)) (s : Session) (same : s.heap.retained = kept) :
    Recalls kept (handlesOfFields fields) (putFields depth r fields)
      (putFields depth r (filledFields fill fields)) s := by
  match fields with
  | [] => exact .refl _ s
  | (name, item) :: rest =>
    rw [filledFields, putFields, putFields]
    refine (copyIn_recalls fills (depth + 1) item s same).bind fun v t copied => ?_
    refine .after_same fun _ u put => putFields_recalls fills depth r rest u ?_
    have still : t.heap.retained = kept :=
      ((Composed.copyIn (depth + 1) item fun _ _ => trivial).retained_of copied).trans same
    exact ((Composed.discard (.demand _)).retained_of put).trans still

end

theorem copyArguments_recalls (fills : Fills kept fill) (args : List Datum) (s : Session)
    (same : s.heap.retained = kept) :
    Recalls kept (handlesOfItems args) (args.mapM (copyIn 0))
      ((args.map (filled fill)).mapM (copyIn 0)) s := by
  induction args generalizing s with
  | nil => exact .refl _ s
  | cons arg rest ih =>
    rw [List.map_cons, List.mapM_cons, List.mapM_cons]
    refine (copyIn_recalls fills 0 arg s same).bind fun v t copied => .before_same (ih t ?_)
    exact ((Composed.copyIn 0 arg fun _ _ => trivial).retained_of copied).trans same

end ScriptHost.Script.Host

namespace ScriptHost.ScriptEngine

open Script Script.Host

variable {e : ScriptEngine} {command : Command} {kept : Retained} {fill : FunctionHandle → Datum}
  {s : Session} {id : UInt64} {f : Ref}

/-! ### Commands -/

/-- The function that a command calls by its id is the one that is kept under it. -/
theorem resolve_retained {id : UInt64} {f : Ref}
    (found : s.heap.retained.functions.lookup id.toNat = some f) :
    after (resolve (.retained id)) s = (.ok (.object f, .undefined), s) := by
  unfold resolve
  dsimp only
  rw [after_bind, after_restore, found]
  rfl

theorem resolve_unknown {id : UInt64} (missing : s.heap.retained.functions.lookup id.toNat = none) :
    after (resolve (.retained id)) s = (.error (unknownFunction id.toNat), s) := by
  unfold resolve
  dsimp only
  rw [after_bind, after_restore, missing]

theorem resolve_recalls (id : UInt64) (s : Session) (same : s.heap.retained = kept) :
    Recalls kept [id] (resolve (.retained id)) (resolve (.retained id)) s := by
  cases found : kept.functions.lookup id.toNat with
  | some f =>
    refine .inr ⟨rfl, fun _ _ _ other member => ?_⟩
    rw [List.mem_singleton.mp member, found]
    rfl
  | none =>
    refine .inl ⟨id, List.mem_singleton_self _, ?_⟩
    rw [resolve_unknown (same ▸ found)]

theorem call_recalls (fills : Fills kept fill) (limits : EngineLimits) (request : CallRequest) (s : Session)
    (same : s.heap.retained = kept) :
    Recalls kept (Command.call request).handles (call limits request)
      (call limits { request with args := request.args.map (Datum.filled fill) }) s := by
  obtain ⟨target, args⟩ := request
  unfold call
  cases target with
  | path path =>
    refine .after_same fun found t resolved => .before_same ?_
    have still := (resolvePath_composed path).retained_of resolved
    exact copyArguments_recalls fills args t (still.trans same)
  | retained id =>
    refine (resolve_recalls id s same).bind fun found t resolved => .before_same ?_
    have still := (resolveRetained_composed trivial).retained_of resolved
    exact copyArguments_recalls fills args t (still.trans same)

theorem setGlobal_recalls (fills : Fills kept fill) (a : GlobalAssignment) (s : Session)
    (same : s.heap.retained = kept) :
    Recalls kept a.value.handles (setGlobal a) (setGlobal { a with value := a.value.filled fill }) s :=
  .before_same (copyIn_recalls fills 0 a.value s same)

/-- What is done for a command comes out in what the command gives. -/
theorem closing_recalls {m n : Host Datum} {ids : List UInt64} (recalls : Recalls kept ids m n s) :
    (∃ id ∈ ids, (closing e (after m s)).1 = .error (unknownFunction id.toNat)) ∨
    (closing e (after n s) = closing e (after m s) ∧ ∀ d, (closing e (after m s)).1 = .value d →
      ∀ id ∈ ids, (kept.functions.lookup id.toNat).isSome) := by
  rcases recalls with ⟨id, member, failed⟩ | ⟨same, known⟩
  · left
    refine ⟨id, member, ?_⟩
    rcases ran : after m s with ⟨failure | d, t⟩ <;> rw [ran] at failed
    · obtain rfl := Except.error.inj failed
      rfl
    · cases failed
  · refine .inr ⟨by rw [same], fun d given => known d (after m s).2 ?_⟩
    exact Prod.ext (closing_value given) rfl

/-- A command fails over an id that it names; or other data where unknown functions are do not change what
comes of it, and if it gives a value, a function is kept under each id that it names. -/
theorem run_recalls (fills : Fills e.heap.retained fill) (command : Command) :
    (∃ id ∈ command.handles, (run command e).1 = .error (unknownFunction id.toNat)) ∨
    (run (command.filled fill) e = run command e ∧ ∀ d, (run command e).1 = .value d →
      ∀ id ∈ command.handles, (e.heap.retained.functions.lookup id.toNat).isSome) := by
  cases command with
  | call request => exact closing_recalls (call_recalls fills e.limits request (opening e true) rfl)
  | setGlobal a =>
    obtain ⟨name, value⟩ := a
    by_cases named : name = ""
    · subst named
      refine .inr ⟨rfl, fun d given => ?_⟩
      cases given
    · have allowed (value : Datum) : refusal? (.setGlobal ⟨name, value⟩) = none := by
        simp [refusal?, named]
      rw [Command.filled, run_eq_within (allowed value) rfl, run_eq_within (allowed _) rfl]
      exact closing_recalls (setGlobal_recalls fills ⟨name, value⟩ (opening e false) rfl)
  | _ => exact .inr ⟨rfl, fun _ _ _ member => absurd member List.not_mem_nil⟩

/-- The function that is kept under an id. -/
def kept? (e : ScriptEngine) (id : UInt64) : Option Ref := e.heap.retained.functions.lookup id.toNat

/-! ### What an engine makes of an id -/

/-- What is done for the call of a function that is kept. -/
def callKept (limits : EngineLimits) (f : Ref) (args : List Datum) : Host Datum := do
  let args ← args.mapM (copyIn 0)
  let v ← demand (Comp.call (.object f) .undefined args)
  exportValue (← if limits.settlePromises then settle v else pure v)

/-- What commands do with ids goes by the functions that are kept under them. -/
structure GoesById (e : ScriptEngine) : Prop where
  /-- A release says whether there was a function, -/
  release_answer : ∀ id, (run (.release id) e).1 = .value (.bool (e.kept? id).isSome)
  /-- forgets it and no other, -/
  release_kept : ∀ id other,
    (run (.release id) e).2.2.kept? other = if other = id then none else e.kept? other
  /-- and changes nothing where there was none. -/
  release_unknown : ∀ id, e.kept? id = none → (run (.release id) e).2.2 = e
  /-- A call by an id calls the function that is kept under it, -/
  call_known : ∀ id f args, e.kept? id = some f →
    run (.call ⟨.retained id, args⟩) e = within (callKept e.limits f args) true e
  /-- and is refused where there is none. -/
  call_unknown : ∀ id args, e.kept? id = none →
    run (.call ⟨.retained id, args⟩) e = (.error (unknownFunction id.toNat), [], e)
  /-- In data an id is the function that is kept under it, wherever in them it stands. -/
  copies_known : ∀ (s : Session) depth handle f, s.heap.retained = e.heap.retained →
    depth ≤ maxDepth → e.kept? handle.id = some f →
    after (copyIn depth (.function handle)) s = (.ok (.object f), s)
  /-- A command that names an unknown id is refused for an unknown id that it names, or fails before it
  comes to one, in the same way whatever else is in their places. -/
  names_unknown : ∀ command : Command, (∃ id ∈ command.handles, e.kept? id = none) →
    (∃ id ∈ command.handles, e.kept? id = none ∧
      (run command e).1 = .error (unknownFunction id.toNat)) ∨
    (∃ failure, (run command e).1 = .error failure) ∧
      ∀ fill, Fills e.heap.retained fill → run (command.filled fill) e = run command e
  /-- Nothing is refused for an id that is known, or that is not named. -/
  refused_unknown : ∀ (command : Command) id, (run command e).1 = .error (unknownFunction id) →
    command.Names id ∧ e.heap.retained.functions.lookup id = none

theorem lookup_released (entries : List (Nat × Ref)) (id other : Nat) :
    (entries.filter (·.1 != id)).lookup other = if other = id then none else entries.lookup other := by
  induction entries with
  | nil => rw [List.filter_nil, List.lookup_nil, ite_self]
  | cons entry rest ih =>
    obtain ⟨key, f⟩ := entry
    by_cases released : key = id
    · rw [List.filter_cons_of_neg (by simp [released]), ih]
      by_cases own : other = id
      · rw [if_pos own, if_pos own]
      · have apart : (other == key) = false := by simpa [released] using own
        rw [if_neg own, if_neg own, List.lookup_cons, apart]
    · rw [List.filter_cons_of_pos (by simpa using released), List.lookup_cons, List.lookup_cons, ih]
      cases own : other == key with
      | true =>
        have same : other = key := by simpa using own
        have stays : ¬ other = id := same ▸ released
        rw [if_neg stays, if_neg stays]
      | false => rfl

theorem kept?_release (id other : UInt64) (e : ScriptEngine) :
    (run (.release id) e).2.2.kept? other = if other = id then none else e.kept? other := by
  rw [run_release, kept?, lookup_released]
  by_cases same : other = id
  · rw [if_pos same, if_pos (congrArg UInt64.toNat same)]
  · rw [if_neg same, if_neg fun equal => same (UInt64.toNat.inj equal)]
    rfl

theorem release_unknown (missing : e.kept? id = none) : (run (.release id) e).2.2 = e := by
  have whole : e.heap.retained.functions.filter (·.1 != id.toNat) = e.heap.retained.functions := by
    rw [List.filter_eq_self]
    intro entry member
    have apart := List.lookup_eq_none_iff.mp missing entry member
    simpa [bne, BEq.comm] using apart
  rw [run_release, whole]

theorem call_known (args : List Datum) (found : e.kept? id = some f) :
    run (.call ⟨.retained id, args⟩) e = within (callKept e.limits f args) true e := by
  have started : run (.call ⟨.retained id, args⟩) e = within (call e.limits ⟨.retained id, args⟩) true e :=
    rfl
  rw [started, within_eq_closing, within_eq_closing]
  unfold call
  rw [after_bind, resolve_retained (s := opening e true) found]
  rfl

theorem call_unknown (quiet : e.Quiet) (args : List Datum) (missing : e.kept? id = none) :
    run (.call ⟨.retained id, args⟩) e = (.error (unknownFunction id.toNat), [], e) := by
  have started : run (.call ⟨.retained id, args⟩) e = within (call e.limits ⟨.retained id, args⟩) true e :=
    rfl
  rw [started, within_eq_closing]
  unfold call
  rw [after_bind, resolve_unknown (s := opening e true) missing]
  obtain ⟨handle, limits, heap, coroutines⟩ := e
  have silent : heap.printed = [] := quiet
  have cleared : { heap with printed := [] } = heap := by rw [← silent]
  simp only [closing, opening, silent, cleared]
  rfl

/-- Whatever the command, there is an answer. -/
theorem run_answers (command : Command) (e : ScriptEngine) :
    (∃ d, (run command e).1 = .value d) ∨ ∃ failure, (run command e).1 = .error failure := by
  cases refused : refusal? command with
  | some reason =>
    right
    refine ⟨.invalidArgument reason, ?_⟩
    unfold run
    rw [refused]
  | none =>
    cases found : work? e.limits command with
    | some action =>
      rw [run_eq_within refused found, within_eq_closing]
      rcases after action (opening e (isArmed command)) with ⟨failure | d, s⟩
      · exact .inr (closing_error e failure s)
      · exact .inl ⟨d, rfl⟩
    | none =>
      cases command with
      | release id => exact .inl ⟨_, rfl⟩
      | _ => cases found

theorem names_unknown (unknown : ∃ id ∈ command.handles, e.kept? id = none) :
    (∃ id ∈ command.handles, e.kept? id = none ∧
      (run command e).1 = .error (unknownFunction id.toNat)) ∨
    (∃ failure, (run command e).1 = .error failure) ∧
      ∀ fill, Fills e.heap.retained fill → run (command.filled fill) e = run command e := by
  by_cases refused : ∃ id ∈ command.handles, (run command e).1 = .error (unknownFunction id.toNat)
  · obtain ⟨id, member, failed⟩ := refused
    exact .inl ⟨id, member, (run_unknown failed).2, failed⟩
  · have same (fill) (fills : Fills e.heap.retained fill) :=
      (run_recalls fills command).resolve_left refused
    refine .inr ⟨?_, fun fill fills => (same fill fills).1⟩
    rcases run_answers command e with ⟨d, given⟩ | failed
    · obtain ⟨id, member, missing⟩ := unknown
      have known := (same .function fun handle _ => rfl).2 d given id member
      rw [kept?] at missing
      rw [missing] at known
      cases known
    · exact failed

/-- An engine that has nothing left to print goes by its ids. -/
theorem goesById (quiet : e.Quiet) : GoesById e where
  release_answer _ := rfl
  release_kept id other := kept?_release id other e
  release_unknown _ missing := release_unknown missing
  call_known _ _ args found := call_known args found
  call_unknown _ args missing := call_unknown quiet args missing
  copies_known _ _ _ _ same shallow found := copyIn_function shallow (same ▸ found)
  names_unknown _ unknown := names_unknown unknown
  refused_unknown _ _ failed := run_unknown failed

end ScriptHost.ScriptEngine
