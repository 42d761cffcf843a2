import Mathlib
import ScriptHost.Proofs.Datum.Handles
import ScriptHost.Script.Engine

/-! How the actions of the host run. Each begins with a session and leaves one, whether it fails or
not, and each is put together from a few: the host looks at the session, has the engine carry out
computations, looks up the functions of the ids that a command names, keeps functions, and takes from
the number of values that a result may have. Only what copies a value out of the engine does the last
two; whatever else the host does leaves that number and the functions that are kept alone. -/

namespace ScriptHost.Script.Host

variable {α β : Type}

/-- How an action ends, and what it leaves of the session. -/
def after (m : Host α) (s : Session) : Except EngineError α × Session := m.run s

@[simp] theorem after_pure (a : α) (s : Session) : after (pure a) s = (.ok a, s) := rfl

@[simp] theorem after_throw (e : EngineError) (s : Session) :
    after (throw e : Host α) s = (.error e, s) := rfl

@[simp] theorem after_get (s : Session) : after get s = (.ok s, s) := rfl

@[simp] theorem after_modify (f : Session → Session) (s : Session) :
    after (modify f) s = (.ok ⟨⟩, f s) := rfl

@[simp] theorem after_modifyGet (f : Session → α × Session) (s : Session) :
    after (modifyGet f) s = (.ok (f s).1, (f s).2) := rfl

@[simp] theorem after_bind (m : Host α) (f : α → Host β) (s : Session) :
    after (m >>= f) s = match after m s with
      | (.ok a, t) => after (f a) t
      | (.error e, t) => (.error e, t) := by
  show StateT.bind m (ExceptT.bindCont f) s = _
  simp only [after, ExceptT.run, StateT.bind]
  rcases m s with ⟨_ | _, _⟩ <;> rfl

/-- An action that ends well has come through both of its parts. -/
theorem parts_of_bind_ok {m : Host α} {f : α → Host β} {b : β} {s u : Session}
    (ended : after (m >>= f) s = (.ok b, u)) :
    ∃ a t, after m s = (.ok a, t) ∧ after (f a) t = (.ok b, u) := by
  rw [after_bind] at ended
  rcases ran : after m s with ⟨_ | a, t⟩ <;> rw [ran] at ended
  · cases ended
  · exact ⟨a, t, rfl, ended⟩

@[simp] theorem after_map (f : α → β) (m : Host α) (s : Session) :
    after (f <$> m) s = ((after m s).1.map f, (after m s).2) := by
  rw [map_eq_pure_bind, after_bind]
  rcases after m s with ⟨_ | _, _⟩ <;> rfl

theorem ext {m n : Host α} (same : ∀ s, after m s = after n s) : m = n := funext same

@[simp] theorem after_look (f : Heap → α) (s : Session) : after (look f) s = (.ok (f s.heap), s) :=
  rfl

/-! ### What actions are made of -/

/-- What is said of an id under which no function is kept. -/
def unknownFunction (id : Nat) : EngineError :=
  .invalidArgument ("unknown function id " ++ toString id)

theorem unknownFunction_inj {id other : Nat} (same : unknownFunction id = unknownFunction other) :
    id = other :=
  Nat.repr_inj.mp ((String.append_right_inj _).mp (EngineError.invalidArgument.inj same))

/-- It is not said of an id that no function is kept under it. -/
def Plain (e : EngineError) : Prop := ∀ id, e ≠ unknownFunction id

theorem plain_exception (thrown : ScriptException) : Plain (.exception thrown) := fun _ => nofun

theorem plain_fatal (reason : String) : Plain (.fatal reason) := fun _ => nofun

/-- What is wrong with arguments otherwise is told in texts that begin with another letter. -/
theorem plain_reason {reason : String} (begins : reason.toList.head? ≠ some 'u') :
    Plain (.invalidArgument reason) := by
  rintro id ⟨⟩
  exact begins (by simp [String.toList_append])

/-- The actions that are put together from these few: to look at the session, to have the engine carry
out a computation, to look up a function by an id that is named, and, where the result is copied, to keep
a function and to take from the number of values that it may have. -/
inductive Composed (spends : Bool) (named : Nat → Prop) : {α : Type} → Host α → Prop where
  | pure {α : Type} (a : α) : Composed spends named (Pure.pure a : Host α)
  | throw {α : Type} (e : EngineError) : Plain e → Composed spends named (throw e : Host α)
  | get : Composed spends named (MonadState.get : Host Session)
  | exec (p : Prog) : Composed spends named (exec p)
  | restore (id : Nat) : named id → Composed spends named (restore id)
  | retain (f : Ref) : spends → Composed spends named (retain f)
  | spend : spends → Composed spends named
      (modify fun s : Session => { s with nodesLeft := s.nodesLeft - 1 } : Host Unit)
  | bind {α β : Type} {m : Host α} {f : α → Host β} :
      Composed spends named m → (∀ a, Composed spends named (f a)) → Composed spends named (m >>= f)

variable {spends : Bool} {named : Nat → Prop}

/-- What is known of an id is looked up, and nothing changes by it. -/
theorem after_restore (id : Nat) (s : Session) : after (restore id) s =
    (match s.heap.retained.functions.lookup id with
      | some f => .ok f
      | none => .error (unknownFunction id), s) := by
  unfold Host.restore
  rw [after_bind, after_look]
  dsimp only
  cases s.heap.retained.functions.lookup id <;> rfl

/-- What is put together without copying a result leaves alone whatever the computations of the engine
leave alone. -/
theorem Composed.unchanged {view : Session → β} (execs : ∀ p s, view (after (Host.exec p) s).2 = view s)
    {m : Host α} (composed : Composed false named m) (s : Session) : view (after m s).2 = view s := by
  induction composed generalizing s with
  | spend spends => cases spends
  | retain _ spends => cases spends
  | exec p => exact execs p s
  | restore id _ => rw [after_restore]
  | @bind _ _ m f _ _ first rest =>
    have kept := first s
    rw [after_bind]
    rcases ran : after m s with ⟨_ | a, t⟩ <;> rw [ran] at kept
    · exact kept
    · exact (rest a t).trans kept
  | _ => rfl

/-- The action leaves alone how many values the result may still have. -/
def Thrifty (m : Host α) : Prop := ∀ s, (after m s).2.nodesLeft = s.nodesLeft

theorem Composed.thrifty {m : Host α} (composed : Composed false named m) : Thrifty m :=
  composed.unchanged fun _ _ => rfl

namespace Composed

theorem map {m : Host α} (f : α → β) (first : Composed spends named m) : Composed spends named (f <$> m) := by
  rw [map_eq_pure_bind]
  exact .bind first fun a => .pure (f a)

theorem look (f : Heap → α) : Composed spends named (look f) := .bind .get fun _ => .pure _

theorem value (c : Comp Value) : Composed spends named (value c) := by
  refine .bind (.exec _) fun ended => ?_
  split <;> exact .pure _

theorem failWith (message : String) (name : Option String) :
    Composed spends named (failWith message name : Host α) :=
  .throw _ (plain_exception _)

/-- A text is taken for what it is, if it is one. -/
theorem asText (text : Except Fault Value) : Composed spends named (match text with
    | .ok (.string s) => Pure.pure s.toString?.toOption
    | _ => Pure.pure none : Host (Option String)) := by
  split <;> exact .pure _

theorem textOf (r : Ref) (name : String) (coerces : Bool) : Composed spends named (textOf r name coerces) := by
  refine .bind (.value _) fun ended => ?_
  split
  · exact .pure _
  · exact .pure _
  · exact .pure _
  · split
    · exact .bind (.pure _) .asText
    · split
      · exact .bind (.value _) .asText
      · exact .bind (.pure _) .asText

section

variable {next : EngineError → Host α}

/-- What is thrown is told as text. -/
theorem told (thrown : ∀ x, Composed spends named (next (.exception x))) (v : Value) (tripped : Bool) :
    Composed spends named ((do
      let message ← match ← Host.value do return .string (← Comp.toText v) with
        | .ok (.string s) => Pure.pure (s.toString?.toOption.getD "uncaught exception")
        | _ => Pure.pure "uncaught exception"
      return EngineError.exception ⟨message, none, none, tripped⟩) >>= next) := by
  rw [bind_assoc]
  refine .bind (.value _) fun ended => ?_
  split <;> exact thrown _

/-- A fault becomes an exception or the end of the engine, whatever comes next. -/
theorem described (thrown : ∀ x, Composed spends named (next (.exception x)))
    (gone : ∀ reason, Composed spends named (next (.fatal reason))) (f : Fault) :
    Composed spends named (Host.describe f >>= next) := by
  unfold Host.describe
  rw [bind_assoc]
  refine .bind .get fun s => ?_
  dsimp only
  split
  · rw [bind_assoc]
    refine .bind (.look _) fun isError => ?_
    split
    · simp only [bind_assoc]
      refine .bind (.textOf _ _ _) fun message => .bind (.textOf _ _ _) fun name => ?_
      split
      · exact gone _
      · rw [bind_assoc]
        exact .bind (.textOf _ _ _) fun _ => thrown _
    · exact .told thrown _ _
  · exact .told thrown _ _

end

theorem fail (f : Fault) : Composed spends named (fail f : Host α) :=
  .described (fun _ => .throw _ (plain_exception _)) (fun _ => .throw _ (plain_fatal _)) f

theorem demand (c : Comp Value) : Composed spends named (demand c) := by
  refine .bind (.value c) fun ended => ?_
  split
  · exact .pure _
  · exact .fail _

theorem conversionError (v : Value) (wanted : String) :
    Composed spends named (conversionError v wanted : Host α) :=
  .bind (.look _) fun _ => .failWith _ _

theorem exportText (s : Utf16) : Composed spends named (exportText s) := by
  unfold Host.exportText
  split
  · exact .pure _
  · exact .failWith _ _

theorem exportKey (k : Key) : Composed spends named (exportKey k) := .bind (.exportText _) fun _ => .pure _

theorem exportLength (r : Ref) : Composed spends named (exportLength r) := by
  refine .bind (.demand _) fun v => ?_
  split
  · refine .bind .get fun s => ?_
    split <;> dsimp only <;> split
    · exact .bind (.failWith _ _) fun _ => .pure _
    · exact .pure _
    · exact .bind (.failWith _ _) fun _ => .pure _
    · exact .pure _
  · exact .conversionError _ _

theorem exportKeys (r : Ref) : Composed spends named (exportKeys r) := by
  refine .bind (.exec _) fun ended => ?_
  split
  · exact .pure _
  · exact .pure _
  · exact .fail _

theorem addTexts (r : Ref) (names : List String) (fields : Fields Datum) :
    Composed spends named (addTexts r names fields) := by
  induction names generalizing fields with
  | nil => exact .pure _
  | cons name rest ih =>
    unfold Host.addTexts
    split
    · exact ih fields
    · refine .bind (.textOf _ _ _) fun text => ?_
      split
      · exact ih _
      · exact ih fields

theorem copyBigInt (digits : String) : Composed spends named (copyBigInt digits) := by
  unfold Host.copyBigInt
  have made : Composed spends named (do
      let f ← Host.demand (Comp.get Intrinsic.global.ref "BigInt")
      if ← Host.look (·.callable f) then Host.demand (Comp.call f .undefined [.text digits])
      else Host.conversionError f "function") := by
    refine .bind (.demand _) fun f => .bind (.look _) fun callable => ?_
    split
    · exact .demand _
    · exact .conversionError _ _
  dsimp only
  split
  · exact made
  · exact .bind (.throw _ (plain_reason (by simp [String.toList_append]))) fun _ => made

theorem newObject (make : Comp Value) : Composed spends named (newObject make) := by
  refine .bind (.demand _) fun v => ?_
  split <;> exact .pure _

theorem checkLevel (depth : Nat) : Composed spends named (checkLevel depth) := by
  unfold Host.checkLevel
  split
  · exact .throw _ (plain_reason (by simp [String.toList_append]))
  · exact .pure _

theorem discard {m : Host α} (composed : Composed spends named m) : Composed spends named (Functor.discard m) :=
  .map _ composed

/-! ### Copying in -/

mutual

theorem copyIn (depth : Nat) (d : Datum) (all : ∀ id ∈ d.handles, named id.toNat) :
    Composed spends named (copyIn depth d) := by
  unfold Host.copyIn
  refine .bind (.checkLevel depth) fun _ => ?_
  cases d with
  | bigInt digits => exact .copyBigInt digits
  | array items =>
    exact .bind (.newObject _) fun r => .bind (.putItems depth r 0 items all) fun _ => .pure _
  | object fields =>
    exact .bind (.newObject _) fun r => .bind (.putFields depth r fields all) fun _ => .pure _
  | function handle =>
    exact .bind (.restore _ (all handle.id (List.mem_singleton_self _))) fun _ => .pure _
  | _ => exact .pure _

theorem putItems (depth : Nat) (r : Ref) (index : Nat) (items : List Datum)
    (all : ∀ id ∈ Datum.handlesOfItems items, named id.toNat) :
    Composed spends named (putItems depth r index items) := by
  unfold Host.putItems
  cases items with
  | nil => exact .pure _
  | cons item rest =>
    obtain ⟨here, others⟩ := List.forall_mem_append.mp all
    exact .bind (.copyIn (depth + 1) item here) fun _ => .bind (.discard (.demand _)) fun _ =>
      .putItems depth r (index + 1) rest others

theorem putFields (depth : Nat) (r : Ref) (fields : List (String × Datum))
    (all : ∀ id ∈ Datum.handlesOfFields fields, named id.toNat) :
    Composed spends named (putFields depth r fields) := by
  unfold Host.putFields
  match fields with
  | [] => exact .pure _
  | (name, item) :: rest =>
    obtain ⟨here, others⟩ := List.forall_mem_append.mp all
    exact .bind (.copyIn (depth + 1) item here) fun _ => .bind (.discard (.demand _)) fun _ =>
      .putFields depth r rest others

end

/-! ### Copying out -/

theorem takeNode : Composed true named takeNode := by
  refine .bind .get fun s => ?_
  split
  · exact .bind (.failWith _ _) fun _ => .spend rfl
  · exact .spend rfl

section

variable {copy : Value → Host Datum}

theorem copyItems (copies : ∀ v, Composed true named (copy v)) (r : Ref) (count index : Nat)
    (found : List Datum) : Composed true named (copyItems copy r count index found) := by
  induction count generalizing index found with
  | zero => exact .pure _
  | succ count ih => exact .bind (.demand _) fun v => .bind (copies v) fun item => ih _ _

theorem copyFields (copies : ∀ v, Composed true named (copy v)) (r : Ref) (keys : List Key)
    (found : List (String × Datum)) : Composed true named (copyFields copy r keys found) := by
  induction keys generalizing found with
  | nil => exact .pure _
  | cons k rest ih =>
    exact .bind (.exportKey k) fun name => .bind (.demand _) fun v => .bind (copies v) fun item => ih _

end

theorem copyOut (levels : Nat) (v : Value) : Composed true named (copyOut levels v) := by
  induction levels generalizing v with
  | zero => exact .failWith _ _
  | succ levels ih =>
    refine .bind .takeNode fun _ => ?_
    cases v with
    | string text => exact .bind (.exportText text) fun _ => .pure _
    | object r =>
      refine .bind (.look _) fun counted => ?_
      cases counted with
      | array =>
        exact .bind (.exportLength r) fun n => .bind (.copyItems ih r n 0 []) fun _ => .pure _
      | function => exact .bind (.textOf _ _ _) fun name => .bind (.retain r rfl) fun id => .pure _
      | object =>
        exact .bind (.exportKeys r) fun keys => .bind (.copyFields ih r keys []) fun _ => .pure _
      | error =>
        exact .bind (.exportKeys r) fun keys => .bind (.copyFields ih r keys []) fun _ =>
          .bind (.addTexts r _ _) fun _ => .pure _
    | _ => exact .pure _

end Composed

end ScriptHost.Script.Host

namespace ScriptHost.ScriptEngine

open Script Script.Host

variable {spends : Bool} {named : Nat → Prop}

/-! ### Commands -/

theorem settle_composed (v : Value) : Composed spends named (settle v) := by
  unfold settle
  split
  · refine .bind (.look _) fun waits => ?_
    split
    · refine .bind (.discard (.exec _)) fun _ => .bind (.look _) fun kind => ?_
      split
      · exact .pure _
      · exact .fail _
      · exact .failWith _ _
    · exact .pure _
  · exact .pure _

theorem evalScript_composed (request : EvalRequest) (strict : Bool) :
    Composed spends named (evalScript request strict) := by
  unfold evalScript
  dsimp only
  split
  · exact .bind (.throw _ (plain_reason (by decide))) fun _ => .demand _
  · exact .demand _

theorem declared_composed (name source : String) : Composed spends named (do
    let index ← match ← exec (Comp.declareModule name source
        fun index => .done (.value (.nat index))) with
      | .ok (.value (.number d)) => pure (d.toInt?.getD 0).toNat
      | .ok _ => pure 0
      | .error f => fail f
    discard (settle (← demand (Comp.startModule index)))
    demand do return .object (← Comp.namespaceOf index)) := by
  have started (index : Nat) : Composed spends named (do
      discard (settle (← demand (Comp.startModule index)))
      demand do return .object (← Comp.namespaceOf index)) :=
    .bind (.demand _) fun v => .bind (.discard (settle_composed v)) fun _ => .demand _
  refine .bind (.exec _) fun ended => ?_
  split
  · exact .bind (.pure _) started
  · exact .bind (.pure _) started
  · exact .bind (.fail _) started

theorem evalModule_composed (request : EvalRequest) : Composed spends named (evalModule request) := by
  unfold evalModule
  dsimp only
  split
  · exact .bind (.failWith _ _) fun _ => declared_composed _ _
  · exact declared_composed _ _

theorem follow_composed (path : String) (parent current : Value) (segments : List String) :
    Composed spends named (follow path parent current segments) := by
  induction segments generalizing parent current with
  | nil => exact .pure _
  | cons segment rest ih =>
    unfold follow
    split
    · exact .bind (.demand _) fun next => ih _ next
    · exact .failWith _ _

theorem followed_composed (path : String) : Composed spends named (do
    let (parent, f) ← follow path .undefined (.object Intrinsic.global.ref) (path.splitOn ".")
    if ← look (·.callable f) then return (f, parent)
    typeError ("\x60" ++ path ++ "\x60 is not a function")) := by
  refine .bind (follow_composed _ _ _ _) fun found => .bind (.look _) fun callable => ?_
  split
  · exact .pure _
  · exact .failWith _ _

theorem resolvePath_composed (path : String) : Composed spends named (resolve (.path path)) := by
  unfold resolve
  dsimp only
  split
  · exact .bind (.throw _ (plain_reason (by simp [String.toList_append]))) fun _ =>
      followed_composed path
  · exact followed_composed path

theorem resolveRetained_composed {id : UInt64} (known : named id.toNat) :
    Composed spends named (resolve (.retained id)) :=
  .bind (.restore _ known) fun _ => .pure _

theorem copyArguments_composed (args : List Datum)
    (all : ∀ id ∈ Datum.handlesOfItems args, named id.toNat) :
    Composed spends named (args.mapM (copyIn 0)) := by
  induction args with
  | nil => exact .pure _
  | cons arg rest ih =>
    obtain ⟨here, others⟩ := List.forall_mem_append.mp all
    rw [List.mapM_cons]
    exact .bind (.copyIn 0 arg here) fun _ => .bind (ih others) fun _ => .pure _

theorem settled_composed (limits : EngineLimits) (v : Value) :
    Composed spends named (if limits.settlePromises then settle v else pure v) := by
  split
  · exact settle_composed v
  · exact .pure v

end ScriptHost.ScriptEngine

namespace ScriptHost

/-- How many values a result may hold. -/
def EngineLimits.allowance (limits : EngineLimits) : Nat :=
  if limits.nodes = 0 then UInt64.size - 1 else limits.nodes.toNat

theorem EngineLimits.allowance_lt (limits : EngineLimits) : limits.allowance < UInt64.size := by
  unfold allowance
  split
  · exact Nat.sub_lt (by decide) (by decide)
  · exact limits.nodes.toNat_lt

end ScriptHost
