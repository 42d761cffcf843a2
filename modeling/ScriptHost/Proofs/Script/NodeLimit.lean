import ScriptHost.Proofs.Script.Session

/-! How many values a result holds. Every value that is copied out of an engine is paid for out of
the limit on the number of values, but for the texts that an Error object is given under `name`,
`message` and `stack`. So a result holds at most as many values as the limit says and three more for
each Error object that was copied; the copying below counts those. -/

namespace ScriptHost

namespace Datum

theorem nodesOfItems_eq_sum (items : List Datum) : nodesOfItems items = (items.map nodes).sum := by
  induction items with
  | nil => rfl
  | cons item rest ih => rw [nodesOfItems, ih, List.map_cons, List.sum_cons]

theorem nodesOfFields_eq_sum (fields : List (String × Datum)) :
    nodesOfFields fields = (fields.map fun field => field.2.nodes).sum := by
  induction fields with
  | nil => rfl
  | cons field rest ih => rw [nodesOfFields, ih, List.map_cons, List.sum_cons]

theorem nodes_ofDouble (x : Double) : (ofDouble x).nodes = 1 := by
  unfold ofDouble
  split
  · split <;> rfl
  · rfl

theorem nodes_string (text : String) : (Datum.string text).nodes = 1 := rfl

theorem nodesOfFields_insert (name : String) (value : Datum) (fields : Fields Datum) :
    nodesOfFields (fields.insert name value) ≤ value.nodes + nodesOfFields fields := by
  induction fields with
  | nil => simp [Fields.insert, nodesOfFields]
  | cons field rest ih =>
    obtain ⟨key, old⟩ := field
    simp only [Fields.insert]
    split_ifs <;> simp only [nodesOfFields] <;> omega

theorem nodesOfFields_ofList (entries : List (String × Datum)) :
    nodesOfFields (Fields.ofList entries) ≤ nodesOfFields entries := by
  rw [nodesOfFields_eq_sum, nodesOfFields_eq_sum]
  exact Fields.sum_map_le_of_subperm (Fields.ofList_subperm entries) _

end Datum

namespace Script.Host

open Datum

/-! ### Counting the Error objects that are copied -/

/-- `copyItems`, with the numbers of Error objects in what is copied added up. -/
def tallyItems (copy : Value → Host (Datum × Nat)) (r : Ref) :
    Nat → Nat → List Datum → Nat → Host (List Datum × Nat)
  | 0, _, found, errors => return (found.reverse, errors)
  | count + 1, index, found, errors => do
    let (item, more) ← copy (← demand (Comp.get r (.ofNat index)))
    tallyItems copy r count (index + 1) (item :: found) (errors + more)

/-- `copyFields`, with the numbers of Error objects in what is copied added up. -/
def tallyFields (copy : Value → Host (Datum × Nat)) (r : Ref) :
    List Key → List (String × Datum) → Nat → Host (List (String × Datum) × Nat)
  | [], found, errors => return (found.reverse, errors)
  | k :: rest, found, errors => do
    let name ← exportKey k
    let (item, more) ← copy (← demand (Comp.get r k))
    tallyFields copy r rest ((name, item) :: found) (errors + more)

/-- `copyOut`, with the number of Error objects that were copied. -/
def tally : Nat → Value → Host (Datum × Nat)
  | 0, _ => rangeError ("value nesting exceeds " ++ toString maxDepth ++ " levels")
  | levels + 1, v => do
    takeNode
    match v with
    | .undefined | .symbol _ => return (.undefined, 0)
    | .null => return (.null, 0)
    | .bool b => return (.bool b, 0)
    | .number d => return (.ofDouble d, 0)
    | .bigInt i => return (.bigInt (toString i), 0)
    | .string s => return (.string (← exportText s), 0)
    | .object r =>
      match ← look (shape · r) with
      | .array =>
        let n ← exportLength r
        let (items, errors) ← tallyItems (tally levels) r n 0 [] 0
        return (.array items, errors)
      | .function =>
        let name := (← textOf r "name" false).filter (· != "")
        return (.function ⟨UInt64.ofNat (← retain r), name⟩, 0)
      | .object =>
        let (fields, errors) ← tallyFields (tally levels) r (← exportKeys r) [] 0
        return (.object (Fields.ofList fields), errors)
      | .error =>
        let (fields, errors) ← tallyFields (tally levels) r (← exportKeys r) [] 0
        let fields ← addTexts r ["name", "message", "stack"] (Fields.ofList fields)
        return (.object fields, errors + 1)

section

variable {copy : Value → Host Datum} {counted : Value → Host (Datum × Nat)}

theorem copyItems_eq (same : ∀ v, copy v = Prod.fst <$> counted v) (r : Ref) (count index : Nat)
    (found : List Datum) (errors : Nat) :
    copyItems copy r count index found =
      Prod.fst <$> tallyItems counted r count index found errors := by
  induction count generalizing index found errors with
  | zero => rfl
  | succ count ih =>
    refine ext fun s => ?_
    simp only [copyItems, tallyItems, after_bind, after_map, same]
    rcases after (demand (Comp.get r (.ofNat index))) s with ⟨_ | v, t⟩
    · rfl
    · dsimp only
      rcases after (counted v) t with ⟨_ | ⟨item, more⟩, u⟩
      · rfl
      · simp only [Except.map, ih (index + 1) (item :: found) (errors + more), after_map]

theorem copyFields_eq (same : ∀ v, copy v = Prod.fst <$> counted v) (r : Ref) (keys : List Key)
    (found : List (String × Datum)) (errors : Nat) :
    copyFields copy r keys found = Prod.fst <$> tallyFields counted r keys found errors := by
  induction keys generalizing found errors with
  | nil => rfl
  | cons k rest ih =>
    refine ext fun s => ?_
    simp only [copyFields, tallyFields, after_bind, after_map, same]
    rcases after (exportKey k) s with ⟨_ | name, t⟩
    · rfl
    dsimp only
    rcases after (demand (Comp.get r k)) t with ⟨_ | v, u⟩
    · rfl
    dsimp only
    rcases after (counted v) u with ⟨_ | ⟨item, more⟩, w⟩
    · rfl
    · simp only [Except.map, ih ((name, item) :: found) (errors + more), after_map]

end

/-- `copyOut`, with what the fields of each object and each Error object count for added up. -/
def weigh (ofFields : List (String × Datum) → Nat) (ofError : Nat) : Nat → Value → Host (Datum × Nat)
  | 0, _ => rangeError ("value nesting exceeds " ++ toString maxDepth ++ " levels")
  | levels + 1, v => do
    takeNode
    match v with
    | .undefined | .symbol _ => return (.undefined, 0)
    | .null => return (.null, 0)
    | .bool b => return (.bool b, 0)
    | .number d => return (.ofDouble d, 0)
    | .bigInt i => return (.bigInt (toString i), 0)
    | .string s => return (.string (← exportText s), 0)
    | .object r =>
      match ← look (shape · r) with
      | .array =>
        let n ← exportLength r
        let (items, weight) ← tallyItems (weigh ofFields ofError levels) r n 0 [] 0
        return (.array items, weight)
      | .function =>
        let name := (← textOf r "name" false).filter (· != "")
        return (.function ⟨UInt64.ofNat (← retain r), name⟩, 0)
      | .object =>
        let (fields, weight) ← tallyFields (weigh ofFields ofError levels) r (← exportKeys r) [] 0
        return (.object (Fields.ofList fields), weight + ofFields fields)
      | .error =>
        let (fields, weight) ← tallyFields (weigh ofFields ofError levels) r (← exportKeys r) [] 0
        let all ← addTexts r ["name", "message", "stack"] (Fields.ofList fields)
        return (.object all, weight + ofFields fields + ofError)

/-- Weighing changes nothing of what is copied. -/
theorem copyOut_eq_weigh (ofFields : List (String × Datum) → Nat) (ofError levels : Nat) (v : Value) :
    copyOut levels v = Prod.fst <$> weigh ofFields ofError levels v := by
  -- Both go the same way, and differ only in what they return when they are through.
  induction levels generalizing v with
  | zero => rfl
  | succ levels ih =>
    refine ext fun s => ?_
    have items (r : Ref) (n : Nat) := copyItems_eq ih r n 0 [] 0
    have fields (r : Ref) (keys : List Key) := copyFields_eq ih r keys [] 0
    unfold copyOut weigh
    simp only [after_bind, after_map]
    rcases after takeNode s with ⟨_ | _, t⟩
    · rfl
    cases v with
    | string text =>
      simp only [after_bind]
      rcases after (exportText text) t with ⟨_ | _, u⟩ <;> rfl
    | object r =>
      simp only [after_bind, after_look]
      cases shape t.heap r with
      | array =>
        simp only [after_bind, items, after_map]
        rcases after (exportLength r) t with ⟨_ | n, u⟩
        · rfl
        · dsimp only
          rcases after (tallyItems (weigh ofFields ofError levels) r n 0 [] 0) u with ⟨_ | _, _⟩ <;> rfl
      | function =>
        simp only [after_bind]
        rcases after (textOf r "name" false) t with ⟨_ | _, u⟩ <;> rfl
      | error =>
        simp only [after_bind, fields, after_map]
        rcases after (exportKeys r) t with ⟨_ | keys, u⟩
        · rfl
        · dsimp only
          rcases after (tallyFields (weigh ofFields ofError levels) r keys [] 0) u with
            ⟨_ | ⟨found, weight⟩, w⟩
          · rfl
          · simp only [Except.map]
            rcases after (addTexts r _ _) w with ⟨_ | _, _⟩ <;> rfl
      | object =>
        simp only [after_bind, fields, after_map]
        rcases after (exportKeys r) t with ⟨_ | keys, u⟩
        · rfl
        · dsimp only
          rcases after (tallyFields (weigh ofFields ofError levels) r keys [] 0) u with
            ⟨_ | _, _⟩ <;> rfl
    | _ => rfl

/-- The tally is a weighing: an Error object counts for one, and fields for nothing. -/
theorem tally_eq_weigh (levels : Nat) : tally levels = weigh (fun _ => 0) 1 levels := by
  induction levels with
  | zero => rfl
  | succ levels ih =>
    funext v
    unfold tally weigh
    rw [ih]
    rfl

/-- Counting changes nothing of what is copied. -/
theorem copyOut_eq (levels : Nat) (v : Value) : copyOut levels v = Prod.fst <$> tally levels v := by
  rw [tally_eq_weigh]
  exact copyOut_eq_weigh _ _ levels v

/-! ### What is paid -/

/-- What the action gives is worth no more than it takes from the number of values that are left. -/
def Paid {α : Type} (m : Host α) (worth : α → Int) : Prop :=
  ∀ s a t, after m s = (.ok a, t) → worth a ≤ (s.nodesLeft : Int) - t.nodesLeft

namespace Paid

variable {α β : Type} {m : Host α} {f : α → Host β} {worth : β → Int}

theorem pure {b : β} (free : worth b ≤ 0) : Paid (Pure.pure b) worth := by
  intro s a t ended
  obtain ⟨rfl, rfl⟩ : b = a ∧ s = t := by simpa using ended
  omega

theorem throw (e : EngineError) : Paid (throw e : Host β) worth := by
  intro s a t ended
  cases ended

theorem bind {spent : α → Int} (first : Paid m spent)
    (rest : ∀ a, Paid (f a) fun b => worth b - spent a) : Paid (m >>= f) worth := by
  intro s b u ended
  rw [after_bind] at ended
  rcases ran : after m s with ⟨_ | a, t⟩ <;> rw [ran] at ended
  · cases ended
  · have before := first s a t ran
    have behind := rest a t b u ended
    dsimp only at behind
    omega

theorem of_thrifty (free : Thrifty m) : Paid m fun _ => 0 := by
  intro s a t ended
  have kept := free s
  rw [ended] at kept
  dsimp only at kept ⊢
  omega

/-- What is done for nothing first makes no difference. -/
theorem after_free (free : Thrifty m) (rest : ∀ a, Paid (f a) worth) : Paid (m >>= f) worth :=
  (of_thrifty free).bind fun a => by simpa using rest a

theorem after_composed (free : Composed false (fun _ => False) m) (rest : ∀ a, Paid (f a) worth) :
    Paid (m >>= f) worth :=
  after_free free.thrifty rest

theorem mono {less : β → Int} {m : Host β} (paid : Paid m worth) (le : ∀ b, less b ≤ worth b) :
    Paid m less :=
  fun s b t ended => (le b).trans (paid s b t ended)

end Paid

theorem takeNode_paid : Paid takeNode fun _ => 1 := by
  intro s a t ended
  unfold takeNode at ended
  rw [after_bind, after_get] at ended
  dsimp only at ended
  split at ended
  · rw [after_bind] at ended
    cases ended
  · rw [after_modify, Prod.mk.injEq] at ended
    obtain ⟨-, rfl⟩ := ended
    dsimp only
    omega

theorem addTexts_paid (r : Ref) (names : List String) (fields : Fields Datum) :
    Paid (addTexts r names fields) fun out =>
      nodesOfFields out - nodesOfFields fields - names.length := by
  induction names generalizing fields with
  | nil => exact .pure (by simp)
  | cons name rest ih =>
    have skipped : Paid (addTexts r rest fields) fun out =>
        nodesOfFields out - nodesOfFields fields - (name :: rest).length :=
      (ih fields).mono fun out => by simp only [List.length_cons]; omega
    unfold addTexts
    split
    · exact skipped
    · refine .after_composed (.textOf _ _ _) fun text => ?_
      split
      · rename_i text
        have one := nodesOfFields_insert name (.string text) fields
        rw [nodes_string] at one
        exact (ih _).mono fun out => by simp only [List.length_cons]; omega
      · exact skipped

/-- What a copied value is worth: three less for each Error object in it. -/
def price : Datum × Nat → Int := fun (d, errors) => d.nodes - 3 * errors

section

variable {copy : Value → Host (Datum × Nat)}

theorem tallyItems_paid (pays : ∀ v, Paid (copy v) price) (r : Ref) (count index : Nat)
    (found : List Datum) (before : Nat) :
    Paid (tallyItems copy r count index found before) fun (items, errors) =>
      (nodesOfItems items - 3 * errors : Int) - (nodesOfItems found - 3 * before) := by
  induction count generalizing index found before with
  | zero => exact .pure (by simp [nodesOfItems_eq_sum, List.sum_reverse])
  | succ count ih =>
    refine .after_composed (.demand _) fun v => (pays v).bind fun (item, more) => ?_
    refine (ih (index + 1) (item :: found) (before + more)).mono fun (items, errors) => ?_
    simp only [price, nodesOfItems]
    omega

theorem tallyFields_paid (pays : ∀ v, Paid (copy v) price) (r : Ref) (keys : List Key)
    (found : List (String × Datum)) (before : Nat) :
    Paid (tallyFields copy r keys found before) fun (fields, errors) =>
      (nodesOfFields fields - 3 * errors : Int) - (nodesOfFields found - 3 * before) := by
  induction keys generalizing found before with
  | nil => exact .pure (by simp [nodesOfFields_eq_sum, List.sum_reverse])
  | cons k rest ih =>
    refine .after_composed (.exportKey _) fun name => .after_composed (.demand _) fun v =>
      (pays v).bind fun (item, more) => ?_
    refine (ih ((name, item) :: found) (before + more)).mono fun (fields, errors) => ?_
    simp only [price, nodesOfFields]
    omega

end

/-- Whatever is copied is paid for, but for three values for each Error object. -/
theorem tally_paid (levels : Nat) (v : Value) : Paid (tally levels v) price := by
  induction levels generalizing v with
  | zero => exact .throw _
  | succ levels ih =>
    refine takeNode_paid.bind fun _ => ?_
    -- The node that was taken pays for a value that holds no other ones.
    have leaf {d : Datum} (single : d.nodes = 1) :
        Paid (pure (d, 0)) fun b => price b - 1 := .pure (by simp [price, single])
    cases v with
    | undefined | symbol | null | bool | bigInt => exact leaf rfl
    | number x => exact leaf (nodes_ofDouble x)
    | string text => exact .after_composed (.exportText text) fun _ => leaf rfl
    | object r =>
      refine .after_composed (.look _) fun counted => ?_
      cases counted with
      | array =>
        refine .after_composed (.exportLength r) fun n => (tallyItems_paid ih r n 0 [] 0).bind ?_
        exact fun (items, errors) => .pure (by simp only [price, nodes, nodesOfItems]; omega)
      | function =>
        exact .after_composed (.textOf _ _ _) fun name => .after_free (fun _ => rfl) fun id => leaf rfl
      | object =>
        refine .after_composed (.exportKeys r) fun keys => (tallyFields_paid ih r keys [] 0).bind ?_
        intro (fields, errors)
        have fewer := nodesOfFields_ofList fields
        exact .pure (by simp only [price, nodes, nodesOfFields]; omega)
      | error =>
        refine .after_composed (.exportKeys r) fun keys => (tallyFields_paid ih r keys [] 0).bind ?_
        intro (fields, errors)
        have fewer := nodesOfFields_ofList fields
        refine (addTexts_paid r _ (Fields.ofList fields)).bind fun all => .pure ?_
        simp only [price, nodes, nodesOfFields, List.length_cons, List.length_nil]
        omega

end Script.Host

namespace ScriptEngine

open Script Script.Host

/-! ### Commands that give a value of the engine -/

/-- What gives the value that a command copies out of the engine, if it copies one. -/
def source? (limits : EngineLimits) : Command → Option (Host Value)
  | .eval request => some do
    if request.asModule then evalModule request
    else
      let v ← evalScript request (request.strict.getD limits.strict)
      if limits.settlePromises then settle v else pure v
  | .call request => some do
    let (f, this) ← resolve request.function
    let args ← request.args.mapM (copyIn 0)
    let v ← demand (Comp.call f this args)
    if limits.settlePromises then settle v else pure v
  | .getGlobal name => some (demand (Comp.get Intrinsic.global.ref (Key.ofString name)))
  | .setGlobal _ | .release _ | .runJobs => none

variable {limits : EngineLimits} {source : Host Value}

theorem source_composed {spends : Bool} {command : Command}
    (found : source? limits command = some source) : Composed spends command.Names source := by
  have all : ∀ id ∈ command.handles, command.Names id.toNat := fun id member => ⟨id, member, rfl⟩
  cases command with
  | eval request =>
    obtain rfl := Option.some.inj found
    split
    · exact evalModule_composed request
    · exact .bind (evalScript_composed _ _) (settled_composed limits)
  | call request =>
    obtain rfl := Option.some.inj found
    obtain ⟨target, args⟩ := request
    cases target with
    | path path =>
      exact .bind (resolvePath_composed path) fun (f, this) => .bind (copyArguments_composed args all)
        fun values => .bind (.demand _) (settled_composed limits)
    | retained id =>
      obtain ⟨known, others⟩ := List.forall_mem_cons.mp all
      exact .bind (resolveRetained_composed known) fun (f, this) =>
        .bind (copyArguments_composed args others) fun values =>
          .bind (.demand _) (settled_composed limits)
  | getGlobal name =>
    obtain rfl := Option.some.inj found
    exact .demand _
  | setGlobal | release | runJobs => cases found

theorem source_thrifty {command : Command} (found : source? limits command = some source) :
    Thrifty source :=
  (source_composed found).thrifty

/-- The session that a command begins in. -/
def opening (e : ScriptEngine) (timed : Bool) : Session where
  heap := e.heap
  coroutines := e.coroutines
  time := if timed then budget e.limits else none
  nodesLeft := e.limits.allowance

theorem classify_error (limits : EngineLimits) (heap : Heap) (e : EngineError) :
    ∃ other, (classify limits heap (.error e)).1 = .error other := by
  unfold classify
  split
  · split <;> exact ⟨_, rfl⟩
  · exact ⟨_, rfl⟩

theorem within_value {action : Host Datum} {timed : Bool} {e : ScriptEngine} {d : Datum}
    (ended : (within action timed e).1 = .value d) :
    (after action (opening e timed)).1 = .ok d := by
  obtain ⟨handle, limits, heap, coroutines⟩ := e
  rcases ran : after action (opening ⟨handle, limits, heap, coroutines⟩ timed) with ⟨r, s⟩
  unfold after opening EngineLimits.allowance at ran
  dsimp only at ran
  unfold within at ended
  simp only [ran] at ended
  cases r with
  | ok found => exact congrArg Except.ok (Outcome.value.inj ended)
  | error failure =>
    obtain ⟨other, failed⟩ := classify_error limits s.heap failure
    rw [failed] at ended
    cases ended

theorem evaluate_eq {request : EvalRequest} (found : source? limits (.eval request) = some source) :
    evaluate limits request = source >>= exportValue := by
  obtain rfl := Option.some.inj found
  unfold evaluate
  split
  · rfl
  · rw [bind_assoc]
    refine bind_congr fun v => ?_
    split <;> rfl

theorem call_eq {request : CallRequest} (found : source? limits (.call request) = some source) :
    call limits request = source >>= exportValue := by
  obtain rfl := Option.some.inj found
  unfold call
  simp only [bind_assoc]
  refine bind_congr fun (f, this) => bind_congr fun args => bind_congr fun v => ?_
  split <;> rfl

/-- Is a command that copies a value out given a time? -/
def isTimed : Command → Bool
  | .getGlobal _ => false
  | _ => true

/-- A value that a command copies out of the engine. -/
theorem copied_of_run {command : Command} {e : ScriptEngine} {d : Datum}
    (found : source? e.limits command = some source) (ran : (run command e).1 = .value d) :
    (after (source >>= exportValue) (opening e (isTimed command))).1 = .ok d := by
  unfold run at ran
  cases allowed : refusal? command with
  | some reason =>
    rw [allowed] at ran
    cases ran
  | none =>
    rw [allowed] at ran
    cases command with
    | eval request =>
      rw [← evaluate_eq found]
      exact within_value ran
    | call request =>
      rw [← call_eq found]
      exact within_value ran
    | getGlobal name =>
      obtain rfl := Option.some.inj found
      exact within_value ran
    | setGlobal | release | runJobs => cases found

/-- How many Error objects are copied out of the engine for a command. -/
def errorsCopied (command : Command) (e : ScriptEngine) : Nat :=
  match source? e.limits command with
  | none => 0
  | some source =>
    match after (source >>= tally (maxDepth + 1)) (opening e (isTimed command)) with
    | (.ok (_, errors), _) => errors
    | (.error _, _) => 0

/-- What a command gives holds no more values than the limit says, if no Error object is in it; each
of those may add the texts of its name, its message and its stack. -/
theorem nodes_le_limit {command : Command} {e : ScriptEngine} {d : Datum}
    (limited : e.limits.nodes ≠ 0) (copies : (source? e.limits command).isSome)
    (ran : (run command e).1 = .value d) :
    d.nodes ≤ e.limits.nodes.toNat + 3 * errorsCopied command e := by
  obtain ⟨source, found⟩ := Option.isSome_iff_exists.mp copies
  have copied := copied_of_run found ran
  have budget : (opening e (isTimed command)).nodesLeft = e.limits.nodes.toNat := by
    simp [opening, EngineLimits.allowance, limited]
  have counted : source >>= exportValue = Prod.fst <$> (source >>= tally (maxDepth + 1)) := by
    rw [map_bind]
    exact congrArg (source >>= ·) (funext fun v => copyOut_eq (maxDepth + 1) v)
  have paid := Paid.after_free (source_thrifty found) fun v => tally_paid (maxDepth + 1) v
  rw [counted, after_map] at copied
  unfold errorsCopied
  rw [found]
  dsimp only
  rcases ended : after (source >>= tally (maxDepth + 1)) (opening e (isTimed command)) with
    ⟨_ | ⟨d', errors⟩, t⟩ <;> rw [ended] at copied
  · cases copied
  · obtain rfl : d' = d := Except.ok.inj copied
    have worth := paid _ _ _ ended
    rw [budget] at worth
    simp only [price] at worth ⊢
    omega

/-- An engine for which one value is enough, with an Error object under a global name. -/
def faulty : ScriptEngine :=
  let (fault, heap) := Realm.bare.newError .error "lost"
  let heap := Realm.put heap Intrinsic.errorPrototype.ref "name" (.hiddenPlain (.text "Error"))
  { handle := 1, limits := { nodes := 1 }
    heap := Realm.put heap Intrinsic.global.ref "fault" (.plain fault) }

theorem faulty_run : ∃ d, (run (.getGlobal "fault") faulty).1 = .value d ∧ d.nodes = 4 := by
  have nodes : (match (run (.getGlobal "fault") faulty).1 with
    | .value d => d.nodes
    | _ => 0) = 4 := by decide +kernel
  split at nodes
  · exact ⟨_, ‹_›, nodes⟩
  · cases nodes

/-- The three texts of an Error object are all that goes beyond the limit. -/
theorem nodes_le_limit_error : faulty.limits.nodes ≠ 0 ∧
    (source? faulty.limits (.getGlobal "fault")).isSome ∧ errorsCopied (.getGlobal "fault") faulty = 1 ∧
    ∃ d, (run (.getGlobal "fault") faulty).1 = .value d ∧
      d.nodes ≤ faulty.limits.nodes.toNat + 3 * errorsCopied (.getGlobal "fault") faulty := by
  obtain ⟨d, ran, -⟩ := faulty_run
  exact ⟨by decide +kernel, rfl, by decide +kernel, d, ran,
    nodes_le_limit (by decide +kernel) rfl ran⟩

/-- A result may hold more values than the limit says. -/
theorem error_beyond_limit : faulty.limits.nodes ≠ 0 ∧
    ∃ d, (run (.getGlobal "fault") faulty).1 = .value d ∧ faulty.limits.nodes.toNat < d.nodes := by
  obtain ⟨d, ran, nodes⟩ := faulty_run
  refine ⟨by decide +kernel, d, ran, ?_⟩
  rw [nodes]
  decide +kernel

end ScriptEngine

end ScriptHost
