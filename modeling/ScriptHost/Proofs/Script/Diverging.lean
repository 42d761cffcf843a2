import ScriptHost.Proofs.Script.Calling

/-! Computations that never end. Where no time is set, a run of the machine that comes to such a computation
is not through after any number of steps, whatever waits for the result. A loop without a test and
without a way out is one; so is a call of a function with nothing but that loop in it, and so is a look
at a property that has the function for its getter. -/

namespace ScriptHost.Script

variable {α β : Type}

/-- A run that is not through was not through before. -/
theorem Machine.unfinished_of_add {i : Interpreter} {n bound : Nat} {m : Machine}
    (unfinished : (run i (n + bound) m).1 = .unfinished) : (run i bound m).1 = .unfinished := by
  induction bound generalizing m with
  | zero => rfl
  | succ bound ih =>
    rw [← Nat.add_assoc] at unfinished
    unfold run at unfinished ⊢
    cases stepped : m.step i with
    | on next =>
      rw [stepped] at unfinished
      exact ih unfinished
    | ended r last =>
      rw [stepped] at unfinished
      cases unfinished

namespace Comp

variable {h h' : Heap}

/-- However many steps a run makes, with no time set, it is not through with the computation. -/
def Diverges (c : Comp α) (h : Heap) : Prop :=
  ∀ (k : α → Prog) (coroutines : Array (Option Parked)) (frames : List Frame)
    (resumers : List Resumer) (tripped : Bool) (bound : Nat),
    (Machine.run scripts bound ⟨c k, h, coroutines, frames, resumers, none, tripped⟩).1 = .unfinished

theorem Takes.diverges {c : Comp α} {f : α → Comp β} {n : Nat} {a : α} (takes : Takes none c h n a h')
    (rest : Diverges (f a) h') : Diverges (c >>= f) h := by
  intro k coroutines frames resumers tripped bound
  have ran := takes (fun a => f a k) coroutines frames resumers tripped bound
  refine Machine.unfinished_of_add (n := n) ?_
  exact (congrArg Prod.fst ran).trans (rest k coroutines frames resumers tripped bound)

namespace Diverges

/-- What never ends is never followed by anything. -/
theorem bind {c : Comp α} {f : α → Comp β} (diverges : Diverges c h) : Diverges (c >>= f) h :=
  fun k => diverges fun a => f a k

theorem of_task {t : Task} {c : Comp α} {k : α → Prog} {asked : Comp β} (diverges : Diverges c h)
    (performs : scripts.perform t = c k) (asks : ∀ k', ∃ next, asked k' = .request t next) :
    Diverges asked h := by
  intro k' coroutines frames resumers tripped bound
  obtain ⟨next, request⟩ := asks k'
  rw [request]
  cases bound with
  | zero => rfl
  | succ bound =>
    have ran := diverges k coroutines (.wait next :: frames) resumers tripped bound
    rw [← performs] at ran
    exact ran

theorem ask {t : Task} {c : Comp α} {k : α → Prog} (diverges : Diverges c h)
    (performs : scripts.perform t = c k) : Diverges (ask t) h :=
  diverges.of_task performs fun k' => ⟨k', rfl⟩

theorem askValue {t : Task} {c : Comp α} {k : α → Prog} (diverges : Diverges c h)
    (performs : scripts.perform t = c k) : Diverges (askValue t) h :=
  diverges.of_task performs fun _ => ⟨_, rfl⟩

theorem attempt {c : Comp Result} (diverges : Diverges c h) : Diverges (attempt c) h := by
  intro k coroutines frames resumers tripped bound
  cases bound with
  | zero => rfl
  | succ bound => exact diverges .done coroutines (.guard k :: frames) resumers tripped bound

theorem within {a : Activation} {body : Comp Result} (room : h.depth < h.quota.calls)
    (diverges : Diverges body (h.entered a)) : Diverges (within a body) h :=
  (Takes.checkDepth room).diverges ((Takes.read _ h).diverges ((Takes.update _ h).diverges
    diverges.attempt.bind))

end Diverges

/-! ### A loop without an end -/

/-- A round of `for (;;);`. -/
def emptyRound (scope : Scope) : Nat → Comp Result := loopRound none none [] .empty [] scope

theorem again_diverges (scope : Scope) (h : Heap) : Diverges (again (emptyRound scope)) h := by
  -- Each round takes the machine to the start of the next one.
  have round (m : Machine) (unlimited : m.time = none) (bound n : Nat) : (Machine.run scripts bound
      { m with prog := scripts.perform (.again n fun n => emptyRound scope n .done) }).1 =
        .unfinished := by
    obtain ⟨prog, heap, coroutines, frames, resumers, time, tripped⟩ := m
    obtain rfl : time = none := unlimited
    induction bound using Nat.strong_induction_on generalizing n with
    | h bound ih =>
      match bound with
      | 0 | 1 | 2 | 3 | 4 => rfl
      | rest + 5 => exact ih rest (by omega) (n + 1)
  intro k coroutines frames resumers tripped bound
  cases bound with
  | zero => rfl
  | succ bound => exact round ⟨default, h, coroutines, _ :: frames, resumers, none, tripped⟩ rfl bound 0

/-- The function of a getter with nothing but `for (;;);` in it. -/
def forever : Function where
  info := { kind := .getter }
  params := []
  rest := none
  body := ⟨[], [], [.loop none none none [] .empty]⟩

theorem runBody_diverges (outer scope : Scope) (silent : scope.completion = none) (h : Heap) :
    Diverges (runBody { code := forever, scope := outer } scope) h := by
  have loop : Diverges (performStmt (.loop none none none [] .empty) scope) h := by
    have unset : complete .undefined scope = pure () := by rw [complete, silent]
    show Diverges (complete .undefined scope >>= fun _ => again (emptyRound scope)) h
    rw [unset]
    exact again_diverges scope h
  have block : Diverges (performStmt (.block forever.body) scope) h := loop.ask (k := .done) rfl
  exact block.ask (k := .done) rfl

theorem call_diverges {getter object : Ref} {outer : Scope} (silent : outer.completion = none)
    (code : h.kind getter = .closure { code := forever, scope := outer })
    (room : h.depth < h.quota.calls) : Diverges (call (.object getter) (.object object) []) h := by
  have entered (h : Heap) : Diverges (enter { code := forever, scope := outer } getter
      (some (.object object)) [] .undefined >>= runBody { code := forever, scope := outer }) h := by
    show Diverges (change (fun h => h.newCell (some (.object object))) >>= fun cell =>
      runBody { code := forever, scope := outer } (outer.push (.function getter .undefined cell))) h
    exact (Takes.change _ h).diverges (runBody_diverges outer (outer.push _) silent _)
  have performed : Diverges (performCall builtins (.object getter) (.object object) []) h := by
    refine (Takes.read _ h).diverges ?_
    rw [code]
    exact (Diverges.within room (entered _)).bind
  exact performed.askValue (k := fun v => .done (.value v)) rfl

/-- A look at a property whose getter is such a function. -/
theorem get_diverges {r getter : Ref} {k : Key} {set : Value} {enumerable configurable : Bool}
    {outer : Scope} (silent : outer.completion = none)
    (plain : h.isProxy r = false) (known : unsetName h r k = false)
    (own : h.ownProperty r k = some ⟨.accessor (.object getter) set, enumerable, configurable⟩)
    (code : h.kind getter = .closure { code := forever, scope := outer })
    (room : h.depth < h.quota.calls) : Diverges (get r k) h := by
  have found : h.lookup r k =
      .property ⟨.accessor (.object getter) set, enumerable, configurable⟩ := by
    rw [Heap.lookup, Heap.search, plain, own]
    rfl
  refine (Takes.read _ h).diverges ?_
  rw [known, if_neg Bool.false_ne_true, found]
  exact call_diverges silent code room

end Comp

end ScriptHost.Script
