import ScriptHost.Proofs.Script.Session

/-! What computations come to on the machine. One that looks at the heap and changes it goes straight
on, a step for each time it does; so it can be followed without the machine, and what the host has
the engine do is then known too. Time passes only where a task is begun.

What is read of a heap when no code has a part in it is the value of a property, and the keys of the
properties that are listed. Reading is one step for each look at the heap and leaves the heap alone. What
it gives does not depend on what is kept for the host, nor on the calls under way. -/

namespace ScriptHost.Script

variable {α β : Type}

namespace Comp

/-- With this much time, the computation takes so many steps from one heap to another, and gives
this. -/
def Takes (time : Option Nat) (c : Comp α) (h : Heap) (steps : Nat) (a : α) (h' : Heap) : Prop :=
  ∀ (k : α → Prog) (coroutines : Array (Option Parked)) (frames : List Frame)
    (resumers : List Resumer) (tripped : Bool) (bound : Nat),
    Machine.run scripts (steps + bound) ⟨c k, h, coroutines, frames, resumers, time, tripped⟩ =
      Machine.run scripts bound ⟨k a, h', coroutines, frames, resumers, time, tripped⟩

/-- The same, where some of the time passes. -/
def Lasts (time left : Option Nat) (c : Comp α) (h : Heap) (steps : Nat) (a : α) (h' : Heap) : Prop :=
  ∀ (k : α → Prog) (coroutines : Array (Option Parked)) (frames : List Frame)
    (resumers : List Resumer) (tripped : Bool) (bound : Nat),
    Machine.run scripts (steps + bound) ⟨c k, h, coroutines, frames, resumers, time, tripped⟩ =
      Machine.run scripts bound ⟨k a, h', coroutines, frames, resumers, left, tripped⟩

namespace Takes

variable {time : Option Nat} {c : Comp α} {f : α → Comp β} {h h' h'' : Heap} {m n : Nat} {a : α}
  {b : β}

theorem lasts (takes : Takes time c h n a h') : Lasts time time c h n a h' := takes

theorem cast (same : m = n) (takes : Takes time c h m a h') : Takes time c h n a h' := same ▸ takes

theorem pure (a : α) (h : Heap) : Takes time (pure a) h 0 a h := by
  intro k coroutines frames resumers tripped bound
  rw [Nat.zero_add]
  rfl

theorem bind (first : Takes time c h m a h') (rest : Takes time (f a) h' n b h'') :
    Takes time (c >>= f) h (m + n) b h'' := by
  intro k coroutines frames resumers tripped bound
  rw [Nat.add_assoc]
  exact (first _ _ _ _ _ _).trans (rest k _ _ _ _ _)

theorem change (g : Heap → α × Heap) (h : Heap) : Takes time (change g) h 1 (g h).1 (g h).2 := by
  intro k coroutines frames resumers tripped bound
  rw [Nat.add_comm]
  rfl

theorem read (g : Heap → α) (h : Heap) : Takes time (read g) h 1 (g h) h := by
  intro k coroutines frames resumers tripped bound
  rw [Nat.add_comm]
  rfl

theorem update (g : Heap → Heap) (h : Heap) : Takes time (update g) h 1 () (g h) := by
  intro k coroutines frames resumers tripped bound
  rw [Nat.add_comm]
  rfl

/-- Looking at the heap first. -/
theorem after_read {g : Heap → α} (rest : Takes time (f (g h)) h n b h') :
    Takes time (Comp.read g >>= f) h (n + 1) b h' := by
  rw [Nat.add_comm]
  exact (read g h).bind rest

end Takes

end Comp

/-- The session once a computation has left this heap: no call is under way, and the same functions are
kept. -/
def Session.left (s : Session) (h : Heap) : Session :=
  { s with heap := { h with activations := [], depth := 0, retained := s.heap.retained } }

namespace Host

variable {s : Session} {c : Comp α} {n : Nat} {a : α} {h : Heap} {v : Value}

theorem after_lift (g : Session → α × Session) (s : Session) :
    after (ExceptT.lift (modifyGet g)) s = (.ok (g s).1, (g s).2) := rfl

theorem after_exec_lasts {k : α → Prog} {r : Result} {left : Option Nat}
    (lasts : c.Lasts s.time left s.heap n a h) (ends : k a = .done r) (within : n < stepBound) :
    after (exec (c k)) s = (.ok (.ok r), { s.left h with time := left }) := by
  obtain ⟨bound, split⟩ : ∃ bound, stepBound = n + (bound + 1) :=
    ⟨stepBound - n - 1, by omega⟩
  have ran := lasts k s.coroutines [] [] s.tripped (bound + 1)
  rw [← split, ends] at ran
  have whole : Machine.run scripts stepBound
      ⟨c k, s.heap, s.coroutines, [], [], s.time, s.tripped⟩ =
      (.finished (.ok r), ⟨.done r, h, s.coroutines, [], [], left, s.tripped⟩) := ran
  obtain ⟨heap, coroutines, time, tripped, nodesLeft⟩ := s
  dsimp only at whole
  unfold exec
  rw [after_lift]
  dsimp only
  rw [whole]
  rfl

theorem after_exec {k : α → Prog} {r : Result} (takes : c.Takes s.time s.heap n a h)
    (ends : k a = .done r) (within : n < stepBound) :
    after (exec (c k)) s = (.ok (.ok r), s.left h) :=
  after_exec_lasts takes.lasts ends within

theorem after_value_lasts {c : Comp Value} {left : Option Nat} (lasts : c.Lasts s.time left s.heap n v h)
    (within : n < stepBound) :
    after (value c) s = (.ok (.ok v), { s.left h with time := left }) := by
  have ran : after (exec c.toProg) s = (.ok (.ok (.value v)), { s.left h with time := left }) :=
    after_exec_lasts (c := c) (k := fun v => .done (.value v)) lasts rfl within
  rw [value, after_bind, ran]
  rfl

theorem after_value {c : Comp Value} (takes : c.Takes s.time s.heap n v h) (within : n < stepBound) :
    after (value c) s = (.ok (.ok v), s.left h) :=
  after_value_lasts takes.lasts within

theorem after_demand_lasts {c : Comp Value} {left : Option Nat}
    (lasts : c.Lasts s.time left s.heap n v h) (within : n < stepBound) :
    after (demand c) s = (.ok v, { s.left h with time := left }) := by
  rw [demand, after_bind, after_value_lasts lasts within]
  rfl

theorem after_demand {c : Comp Value} (takes : c.Takes s.time s.heap n v h) (within : n < stepBound) :
    after (demand c) s = (.ok v, s.left h) :=
  after_demand_lasts takes.lasts within

end Host

end ScriptHost.Script

/-! ### Reading a heap -/

namespace ScriptHost.Script

open Script.Comp

namespace Heap

/-- The value of a property, where reading it runs no code. -/
def settled? (h : Heap) (r : Ref) (k : Key) : Option Value :=
  if unsetName h r k then none
  else
    match h.lookup r k with
    | .property p => p.value?
    | .missing => some .undefined
    | .elsewhere _ => none

/-- The keys with text whose properties are listed. -/
def listed (h : Heap) (r : Ref) : List Key :=
  ((h.ownKeys r).filter Key.isText).filter fun k => (h.ownProperty r k).any (·.enumerable)

/-! ### Other calls, other functions kept -/

/-- The heap with other functions kept for the host, and with other calls under way. -/
def apart (h : Heap) (retained : Retained) (activations : List Activation) (depth : Nat) : Heap :=
  { h with retained := retained, activations := activations, depth := depth }

variable (h : Heap) (retained : Retained) (activations : List Activation) (depth : Nat)

theorem resolveExport_apart (limit : Nat) :
    (h.apart retained activations depth).resolveExport limit = h.resolveExport limit := by
  induction limit with
  | zero => rfl
  | succ limit ih =>
    funext seen index name
    simp only [resolveExport, ih]
    rfl

theorem resolve_apart (index : Nat) (name : Name) :
    (h.apart retained activations depth).resolve index name = h.resolve index name := by
  unfold resolve
  rw [resolveExport_apart]
  rfl

theorem exportNames_apart (limit : Nat) :
    (h.apart retained activations depth).exportNames limit = h.exportNames limit := by
  induction limit with
  | zero => rfl
  | succ limit ih =>
    funext seen index
    simp only [exportNames, ih]
    rfl

theorem ownProperty_apart (r : Ref) (k : Key) :
    (h.apart retained activations depth).ownProperty r k = h.ownProperty r k := by
  unfold ownProperty
  simp only [resolve_apart]
  rfl

theorem search_apart (limit : Nat) (r : Ref) (k : Key) :
    (h.apart retained activations depth).search limit r k = h.search limit r k := by
  induction limit generalizing r with
  | zero => rfl
  | succ limit ih =>
    simp only [search, ih, ownProperty_apart]
    rfl

theorem settled?_apart (r : Ref) (k : Key) :
    (h.apart retained activations depth).settled? r k = h.settled? r k := by
  have unset : unsetName (h.apart retained activations depth) r k = unsetName h r k := by
    unfold unsetName
    simp only [resolve_apart]
    rfl
  unfold settled? lookup
  rw [unset, search_apart]
  rfl

theorem ownKeys_apart (r : Ref) :
    (h.apart retained activations depth).ownKeys r = h.ownKeys r := by
  have names (index : Nat) : (h.apart retained activations depth).namespaceNames index =
      h.namespaceNames index := by
    unfold namespaceNames
    simp only [exportNames_apart, resolve_apart]
    rfl
  unfold ownKeys
  simp only [names]
  rfl

theorem listed_apart (r : Ref) : (h.apart retained activations depth).listed r = h.listed r := by
  unfold listed
  simp only [ownKeys_apart, ownProperty_apart]

end Heap

theorem foldl_pairs (h : Heap) (r : Ref) (keys : List Key) (found : List (Key × Property)) :
    (keys.foldl (fun found k => match h.ownProperty r k with
      | some p => (k, p) :: found
      | none => found) found).reverse =
    found.reverse ++ keys.filterMap fun k => (h.ownProperty r k).map (k, ·) := by
  induction keys generalizing found with
  | nil => simp
  | cons k rest ih =>
    rw [List.foldl_cons, ih, List.filterMap_cons]
    cases h.ownProperty r k <;> simp

namespace Comp.Takes

variable {time : Option Nat} {h : Heap} {r : Ref} {k : Key} {v : Value}

theorem get (settled : h.settled? r k = some v) : Takes time (get r k) h 1 v h := by
  unfold Comp.get getFrom
  refine .after_read ?_
  unfold Heap.settled? at settled
  split at settled
  · cases settled
  · rename_i known
    rw [if_neg known]
    cases found : h.lookup r k with
    | property p =>
      rw [found] at settled
      dsimp only at settled ⊢
      unfold Property.value? at settled
      split at settled
      · rename_i w writable slot
        obtain rfl := Option.some.inj settled
        simp only [takeProperty, slot]
        exact .pure _ _
      · cases settled
    | missing =>
      rw [found] at settled
      obtain rfl := Option.some.inj settled
      exact .pure _ _
    | elsewhere other =>
      rw [found] at settled
      cases settled

theorem ownKeys (plain : h.isProxy r = false) :
    Takes time (Comp.ownKeys r) h 1 (h.ownKeys r) h := by
  unfold Comp.ownKeys
  refine .after_read ?_
  rw [plain]
  exact .pure _ _

theorem getOwn (plain : h.isProxy r = false) (known : unsetName h r k = false) :
    Takes time (Comp.getOwn r k) h 1 (h.ownProperty r k) h := by
  unfold Comp.getOwn
  refine .after_read ?_
  rw [plain, known]
  exact .pure _ _

/-- A list that is gone through without a change to the heap. -/
theorem foldList {α β : Type} {f : α → β → Comp β} {g : α → β → β} {steps : Nat} (items : List α)
    (each : ∀ item ∈ items, ∀ state, Takes time (f item state) h steps (g item state) h)
    (state : β) : Takes time (foldList items state f) h (items.length * steps)
      (items.foldl (fun state item => g item state) state) h := by
  induction items generalizing state with
  | nil => exact .cast (by simp) (.pure state h)
  | cons item rest ih =>
    have first := each item List.mem_cons_self state
    have others := ih (fun item member => each item (List.mem_cons_of_mem _ member)) (g item state)
    exact .cast (by rw [List.length_cons]; ring) (first.bind others)

/-- The properties that have text, and their keys. -/
theorem textProperties (plain : h.isProxy r = false) (known : ∀ k, unsetName h r k = false) :
    Takes time (Comp.textProperties r) h (((h.ownKeys r).filter Key.isText).length + 1)
      (((h.ownKeys r).filter Key.isText).filterMap fun k => (h.ownProperty r k).map (k, ·)) h := by
  have each (k : Key) (found : List (Key × Property)) : Takes time (do
      match ← Comp.getOwn r k with
      | some p => return (k, p) :: found
      | none => return found) h 1 (match h.ownProperty r k with
        | some p => (k, p) :: found
        | none => found) h := by
    refine .cast (Nat.add_zero 1) ((getOwn plain (known k)).bind ?_)
    cases h.ownProperty r k with
    | some p => exact .pure _ _
    | none => exact .pure _ _
  have all := @foldList time h _ _ _ _ 1 ((h.ownKeys r).filter Key.isText)
    (fun k _ found => each k found) []
  have listed := foldl_pairs h r ((h.ownKeys r).filter Key.isText) []
  rw [List.reverse_nil, List.nil_append] at listed
  rw [← listed]
  exact .cast (by ring) ((ownKeys plain).bind (all.bind (.pure _ h)))

theorem enumerableKeys (plain : h.isProxy r = false) (known : ∀ k, unsetName h r k = false) :
    Takes time (Comp.enumerableKeys r) h (((h.ownKeys r).filter Key.isText).length + 1)
      (h.listed r) h := by
  have listed : h.listed r = (((((h.ownKeys r).filter Key.isText).filterMap fun k =>
      (h.ownProperty r k).map (k, ·)).filter (·.2.enumerable)).map (·.1)) := by
    unfold Heap.listed
    induction (h.ownKeys r).filter Key.isText with
    | nil => rfl
    | cons k rest ih =>
      rw [List.filter_cons, List.filterMap_cons, ih]
      cases own : h.ownProperty r k with
      | none => simp
      | some p => cases shown : p.enumerable <;> simp [shown]
  rw [listed]
  exact .cast (Nat.add_zero _) ((textProperties plain known).bind (.pure _ h))
end Comp.Takes

end ScriptHost.Script
