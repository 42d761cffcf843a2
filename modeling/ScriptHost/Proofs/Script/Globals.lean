import ScriptHost.Proofs.Script.Canon
import ScriptHost.Proofs.Script.Exporting
import ScriptHost.Proofs.Script.Fresh
import ScriptHost.Proofs.Script.NodeLimit

/-! Data under a global name. In a new engine, a datum that is given a name that was free is got back under
it in its canonical form. -/

namespace ScriptHost.Script

namespace Heap

/-! ### A property of the global object -/

variable {h h' : Heap} {k : Key}

theorem Standard.kept_missing (standard : h.Standard) (kept : Kept h h')
    (missing : h.lookup Intrinsic.global.ref k = .missing) :
    ∃ o, h'.objects[Intrinsic.global.ref]? = some o ∧ o.kind = .ordinary ∧ o.extensible ∧
      o.find? k = none ∧ h'.lookup Intrinsic.global.ref k = .missing := by
  obtain ⟨o, inherited, known, kind, extensible, finds⟩ := standard.lookup_global k
  have before := finds h fun _ _ same => same
  rw [missing] at before
  cases own : o.find? k with
  | some p =>
    rw [own] at before
    cases before
  | none =>
    refine ⟨o, kept _ o known, kind, extensible, own, ?_⟩
    rw [finds h' kept, own]
    rw [own] at before
    exact before.symm

/-- A property that was added is read. -/
theorem settled?_addOwn {r : Ref} {o : Object} (known : h.objects[r]? = some o)
    (kind : o.kind = .ordinary) (own : o.find? k = none) (v : Value) :
    (h.addOwn r k v).settled? r k = some v := by
  have added : (h.addOwn r k v).objects[r]? = some { o with props := o.props.push (k, .plain v) } := by
    unfold addOwn
    rw [modify_known known]
    simp only [kind]
  have missing : o.props.find? (fun p => p.1 == k) = none := by
    unfold Object.find? at own
    cases found : o.props.find? (fun p => p.1 == k) with
    | none => rfl
    | some entry =>
      rw [found] at own
      cases own
  have found : Object.find? { o with props := o.props.push (k, .plain v) } k = some (.plain v) := by
    unfold Object.find?
    dsimp only
    rw [Array.find?_push, missing]
    simp
  exact (settled?_own added kind found).trans rfl

end Heap

namespace Host

variable {s : Session} {calls : Nat} {name : String} {v : Datum}

/-- A datum is given a free name, if it has no flaw. -/
theorem setGlobal_admits (ready : Ready s.heap s (v.room + 32) v.bigInts.length) (short : v.Short)
    (usual : "__proto__" ∉ v.names) (ordered : v.Ordered)
    (free : s.heap.lookup Intrinsic.global.ref (Key.ofString name) = .missing) :
    Admits (ScriptEngine.setGlobal ⟨name, v⟩) s [Intrinsic.global.ref] (v.room + 32) v.bigInts.length
      (v.flaw? s.heap.kept? 0) fun d h => d = .undefined ∧ ∃ value,
        h.Represents s.heap.objects.size v value ∧
          h.settled? Intrinsic.global.ref (Key.ofString name) = some value := by
  have copied : Admits (copyIn 0 v) s [Intrinsic.global.ref] v.room v.bigInts.length
      (v.flaw? s.heap.kept? 0) fun value h =>
        s.heap.Grows [] v.room h ∧ h.Represents s.heap.objects.size v value :=
    (copyIn_admits v 0 (ready.mono (Nat.le_add_right _ _) (Nat.le_refl _)) short usual ordered).mono
      (fun _ _ grows => grows.mono _) fun _ _ grows copy => ⟨grows, copy⟩
  unfold ScriptEngine.setGlobal
  refine .cast rfl (Nat.add_zero _) Option.or_none (copied.bind ?_)
  rintro value h - ⟨grows, copy⟩
  have atRest := (ready.mono (Nat.le_refl _) (Nat.le_of_eq (Nat.add_zero _))).grown grows
    (List.forall_mem_nil _)
  obtain ⟨o, known, kind, extensible, own, missing⟩ := ready.standard.kept_missing grows.kept free
  have plan : Comp.setPlan h Intrinsic.global.ref (Key.ofString name) = .add :=
    Heap.setPlan_eq_add known ⟨extensible, .inl kind⟩
      ((Heap.ownProperty_ordinary known kind _).trans own) (.inl missing)
  refine .cast (Nat.add_zero 32) (Nat.add_zero 0) rfl ((atRest.set plan).bind ?_)
  rintro - h' grown rfl
  obtain ⟨global, place, -⟩ := ready.standard.global
  have before := (Array.getElem?_eq_some_iff.mp place).1
  exact .pure _ ⟨rfl, value, copy.grown (Nat.le_refl _) before grown,
    Heap.settled?_addOwn (h := h.spent 32) known kind own value⟩

/-- What means nothing special to an engine has no flaw. -/
theorem setGlobal_makes
    (ready : ∀ tasks, (0 < tasks → 0 < calls) → Ready s.heap s (v.room + 32) tasks)
    (portable : v.Portable calls) (ordered : v.Ordered) (shallow : v.depth ≤ maxDepth)
    (free : s.heap.lookup Intrinsic.global.ref (Key.ofString name) = .missing) :
    Admits (ScriptEngine.setGlobal ⟨name, v⟩) s [Intrinsic.global.ref] (v.room + 32) v.bigInts.length
      none fun d h => d = .undefined ∧ ∃ value, h.Represents s.heap.objects.size v value ∧
        h.settled? Intrinsic.global.ref (Key.ofString name) = some value := by
  obtain ⟨short, usual, bare, decimal⟩ := portable.plain
  have flawless : v.flaw? s.heap.kept? 0 = none := by
    rw [Datum.flaw?_eq_none_iff_parts, Nat.zero_add, bare]
    exact ⟨shallow, fun text member => (decimal text member).1, List.forall_mem_nil _⟩
  have able := ready v.bigInts.length fun some => by
    obtain ⟨text, member⟩ := List.exists_mem_of_length_pos some
    exact (decimal text member).2
  exact .cast rfl rfl flawless (setGlobal_admits able short usual ordered free)

/-- A copy of a datum is read under its name, as the canonical form. -/
theorem after_getGlobal {limits : EngineLimits} {value : Value}
    (idle : s.heap.activations = [] ∧ s.heap.depth = 0) (full : s.nodesLeft = limits.allowance)
    (found : s.heap.settled? Intrinsic.global.ref (Key.ofString name) = some value)
    (copies : s.heap.Copies value v) (shallow : v.depth ≤ maxDepth) (few : v.nodes ≤ limits.allowance)
    (clean : ∀ name ∈ v.names, '\x00' ∉ name.toList) :
    ∃ u, after (ScriptEngine.getGlobal name) s = (.ok v.canon, u) := by
  obtain ⟨t, unfolds, shows⟩ := copies
  have still : s.left s.heap = s := by
    unfold Session.left
    simp only [← idle.1, ← idle.2]
  have read := after_demand (.get found) (by decide : 1 < stepBound)
  rw [still] at read
  obtain ⟨u, ran, -⟩ := exportValue_fits full unfolds.plain
    (unfolds.nulFree fun name member => clean name (shows.names name member))
    ⟨unfolds, shows.depth ▸ shallow, shows.nodes ▸ few⟩
  rw [shows.handOver] at ran
  refine ⟨u, ?_⟩
  unfold ScriptEngine.getGlobal
  rw [after_bind_ok read]
  exact ran

end Host

end ScriptHost.Script

namespace ScriptHost.ScriptEngine

open Script Script.Host

variable {e : ScriptEngine} {limits : EngineLimits} {name : String} {v : Datum}

section

variable {action : Host Datum} {timed : Bool} {d : Datum} {u : Session}
  (ran : after action (opening e timed) = (.ok d, u))

include ran

theorem within_ok : (within action timed e).1 = .value d := by
  obtain ⟨handle, limits, heap, coroutines⟩ := e
  unfold after opening EngineLimits.allowance at ran
  dsimp only at ran
  unfold within
  simp only [ran, classify]

/-- Where nothing was printed, there are no lines, and the engine is left as it is. -/
theorem within_ok_quiet (quiet : u.heap.printed = []) :
    within action timed e = (.value d, [], ⟨e.handle, e.limits, u.heap, u.coroutines⟩) := by
  obtain ⟨handle, limits, heap, coroutines⟩ := e
  unfold after opening EngineLimits.allowance at ran
  dsimp only at ran
  unfold within
  simp only [ran, classify, quiet]
  simp [← quiet]

end

/-- The memory suffices for a copy of the datum under a new name. -/
def Suffices (limits : EngineLimits) (v : Datum) : Prop :=
  limits.memory = 0 ∨ baseline + (v.room + 32) ≤ limits.memory.toNat

theorem Fresh.ready (fresh : Fresh limits e) (room : Suffices limits v) (tasks : Nat)
    (callable : 0 < tasks → 0 < (ScriptEngine.quota limits).calls) :
    Ready e.heap (opening e false) (v.room + 32) tasks where
  still := fresh.idle
  standard := fresh.standard
  kept _ _ known := known
  callable some := fresh.quota ▸ callable some
  timely := nofun
  affords := by
    intro limit bound
    rw [show (opening e false).heap = e.heap from rfl, fresh.quota] at bound
    show e.heap.used + _ ≤ limit
    rw [fresh.used]
    unfold ScriptEngine.quota at bound
    dsimp only at bound
    rcases room with unlimited | enough
    · rw [if_pos unlimited] at bound
      cases bound
    · split at bound
      · cases bound
      · obtain rfl := Option.some.inj bound
        exact enough

theorem run_setGlobal (named : name ≠ "") (v : Datum) (e : ScriptEngine) :
    run (.setGlobal ⟨name, v⟩) e = within (setGlobal ⟨name, v⟩) false e := by
  simp [run, refusal?, named]

theorem run_getGlobal (named : name ≠ "") (e : ScriptEngine) :
    run (.getGlobal name) e = within (getGlobal name) false e := by
  simp [run, refusal?, named]

/-- In a new engine, a datum that means nothing special there can be given any free name, as far as the
memory suffices, and what is got back under the name is its canonical form. This takes names of fields
without NUL. -/
theorem getGlobal_setGlobal {handle : Nat} (made : (create handle limits).1 = .value e)
    (named : name ≠ "") (free : e.heap.lookup Intrinsic.global.ref (Key.ofString name) = .missing)
    (portable : v.Portable (quota limits).calls) (ordered : v.Ordered) (shallow : v.depth ≤ maxDepth)
    (few : v.nodes ≤ limits.allowance) (room : Suffices limits v)
    (clean : ∀ name ∈ v.names, '\x00' ∉ name.toList) :
    ∃ e', run (.setGlobal ⟨name, v⟩) e = (.value .undefined, [], e') ∧
      (run (.getGlobal name) e').1 = .value v.canon := by
  have fresh := fresh_of_create made
  obtain ⟨d, h, stored, grows, rfl, value, copy, found⟩ :=
    setGlobal_makes (s := opening e false) (fresh.ready room) portable ordered shallow free
  have quiet : h.printed = [] := by
    rw [grows.rest]
    exact fresh.quiet
  have idle : h.activations = [] ∧ h.depth = 0 := by
    rw [grows.rest]
    exact fresh.idle
  refine ⟨⟨e.handle, e.limits, h, e.coroutines⟩, ?_, ?_⟩
  · rw [run_setGlobal named, within_ok_quiet stored quiet]
    rfl
  -- The engine is at rest again, so the second call starts as the first one did.
  · obtain ⟨u, read⟩ := after_getGlobal
      (s := opening ⟨e.handle, e.limits, h, e.coroutines⟩ false) idle rfl found
      (copy.copies v portable ordered) shallow (fresh.limits ▸ few) clean
    rw [run_getGlobal named]
    exact within_ok read

/-- An integer that no double holds, and a big integer that is not written in the shortest way. -/
def sample : Datum :=
  .object [("a", .int 9007199254740993), ("b", .array [.bigInt "-007", .null])]

theorem getGlobal_setGlobal_sample : (create 1 {}).1 = .value usual ∧
    usual.heap.lookup Intrinsic.global.ref (Key.ofString "v") = .missing ∧
    ∃ e', run (.setGlobal ⟨"v", sample⟩) usual = (.value .undefined, [], e') ∧
      (run (.getGlobal "v") e').1 = .value sample.canon := by
  have free := lookup_of_isFree initial_evaluated.2.1
  have portable : sample.Portable (quota {}).calls := by
    simp only [sample, Datum.Portable, Datum.PortableFields, Datum.PortableItems]
    decide
  have ordered : sample.Ordered := by
    simp only [sample, Datum.Ordered, Datum.OrderedFields, Datum.OrderedItems, Wire.Ascending,
      List.pairwise_cons]
    decide
  exact ⟨create_usual, free, getGlobal_setGlobal create_usual (by decide) free portable ordered
    (by decide) (by decide) (.inr (by decide)) (by decide)⟩

/-- A NUL cuts the name of a field, so what is got back is not the canonical form. -/
theorem field_name_cut : (create 1 {}).1 = .value usual ∧
    usual.heap.lookup Intrinsic.global.ref (Key.ofString "v") = .missing ∧
    fieldNames (run (.getGlobal "v") (run (.setGlobal ⟨"v", severed⟩) usual).2.2).1 = ["a"] ∧
    (run (.getGlobal "v") (run (.setGlobal ⟨"v", severed⟩) usual).2.2).1 ≠
      .value severed.canon := by
  obtain ⟨-, free, cut⟩ := initial_evaluated
  refine ⟨create_usual, lookup_of_isFree free, cut, fun same => ?_⟩
  rw [same] at cut
  revert cut
  decide

end ScriptHost.ScriptEngine
