import ScriptHost.Proofs.Script.Layouts
import ScriptHost.Proofs.Script.Traversing

/-! The functions that are kept for the host. Whatever the host does with an engine for a command, the
functions that were kept stay, and more of them are kept only while a value is copied out, each under the
id that comes next. A command that is not about to copy a value, or that fails before there is one, leaves
them as they are. -/

namespace ScriptHost.Script

/-! ### The table of the functions that are kept -/

namespace Retained

variable {kept : Retained} {fs gs : List Ref} {id : Nat} {f : Ref}

/-- Functions under the ids that come after the last one. -/
def numbered (last : Nat) (fs : List Ref) : List (Nat × Ref) :=
  (List.range' (last + 1) fs.length).zip fs

theorem ids_numbered (last : Nat) (fs : List Ref) :
    (numbered last fs).map Prod.fst = List.range' (last + 1) fs.length :=
  List.map_fst_zip (by rw [List.length_range'])

theorem bounds_of_mem_numbered {last : Nat} (member : (id, f) ∈ numbered last fs) :
    last < id ∧ id ≤ last + fs.length := by
  have inside : id ∈ List.range' (last + 1) fs.length := (List.of_mem_zip member).1
  rw [List.mem_range'_1] at inside
  omega

theorem numbered_append (last : Nat) (fs gs : List Ref) :
    numbered last (fs ++ gs) = numbered last fs ++ numbered (last + fs.length) gs := by
  unfold numbered
  rw [List.length_append, List.range'_append_1.symm, List.zip_append (by rw [List.length_range'])]
  congr 3
  omega

/-- The table once these functions are kept too, one after the other. -/
def keepAll (kept : Retained) (fs : List Ref) : Retained where
  last := kept.last + fs.length
  functions := (numbered kept.last fs).reverse ++ kept.functions

theorem keepAll_append (kept : Retained) (fs gs : List Ref) :
    kept.keepAll (fs ++ gs) = (kept.keepAll fs).keepAll gs := by
  unfold keepAll
  rw [numbered_append, List.length_append, List.reverse_append, Nat.add_assoc, List.append_assoc]

/-- A function that is not there afterwards was not there before. -/
theorem lookup_of_keepAll (unknown : (kept.keepAll fs).functions.lookup id = none) :
    kept.functions.lookup id = none := by
  unfold keepAll at unknown
  rw [List.lookup_append] at unknown
  exact (Option.or_eq_none_iff.mp unknown).2

/-- No id stands in the table twice, and none that is still to be given out stands in it. -/
structure Tidy (kept : Retained) : Prop where
  below : ∀ id ∈ kept.functions.map Prod.fst, id ≤ kept.last
  distinct : (kept.functions.map Prod.fst).Nodup

theorem Tidy.keepAll (tidy : kept.Tidy) (fs : List Ref) : (kept.keepAll fs).Tidy := by
  have ids : (kept.keepAll fs).functions.map Prod.fst =
      (List.range' (kept.last + 1) fs.length).reverse ++ kept.functions.map Prod.fst := by
    rw [Retained.keepAll, List.map_append, List.map_reverse, ids_numbered]
  constructor
  · intro id member
    have last : (kept.keepAll fs).last = kept.last + fs.length := rfl
    rw [ids, List.mem_append, List.mem_reverse, List.mem_range'_1] at member
    rcases member with new | old
    · omega
    · have low := tidy.below id old
      omega
  · rw [ids, List.nodup_append]
    refine ⟨List.nodup_reverse.mpr List.nodup_range', tidy.distinct, fun id new other old => ?_⟩
    rw [List.mem_reverse, List.mem_range'_1] at new
    have low := tidy.below other old
    omega

theorem Tidy.filter (tidy : kept.Tidy) (keeps : Nat × Ref → Bool) :
    Tidy { kept with functions := kept.functions.filter keeps } where
  below id member := by
    obtain ⟨entry, found, rfl⟩ := List.mem_map.mp member
    exact tidy.below _ (List.mem_map_of_mem (List.mem_of_mem_filter found))
  distinct := tidy.distinct.sublist (List.filter_sublist.map _)

/-- In a tidy table an id has the function that stands beside it. -/
theorem Tidy.lookup_iff (tidy : kept.Tidy) :
    kept.functions.lookup id = some f ↔ (id, f) ∈ kept.functions := by
  constructor
  · intro found
    obtain ⟨before, later, shape, -⟩ := List.lookup_eq_some_iff.mp found
    rw [shape]
    exact List.mem_append_right _ List.mem_cons_self
  · exact lookup_of_mem tidy.distinct

end Retained

/-! ### Actions -/

namespace Host

variable {α : Type} {m : Host α} {s t : Session} {spends : Bool} {named : Nat → Prop}

theorem Composed.retained_eq (composed : Composed false named m) (s : Session) :
    (after m s).2.heap.retained = s.heap.retained := by
  let keeps (s : Session) : Retained := s.heap.retained
  have same : keeps (after m s).2 = keeps s := composed.unchanged (fun _ _ => rfl) s
  exact same

theorem Composed.retained_of {r : Except EngineError α} (composed : Composed false (fun _ => True) m)
    (ended : after m s = (r, t)) : t.heap.retained = s.heap.retained := by
  have kept := composed.retained_eq s
  rw [ended] at kept
  exact kept

/-- The functions that are kept stay, and those that are kept in addition get the next ids. -/
theorem Composed.keeps (composed : Composed spends named m) (s : Session) :
    ∃ fs, (after m s).2.heap.retained = s.heap.retained.keepAll fs := by
  induction composed generalizing s with
  | retain f _ => exact ⟨[f], rfl⟩
  | restore id _ =>
    rw [after_restore]
    exact ⟨[], rfl⟩
  | @bind _ _ m f _ _ first rest =>
    obtain ⟨fs, kept⟩ := first s
    rw [after_bind]
    rcases ran : after m s with ⟨_ | a, t⟩ <;> rw [ran] at kept
    · exact ⟨fs, kept⟩
    · obtain ⟨gs, more⟩ := rest a t
      refine ⟨fs ++ gs, ?_⟩
      rw [Retained.keepAll_append, ← kept]
      exact more
  | _ => exact ⟨[], rfl⟩

/-- That an id is unknown is said only of one that is named, and under which no function is kept. -/
theorem Composed.unknown (composed : Composed spends named m) {s t : Session} {id : Nat}
    (failed : after m s = (.error (unknownFunction id), t)) :
    named id ∧ s.heap.retained.functions.lookup id = none := by
  induction composed generalizing s t with
  | throw e plain =>
    rw [after_throw, Prod.mk.injEq, Except.error.injEq] at failed
    exact absurd failed.1 (plain id)
  | restore other known =>
    rw [after_restore] at failed
    cases found : s.heap.retained.functions.lookup other with
    | some f =>
      rw [found] at failed
      cases congrArg Prod.fst failed
    | none =>
      rw [found] at failed
      obtain rfl := unknownFunction_inj (Except.error.inj (congrArg Prod.fst failed))
      exact ⟨known, found⟩
  | @bind _ _ m f composed _ first rest =>
    obtain ⟨fs, kept⟩ := composed.keeps s
    rw [after_bind] at failed
    rcases ran : after m s with ⟨e | a, u⟩ <;> rw [ran] at failed kept
    · obtain rfl : e = unknownFunction id := Except.error.inj (congrArg Prod.fst failed)
      exact first ran
    · obtain ⟨known, missing⟩ := rest a failed
      rw [kept] at missing
      exact ⟨known, Retained.lookup_of_keepAll missing⟩
  | _ => cases congrArg Prod.fst failed

end Host

end ScriptHost.Script

namespace ScriptHost.ScriptEngine

open Script Script.Host

variable {e : ScriptEngine} {command : Command} {v : Value} {s : Session}

/-! ### Commands -/

/-- The value that a command copies out of the engine, and the session in which it does so, if it comes to
that. -/
def copied? (command : Command) (e : ScriptEngine) : Option (Value × Session) :=
  match refusal? command, source? e.limits command with
  | none, some source =>
    match after source (opening e (isArmed command)) with
    | (.ok v, s) => some (v, s)
    | (.error _, _) => none
  | _, _ => none

theorem closing_retained (e : ScriptEngine) (ended : Except EngineError Datum × Session) :
    (closing e ended).2.2.heap.retained = ended.2.heap.retained := rfl

theorem closing_error (e : ScriptEngine) (failure : EngineError) (s : Session) :
    ∃ other, (closing e (.error failure, s)).1 = .error other := by
  obtain ⟨other, failed⟩ := classify_error e.limits s.heap failure
  refine ⟨other, ?_⟩
  simp only [closing, failed]

theorem classify_exception (limits : EngineLimits) (heap : Heap) (thrown : ScriptException) :
    ∃ other, (classify limits heap (.error (.exception thrown))).1 = .error other ∧ Plain other := by
  unfold classify
  split
  · split
    · exact ⟨_, rfl, plain_fatal _⟩
    · exact ⟨_, rfl, plain_exception _⟩
  · exact ⟨_, rfl, plain_exception _⟩

/-- What is said of an id is what the host's work ended with: only exceptions are told otherwise. -/
theorem closing_unknown {ended : Except EngineError Datum × Session} {id : Nat}
    (failed : (closing e ended).1 = .error (unknownFunction id)) :
    ended.1 = .error (unknownFunction id) := by
  obtain ⟨failure | d, s⟩ := ended
  · cases failure with
    | exception thrown =>
      obtain ⟨other, told, plain⟩ := classify_exception e.limits s.heap thrown
      simp only [closing, told] at failed
      exact absurd (Outcome.error.inj failed) (plain id)
    | _ => exact congrArg Except.error (Outcome.error.inj failed)
  · cases failed

theorem closing_value {ended : Except EngineError Datum × Session} {d : Datum}
    (given : (closing e ended).1 = .value d) : ended.1 = .ok d := by
  obtain ⟨failure | found, s⟩ := ended
  · obtain ⟨other, failed⟩ := closing_error e failure s
    rw [failed] at given
    cases given
  · exact congrArg Except.ok (Outcome.value.inj given)

/-- The command goes to its end with the copy, and has kept nothing before. -/
theorem run_of_copied (found : copied? command e = some (v, s)) :
    s.heap.retained = e.heap.retained ∧ run command e = closing e (after (exportValue v) s) := by
  unfold copied? at found
  split at found
  · rename_i source allowed given
    have kept := (source_composed given).retained_eq (opening e (isArmed command))
    rw [run_eq_within allowed (work?_of_source given), within_eq_closing, after_bind]
    split at found
    · rename_i v' s' ran
      obtain ⟨rfl, rfl⟩ := Prod.mk.inj (Option.some.inj found)
      rw [ran] at kept ⊢
      exact ⟨kept, rfl⟩
    · cases found
  · cases found

/-- A command that comes to no copy is refused, fails before there is a value, or is not there to copy
one. -/
theorem not_copied_cases (missing : copied? command e = none) :
    (∃ reason, run command e = (.error (.invalidArgument reason), [], e)) ∨
    (∃ failure s, s.heap.retained = e.heap.retained ∧ run command e = closing e (.error failure, s)) ∨
    refusal? command = none ∧ source? e.limits command = none := by
  cases refused : refusal? command with
  | some reason =>
    refine .inl ⟨reason, ?_⟩
    unfold run
    rw [refused]
  | none =>
    cases given : source? e.limits command with
    | none => exact .inr (.inr ⟨rfl, rfl⟩)
    | some source =>
      have kept := (source_composed given).retained_eq (opening e (isArmed command))
      unfold copied? at missing
      rw [refused, given] at missing
      dsimp only at missing
      rw [run_eq_within refused (work?_of_source given), within_eq_closing, after_bind]
      rcases ran : after source (opening e (isArmed command)) with ⟨failure | v, s⟩
      · rw [ran] at kept
        exact .inr (.inl ⟨failure, s, kept, rfl⟩)
      · rw [ran] at missing
        cases missing

/-- A command that comes to no copy leaves the functions that are kept, unless it is there to release
one. -/
theorem run_of_not_copied (missing : copied? command e = none)
    (stays : ∀ id, command ≠ .release id) :
    (run command e).2.2.heap.retained = e.heap.retained := by
  rcases not_copied_cases missing with ⟨reason, ran⟩ | ⟨failure, s, kept, ran⟩ | ⟨allowed, given⟩
  · rw [ran]
  · rw [ran, closing_retained]
    exact kept
  · cases found : work? e.limits command with
    | some action =>
      rw [run_eq_within allowed found, within_eq_closing, closing_retained]
      exact (work_composed_of_none given found).retained_eq _
    | none =>
      cases command with
      | release id => exact absurd rfl (stays id)
      | _ => cases found

/-- Whatever the command, the functions that were kept stay, and those that are kept in addition get the
next ids; a function goes only when it is released. -/
theorem run_keeps (stays : ∀ id, command ≠ .release id) :
    ∃ fs, (run command e).2.2.heap.retained = e.heap.retained.keepAll fs := by
  cases found : copied? command e with
  | none => exact ⟨[], run_of_not_copied found stays⟩
  | some copied =>
    obtain ⟨v, s⟩ := copied
    obtain ⟨kept, ran⟩ := run_of_copied found
    rw [ran, closing_retained, ← kept]
    have copies : Composed true (fun _ => False) (exportValue v) := .copyOut _ v
    exact copies.keeps s

/-- What is answered to a release, and what is left by it. -/
theorem run_release (id : UInt64) (e : ScriptEngine) : run (.release id) e =
    (.value (.bool (e.heap.retained.functions.lookup id.toNat).isSome), [], { e with heap := { e.heap with
      retained := { e.heap.retained with
        functions := e.heap.retained.functions.filter (·.1 != id.toNat) } } }) := rfl

/-- That an id is unknown is answered only where the command names it and no function is kept under it. -/
theorem run_unknown {id : Nat} (failed : (run command e).1 = .error (unknownFunction id)) :
    command.Names id ∧ e.heap.retained.functions.lookup id = none := by
  cases refused : refusal? command with
  | some reason =>
    unfold run at failed
    rw [refused] at failed
    have plain : Plain (.invalidArgument reason) := by
      unfold refusal? at refused
      split at refused
      · split at refused
        · obtain rfl := Option.some.inj refused
          exact plain_reason (by decide)
        · cases refused
      · obtain rfl := Option.some.inj refused
        exact plain_reason (by decide)
      · obtain rfl := Option.some.inj refused
        exact plain_reason (by decide)
      · cases refused
    exact absurd (Outcome.error.inj failed) (plain id)
  | none =>
    cases found : work? e.limits command with
    | some action =>
      rw [run_eq_within refused found, within_eq_closing] at failed
      exact (work_composed found).unknown (Prod.ext (closing_unknown failed) rfl)
    | none =>
      cases command with
      | release other => cases failed
      | _ => cases found

end ScriptHost.ScriptEngine
