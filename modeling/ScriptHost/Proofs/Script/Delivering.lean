import ScriptHost.Proofs.Script.Keeping

/-! The ids that leave an engine. Each function that is met while a value is copied out is kept under an id
of its own, and the copy holds that id where the function was; so no id stands twice in a copy. But
properties are copied one after the other, and one whose name another one has too is put away for it once
both are copied. A function in it stays under an id that the copy does not hold. -/

namespace ScriptHost

namespace Datum

/-- A text has no functions, and where it is new it takes nothing away. -/
theorem handlesOfFields_insert_string {name : String} {fields : Fields Datum}
    (new : fields.contains name = false) (text : String) :
    handlesOfFields (fields.insert name (.string text)) = handlesOfFields fields := by
  induction fields with
  | nil => rfl
  | cons field rest ih =>
    obtain ⟨key, old⟩ := field
    have absent : List.lookup name ((key, old) :: rest) = none := by
      simpa [Fields.contains, Fields.get?] using new
    rw [Fields.lookup_cons] at absent
    by_cases same : name = key
    · rw [if_pos same] at absent
      cases absent
    · rw [if_neg same] at absent
      rw [Fields.insert]
      split
      · rfl
      · rw [handlesOfFields, handlesOfFields, ih (by simpa [Fields.contains, Fields.get?] using absent)]

end Datum

namespace Script.Host

open Datum

variable {s t u : Session} {α : Type}

/-! ### What is delivered between two sessions -/

/-- The ids of functions that are kept after the last one that was. -/
def idsAfter (last : Nat) (fs : List Ref) : List UInt64 :=
  (List.range' (last + 1) fs.length).map UInt64.ofNat

theorem idsAfter_append (last : Nat) (fs gs : List Ref) :
    idsAfter last (fs ++ gs) = idsAfter last fs ++ idsAfter (last + fs.length) gs := by
  unfold idsAfter
  rw [List.length_append, ← List.range'_append_1, List.map_append]
  congr 3
  omega

/-- Functions were kept between two sessions, and all of these ids are theirs. If nothing was shed on the
way, all of theirs are among these. -/
def Delivered (s t : Session) (ids : List UInt64) (shed : Nat) : Prop :=
  ∃ fs, t.heap.retained = s.heap.retained.keepAll fs ∧
    ids.Subperm (idsAfter s.heap.retained.last fs) ∧
    (shed = 0 → ids.Perm (idsAfter s.heap.retained.last fs))

namespace Delivered

variable {ids more : List UInt64} {shed other : Nat}

theorem nothing (same : t.heap.retained = s.heap.retained) (shed : Nat) : Delivered s t [] shed :=
  ⟨[], same, .refl _, fun _ => .refl _⟩

/-- What is done without keeping functions delivers nothing. -/
theorem of_composed {m : Host α} {r : Except EngineError α} (free : Composed false (fun _ => True) m)
    (ended : after m s = (r, t)) : Delivered s t [] 0 :=
  nothing (free.retained_of ended) 0

theorem trans (first : Delivered s t ids shed) (second : Delivered t u more other) :
    Delivered s u (ids ++ more) (shed + other) := by
  obtain ⟨fs, kept, some, all⟩ := first
  obtain ⟨gs, kept', some', all'⟩ := second
  have last : t.heap.retained.last = s.heap.retained.last + fs.length := by rw [kept]; rfl
  rw [last] at some' all'
  refine ⟨fs ++ gs, ?_, ?_, fun none => ?_⟩
  · rw [Retained.keepAll_append, ← kept, kept']
  · rw [idsAfter_append]
    exact some.append some'
  · rw [idsAfter_append]
    exact (all (by omega)).append (all' (by omega))

/-- What is delivered can be less where something is shed. -/
theorem less {fewer : List UInt64} {weight : Nat} (delivered : Delivered s t ids shed)
    (some : fewer.Subperm ids) (light : weight = 0 → shed = 0 ∧ fewer.Perm ids) :
    Delivered s t fewer weight := by
  obtain ⟨fs, kept, among, all⟩ := delivered
  refine ⟨fs, kept, some.trans among, fun none => ?_⟩
  obtain ⟨whole, same⟩ := light none
  exact same.trans (all whole)

end Delivered

/-! ### Copying out -/

/-- How many properties are put away for later ones of their names. -/
def repeated (fields : List (String × Datum)) : Nat := fields.length - (Fields.ofList fields).length

theorem handles_of_repeated {fields : List (String × Datum)} (none : repeated fields = 0) :
    (handlesOfFields (Fields.ofList fields)).Perm (handlesOfFields fields) := by
  have whole : (Fields.ofList fields).Perm fields := by
    apply (Fields.ofList_subperm fields).perm_of_length_le
    unfold repeated at none
    omega
  rw [handlesOfFields_eq, handlesOfFields_eq]
  exact whole.flatMap_right _

/-- `copyOut`, with the number of properties that are shed. -/
def copyShedding (levels : Nat) (v : Value) : Host (Datum × Nat) := weigh repeated 0 levels v

section

variable {copy : Value → Host (Datum × Nat)}

theorem tallyItems_delivered
    (copies : ∀ v s t d n, after (copy v) s = (.ok (d, n), t) → Delivered s t d.handles n)
    (r : Ref) (count index : Nat) (found : List Datum) (before : Nat) {items : List Datum} {n : Nat}
    (ended : after (tallyItems copy r count index found before) s = (.ok (items, n), t)) :
    ∃ added shed, items = found.reverse ++ added ∧ n = before + shed ∧
      Delivered s t (handlesOfItems added) shed := by
  induction count generalizing index found before s with
  | zero =>
    obtain ⟨⟨rfl, rfl⟩, rfl⟩ : (found.reverse = items ∧ before = n) ∧ s = t := by
      simpa [tallyItems] using ended
    exact ⟨[], 0, by simp, rfl, .nothing rfl 0⟩
  | succ count ih =>
    obtain ⟨v, u, read, rest⟩ := parts_of_bind_ok ended
    obtain ⟨⟨item, shed⟩, w, copied, last⟩ := parts_of_bind_ok rest
    obtain ⟨added, more, rfl, rfl, delivered⟩ := ih (index + 1) (item :: found) (before + shed) last
    have idle : Delivered s u [] 0 := .of_composed (.demand _) read
    have here := copies v u w item shed copied
    refine ⟨item :: added, shed + more, by simp, by omega, ?_⟩
    exact ((idle.trans here).trans delivered).less (.refl _) fun none => ⟨by omega, .refl _⟩

theorem tallyFields_delivered
    (copies : ∀ v s t d n, after (copy v) s = (.ok (d, n), t) → Delivered s t d.handles n)
    (r : Ref) (keys : List Key) (found : List (String × Datum)) (before : Nat)
    {fields : List (String × Datum)} {n : Nat}
    (ended : after (tallyFields copy r keys found before) s = (.ok (fields, n), t)) :
    ∃ added shed, fields = found.reverse ++ added ∧ n = before + shed ∧
      Delivered s t (handlesOfFields added) shed := by
  induction keys generalizing found before s with
  | nil =>
    obtain ⟨⟨rfl, rfl⟩, rfl⟩ : (found.reverse = fields ∧ before = n) ∧ s = t := by
      simpa [tallyFields] using ended
    exact ⟨[], 0, by simp, rfl, .nothing rfl 0⟩
  | cons k others ih =>
    obtain ⟨name, u, told, rest⟩ := parts_of_bind_ok ended
    obtain ⟨v, w, read, rest⟩ := parts_of_bind_ok rest
    obtain ⟨⟨item, shed⟩, x, copied, last⟩ := parts_of_bind_ok rest
    obtain ⟨added, more, rfl, rfl, delivered⟩ := ih ((name, item) :: found) (before + shed) last
    have idle : Delivered s w [] 0 :=
      (Delivered.of_composed (.exportKey k) told).trans (.of_composed (.demand _) read)
    have here := copies v w x item shed copied
    refine ⟨(name, item) :: added, shed + more, by simp, by omega, ?_⟩
    exact ((idle.trans here).trans delivered).less (.refl _) fun none => ⟨by omega, .refl _⟩

end

/-- What an Error object is given as texts delivers nothing. -/
theorem addTexts_delivered (r : Ref) (names : List String) (fields : Fields Datum) {all : Fields Datum}
    (ended : after (addTexts r names fields) s = (.ok all, t)) :
    handlesOfFields all = handlesOfFields fields := by
  induction names generalizing fields s with
  | nil =>
    obtain ⟨rfl, rfl⟩ : fields = all ∧ s = t := by simpa [addTexts] using ended
    rfl
  | cons name rest ih =>
    rw [addTexts] at ended
    split at ended
    · exact ih fields ended
    · rename_i new
      obtain ⟨text, u, read, later⟩ := parts_of_bind_ok ended
      cases text with
      | some text =>
        rw [ih _ later]
        exact handlesOfFields_insert_string (by simpa using new) text
      | none => exact ih fields later

theorem takeNode_delivered {a : Unit} (ended : after takeNode s = (.ok a, t)) : Delivered s t [] 0 := by
  unfold takeNode at ended
  rw [after_bind, after_get] at ended
  dsimp only at ended
  split at ended
  · rw [after_bind] at ended
    cases congrArg Prod.fst ended
  · rw [after_modify, Prod.mk.injEq] at ended
    obtain ⟨-, rfl⟩ := ended
    exact .nothing rfl 0

theorem retain_delivered {f : Ref} {id : Nat} (ended : after (retain f) s = (.ok id, t)) :
    Delivered s t [UInt64.ofNat id] 0 := by
  obtain ⟨same, rfl⟩ := Prod.mk.inj ended
  obtain rfl := Except.ok.inj same
  exact ⟨[f], rfl, .refl _, fun _ => .refl _⟩

/-- What is copied holds ids of the functions that were kept for it, each once; and if nothing was shed,
it holds all of them. -/
theorem copyShedding_delivered (levels : Nat) (v : Value) (s t : Session) (d : Datum) (n : Nat)
    (ended : after (copyShedding levels v) s = (.ok (d, n), t)) : Delivered s t d.handles n := by
  induction levels generalizing v s t d n with
  | zero => cases congrArg Prod.fst ended
  | succ levels ih =>
    obtain ⟨none, w, taken, rest⟩ := parts_of_bind_ok ended
    have start := takeNode_delivered taken
    -- A value without anything inside delivers nothing.
    have leaf {d' : Datum} (plain : d'.handles = []) {x : Session} (idle : Delivered s x [] 0)
        (last : after (pure (d', 0)) x = (.ok (d, n), t)) : Delivered s t d.handles n := by
      obtain ⟨⟨rfl, rfl⟩, rfl⟩ : (d' = d ∧ 0 = n) ∧ x = t := by simpa using last
      rw [plain]
      exact idle
    cases v with
    | undefined | symbol | null | bool | bigInt => exact leaf rfl start rest
    | number x => exact leaf (handles_ofDouble x) start rest
    | string text =>
      obtain ⟨exported, x, told, last⟩ := parts_of_bind_ok rest
      exact leaf rfl (start.trans (.of_composed (.exportText text) told)) last
    | object r =>
      obtain ⟨counted, x, looked, rest⟩ := parts_of_bind_ok rest
      obtain ⟨-, rfl⟩ : shape w.heap r = counted ∧ w = x := by simpa using looked
      cases counted with
      | array =>
        obtain ⟨count, x, measured, rest⟩ := parts_of_bind_ok rest
        obtain ⟨⟨items, shed⟩, y, copied, last⟩ := parts_of_bind_ok rest
        obtain ⟨⟨rfl, rfl⟩, rfl⟩ : (Datum.array items = d ∧ shed = n) ∧ y = t := by simpa using last
        obtain ⟨added, more, rfl, rfl, delivered⟩ := tallyItems_delivered ih r count 0 [] 0 copied
        have idle := start.trans (.of_composed (.exportLength r) measured)
        exact (idle.trans delivered).less (.refl _) fun none => ⟨by omega, .refl _⟩
      | function =>
        obtain ⟨name, x, told, rest⟩ := parts_of_bind_ok rest
        obtain ⟨id, y, kept, last⟩ := parts_of_bind_ok rest
        have idle := start.trans (.of_composed (.textOf r "name" false) told)
        have single := retain_delivered kept
        obtain ⟨⟨rfl, rfl⟩, rfl⟩ : (Datum.function ⟨UInt64.ofNat id, name.filter (· != "")⟩ = d ∧ 0 = n) ∧
          y = t := by simpa using last
        exact idle.trans single
      | object =>
        obtain ⟨keys, x, listed, rest⟩ := parts_of_bind_ok rest
        obtain ⟨⟨fields, shed⟩, y, copied, last⟩ := parts_of_bind_ok rest
        obtain ⟨⟨rfl, rfl⟩, rfl⟩ : (Datum.object (Fields.ofList fields) = d ∧ shed + repeated fields = n) ∧
          y = t := by simpa using last
        obtain ⟨added, more, rfl, rfl, delivered⟩ := tallyFields_delivered ih r keys [] 0 copied
        have idle := start.trans (.of_composed (.exportKeys r) listed)
        exact (idle.trans delivered).less (handlesOfFields_ofList_subperm fields) fun none =>
          ⟨by omega, handles_of_repeated (by omega)⟩
      | error =>
        obtain ⟨keys, x, listed, rest⟩ := parts_of_bind_ok rest
        obtain ⟨⟨fields, shed⟩, y, copied, rest⟩ := parts_of_bind_ok rest
        obtain ⟨all, z, told, last⟩ := parts_of_bind_ok rest
        obtain ⟨⟨rfl, rfl⟩, rfl⟩ : (Datum.object all = d ∧ shed + repeated fields = n) ∧ z = t := by
          simpa using last
        obtain ⟨added, more, rfl, rfl, delivered⟩ := tallyFields_delivered ih r keys [] 0 copied
        have texts := addTexts_delivered r _ _ told
        have idle := start.trans (.of_composed (.exportKeys r) listed)
        have through := (idle.trans delivered).trans (.of_composed (.addTexts r _ _) told)
        refine through.less ?_ fun none => ⟨by omega, ?_⟩
        · rw [handles, texts, List.nil_append, List.append_nil]
          exact handlesOfFields_ofList_subperm fields
        · rw [handles, texts, List.nil_append, List.append_nil]
          exact handles_of_repeated (by omega)

theorem after_exportValue (v : Value) (s : Session) : after (exportValue v) s =
    ((after (copyShedding (maxDepth + 1) v) s).1.map Prod.fst,
      (after (copyShedding (maxDepth + 1) v) s).2) := by
  rw [exportValue, copyOut_eq_weigh repeated 0, after_map]
  rfl

end Script.Host

namespace ScriptEngine

open Script Script.Host

variable {e : ScriptEngine} {command : Command} {d : Datum}

/-! ### Commands -/

/-- The number of properties that are shed while a command copies a value out. -/
def shed (command : Command) (e : ScriptEngine) : Nat :=
  match copied? command e with
  | none => 0
  | some (v, s) =>
    match (after (copyShedding (maxDepth + 1) v) s).1 with
    | .ok (_, n) => n
    | .error _ => 0

/-- Without a copy there are no functions in what a command gives. -/
theorem handles_of_not_copied (missing : copied? command e = none)
    (given : (run command e).1 = .value d) : d.handles = [] := by
  rcases not_copied_cases missing with ⟨reason, ran⟩ | ⟨failure, s, -, ran⟩ | ⟨allowed, none⟩
  · rw [ran] at given
    cases given
  · obtain ⟨other, failed⟩ := closing_error e failure s
    rw [ran, failed] at given
    cases given
  · cases command with
    | eval | call | getGlobal => cases none
    | setGlobal a =>
      rw [run_eq_within allowed rfl, within_eq_closing] at given
      have ended : after (setGlobal a) (opening e false) = (.ok d, _) := Prod.ext (closing_value given) rfl
      obtain ⟨v, s, copied, rest⟩ := parts_of_bind_ok ended
      obtain ⟨-, t, put, last⟩ := parts_of_bind_ok rest
      obtain rfl := Except.ok.inj (congrArg Prod.fst last)
      rfl
    | release id =>
      obtain rfl := Outcome.value.inj given
      rfl
    | runJobs =>
      rw [run_eq_within allowed rfl, within_eq_closing] at given
      have ended : after runJobs (opening e true) = (.ok d, _) := Prod.ext (closing_value given) rfl
      obtain ⟨v, s, counted, last⟩ := parts_of_bind_ok ended
      split at last
      · obtain rfl := Except.ok.inj (congrArg Prod.fst last)
        rfl
      · obtain rfl := Except.ok.inj (congrArg Prod.fst last)
        rfl

/-- What a command gives holds ids that were given to functions in it, each once; and all of them if
nothing was shed. -/
theorem run_delivered (stays : ∀ id, command ≠ .release id) (given : (run command e).1 = .value d) :
    ∃ fs, (run command e).2.2.heap.retained = e.heap.retained.keepAll fs ∧
      d.handles.Subperm (idsAfter e.heap.retained.last fs) ∧
      (shed command e = 0 → d.handles.Perm (idsAfter e.heap.retained.last fs)) := by
  cases found : copied? command e with
  | none =>
    rw [handles_of_not_copied found given]
    exact ⟨[], run_of_not_copied found stays, .refl _, fun _ => .refl _⟩
  | some copied =>
    obtain ⟨v, s⟩ := copied
    obtain ⟨kept, ran⟩ := run_of_copied found
    rw [ran] at given ⊢
    have ended := closing_value given
    rw [after_exportValue] at ended ⊢
    rcases copied : after (copyShedding (maxDepth + 1) v) s with ⟨failure | ⟨d', n⟩, t⟩
    · rw [copied] at ended
      cases ended
    · rw [copied] at ended
      obtain rfl : d' = d := Except.ok.inj ended
      have shedding : shed command e = n := by
        unfold shed
        rw [found]
        dsimp only
        rw [copied]
      rw [shedding, closing_retained, ← kept]
      exact copyShedding_delivered _ v s t d' n copied

end ScriptEngine

end ScriptHost
