import ScriptHost.Proofs.Scenario.Substituting

/-! Running a scenario. What a step is called with, and what is expected of it, is said here of the steps
before it and of its own result, without the map of saved values or the verdict that a run carries along.
A run does just that: every step once and in order, whatever the steps before it gave. -/

namespace ScriptHost.Scenario

variable {K : EngineKind} {saved : Fields Json}

/-! ### What names are bound to -/

/-- A step and what came of it. -/
abbrev Outcomes := List (ScenarioStep × CallResult)

/-- The data of a step are kept under a name if the step says so and its call succeeded. -/
def Keeps (name : String) (pair : ScenarioStep × CallResult) : Prop :=
  pair.1.saveAs = some name ∧ pair.2.status = .pass

/-- The name is bound to the data of the latest of these steps whose data were kept under it. -/
def Binds (done : Outcomes) (name : String) (value : Json) : Prop :=
  ∃ before pair later, done = before ++ pair :: later ∧ Keeps name pair ∧ pair.2.data = some value ∧
    ∀ other ∈ later, ¬ Keeps name other

/-- What stands before the end of a list that is extended at its end. -/
theorem append_singleton_eq_append_cons {α : Type} {done before later : List α} {last x : α} :
    done ++ [last] = before ++ x :: later ↔ done = before ∧ last = x ∧ later = [] ∨
      ∃ front, later = front ++ [last] ∧ done = before ++ x :: front := by
  constructor
  · intro same
    rcases List.eq_nil_or_concat' later with rfl | ⟨front, final, rfl⟩
    · obtain ⟨rfl, one⟩ := List.append_inj' same rfl
      exact .inl ⟨rfl, List.singleton_inj.mp one, rfl⟩
    · rw [← List.cons_append, ← List.append_assoc] at same
      obtain ⟨rfl, one⟩ := List.append_inj' same rfl
      obtain rfl := List.singleton_inj.mp one
      exact .inr ⟨front, rfl, rfl⟩
  · rintro (⟨rfl, rfl, rfl⟩ | ⟨front, rfl, rfl⟩)
    · rfl
    · simp

theorem binds_append_of_keeps {done : Outcomes} {pair : ScenarioStep × CallResult} {name : String}
    (keeps : Keeps name pair) (value : Json) :
    Binds (done ++ [pair]) name value ↔ pair.2.data = some value := by
  constructor
  · rintro ⟨before, other, later, same, kept, data, last⟩
    obtain ⟨-, rfl, -⟩ | ⟨front, rfl, -⟩ := append_singleton_eq_append_cons.mp same
    · exact data
    · exact absurd keeps (last pair (by simp))
  · intro data
    exact ⟨done, pair, [], rfl, keeps, data, by simp⟩

theorem binds_append_of_not_keeps {done : Outcomes} {pair : ScenarioStep × CallResult} {name : String}
    (unkept : ¬ Keeps name pair) (value : Json) :
    Binds (done ++ [pair]) name value ↔ Binds done name value := by
  constructor
  · rintro ⟨before, other, later, same, kept, data, last⟩
    obtain ⟨-, rfl, -⟩ | ⟨front, rfl, rfl⟩ := append_singleton_eq_append_cons.mp same
    · exact absurd kept unkept
    · exact ⟨before, other, front, rfl, kept, data, fun x member => last x (by simp [member])⟩
  · rintro ⟨before, other, later, rfl, kept, data, last⟩
    refine ⟨before, other, later ++ [pair], by simp, kept, data, fun x member => ?_⟩
    rcases List.mem_append.mp member with earlier | final
    · exact last x earlier
    · rwa [List.mem_singleton.mp final]

/-- A call has data just when it succeeds. -/
theorem execute_data (id : String) (call : MethodCall) (ch : Channel K) :
    (ch.execute id call).1.status = .pass ↔ (ch.execute id call).1.data.isSome := by
  unfold Channel.execute
  rcases (Channel.invoke call).run ch.dispatcher with ⟨e | data, after⟩
  · simp [CallResult.failed]
  · simp [CallResult.passed]

/-- To save a result is to bind its name. -/
theorem Shows.save {done : Outcomes} (shows : Shows saved (Binds done)) (step : ScenarioStep)
    {r : CallResult} (told : r.status = .pass ↔ r.data.isSome) :
    Shows (save step r saved) (Binds (done ++ [(step, r)])) := by
  intro name value
  by_cases keeps : Keeps name (step, r)
  · obtain ⟨data, held⟩ := Option.isSome_iff_exists.mp (told.mp keeps.2)
    have kept : Scenario.save step r saved = saved.insert name data := by
      rw [Scenario.save, show step.saveAs = some name from keeps.1, held]
    rw [binds_append_of_keeps keeps, kept, Fields.get?_insert, if_pos rfl]
    simp [held]
  · rw [binds_append_of_not_keeps keeps, shows name value]
    unfold Scenario.save
    split
    · rename_i other data saves held
      have differs : name ≠ other := by
        rintro rfl
        exact keeps ⟨saves, told.mpr (by simp [held])⟩
      rw [Fields.get?_insert, if_neg differs]
    · rfl

/-! ### What is expected -/

/-- The result is the one that the step expects. -/
structure Met (step : ScenarioStep) (r : CallResult) : Prop where
  status : r.status = step.expectStatus
  code : ∀ code, step.expectCode = some code → r.error.map ErrorInfo.code = some code
  value : ∀ value, step.expectValue = some value → r.data.getD .null == value

theorem mismatches_eq_nil_iff (index : Nat) (step : ScenarioStep) (r : CallResult) :
    mismatches index step r = [] ↔ Met step r := by
  have parts : Met step r ↔ r.status = step.expectStatus ∧
      (∀ code, step.expectCode = some code → r.error.map ErrorInfo.code = some code) ∧
      ∀ value, step.expectValue = some value → r.data.getD .null == value :=
    ⟨fun ⟨status, code, value⟩ => ⟨status, code, value⟩, fun ⟨status, code, value⟩ =>
      ⟨status, code, value⟩⟩
  rw [parts, mismatches, List.append_eq_nil_iff, List.append_eq_nil_iff, and_assoc]
  have warned {p : Prop} [Decidable p] (warning : Log.Record) :
      (if p then [] else [warning]) = [] ↔ p := by
    split <;> simp [*]
  refine and_congr (warned _) (and_congr ?_ ?_)
  · cases step.expectCode with
    | none => simp
    | some code => simpa only [Option.some.injEq, forall_eq'] using warned _
  · cases step.expectValue with
    | none => simp
    | some value => simpa only [Option.some.injEq, forall_eq'] using warned _

/-! ### Runs -/

/-- The steps were carried out on the channel one after another and had these results, each called with
its arguments under what names were bound to by the steps before it. After each call warnings are logged. -/
inductive Carried (ids : Nat → String) (start : Channel K) : Outcomes → Channel K → Prop where
  | nil : Carried ids start [] start
  | snoc {done : Outcomes} {ch after : Channel K} {step : ScenarioStep} {args : Json} {r : CallResult}
      (before : Carried ids start done ch) (replaced : Replaced (Binds done) step.args args)
      (called : ch.execute (ids done.length) ⟨step.call, args⟩ = (r, after)) :
      Carried ids start (done ++ [(step, r)])
        { after with dispatcher := after.dispatcher.record (mismatches done.length step r) }

theorem runSteps_carried {ids : Nat → String} {start : Channel K} (steps : List ScenarioStep)
    {done : Outcomes} {saved : Fields Json} {ch : Channel K} (before : Carried ids start done ch)
    (shows : Shows saved (Binds done)) :
    (runSteps ids done.length saved steps ch).1.1.length = steps.length ∧
    Carried ids start (done ++ steps.zip (runSteps ids done.length saved steps ch).1.1)
      (runSteps ids done.length saved steps ch).2 ∧
    ((runSteps ids done.length saved steps ch).1.2 = true ↔
      ∀ pair ∈ steps.zip (runSteps ids done.length saved steps ch).1.1, Met pair.1 pair.2) := by
  induction steps generalizing done saved ch with
  | nil => simpa [runSteps] using before
  | cons step rest ih =>
    have told := execute_data (ids done.length) ⟨step.call, substitute saved step.args⟩ ch
    rcases called : ch.execute (ids done.length) ⟨step.call, substitute saved step.args⟩ with ⟨r, after⟩
    rw [called] at told
    have replaced := (replaced_iff shows step.args _).mpr rfl
    have next := ih (before.snoc replaced called) (shows.save step told)
    rw [List.length_append, List.length_singleton] at next
    obtain ⟨length, carried, good⟩ := next
    simp only [runSteps, called, List.length_cons, List.zip_cons_cons, List.mem_cons, forall_eq_or_imp,
      Bool.and_eq_true, List.isEmpty_iff, mismatches_eq_nil_iff]
    refine ⟨congrArg (· + 1) length, ?_, and_congr_right fun _ => good⟩
    rwa [List.append_assoc] at carried

theorem shows_nothing : Shows [] (Binds []) := by
  intro name value
  simp [Binds, Fields.get?]

variable (ids : Nat → String) (scenario : Scenario) (ch : Channel K)

theorem length_run : (run ids scenario ch).1.steps.length = scenario.steps.length :=
  (runSteps_carried scenario.steps (.nil : Carried ids ch [] ch) shows_nothing).1

theorem carried_run :
    Carried ids ch (scenario.steps.zip (run ids scenario ch).1.steps) (run ids scenario ch).2 :=
  (runSteps_carried scenario.steps (.nil : Carried ids ch [] ch) shows_nothing).2.1

theorem overall_run : (run ids scenario ch).1.overall =
    if (runSteps ids 0 [] scenario.steps ch).1.2 then .pass else .fail := rfl

theorem run_passes_iff : (run ids scenario ch).1.overall = .pass ↔
    ∀ pair ∈ scenario.steps.zip (run ids scenario ch).1.steps, Met pair.1 pair.2 := by
  refine Iff.trans ?_
    (runSteps_carried scenario.steps (.nil : Carried ids ch [] ch) shows_nothing).2.2
  rw [overall_run]
  split <;> simp_all

/-- A run carries out every step once, in order, and has one result for each. It passes if and only if all
results are the expected ones, and fails otherwise. -/
theorem run_carries_out :
    (run ids scenario ch).1.name = scenario.name ∧
    (run ids scenario ch).1.steps.length = scenario.steps.length ∧
    Carried ids ch (scenario.steps.zip (run ids scenario ch).1.steps) (run ids scenario ch).2 ∧
    ((run ids scenario ch).1.overall = .pass ↔
      ∀ pair ∈ scenario.steps.zip (run ids scenario ch).1.steps, Met pair.1 pair.2) ∧
    ((run ids scenario ch).1.overall ≠ .pass → (run ids scenario ch).1.overall = .fail) := by
  refine ⟨rfl, length_run ids scenario ch, carried_run ids scenario ch, run_passes_iff ids scenario ch, ?_⟩
  rw [overall_run]
  split <;> simp

end ScriptHost.Scenario
