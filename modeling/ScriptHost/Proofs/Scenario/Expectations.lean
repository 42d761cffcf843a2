import ScriptHost.Engine.Scripted
import ScriptHost.Proofs.Scenario.Running
import ScriptHost.Proofs.Yaml.Reading
import ScriptHost.Scenario.Document

/-! The values that a scenario document says its steps are to give. Each field of a step is read at most
once, so what is written for it is what the loaded step has, and a scenario that passes has seen every
value that is expected. But a field that need not be there is absent when a null is written for it: a step
that is expected to give null is loaded as one of which nothing is expected. -/

namespace ScriptHost

open Yaml

namespace Yaml

/-- What is written for a member of a mapping, first. -/
def Node.member? (n : Node) (name : String) : Option Node :=
  (n.entries.find? fun entry => entry.1.text == name).map Prod.snd

/-- The value that is expected where this is written; none where a null is. -/
def Node.expectation (n : Node) : Option Json := if n.isNull then none else some n.json

/-- The root of the first document of a text. -/
def rootOf (text : String) : Node := ((readDocuments .strict text).headD ⟨.nothing, none⟩).root

/-- A document that is read has no fault, and is the only one of its text. -/
theorem gives_readDocument {α : Type} {text : String} {read : Spot → Node → Read α} {a : α}
    (given : readDocument text read = .ok a) : ∃ s, Gives (read s (rootOf text)) a := by
  unfold readDocument at given
  dsimp only at given
  split at given
  · cases given
  · rename_i result after ran
    cases fault : ((readDocuments .strict text).headD ⟨.nothing, none⟩).fault with
    | some f =>
      rw [fault] at given
      cases given
    | none =>
      rw [fault] at given ran
      dsimp only at given
      split at given
      · cases given
      · cases given
        exact ⟨_, 0, after, ran⟩

end Yaml

/-! ### Fields -/

theorem gives_readOnce {α : Type} {s : Spot} {known : List String} {name : String} {read : Read α} {a : α}
    (given : Gives (readOnce s known name read) a) : name ∉ known ∧ Gives read a := by
  unfold readOnce at given
  obtain ⟨new, given⟩ := gives_unless (a := ()) (fun _ => not_gives_fail) given
  exact ⟨by simpa using new, given⟩

/-- Entries are read one after another, and each draft knows the names that were read for it. If the field
of a name is read at most once and other entries leave it alone, then it is what its entry means, or, without
one, what it was. -/
theorem gives_fields {σ γ : Type} (name : String) (view : σ → γ) (means : Node → γ → Prop)
    {read : σ × List String → Node × Node → Read (σ × List String)}
    (reads : ∀ {draft : σ × List String} {entry : Node × Node} {after : σ × List String},
      Gives (read draft entry) after → after.2 = entry.1.text :: draft.2 ∧
        if entry.1.text = name then name ∉ draft.2 ∧ means entry.2 (view after.1)
        else view after.1 = view draft.1)
    {entries : List (Node × Node)} {draft after : σ × List String}
    (given : Gives (entries.foldlM read draft) after) :
    match entries.find? fun entry => entry.1.text == name with
    | some entry => name ∉ draft.2 ∧ means entry.2 (view after.1)
    | none => view after.1 = view draft.1 := by
  induction entries generalizing draft with
  | nil =>
    rw [List.foldlM_nil, gives_pure] at given
    rw [given]
    rfl
  | cons entry rest ih =>
    rw [List.foldlM_cons] at given
    obtain ⟨next, first, given⟩ := gives_bind given
    obtain ⟨known, own⟩ := reads first
    have later := ih given
    rw [known] at later
    by_cases same : entry.1.text = name
    · rw [if_pos same] at own
      rw [List.find?_cons_of_pos (by simpa using same)]
      split at later
      · exact absurd (List.mem_cons.mpr (.inl same.symm)) later.1
      · rw [later]
        exact own
    · rw [if_neg same] at own
      rw [List.find?_cons_of_neg (by simpa using same)]
      split at later
      · exact ⟨fun before => later.1 (List.mem_cons_of_mem _ before), later.2⟩
      · rw [later]
        exact own

/-- A reading that puts what it read into a draft. -/
theorem gives_update {α σ : Type} {read : Read α} {next : α → σ} {known : List String} {name : String}
    {after : σ × List String}
    (given : Gives (do return (← pure (next (← read)), name :: known)) after) :
    ∃ a, Gives read a ∧ after = (next a, name :: known) := by
  obtain ⟨a, first, given⟩ := gives_bind given
  obtain ⟨draft, updated, given⟩ := gives_bind given
  rw [gives_pure] at updated given
  subst updated given
  exact ⟨a, first, rfl⟩

theorem gives_required {β : Type} {s : Spot} {known : List String} {name : String}
    {rest : Unit → Read β} {b : β} (given : Gives (if known.contains name then rest ()
      else s.fail (.missingField name) >>= rest) b) : Gives (rest ()) b := by
  split at given
  · exact given
  · obtain ⟨_, stopped, -⟩ := gives_bind given
    exact absurd stopped not_gives_fail

namespace ScenarioStep

variable {s : Spot}

theorem gives_readField {draft after : Draft} {entry : Node × Node}
    (given : Gives (readField s draft entry) after) : after.2 = entry.1.text :: draft.2 ∧
      if entry.1.text = "expect_value" then
        "expect_value" ∉ draft.2 ∧ after.1.expectValue = entry.2.expectation
      else after.1.expectValue = draft.1.expectValue := by
  obtain ⟨step, known⟩ := draft
  obtain ⟨key, value⟩ := entry
  obtain ⟨name, told, given⟩ := gives_bind given
  obtain rfl := gives_readText told
  dsimp only at given ⊢
  split at given
  case h_5 field =>
    obtain ⟨expected, read, rfl⟩ := gives_update given
    obtain ⟨new, read⟩ := gives_readOnce read
    have optional := gives_readOptional read
    refine ⟨rfl, ?_⟩
    rw [if_pos field]
    refine ⟨field ▸ new, ?_⟩
    unfold Node.expectation
    split at optional
    · rename_i isNull
      rw [if_pos isNull]
      exact optional
    · rename_i present
      obtain ⟨shown, rfl, reads⟩ := optional
      rw [if_neg present, gives_readJson reads]
  case h_7 differs _ =>
    obtain ⟨_, -, rfl⟩ := gives_update given
    exact ⟨rfl, by rw [if_neg differs]⟩
  all_goals
    obtain ⟨a, -, rfl⟩ := gives_update given
    simp [*]

/-- A step expects what is written for it. -/
theorem gives_ofNode {n : Node} {step : ScenarioStep} (given : Gives (ofNode s n) step) :
    step.expectValue = (n.member? "expect_value").bind Node.expectation := by
  obtain ⟨entries, told, given⟩ := gives_bind given
  obtain rfl := gives_readEntries told
  obtain ⟨inner, -, given⟩ := gives_bind given
  obtain ⟨⟨draft, known⟩, read, given⟩ := gives_bind given
  have kept : Gives (pure draft) step := gives_required given
  have found := gives_fields "expect_value" expectValue (fun n value => value = n.expectation)
    gives_readField read
  rw [← gives_pure.mp kept, Node.member?]
  split at found
  · rename_i shape
    rw [shape]
    exact found.2
  · rename_i shape
    rw [shape]
    exact found

end ScenarioStep

namespace Scenario

/-- The nodes that the steps of a scenario are written as. -/
def stepNodes (root : Node) : List Node := ((root.member? "steps").map Node.items).getD []

/-- Do the steps expect what is written for them? -/
def Expects (nodes : List Node) (steps : List ScenarioStep) : Prop :=
  steps.map ScenarioStep.expectValue =
    nodes.map fun n => (n.member? "expect_value").bind Node.expectation

variable {s : Spot}

theorem gives_readField {draft after : Scenario × List String} {entry : Node × Node}
    (given : Gives (readField s draft entry) after) : after.2 = entry.1.text :: draft.2 ∧
      if entry.1.text = "steps" then "steps" ∉ draft.2 ∧ Expects entry.2.items after.1.steps
      else after.1.steps = draft.1.steps := by
  obtain ⟨scenario, known⟩ := draft
  obtain ⟨key, value⟩ := entry
  obtain ⟨name, told, given⟩ := gives_bind given
  obtain rfl := gives_readText told
  dsimp only at given ⊢
  split at given
  case h_1 field =>
    obtain ⟨_, -, rfl⟩ := gives_update given
    simp [field]
  case h_2 field =>
    obtain ⟨items, read, given⟩ := gives_bind given
    obtain ⟨new, read⟩ := gives_readOnce read
    obtain rfl := gives_readItems read
    obtain ⟨inner, -, given⟩ := gives_bind given
    obtain ⟨steps, each, rfl⟩ := gives_update given
    refine ⟨rfl, ?_⟩
    rw [if_pos field]
    refine ⟨field ▸ new, map_eq_map_of_forall₂ ?_⟩
    exact (gives_mapM_zipIdx each).imp fun item step ⟨_, read⟩ => ScenarioStep.gives_ofNode read
  case h_3 differs =>
    obtain ⟨_, -, rfl⟩ := gives_update given
    exact ⟨rfl, by rw [if_neg differs]⟩

theorem gives_ofNode {n : Node} {scenario : Scenario} (given : Gives (ofNode s n) scenario) :
    Expects (stepNodes n) scenario.steps := by
  obtain ⟨entries, told, given⟩ := gives_bind given
  obtain rfl := gives_readEntries told
  obtain ⟨inner, -, given⟩ := gives_bind given
  obtain ⟨⟨draft, known⟩, read, given⟩ := gives_bind given
  have kept : Gives (pure draft) scenario := gives_required given
  have found := gives_fields "steps" steps (fun n => Expects n.items) gives_readField read
  rw [← gives_pure.mp kept, stepNodes, Node.member?]
  split at found
  · rename_i shape
    rw [shape]
    exact found.2
  · rename_i shape
    rw [shape, found]
    rfl

/-- The value that a document writes for the step of an index to be expected. -/
def written? (text : String) (index : Nat) : Option Node :=
  (stepNodes (rootOf text))[index]?.bind (Node.member? · "expect_value")

theorem expectations_of_ofYaml {text : String} {scenario : Scenario}
    (loaded : ofYaml text = .ok scenario) : Expects (stepNodes (rootOf text)) scenario.steps := by
  unfold ofYaml at loaded
  cases read : readDocument text ofNode with
  | error message =>
    rw [read] at loaded
    cases loaded
  | ok result =>
    rw [read] at loaded
    cases loaded
    obtain ⟨s, given⟩ := gives_readDocument read
    exact gives_ofNode given

/-- The value that is written for a step of a scenario that loads is what the step expects, unless a null is
written: of that step nothing is expected. So if the scenario passes, a written value that is not a null is
what the step gave. -/
theorem written_values_seen {text : String} {scenario : Scenario} (loaded : ofYaml text = .ok scenario)
    {index : Nat} {value : Node} (written : written? text index = some value) :
    (∃ step, scenario.steps[index]? = some step ∧
      step.expectValue = if value.isNull then none else some value.json) ∧
    (value.isNull = true → value.json = .null) ∧
    ∀ {K : EngineKind} (ids : Nat → String) (ch : Channel K),
      (run ids scenario ch).1.overall = .pass → value.isNull = false →
        ∃ r, (run ids scenario ch).1.steps[index]? = some r ∧ r.data.getD .null == value.json := by
  obtain ⟨item, held, member⟩ := Option.bind_eq_some_iff.mp written
  have expects := congrArg (·[index]?) (expectations_of_ofYaml loaded)
  simp only [List.getElem?_map, held, Option.map_some, member, Option.bind_some,
    Option.map_eq_some_iff] at expects
  obtain ⟨step, found, expected⟩ := expects
  refine ⟨⟨step, found, expected⟩, Node.json_of_isNull, fun ids ch passed present => ?_⟩
  obtain ⟨r, result⟩ : ∃ r, (run ids scenario ch).1.steps[index]? = some r := by
    have inside : index < (run ids scenario ch).1.steps.length := by
      rw [length_run]
      exact (List.getElem?_eq_some_iff.mp found).1
    exact ⟨_, List.getElem?_eq_getElem inside⟩
  have pair : (scenario.steps.zip (run ids scenario ch).1.steps)[index]? = some (step, r) :=
    List.getElem?_zip_eq_some.mpr ⟨found, result⟩
  have met := (run_passes_iff ids scenario ch).mp passed _ (List.mem_of_getElem? pair)
  refine ⟨r, result, met.value value.json ?_⟩
  rw [expected, Node.expectation, present]
  rfl

/-- A scenario that loads and has some property. -/
theorem loaded_of_any {text : String} {p : Scenario → Bool}
    (passes : (ofYaml text).toOption.any p = true) :
    ∃ scenario, ofYaml text = .ok scenario ∧ p scenario = true := by
  cases loaded : ofYaml text with
  | error message =>
    rw [loaded] at passes
    cases passes
  | ok scenario =>
    rw [loaded] at passes
    exact ⟨scenario, rfl, passes⟩

/-- A channel to engines that count the scripts they are given. -/
def counting : Channel (ScriptedEngine.kind false) := .ofSettings {} ()

/-- A document of one step, a first count, which is expected to give this. -/
def countDocument (expected : String) : String :=
  "steps:\n- call: evalScript\n  args:\n    source: count\n  expect_value: " ++ expected

/-- A first count that is expected to be one. -/
theorem written_values_seen_count : ∃ scenario value, ofYaml (countDocument "1") = .ok scenario ∧
    written? (countDocument "1") 0 = some value ∧ value.isNull = false ∧
    (run toString scenario counting).1.overall = .pass ∧
    ∃ r, (run toString scenario counting).1.steps[0]? = some r ∧ r.data.getD .null == value.json := by
  have runs : (ofYaml (countDocument "1")).toOption.any
      (fun scenario => (run toString scenario counting).1.overall = .pass) = true := by
    decide +kernel
  have writes : (written? (countDocument "1") 0).any (fun value => value.isNull = false) = true := by
    decide +kernel
  obtain ⟨scenario, loaded, passed⟩ := loaded_of_any runs
  obtain ⟨value, written, present⟩ := (Option.any_eq_true _ _).mp writes
  have passed := of_decide_eq_true passed
  have present := of_decide_eq_true present
  have seen := (written_values_seen loaded written).2.2 toString counting passed present
  exact ⟨scenario, value, loaded, written, present, passed, seen⟩

/-- A first count that is expected to be null is one, and the scenario passes. -/
theorem null_expectation_unseen : ∃ scenario value, ofYaml (countDocument "null") = .ok scenario ∧
    written? (countDocument "null") 0 = some value ∧ value.json = .null ∧
    (run toString scenario counting).1.overall = .pass ∧
    ∃ r, (run toString scenario counting).1.steps[0]? = some r ∧ r.data.map (· == .int 1) = some true := by
  have runs : (ofYaml (countDocument "null")).toOption.any
      (fun scenario => (run toString scenario counting).1.overall = .pass ∧
        (run toString scenario counting).1.steps[0]?.any
          (fun r => r.data.map (· == .int 1) = some true)) = true := by
    decide +kernel
  have writes : (written? (countDocument "null") 0).any Node.isNull = true := by
    decide +kernel
  obtain ⟨scenario, loaded, shown⟩ := loaded_of_any runs
  obtain ⟨value, written, isNull⟩ := (Option.any_eq_true _ _).mp writes
  obtain ⟨passed, result⟩ := of_decide_eq_true shown
  obtain ⟨r, found, counted⟩ := (Option.any_eq_true _ _).mp result
  exact ⟨scenario, value, loaded, written, Node.json_of_isNull isNull, passed, r, found,
    of_decide_eq_true counted⟩

end Scenario

end ScriptHost
