import ScriptHost.Channel.Basic
import ScriptHost.Json.Printer
import ScriptHost.Scenario.Basic

/-! Running a scenario. Every step is carried out, whatever the steps before it gave; the
scenario passes when every step ended as it was expected to. The data of a step that went
well can be saved under a name for the steps after it.

A string that is a dollar sign and a saved name stands for the saved value; what is put in its place
is not looked at again. -/

namespace ScriptHost.Scenario

/-- The saved value that a string refers to. -/
def reference? (saved : Fields Json) (s : String) : Option Json :=
  match s.toList with
  | '$' :: name => saved.get? (String.ofList name)
  | _ => none

mutual

/-- A value with every reference to a saved name replaced. Names of members are left
alone. -/
def substitute (saved : Fields Json) : Json → Json
  | .string s => (reference? saved s).getD (.string s)
  | .array items => .array (substituteItems saved items)
  | .object fields => .object (substituteFields saved fields)
  | value => value

def substituteItems (saved : Fields Json) : List Json → List Json
  | [] => []
  | item :: rest => substitute saved item :: substituteItems saved rest

def substituteFields (saved : Fields Json) : List (String × Json) → List (String × Json)
  | [] => []
  | (name, value) :: rest => (name, substitute saved value) :: substituteFields saved rest

end

variable {K : EngineKind}

/-- The part of the program that speaks for scenarios in the log. -/
def logTarget : String := "quickjs_bridge::scenario"

/-- Shows an optional value. -/
def showOption (display : α → String) : Option α → String
  | some a => "Some(" ++ display a ++ ")"
  | none => "None"

/-- The ways in which the result of a step is not the expected one, as warnings. -/
def mismatches (index : Nat) (step : ScenarioStep) (r : CallResult) : List Log.Record :=
  let warning (message : String) (values : List (String × String)) : Log.Record :=
    ⟨.warn, logTarget, message, ("step", toString index) :: values⟩
  let ofStatus :=
    if r.status = step.expectStatus then []
    else [warning "scenario step status mismatch"
      [("call", step.call), ("expected", step.expectStatus.title), ("actual", r.status.title),
       ("error", showOption (fun e => Text.quote e.message) r.error)]]
  let ofCode := match step.expectCode with
    | none => []
    | some code =>
      if r.error.map ErrorInfo.code = some code then []
      else [warning "scenario step error code mismatch"
        [("expected", code.word), ("actual", showOption (fun e => e.code.title) r.error)]]
  let ofValue := match step.expectValue with
    | none => []
    | some expected =>
      let actual := r.data.getD .null
      if actual == expected then []
      else [warning "scenario step value mismatch"
        [("expected", expected.compact), ("actual", actual.compact)]]
  ofStatus ++ ofCode ++ ofValue

/-- The saved values after a step. -/
def save (step : ScenarioStep) (r : CallResult) (saved : Fields Json) : Fields Json :=
  match step.saveAs, r.data with
  | some name, some data => saved.insert name data
  | _, _ => saved

/-- Carries out steps from the given index on. Gives the results in order and whether all
were as expected. -/
def runSteps (ids : Nat → String) (index : Nat) (saved : Fields Json) :
    List ScenarioStep → Channel K → (List CallResult × Bool) × Channel K
  | [], ch => (([], true), ch)
  | step :: rest, ch =>
    let (r, ch) := ch.execute (ids index) ⟨step.call, substitute saved step.args⟩
    let warnings := mismatches index step r
    let ch := { ch with dispatcher := ch.dispatcher.record warnings }
    let ((results, good), ch) := runSteps ids (index + 1) (save step r saved) rest ch
    ((r :: results, warnings.isEmpty && good), ch)

/-- Runs a scenario. The result of step `i` carries the id `ids i`. -/
def run (ids : Nat → String) (scenario : Scenario) (ch : Channel K) :
    ScenarioResult × Channel K :=
  let ((results, good), ch) := runSteps ids 0 [] scenario.steps ch
  (⟨scenario.name, if good then .pass else .fail, results⟩, ch)

end ScriptHost.Scenario
