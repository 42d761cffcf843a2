import ScriptHost.Scenario.Basic
import ScriptHost.Yaml.Decode

/-! Reading scenarios from YAML. Fields are read in the order in which they are written;
those that nobody knows are passed over. -/

namespace ScriptHost

open Yaml

/-- Reads a field unless it was read before. -/
def readOnce {α : Type} (s : Spot) (known : List String) (name : String) (read : Read α) : Read α := do
  if known.contains name then s.fail (.duplicateField name)
  read

namespace ScenarioStep

/-- A step under construction, with the names of the fields that are read. -/
abbrev Draft := ScenarioStep × List String

def readField (s : Spot) (draft : Draft) (entry : Node × Node) : Read Draft := do
  let (step, known) := draft
  let (key, value) := entry
  let name ← readText s "field identifier" key
  let inner := s.member key
  let once {α : Type} (read : Node → Read α) : Read α := readOnce s known name (read value)
  let text (n : Node) : Read String := readText inner "a string" n
  let step ← match name with
    | "call" => do pure { step with call := ← once text }
    | "args" => do pure { step with args := ← once (readJson inner.levels inner) }
    | "expect_status" => do
      let cases := Status.all.map fun s => (s.word, s)
      pure { step with expectStatus := ← once (readCase inner cases) }
    | "expect_code" => do
      let cases := ErrorCode.all.map fun c => (c.word, c)
      pure { step with expectCode := ← once (readOptional inner (readCase inner cases)) }
    | "expect_value" => do
      pure { step with expectValue := ← once (readOptional inner (readJson inner.levels inner)) }
    | "save_as" => do pure { step with saveAs := ← once (readOptional inner text) }
    | _ => do
      skip inner countDepth value
      pure step
  return (step, name :: known)

def ofNode (s : Spot) (n : Node) : Read ScenarioStep := do
  let entries ← readEntries s "struct ScenarioStep" n
  let s ← s.deeper
  let (step, known) ← entries.foldlM (readField s) ({ call := "" }, [])
  unless known.contains "call" do s.fail (.missingField "call")
  return step

end ScenarioStep

namespace Scenario

def readField (s : Spot) (draft : Scenario × List String) (entry : Node × Node) :
    Read (Scenario × List String) := do
  let (scenario, known) := draft
  let (key, value) := entry
  let name ← readText s "field identifier" key
  let inner := s.member key
  let scenario ← match name with
    | "name" => do
      let text ← readOnce s known name (readOptional inner (readText inner "a string") value)
      pure { scenario with name := text }
    | "steps" => do
      let items ← readOnce s known name (readItems inner "a sequence" value)
      let inner ← inner.deeper
      let steps ← items.zipIdx.mapM fun (item, i) => ScenarioStep.ofNode (inner.item i) item
      pure { scenario with steps := steps }
    | _ => do
      skip inner countDepth value
      pure scenario
  return (scenario, name :: known)

def ofNode (s : Spot) (n : Node) : Read Scenario := do
  let entries ← readEntries s "struct Scenario" n
  let s ← s.deeper
  let (scenario, known) ← entries.foldlM (readField s) ({ steps := [] }, [])
  unless known.contains "steps" do s.fail (.missingField "steps")
  return scenario

/-- The scenario that a YAML text describes. -/
def ofYaml (text : String) : Except String Scenario :=
  (readDocument text ofNode).mapError ("failed to parse scenario YAML: " ++ ·)

end Scenario

end ScriptHost
