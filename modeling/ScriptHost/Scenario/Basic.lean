import ScriptHost.Report.Status

/-! A scenario: calls to make in order, and what is expected of each. -/

namespace ScriptHost

structure ScenarioStep where
  /-- The method to call. -/
  call : String
  args : Json := .null
  expectStatus : Status := .pass
  expectCode : Option ErrorCode := none
  expectValue : Option Json := none
  /-- Keeps the result, so that later steps can name it. -/
  saveAs : Option String := none
deriving Repr, Inhabited

structure Scenario where
  name : Option String := none
  steps : List ScenarioStep
deriving Repr, Inhabited

namespace ScenarioStep

def toJson (s : ScenarioStep) : Json :=
  .ofFields [("call", .string s.call), ("args", s.args),
    ("expect_status", s.expectStatus.toJson),
    ("expect_code", .ofOption ErrorCode.toJson s.expectCode),
    ("expect_value", .ofOption id s.expectValue), ("save_as", .ofOption .string s.saveAs)]

def ofJson? : Json.Decoder ScenarioStep :=
  .record "ScenarioStep"
    [.required "call" .string, .defaulted "args" .any,
     .defaulted "expect_status" Status.ofJson?,
     .defaulted "expect_code" (.optional ErrorCode.ofJson?),
     .defaulted "expect_value" (.optional .any),
     .defaulted "save_as" (.optional .string)]
    fun members => do
      return {
        call := ← members.required "call" .string
        args := ← members.defaulted "args" .any .null
        expectStatus := ← members.defaulted "expect_status" Status.ofJson? .pass
        expectCode := ← members.optional "expect_code" ErrorCode.ofJson?
        expectValue := ← members.optional "expect_value" .any
        saveAs := ← members.optional "save_as" .string }

end ScenarioStep

namespace Scenario

def toJson (s : Scenario) : Json :=
  .ofFields [("name", .ofOption .string s.name),
    ("steps", .array (s.steps.map ScenarioStep.toJson))]

def ofJson? : Json.Decoder Scenario :=
  .record "Scenario"
    [.defaulted "name" (.optional .string), .required "steps" (.list ScenarioStep.ofJson?)]
    fun members => do
      return {
        name := ← members.optional "name" .string
        steps := ← members.required "steps" (.list ScenarioStep.ofJson?) }

end Scenario

end ScriptHost
