import ScriptHost.Datum.Json
import ScriptHost.Json.Printer

/-! The text of a datum in messages. Arrays and objects are shown by their JSON view. -/

namespace ScriptHost.Datum

/-- Numbers in messages never have an exponent, and integers no point. -/
def displayLayout : NumberLayout where
  low := -NumberLayout.unbounded
  high := NumberLayout.unbounded
  point := false
  infinite := "Infinity"

def display : Datum → String
  | .undefined => "undefined"
  | .null => "null"
  | .bool b => if b then "true" else "false"
  | .int i => toString i.toInt
  | .float d => displayLayout.render d
  | .bigInt digits => digits ++ "n"
  | .string s => s
  | .function f =>
    match f.name with
    | some name => if name.isEmpty then "[Function (anonymous)]" else "[Function: " ++ name ++ "]"
    | none => "[Function (anonymous)]"
  | value => value.toJson.compact

end ScriptHost.Datum
