import ScriptHost.Datum.Basic
import ScriptHost.Json.Basic

/-! The JSON view of data. It is plain, so it loses what JSON has no room for:
`undefined` and the numbers that are not finite become `null`. Functions and big
integers travel as objects with a marker field. -/

namespace ScriptHost

/-- The field that marks a function. -/
def functionMarker : String := "$function"

/-- The field that marks a big integer. -/
def bigIntMarker : String := "$bigint"

namespace Datum

mutual

/-- The JSON view of a datum. -/
def toJson : Datum → Json
  | .undefined => .null
  | .null => .null
  | .bool b => .bool b
  | .int i => .int i.toInt
  | .float d => Json.ofDouble d
  | .bigInt digits => .object [(bigIntMarker, .string digits)]
  | .string s => .string s
  | .array items => .array (toJsonItems items)
  | .object fields => .object (toJsonFields fields)
  | .function f =>
    .object ((functionMarker, .int f.id.toNat) ::
      (f.name.map fun name => ("name", Json.string name)).toList)

def toJsonItems : List Datum → List Json
  | [] => []
  | item :: rest => item.toJson :: toJsonItems rest

def toJsonFields : List (String × Datum) → List (String × Json)
  | [] => []
  | (name, value) :: rest => (name, value.toJson) :: toJsonFields rest

end

/-- The tagged value that the fields of an object mark, if they mark one. -/
def ofMarkers? (fields : Fields Json) : Option Datum :=
  match (fields.get? functionMarker).bind Json.asNatural? with
  | some id =>
    some (.function ⟨UInt64.ofNat id, (fields.get? "name").bind Json.asString?⟩)
  | none =>
    match fields with
    | [(key, .string digits)] => if key = bigIntMarker then some (.bigInt digits) else none
    | _ => none

mutual

/-- The datum that a JSON value is a view of. -/
def ofJson : Json → Datum
  | .null => .null
  | .bool b => .bool b
  | .int i => if i < Nat.pow 2 63 then .int (Int64.ofInt i) else ofDouble (Double.ofInt i)
  | .float d => ofDouble d
  | .string s => .string s
  | .array items => .array (ofJsonItems items)
  | .object fields => (ofMarkers? fields).getD (.object (ofJsonFields fields))

def ofJsonItems : List Json → List Datum
  | [] => []
  | item :: rest => ofJson item :: ofJsonItems rest

def ofJsonFields : List (String × Json) → List (String × Datum)
  | [] => []
  | (name, value) :: rest => (name, ofJson value) :: ofJsonFields rest

end

end Datum

/-- A function reference in JSON: a dotted path, a function marker, or a bare id. -/
def FunctionRef.ofJson? : Json → Option FunctionRef
  | .string text => if text.isEmpty then none else some (.path text)
  | .int i => (Json.int i).asNatural?.map fun id => .retained (UInt64.ofNat id)
  | .object fields =>
    ((Fields.get? fields functionMarker).bind Json.asNatural?).map fun id =>
      .retained (UInt64.ofNat id)
  | _ => none

end ScriptHost
