import ScriptHost.Wire.Basic
import ScriptHost.Datum.Basic
import ScriptHost.Engine.Request

/-! The binary forms of data and of the payloads built from them. A datum is the index
of its case and the fields of that case; lists are announced by their length, and
objects list their fields in order. Readers take the fields of an object in any order,
the last of each name counting. -/

namespace ScriptHost

namespace Wire

instance : Wire FunctionHandle where
  write f := write f.id ++ write f.name
  read := return ⟨← read, ← read⟩

mutual

def writeDatum : Datum → List UInt8
  | .undefined => [0]
  | .null => [1]
  | .bool b => 2 :: write b
  | .int i => 3 :: write i
  | .float d => 4 :: write d
  | .bigInt digits => 5 :: write digits
  | .string s => 6 :: write s
  | .array items => 7 :: (writeNat items.length ++ writeItems items)
  | .object fields => 8 :: (writeNat fields.length ++ writeFields fields)
  | .function f => 9 :: write f

def writeItems : List Datum → List UInt8
  | [] => []
  | item :: rest => writeDatum item ++ writeItems rest

def writeFields : List (String × Datum) → List UInt8
  | [] => []
  | (name, value) :: rest => write name ++ writeDatum value ++ writeFields rest

end

mutual

/-- A datum. The first argument bounds the number of values read. -/
def readDatum : Nat → Reader Datum
  | 0 => throw .endOfInput
  | fuel + 1 => do
    match ← readCase 10 with
    | 0 => return .undefined
    | 1 => return .null
    | 2 => return .bool (← read)
    | 3 => return .int (← read)
    | 4 => return .float (← read)
    | 5 => return .bigInt (← read)
    | 6 => return .string (← read)
    | 7 => return .array (← readItems fuel (← readNat) [])
    | 8 => return .object (Fields.ofList (← readFields fuel (← readNat) []))
    | _ => return .function (← read)

def readItems : Nat → Nat → List Datum → Reader (List Datum)
  | 0, _, _ => throw .endOfInput
  | _ + 1, 0, items => return items.reverse
  | fuel + 1, count + 1, items => do
    let item ← readDatum fuel
    readItems fuel count (item :: items)

def readFields : Nat → Nat → List (String × Datum) → Reader (List (String × Datum))
  | 0, _, _ => throw .endOfInput
  | _ + 1, 0, fields => return fields.reverse
  | fuel + 1, count + 1, fields => do
    let name ← read
    let value ← readDatum fuel
    readFields fuel count ((name, value) :: fields)

end

/-- Every value and every list takes a byte at least, so twice the number of bytes
bounds the reading. -/
instance : Wire Datum where
  write := writeDatum
  read := fun bytes => readDatum (2 * bytes.length + 2) bytes

instance : Wire FunctionRef where
  write
    | .path path => 0 :: write path
    | .retained id => 1 :: write id
  read := do
    match ← readCase 2 with
    | 0 => return .path (← read)
    | _ => return .retained (← read)

instance : Wire EvalRequest where
  write r := write r.source ++ write r.fileName ++ write r.asModule ++ write r.strict
  read := return ⟨← read, ← read, ← read, ← read⟩

instance : Wire CallRequest where
  write r := write r.function ++ writeNat r.args.length ++ writeItems r.args
  read := do
    let function ← read
    let count ← readNat
    let args ← fun bytes => readItems (2 * bytes.length + 2) count [] bytes
    return ⟨function, args⟩

instance : Wire GlobalAssignment where
  write a := write a.name ++ write a.value
  read := return ⟨← read, ← read⟩

instance : Wire EngineOptions where
  write o := write o.memoryLimit ++ write o.stackLimit ++ write o.timeout
  read := return ⟨← read, ← read, ← read⟩

end Wire

end ScriptHost
