import ScriptHost.Json.Basic
import ScriptHost.Text.Quoted

/-! Reading typed values from JSON. A record is read from an object, or from a list of
its fields in their order. The fields of an object are read in ascending order of their
names and the first one that does not fit is reported; only then are missing ones. -/

namespace ScriptHost.Json

/-- Why a JSON value does not fit a type. -/
inductive Mismatch where
  | wrongType (found expected : String)
  | wrongValue (found expected : String)
  | wrongLength (length : Nat) (expected : String)
  | missingField (name : String)
  | duplicateField (name : String)
  | unknownVariant (name : String) (known : List String)
deriving DecidableEq, Repr

/-- A list of alternatives, each in backquotes. -/
def alternatives (names : List String) : String :=
  let quoted := names.map fun name => "`" ++ name ++ "`"
  match quoted with
  | [] => "nothing"
  | [one] => one
  | [one, other] => one ++ " or " ++ other
  | many => "one of " ++ ", ".intercalate many

def Mismatch.message : Mismatch → String
  | .wrongType found expected => "invalid type: " ++ found ++ ", expected " ++ expected
  | .wrongValue found expected => "invalid value: " ++ found ++ ", expected " ++ expected
  | .wrongLength length expected =>
    "invalid length " ++ toString length ++ ", expected " ++ expected
  | .missingField name => "missing field `" ++ name ++ "`"
  | .duplicateField name => "duplicate field `" ++ name ++ "`"
  | .unknownVariant name known =>
    "unknown variant `" ++ name ++ "`, expected " ++ alternatives known

/-- What a value is called in messages. -/
def describe : Json → String
  | .null => "null"
  | .bool b => "boolean `" ++ (if b then "true" else "false") ++ "`"
  | .int i => "integer `" ++ toString i ++ "`"
  | .float d => "floating point `" ++ floatLayout.render d ++ "`"
  | .string s => "string " ++ Text.quote s
  | .array _ => "sequence"
  | .object _ => "map"

/-- A reader of a typed value. -/
abbrev Decoder (α : Type) := Json → Except Mismatch α

/-- The refusal of a value where another kind is expected. -/
def refuse (expected : String) (value : Json) : Except Mismatch α :=
  .error (.wrongType value.describe expected)

namespace Decoder

/-- Any value. -/
def any : Decoder Json := .ok

def string : Decoder String
  | .string s => .ok s
  | value => refuse "a string" value

def bool : Decoder Bool
  | .bool b => .ok b
  | value => refuse "a boolean" value

def unsigned : Decoder UInt64
  | .int i =>
    if 0 ≤ i then .ok (UInt64.ofNat i.toNat)
    else .error (.wrongValue (Json.int i).describe "u64")
  | value => refuse "u64" value

/-- `null` is an absent value. -/
def optional (decode : Decoder α) : Decoder (Option α)
  | .null => .ok none
  | value => (decode value).map some

def list (decode : Decoder α) : Decoder (List α)
  | .array items => items.mapM decode
  | value => refuse "a sequence" value

/-- An object whose members all have one type. -/
def fields (decode : Decoder α) : Decoder (Fields α)
  | .object members => members.mapM fun member => return (member.1, ← decode member.2)
  | value => refuse "a map" value

/-- The case of a type that a value names, with the content it gives to the case. -/
def variant (known : List String) : Json → Except Mismatch (String × Option Json)
  | .string name => check name none
  | .object [(name, content)] => check name (some content)
  | .object _ => .error (.wrongValue "map" "map with a single key")
  | value => refuse "string or map" value
where
  check (name : String) (content : Option Json) : Except Mismatch (String × Option Json) :=
    if known.contains name then .ok (name, content)
    else .error (.unknownVariant name known)

/-- A type whose cases hold nothing. -/
def enumeration (cases : List (String × α)) : Decoder α := fun value => do
  let (name, content) ← variant (cases.map Prod.fst) value
  match content with
  | none | some .null => pure ()
  | some content => refuse "unit" content
  match cases.lookup name with
  | some a => return a
  | none => throw (.unknownVariant name (cases.map Prod.fst))

end Decoder

/-- A field of a record as far as reading needs it: whether a list of fields may leave it
out, and what is wrong with a value for it. -/
structure FieldSpec where
  name : String
  optional : Bool
  fault? : Json → Option Mismatch

namespace FieldSpec

/-- A field that a list of fields has to have. -/
def required (name : String) (decode : Decoder α) : FieldSpec :=
  ⟨name, false, fun value => match decode value with
    | .ok _ => none
    | .error fault => some fault⟩

/-- A field with a default. -/
def defaulted (name : String) (decode : Decoder α) : FieldSpec :=
  { required name decode with optional := true }

end FieldSpec

/-- The members of a record, each found fit for its field. -/
abbrev Members := List (String × Json)

namespace Members

def required (members : Members) (name : String) (decode : Decoder α) :
    Except Mismatch α :=
  match members.lookup name with
  | some value => decode value
  | none => .error (.missingField name)

def defaulted (members : Members) (name : String) (decode : Decoder α) (default : α) :
    Except Mismatch α :=
  match members.lookup name with
  | some value => decode value
  | none => .ok default

/-- A field that may be absent or `null`. -/
def optional (members : Members) (name : String) (decode : Decoder α) :
    Except Mismatch (Option α) :=
  members.defaulted name (.optional decode) none

end Members

/-- Pairs a list of values with the fields of a record in their order. -/
def positionalMembers (expected : String) (total : Nat) :
    List FieldSpec → List Json → Nat → Except Mismatch Members
  | [], [], _ => .ok []
  | [], _ :: _, _ => .error (.wrongLength total "fewer elements in array")
  | spec :: specs, [], index =>
    if spec.optional then positionalMembers expected total specs [] index
    else .error (.wrongLength index expected)
  | spec :: specs, value :: values, index =>
    match spec.fault? value with
    | some fault => .error fault
    | none => return (spec.name, value) :: (← positionalMembers expected total specs values (index + 1))

/-- A record: its members are checked and then put together. -/
def Decoder.record (type : String) (specs : List FieldSpec)
    (build : Members → Except Mismatch α) : Decoder α
  | .object members =>
    let faults := members.filterMap fun (name, value) =>
      (specs.find? fun spec => spec.name == name).bind fun spec => spec.fault? value
    match faults with
    | fault :: _ => .error fault
    | [] => build members
  | .array items => do
    let expected := "struct " ++ type ++ " with " ++ toString specs.length ++
      (if specs.length = 1 then " element" else " elements")
    build (← positionalMembers expected items.length specs items 0)
  | value => refuse ("struct " ++ type) value

end ScriptHost.Json
