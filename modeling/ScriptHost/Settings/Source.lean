import ScriptHost.Files
import ScriptHost.Json.Reader
import ScriptHost.Settings.Layer
import ScriptHost.Text.Case
import ScriptHost.Yaml.Content

/-! Where settings are written down: files in YAML or JSON, and the environment. -/

namespace ScriptHost

/-- What surrounds a host when it starts. -/
structure Surroundings where
  files : Files := []
  environment : List (String × String) := []

namespace Surroundings

def file? (s : Surroundings) (path : String) : Option (List UInt8) := s.files.get? path

def valueOf (s : Surroundings) (name : String) : Option String := s.environment.lookup name

end Surroundings

/-- Why settings cannot be had. Keys name the place of a value, outermost first. -/
inductive SettingsError where
  | noFile (path : String)
  | unknownFormat (path : String)
  | unreadable (path cause : String)
  | missing (key : String)
  | mismatch (m : Json.Mismatch) (key : String) (origin : Option String)
deriving DecidableEq, Repr

namespace SettingsError

def message : SettingsError → String
  | .noFile path => "configuration file \"" ++ path ++ "\" not found"
  | .unknownFormat path =>
    "configuration file \"" ++ path ++ "\" is not of a supported file format"
  | .unreadable path cause => cause ++ " in " ++ path
  | .missing key => "missing configuration field " ++ Text.quote key
  | .mismatch m key origin =>
    m.message ++ (if key.isEmpty then "" else " for key \x60" ++ key ++ "\x60")
      ++ match origin with
        | some origin => " in " ++ origin
        | none => ""

/-- A fault in a part of something that has a name. -/
def inPart (segment : String) (named : Bool) : SettingsError → SettingsError
  | .missing key => .missing (join key)
  | .mismatch m key origin => .mismatch m (join key) origin
  | other => other
where
  join (key : String) : String :=
    segment ++ (if named && !key.isEmpty && !key.startsWith "[" then "." else "") ++ key

end SettingsError

namespace Layer

open Yaml (Atom Content)

/-- What a value is called in messages about single values. -/
def describe : Layer → String
  | .atom _ .null => "unit value"
  | .atom _ (.bool b) => "boolean \x60" ++ (if b then "true" else "false") ++ "\x60"
  | .atom _ (.int i) => "64-bit integer \x60" ++ toString i ++ "\x60"
  | .atom _ (.float d) => "floating point \x60" ++ floatText d ++ "\x60"
  | .atom _ (.text s) => "string " ++ Text.quote s
  | .list .. => "sequence"
  | .table .. => "map"
where
  floatText (d : Double) : String :=
    NumberLayout.render
      { low := -NumberLayout.unbounded, high := NumberLayout.unbounded, point := false } d

mutual

def ofJson (origin : String) : Json → Layer
  | .null => .atom origin .null
  | .bool b => .atom origin (.bool b)
  | .int i => .atom origin (if i < Nat.pow 2 63 then .int i else .float (Double.ofInt i))
  | .float d => .atom origin (.float d)
  | .string s => .atom origin (.text s)
  | .array items => .list origin (ofItems origin items)
  | .object members => .table origin (ofMembers origin members)

def ofItems (origin : String) : List Json → List Layer
  | [] => []
  | item :: rest => ofJson origin item :: ofItems origin rest

def ofMembers (origin : String) : List (String × Json) → List (String × Layer)
  | [] => []
  | (name, value) :: rest => (name, ofJson origin value) :: ofMembers origin rest

end

/-- The key that a content stands for. -/
def keyOf (key : Content) : Except String String :=
  match key with
  | .text s => .ok s
  | .int i => .ok (toString i)
  | .bool b => .ok (if b then "true" else "false")
  | .real text => .ok text
  | other => .error ("Cannot parse " ++ other.shown ++ " because it is an unsupported hash key type")

mutual

def ofContent (origin : String) : Content → Except String Layer
  | .null => .ok (.atom origin .null)
  | .bad => .ok (.atom origin .null)
  | .bool b => .ok (.atom origin (.bool b))
  | .int i => .ok (.atom origin (.int i))
  | .real text =>
    match Decimal.double? text.toList with
    | some d => .ok (.atom origin (.float d))
    | none => .error ("Parsing " ++ text ++ " as floating point number failed")
  | .text s => .ok (.atom origin (.text s))
  | .sequence items => (ofContents origin items).map (.list origin)
  | .mapping entries => (ofEntries origin entries).map (.table origin)

def ofContents (origin : String) : List Content → Except String (List Layer)
  | [] => .ok []
  | item :: rest => do
    let item ← ofContent origin item
    return item :: (← ofContents origin rest)

def ofEntries (origin : String) :
    List (Content × Content) → Except String (List (String × Layer))
  | [] => .ok []
  | (key, value) :: rest => do
    let name ← match key with
      | .text s => pure s
      | key => keyOf key
    let value ← ofContent origin value
    return (name, value) :: (← ofEntries origin rest)

end

end Layer

/-- The formats of files. -/
inductive FileFormat where
  | yaml | json
deriving DecidableEq, Repr

namespace FileFormat

/-- The endings of file names. -/
def extensions : List (String × FileFormat) := [("yaml", .yaml), ("yml", .yaml), ("json", .json)]

def ofPath? (path : String) : Option FileFormat :=
  (extensions.find? fun (ending, _) => path.endsWith ("." ++ ending)).map Prod.snd

/-- The value that a file holds. -/
def read (format : FileFormat) (path text : String) : Except String Layer :=
  match format with
  | .yaml => do
    let content ← (Yaml.Content.ofText text).mapError (Yaml.Fault.message .relaxed)
    Layer.ofContent path content
  | .json => ((Json.read text).mapError Json.Fault.message).map (Layer.ofJson path)

end FileFormat

namespace Surroundings

/-- The file that a path means, with its format: the file itself, or one whose name goes
on with the ending of a format. -/
def findFile (s : Surroundings) (path : String) :
    Except SettingsError (String × FileFormat × List UInt8) :=
  match s.file? path with
  | some bytes =>
    match FileFormat.ofPath? path with
    | some format => .ok (path, format, bytes)
    | none => .error (.unknownFormat path)
  | none =>
    let candidates := FileFormat.extensions.filterMap fun (ending, format) =>
      let longer := path ++ "." ++ ending
      (s.file? longer).map fun bytes => (longer, format, bytes)
    match candidates with
    | found :: _ => .ok found
    | [] => .error (.noFile path)

/-- A mark of the byte order is no part of a text. -/
def withoutMark : List UInt8 → List UInt8
  | 0xEF :: 0xBB :: 0xBF :: rest => rest
  | bytes => bytes

/-- The entries of a file. -/
def readFile (s : Surroundings) (path : String) :
    Except SettingsError (List (String × Layer)) := do
  let (path, format, bytes) ← s.findFile path
  let text := Utf8.decodeLoosely (withoutMark bytes)
  let layer ← (format.read path text).mapError (.unreadable path)
  match layer with
  | .table _ entries => return entries
  | other =>
    let fault : SettingsError := .mismatch (.wrongType other.describe "a map") "" (some path)
    throw (.unreadable path fault.message)

/-- What the names of the variables for settings begin with. -/
def variableMark : String := "qjs_bridge__"

/-- The entries of the environment. Two underscores in a name stand for a point. -/
def variableEntries (s : Surroundings) : List (String × Layer) :=
  s.environment.filterMap fun (name, value) =>
    let name := Text.lower name
    if name.startsWith variableMark then
      let key := (name.drop variableMark.length).toString.replace "__" "."
      some (key, .atom (some "the environment") (.text value))
    else none

end Surroundings

end ScriptHost
