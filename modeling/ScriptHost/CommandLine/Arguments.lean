import ScriptHost.Settings.Load

/-! The command line: which commands there are and how they are written. Arguments are read
from left to right, and the first one that settles the matter wins: one that is out of
place, or one that asks for help or for the version. -/

namespace ScriptHost.CommandLine

/-- Where a script comes from. -/
inductive ScriptSource where
  | text (source : String)
  | file (path : String)
deriving DecidableEq, Repr

/-- What the program is asked to do. -/
inductive Subcommand where
  | doctor (json : Bool) (out : Option String)
  | eval (script : ScriptSource) (memoryLimit timeout : Option UInt64)
      (asModule strict json : Bool)
  | call (method arguments : String) (json : Bool) (artifacts : Option String)
  | runScenario (file : String) (json : Bool) (artifacts : Option String)
  | serve (socket : String)
deriving DecidableEq, Repr

structure Invocation where
  command : Subcommand
  /-- Log at debug level whatever the settings say. -/
  verbose : Bool
deriving DecidableEq, Repr

/-- Why there is nothing to do. -/
inductive Refusal where
  | misuse | help | version
deriving DecidableEq, Repr

/-- What can be written where a value is wanted. -/
inductive ValueKind where
  | text
  /-- Not empty. -/
  | path
  | number
deriving DecidableEq, Repr

def ValueKind.accepts : ValueKind → String → Bool
  | .text, _ => true
  | .path, value => !value.isEmpty
  | .number, value => (Reading.unsigned? value).isSome

/-- How a command is written. -/
structure Shape where
  flags : List String
  options : List (String × ValueKind)
  positionals : List ValueKind
  /-- Can it be asked for the version? -/
  versioned : Bool := false

/-- The arguments of a command, taken apart. -/
structure Found where
  flags : List String := []
  options : List (String × String) := []
  positionals : List String := []
deriving Inhabited

namespace Found

def addFlag (found : Found) (name : String) : Except Refusal Found :=
  if found.flags.contains name then .error .misuse
  else .ok { found with flags := name :: found.flags }

def addOption (found : Found) (kind : ValueKind) (name value : String) : Except Refusal Found :=
  if (found.options.lookup name).isSome || !kind.accepts value then .error .misuse
  else .ok { found with options := (name, value) :: found.options }

def addPositional (shape : Shape) (found : Found) (value : String) : Except Refusal Found :=
  match shape.positionals[found.positionals.length]? with
  | some kind =>
    if kind.accepts value then .ok { found with positionals := found.positionals ++ [value] }
    else .error .misuse
  | none => .error .misuse

def has (found : Found) (name : String) : Bool := found.flags.contains name

def number? (found : Found) (name : String) : Option UInt64 :=
  (found.options.lookup name).bind Reading.unsigned?

end Found

/-- The flag that stands everywhere. -/
def verboseFlag : String := "verbose"

/-- Letters after one dash. -/
def readLetters (shape : Shape) : List Char → Found → Except Refusal Found
  | [], found => .ok found
  | 'v' :: rest, found => do readLetters shape rest (← found.addFlag verboseFlag)
  | 'h' :: _, _ => .error .help
  | 'V' :: _, _ => .error (if shape.versioned then .version else .misuse)
  | _, _ => .error .misuse

/-- What stands after two dashes, with the value that is joined to it. -/
def splitLong (written : String) : String × Option String :=
  match written.splitOn "=" with
  | [] => (written, none)
  | [name] => (name, none)
  | name :: value => (name, some ("=".intercalate value))

/-- Does an argument look like an option? A dash alone does not. -/
def looksLikeOption (argument : String) : Bool := argument.startsWith "-" && argument != "-"

/-- Takes an argument that begins with two dashes. Gives the option that waits for its value,
if there is one. -/
def readLong (shape : Shape) (written : String) (found : Found) :
    Except Refusal (Found × Option (String × ValueKind)) := do
  let (name, joined) := splitLong written
  if name == verboseFlag || shape.flags.contains name then
    if joined.isSome then throw .misuse
    return (← found.addFlag name, none)
  else if name == "help" then throw (if joined.isSome then .misuse else .help)
  else if name == "version" && shape.versioned then
    throw (if joined.isSome then .misuse else .version)
  else
    match shape.options.lookup name, joined with
    | some kind, some value => return (← found.addOption kind name value, none)
    | some kind, none => return (found, some (name, kind))
    | none, _ => throw .misuse

/-- Takes the arguments of a command apart; an option may be waiting for its value. At the
top a word that is no option ends the reading; it is the first of the arguments that are
left. -/
def takeApart (shape : Shape) (found : Found) (waiting : Option (String × ValueKind)) :
    List String → Except Refusal (Found × List String)
  | [] => if waiting.isSome then .error .misuse else .ok (found, [])
  | argument :: rest =>
    match waiting with
    | some (name, kind) =>
      if looksLikeOption argument then .error .misuse
      else do takeApart shape (← found.addOption kind name argument) none rest
    | none =>
      if argument == "--" then do
        return (← rest.foldlM (Found.addPositional shape) found, [])
      else if argument.startsWith "--" then do
        let (found, waiting) ← readLong shape (argument.drop 2).toString found
        takeApart shape found waiting rest
      else if looksLikeOption argument then do
        takeApart shape (← readLetters shape (argument.toList.drop 1) found) none rest
      else if shape.versioned then .ok (found, argument :: rest)
      else do takeApart shape (← found.addPositional shape argument) none rest

/-- What can stand before the name of a command. -/
def topShape : Shape := { flags := [], options := [], positionals := [], versioned := true }

def shapes : List (String × Shape) :=
  [("doctor", ⟨["json"], [("out", .path)], [], false⟩),
   ("eval", ⟨["module", "strict", "json"],
      [("file", .path), ("memory-limit", .number), ("timeout-ms", .number)], [.text], false⟩),
   ("call", ⟨["json"], [("args", .text), ("artifacts", .path)], [.text], false⟩),
   ("run-scenario", ⟨["json"], [("artifacts", .path)], [.path], false⟩),
   ("serve", ⟨[], [("socket", .path)], [], false⟩)]

/-- The command that arguments stand for, if none is missing or too much. -/
def Subcommand.ofFound? (name : String) (found : Found) : Option Subcommand :=
  let option (name : String) : Option String := found.options.lookup name
  let json := found.has "json"
  match name, found.positionals with
  | "doctor", [] => some (.doctor json (option "out"))
  | "eval", positionals =>
    let script := match positionals, option "file" with
      | [source], none => some (ScriptSource.text source)
      | [], some path => some (.file path)
      | _, _ => none
    script.map fun script =>
      .eval script (found.number? "memory-limit") (found.number? "timeout-ms")
        (found.has "module") (found.has "strict") json
  | "call", [method] =>
    some (.call method ((option "args").getD "\x7b\x7d") json (option "artifacts"))
  | "run-scenario", [file] => some (.runScenario file json (option "artifacts"))
  | "serve", [] => (option "socket").map .serve
  | _, _ => none

/-- Help about commands: all words have to be names of some. -/
def helpAbout (names : List String) : Refusal :=
  match names with
  | [] => .help
  | [name] => if name == "help" || (shapes.lookup name).isSome then .help else .misuse
  | _ => .misuse

/-- Reads a command line. -/
def Invocation.read (arguments : List String) : Except Refusal Invocation := do
  let (top, rest) ← takeApart topShape {} none arguments
  match rest with
  | [] => throw .misuse
  | "help" :: names => throw (helpAbout names)
  | name :: rest =>
    match shapes.lookup name with
    | none => throw .misuse
    | some shape =>
      let (found, _) ← takeApart shape {} none rest
      match Subcommand.ofFound? name found with
      | some command =>
        return { command := command, verbose := top.has verboseFlag || found.has verboseFlag }
      | none => throw .misuse

end ScriptHost.CommandLine
