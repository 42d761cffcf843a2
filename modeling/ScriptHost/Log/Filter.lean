import ScriptHost.Log.Record
import ScriptHost.Number.Decimal

/-! Which events are shown. A filter is a list of directives; for an event the most specific
directive that is about it decides, up to which level it is shown. -/

namespace ScriptHost.Log

/-- A directive: the events it is about, and the most verbose level that it shows. -/
structure Directive where
  /-- What the name of the speaking part begins with. -/
  target : Option String := none
  /-- Values that an event has to have. -/
  fields : List String := []
  /-- Does it ask for surroundings that no event here has? -/
  withinScope : Bool := false
  /-- The rank of the level; zero shows nothing. -/
  rank : Nat := Level.trace.rank
deriving DecidableEq, Repr, Inhabited

/-- The rank that a word or a digit names. -/
def rank? (word : String) : Option Nat :=
  let digits := match word.toList with
    | '+' :: rest => rest
    | rest => rest
  match Decimal.nat? 10 digits with
  | some n => if n ≤ 5 then some n else none
  | none =>
    let names := [("off", 0), ("error", 1), ("warn", 2), ("info", 3), ("debug", 4), ("trace", 5)]
    names.lookup word.toLower

namespace Directive

/-- Is a directive about an event? -/
def isAbout (d : Directive) (r : Record) : Bool :=
  !d.withinScope && (d.target.all fun target => r.target.startsWith target)
    && d.fields.all fun name => name == "message" || r.values.any fun value => value.1 == name

/-- Does a directive say more than another one? -/
def isAtLeastAsSpecific (d e : Directive) : Bool :=
  let weight (d : Directive) : Nat := (d.target.map fun t => t.utf8ByteSize + 1).getD 0
  weight e < weight d || (weight e = weight d && e.fields.length ≤ d.fields.length)

/-- How far a directive is read. The numbers say where a part of it began. -/
inductive Stage where
  | start
  | word (start : Nat)
  | scope (start : Nat)
  | field (start : Nat)
  | fields
  | afterScope
  | level (start : Nat)

/-- A value that an event has to have; one that it has to be equal to is never there. -/
def withField (d : Directive) (written : String) : Option Directive :=
  if written.isEmpty then none
  else if written.contains '=' then some { d with withinScope := true }
  else some { d with fields := d.fields ++ [written] }

/-- Reads one character at a place. Texts are cut out of the whole directive. -/
def step (cut : Nat → Nat → String) (state : Directive × Stage) (place : Char × Nat) :
    Option (Directive × Stage) :=
  let (d, stage) := state
  let (c, i) := place
  match stage with
  | .start =>
    if c == '[' then some (d, .scope (i + 1))
    else if c == '-' || c == ':' || c == '_' || c.isAlphanum || 0x80 ≤ c.toNat then some (d, .word i)
    else none
  | .word start =>
    if c == '=' then some ({ d with target := some (cut start i) }, .level (i + 1))
    else if c == '[' then some ({ d with target := some (cut start i) }, .scope (i + 1))
    else some (d, stage)
  | .scope start =>
    if c == ']' then some ({ d with withinScope := true }, .afterScope)
    else if c == '{' then some ({ d with withinScope := start < i }, .field (i + 1))
    else some (d, stage)
  | .field start =>
    if c == '}' then (d.withField (cut start i)).map fun d => (d, .fields) else some (d, stage)
  | .fields => if c == ']' then some (d, .afterScope) else none
  | .afterScope => if c == '=' then some (d, .level (i + 1)) else none
  | .level _ => some (d, stage)

/-- Reads a directive: a level, a target, or a target with a level. A target alone shows
all of it. -/
def read (text : String) : Option Directive := do
  let cs := text.toList
  let cut (start stop : Nat) : String := String.ofList ((cs.drop start).take (stop - start))
  let trimmed := text.trimAscii.toString.toList
  let (d, stage) ← trimmed.zipIdx.foldlM (step cut) (({} : Directive), Stage.start)
  match stage with
  | .word start =>
    let word := cut start cs.length
    match rank? word with
    | some rank => return { d with rank := rank }
    | none => return { d with target := some word }
  | .level start =>
    let word := cut start cs.length
    if word.isEmpty then return d
    return { d with rank := ← rank? word }
  | .afterScope => return d
  | _ => none

end Directive

abbrev Filter := List Directive

namespace Filter

/-- Shows everything up to a level. -/
def upTo (rank : Nat) : Filter := [{ rank := rank }]

/-- Reads directives between commas; without any only errors are shown. -/
def read (text : String) : Option Filter := do
  let directives ← ((text.splitOn ",").filter (!·.isEmpty)).mapM Directive.read
  return if directives.isEmpty then upTo Level.error.rank else directives

/-- The directive that decides about an event; of equal ones the last. -/
def deciding (filter : Filter) (r : Record) : Option Directive :=
  (filter.filter (·.isAbout r)).foldl (fun best d =>
    match best with
    | some other => if d.isAtLeastAsSpecific other then some d else best
    | none => some d) none

def shows (filter : Filter) (r : Record) : Bool :=
  (filter.deciding r).any fun d => r.level.rank ≤ d.rank

end Filter

end ScriptHost.Log
