import ScriptHost.Channel.Message
import ScriptHost.Json.Skip

/-! Reading a request from a line. The text is read in one pass, so the first thing wrong
in it is reported, be it a fault of the text or a value of the wrong type. Members with
unknown names are passed over. -/

namespace ScriptHost.DaemonRequest

/-- What can be wrong with the line of a request. -/
inductive Fault where
  | text (fault : Json.Fault)
  | value (mismatch : Json.Mismatch)
deriving DecidableEq, Repr

def Fault.message : Fault → String
  | .text fault => fault.message
  | .value mismatch => mismatch.message

/-- The members read so far. -/
structure Partial where
  id : Option String := none
  method : Option String := none
  arguments : Option Json := none

private def ofText (result : Except Json.Fault α) : Except Fault α := result.mapError .text

/-- The value at the front as a refusal calls it. -/
def describeNext (cs : List Char) : Except Fault String :=
  match Json.skipBlanks cs with
  | [] => .error (.text .endInValue)
  | c :: rest =>
    if c = '[' then .ok "sequence"
    else if c = '\x7b' then .ok "map"
    else if c = 'n' then do
      let _ ← ofText (Json.readWord ['u', 'l', 'l'] rest)
      return Json.null.describe
    else do
      let (value, _) ← ofText (Json.readValue Json.depthLimit (c :: rest))
      return value.describe

/-- A string at the front. -/
def readString (cs : List Char) : Except Fault (String × List Char) :=
  match Json.skipBlanks cs with
  | '"' :: rest => ofText (Json.readString rest)
  | rest => do throw (.value (.wrongType (← describeNext rest) "a string"))

/-- The value of a member; the record that holds it is one level of nesting. -/
def readAny (cs : List Char) : Except Fault (Json × List Char) :=
  ofText (Json.readValue (Json.depthLimit - 1) cs)

def finish (p : Partial) : Except Fault DaemonRequest :=
  match p.id, p.method with
  | none, _ => .error (.value (.missingField "id"))
  | _, none => .error (.value (.missingField "method"))
  | some id, some method => .ok ⟨id, method, p.arguments.getD .null⟩

/-- One member, after its name. -/
def readMember (name : String) (p : Partial) (cs : List Char) :
    Except Fault (Partial × List Char) := do
  let once (known : Bool) : Except Fault Unit :=
    if known then .error (.value (.duplicateField name)) else .ok ()
  if name = "id" then
    once p.id.isSome
    let (id, rest) ← readString (← ofText (Json.readColon cs))
    return ({ p with id := some id }, rest)
  else if name = "method" then
    once p.method.isSome
    let (method, rest) ← readString (← ofText (Json.readColon cs))
    return ({ p with method := some method }, rest)
  else if name = "arguments" then
    once p.arguments.isSome
    let (arguments, rest) ← readAny (← ofText (Json.readColon cs))
    return ({ p with arguments := some arguments }, rest)
  else return (p, ← ofText (do Json.skipValue (← Json.readColon cs)))

/-- The members of an object. The first argument bounds their number. -/
def readMembers : Nat → Bool → Partial → List Char → Except Fault (DaemonRequest × List Char)
  | 0, _, _, _ => .error (.text .endInObject)
  | fuel + 1, first, p, cs => do
    let (more, rest) ← ofText (Json.nextMember first cs)
    if !more then return (← finish p, rest)
    let (name, rest) ← ofText (Json.readString rest)
    let (p, rest) ← readMember name p rest
    readMembers fuel false p rest

/-- The refusal of a list that is too short. -/
def tooShort (length : Nat) : Fault :=
  .value (.wrongLength length "struct DaemonRequest with 3 elements")

/-- What may follow the last field in a list. -/
def endList (cs : List Char) : Except Json.Fault (List Char) :=
  match Json.skipBlanks cs with
  | [] => .error .endInList
  | ']' :: rest => .ok rest
  | ',' :: rest =>
    match Json.skipBlanks rest with
    | ']' :: _ => .error .trailingComma
    | _ => .error .trailingCharacters
  | _ => .error .trailingCharacters

/-- A request as the list of its fields. -/
def readFields (cs : List Char) : Except Fault (DaemonRequest × List Char) := do
  let (more, rest) ← ofText (Json.nextItem true cs)
  if !more then throw (tooShort 0)
  let (id, rest) ← readString rest
  let (more, rest) ← ofText (Json.nextItem false rest)
  if !more then throw (tooShort 1)
  let (method, rest) ← readString rest
  let (more, rest) ← ofText (Json.nextItem false rest)
  if !more then return (⟨id, method, .null⟩, rest)
  let (arguments, rest) ← readAny rest
  return (⟨id, method, arguments⟩, ← ofText (endList rest))

/-- The request that a line holds. -/
def read (line : String) : Except Fault DaemonRequest := do
  let (request, rest) ← match Json.skipBlanks line.toList with
    | '\x7b' :: rest => readMembers (rest.length + 1) true {} rest
    | '[' :: rest => readFields rest
    | cs => throw (.value (.wrongType (← describeNext cs) "struct DaemonRequest"))
  ofText (Json.readEnd rest)
  return request

end ScriptHost.DaemonRequest
