import ScriptHost.Json.Reader

/-! Passing over a JSON value that nobody wants. The value may be nested to any depth, and
a comma before a closing bracket is refused as a missing value. -/

namespace ScriptHost.Json

/-- The rest of a string after its opening quote. -/
def skipString : Nat → List Char → Except Fault (List Char)
  | 0, _ => .error .endInString
  | _ + 1, [] => .error .endInString
  | fuel + 1, c :: rest =>
    if c = '"' then .ok rest
    else if c = '\\' then
      match rest with
      | 'u' :: rest =>
        match readHex4 rest with
        | .ok (_, rest) => skipString fuel rest
        | .error e => .error e
      | _ =>
        match readEscape rest with
        | .ok (_, rest) => skipString fuel rest
        | .error e => .error e
    else if c.toNat < 32 then .error .controlCharacter
    else skipString fuel rest

def skipDigits (cs : List Char) : Except Fault (List Char) :=
  if startsWithDigit cs then .ok (cs.dropWhile Char.isDigit) else .error .invalidNumber

def skipExponent (cs : List Char) : Except Fault (List Char) :=
  match cs with
  | 'e' :: rest | 'E' :: rest =>
    match rest with
    | '+' :: rest | '-' :: rest => skipDigits rest
    | _ => skipDigits rest
  | _ => .ok cs

/-- A number after its sign. -/
def skipNumber (cs : List Char) : Except Fault (List Char) := do
  let rest ← match cs with
    | '0' :: rest => if startsWithDigit rest then .error .invalidNumber else .ok rest
    | _ => skipDigits cs
  match rest with
  | '.' :: rest => skipExponent (← skipDigits rest)
  | _ => skipExponent rest

/-- A value that is neither a list nor an object, or the bracket that opens one. -/
def skipAtom (cs : List Char) : Except Fault (Option Char × List Char) :=
  match skipBlanks cs with
  | [] => .error .endInValue
  | c :: rest =>
    if c = 'n' then (readWord ['u', 'l', 'l'] rest).map (none, ·)
    else if c = 't' then (readWord ['r', 'u', 'e'] rest).map (none, ·)
    else if c = 'f' then (readWord ['a', 'l', 's', 'e'] rest).map (none, ·)
    else if c = '-' then (skipNumber rest).map (none, ·)
    else if c.isDigit then (skipNumber (c :: rest)).map (none, ·)
    else if c = '"' then (skipString (rest.length + 1) rest).map (none, ·)
    else if c = '[' ∨ c = '\x7b' then .ok (some c, rest)
    else .error .expectedValue

/-- The name of a member and its colon. -/
def skipName (cs : List Char) : Except Fault (List Char) :=
  match skipBlanks cs with
  | [] => .error .endInObject
  | '"' :: rest => do readColon (← skipString (rest.length + 1) rest)
  | _ => .error .keyMustBeString

/-- Passes over closing brackets until a value follows or nothing is open any more.
The list names the brackets that are open, the innermost first; `started` says whether the
innermost one holds a value already. -/
def skipClosings : Nat → List Char → Bool → List Char → Except Fault (List Char × List Char)
  | 0, _, _, _ => .error .endInValue
  | _ + 1, [], _, cs => .ok ([], cs)
  | fuel + 1, bracket :: outer, started, cs =>
    let inList := bracket == '['
    let enter (rest : List Char) : Except Fault (List Char × List Char) :=
      if inList then .ok (bracket :: outer, rest)
      else (skipName rest).map (bracket :: outer, ·)
    match skipBlanks cs with
    | [] => .error (if inList then .endInList else .endInObject)
    | c :: rest =>
      if c = ',' ∧ started then enter rest
      else if c = (if inList then ']' else '\x7d') then skipClosings fuel outer true rest
      else if started then
        .error (if inList then .expectedListCommaOrEnd else .expectedObjectCommaOrEnd)
      else enter (c :: rest)

/-- Passes over the values that are left inside the open brackets. -/
def skipOpen : Nat → List Char → List Char → Except Fault (List Char)
  | 0, _, _ => .error .endInValue
  | fuel + 1, brackets, cs => do
    let (bracket, rest) ← skipAtom cs
    let (brackets, started) := match bracket with
      | some b => (b :: brackets, false)
      | none => (brackets, true)
    let (brackets, rest) ← skipClosings (rest.length + 2) brackets started rest
    if brackets.isEmpty then return rest else skipOpen fuel brackets rest

/-- Passes over a value. -/
def skipValue (cs : List Char) : Except Fault (List Char) := skipOpen (cs.length + 1) [] cs

end ScriptHost.Json
