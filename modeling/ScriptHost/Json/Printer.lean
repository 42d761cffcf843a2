import ScriptHost.Json.Basic

/-! JSON text of a value: compact, or indented by two spaces a level. Strings escape
the quote, the backslash and the control characters, and nothing else. -/

namespace ScriptHost.Json

/-- The four lower-case hexadecimal digits of a number below 65536. -/
def hex4 (n : Nat) : String :=
  let digit (k : Nat) : Char := (Nat.digitChar (n / Nat.pow 16 k % 16))
  String.ofList [digit 3, digit 2, digit 1, digit 0]

/-- A character as it stands between the quotes of a string. -/
def escapeChar (c : Char) : String :=
  if c = '"' then "\\\""
  else if c = '\\' then "\\\\"
  else if c = '\n' then "\\n"
  else if c = '\r' then "\\r"
  else if c = '\t' then "\\t"
  else if c = Char.ofNat 8 then "\\b"
  else if c = Char.ofNat 12 then "\\f"
  else if c.toNat < 32 then "\\u" ++ hex4 c.toNat
  else c.toString

def quote (s : String) : String :=
  (s.foldl (fun text c => text ++ escapeChar c) "\"").push '"'

mutual

/-- Appends the compact text of a value. -/
def write (text : String) : Json → String
  | .null => text ++ "null"
  | .bool b => text ++ (if b then "true" else "false")
  | .int i => text ++ toString i
  | .float d => text ++ floatLayout.render d
  | .string s => text ++ quote s
  | .array items => (writeItems (text.push '[') true items).push ']'
  | .object fields => (writeFields (text.push '\x7b') true fields).push '\x7d'

def writeItems (text : String) (first : Bool) : List Json → String
  | [] => text
  | item :: rest =>
    writeItems (write (if first then text else text.push ',') item) false rest

def writeFields (text : String) (first : Bool) : List (String × Json) → String
  | [] => text
  | (name, value) :: rest =>
    let text := if first then text else text.push ','
    writeFields (write ((text ++ quote name).push ':') value) false rest

end

/-- The compact text of a value. -/
def compact (value : Json) : String := write "" value

/-- A line break and the indentation of a level. -/
def newline (text : String) (level : Nat) : String := (text.push '\n').pushn ' ' (2 * level)

mutual

/-- Appends the indented text of a value that stands at a level. -/
def writePretty (level : Nat) (text : String) : Json → String
  | .array [] => text ++ "[]"
  | .object [] => (text.push '\x7b').push '\x7d'
  | .array items =>
    (newline (writePrettyItems (level + 1) (text.push '[') true items) level).push ']'
  | .object fields =>
    (newline (writePrettyFields (level + 1) (text.push '\x7b') true fields) level).push '\x7d'
  | value => write text value

def writePrettyItems (level : Nat) (text : String) (first : Bool) : List Json → String
  | [] => text
  | item :: rest =>
    let text := newline (if first then text else text.push ',') level
    writePrettyItems level (writePretty level text item) false rest

def writePrettyFields (level : Nat) (text : String) (first : Bool) :
    List (String × Json) → String
  | [] => text
  | (name, value) :: rest =>
    let text := newline (if first then text else text.push ',') level
    writePrettyFields level (writePretty level (text ++ quote name ++ ": ") value) false rest

end

/-- The indented text of a value. -/
def pretty (value : Json) : String := writePretty 0 "" value

end ScriptHost.Json
