import ScriptHost.Yaml.Fault

/-! A place in a YAML text, and the kinds of characters that decide what stands there. -/

namespace ScriptHost.Yaml

structure Cursor where
  rest : List Char
  line : Nat := 0
  column : Nat := 0
  /-- Characters before the place. -/
  index : Nat := 0
deriving Inhabited

/-- Does the character end a line? The strict dialect knows more of them. -/
def isBreak (d : Dialect) (c : Char) : Bool :=
  c == '\n' || c == '\r'
    || (d == .strict && (c == '\x85' || c == '\u2028' || c == '\u2029'))

def isBlank (c : Char) : Bool := c == ' ' || c == '\t'

/-- Does nothing, a blank or the end of a line stand there? -/
def endsWord (d : Dialect) : Option Char → Bool
  | none => true
  | some c => isBlank c || isBreak d c

def endsLine (d : Dialect) : Option Char → Bool
  | none => true
  | some c => isBreak d c

/-- A character of brackets. -/
def isFlow (c : Char) : Bool := c == ',' || c == '[' || c == ']' || c == '{' || c == '}'

def isWord (c : Char) : Bool := c.isAlphanum || c == '_' || c == '-'

namespace Cursor

def start (text : String) : Cursor where
  rest := match text.toList with
    | '\uFEFF' :: rest => rest
    | rest => rest

def peek (c : Cursor) : Option Char := c.rest.head?

def peekAt (c : Cursor) (n : Nat) : Option Char := c.rest[n]?

/-- Over one character that ends no line. -/
def next (c : Cursor) : Cursor :=
  { c with rest := c.rest.tail, column := c.column + 1, index := c.index + 1 }

def skip (c : Cursor) (n : Nat) : Cursor :=
  { c with rest := c.rest.drop n, column := c.column + n, index := c.index + n }

/-- Over the end of a line. -/
def nextLine (c : Cursor) : Cursor :=
  match c.rest with
  | '\r' :: '\n' :: rest => { rest := rest, line := c.line + 1, column := 0, index := c.index + 2 }
  | _ :: rest => { rest := rest, line := c.line + 1, column := 0, index := c.index + 1 }
  | [] => c

/-- What the end of a line at the place stands for. -/
def lineEnd (c : Cursor) : List Char :=
  match c.peek with
  | some '\u2028' => ['\u2028']
  | some '\u2029' => ['\u2029']
  | some _ => ['\n']
  | none => []

/-- Takes the characters that pass a test. -/
def takeWhile (c : Cursor) (test : Char → Bool) : List Char × Cursor :=
  let taken := c.rest.takeWhile test
  (taken, c.skip taken.length)

def skipWhile (c : Cursor) (test : Char → Bool) : Cursor := (c.takeWhile test).2

/-- Does the text go on with this? -/
def goesOn (c : Cursor) (text : String) : Bool := text.toList.isPrefixOf c.rest

/-- Is there a mark of the beginning or end of a document? -/
def atDocument (c : Cursor) (d : Dialect) : Bool :=
  c.column == 0 && (c.goesOn "---" || c.goesOn "...") && endsWord d (c.peekAt 3)

end Cursor

end ScriptHost.Yaml
