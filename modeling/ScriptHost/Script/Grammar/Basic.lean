import ScriptHost.Script.Token

/-! Reading scripts: the state of a reader, the rules that refer to each other, and the
bookkeeping of names. A rule is given the reader of all rules; one function ties the knot
and pays a step for each rule it enters, so that reading always ends. -/

namespace ScriptHost.Script

/-- Where a program comes from, which decides how its names are declared. -/
inductive ProgramKind where
  | script
  | module
  /-- Code for `eval` called by name, inside of the code that calls it. -/
  | directEval
  | indirectEval
deriving DecidableEq, Repr, Inhabited

namespace Grammar

/-- A place that `break` or `continue` may name. -/
structure Jump where
  label : Option Name
  isLoop : Bool
  /-- May a `break` without label end here? -/
  plain : Bool
deriving Inhabited

/-- How a block came by one of its names. -/
inductive Origin where
  | lexical | function | caught
deriving DecidableEq, Inhabited

/-- A block under way. Scopes are told apart by numbers. -/
structure OpenBlock where
  id : Nat
  names : List (Name × Origin) := []
  lexicals : List Lexical := []
  functions : List (Name × Function) := []
deriving Inhabited

/-- A name of a whole program and the scopes around its declaration. -/
structure ProgramName where
  name : Name
  lexical : Bool
  path : List Nat
deriving Inhabited

/-- A function under way. -/
structure OpenFunction where
  kind : FunctionKind
  program : Option ProgramKind := none
  isAsync : Bool := false
  isGenerator : Bool := false
  strict : Bool := false
  params : List Name := []
  /-- Variables, with the scopes around their first declaration. -/
  vars : List (Name × List Nat) := []
  programNames : List ProgramName := []
  blocks : List OpenBlock := []
  jumps : List Jump := []
  usesArguments : Bool := false
  usesEval : Bool := false
  /-- May the code name `super`, and may it call it? -/
  superDot : Bool := false
  superCall : Bool := false
  newTarget : Bool := false
deriving Inhabited

structure State where
  lexeme : Lexeme
  /-- The characters after the token before the current one. -/
  last : List Char
  functions : List OpenFunction
  html : Bool
  file : String
  scopes : Nat := 0
  sites : Nat := 0
deriving Inhabited

end Grammar

abbrev Parse := StateT Grammar.State (Except String)

namespace Grammar

/-- What kind of statement may stand at a place. -/
structure Place where
  /-- Plain function declarations. -/
  functions : Bool
  /-- All other declarations. -/
  others : Bool
deriving DecidableEq, Repr, Inhabited

def anywhere : Place := ⟨true, true⟩
def nested : Place := ⟨false, false⟩

/-- The rules that other rules refer to. -/
inductive Rule where
  | expression (allowIn : Bool)
  | assignment (allowIn : Bool)
  | unary
  | statement (place : Place)
  /-- A pattern, with the names in it. A binding pattern holds names only. -/
  | pattern (binding : Bool)
  /-- Parameters and body of a function. -/
  | functionRest (start : List Char) (name : Name) (kind : FunctionKind)
      (isAsync isGenerator : Bool)
  | arrow (start : List Char) (isAsync : Bool) (allowIn : Bool)
  | classRest (start : List Char) (name : Option Name)
deriving Inhabited

abbrev Rule.Result : Rule → Type
  | .expression _ => Expr
  | .assignment _ => Expr
  | .unary => Expr
  | .statement _ => Stmt
  | .pattern _ => Pattern × List Name
  | .functionRest .. => Function
  | .arrow .. => Function
  | .classRest .. => ClassDef

end Grammar

/-- A reader of all rules. -/
abbrev Grammar := (rule : Grammar.Rule) → Parse rule.Result

namespace Grammar

variable {α β : Type}

def fault (message : String) : Parse α := throw message

/-- Repeats a step until it has a result; `limit` bounds the rounds. Each round reads at
least one character. -/
def rounds (step : α → Parse (α ⊕ β)) : Nat → α → Parse β
  | 0, _ => fault "the script is too deeply nested"
  | limit + 1, state => do
    match ← step state with
    | .inl state => rounds step limit state
    | .inr result => return result

/-- Repeats a step as long as there is something to read. -/
def repeated (start : α) (step : α → Parse (α ⊕ β)) : Parse β := do
  rounds step ((← get).lexeme.start.length + 2) start

def token : Parse Token := return (← get).lexeme.token

def current : Parse OpenFunction := return ((← get).functions.head?).getD default

def modifyCurrent (f : OpenFunction → OpenFunction) : Parse Unit :=
  modify fun s => match s.functions with
    | [] => s
    | function :: rest => { s with functions := f function :: rest }

def isStrict : Parse Bool := return (← current).strict

def isModule : Parse Bool :=
  return (← get).functions.any fun f => f.program == some .module

/-- Moves on to the next token. -/
def advance : Parse Unit := do
  let s ← get
  let next ← Scan.lexeme s.html (← isStrict) s.lexeme.rest
  set { s with lexeme := next, last := s.lexeme.rest }

/-- Reads the current token again, in the mode that the function is in by now. -/
def reread : Parse Unit := do
  let s ← get
  let (token, rest) ← Scan.tokenAt (← isStrict) s.lexeme.start
  set { s with lexeme := { s.lexeme with token := token, rest := rest } }

/-- The token after the current one. -/
def peek : Parse Lexeme := do
  let s ← get
  match Scan.lexeme s.html false s.lexeme.rest with
  | .ok next => return next
  | .error _ => return default

/-- The text of the current token. -/
def tokenText : Parse String := do
  let s ← get
  return Scan.between s.lexeme.start s.lexeme.rest

/-- The text from a place up to the end of the last token read. -/
def textFrom (start : List Char) : Parse String := do
  return Scan.between start (← get).last

def isFresh : Parse Bool := return (← get).lexeme.fresh

def isMark (text : String) : Parse Bool := return (← token) == .mark text

def isWord (name : Name) : Parse Bool := return (← token) == .word name false

/-- Words that are never names. -/
def keywords : List Name :=
  ["null", "false", "true", "if", "else", "return", "var", "this", "delete", "void", "typeof",
   "new", "in", "instanceof", "do", "while", "for", "break", "continue", "switch", "case",
   "default", "throw", "try", "catch", "finally", "function", "debugger", "with", "class",
   "const", "enum", "export", "extends", "import", "super"]

/-- Words that are no names in strict code. -/
def strictKeywords : List Name :=
  ["implements", "interface", "let", "package", "private", "protected", "public", "static",
   "yield"]

/-- Is `await` an operator here? -/
def awaits : Parse Bool := do
  let f ← current
  return f.isAsync || f.kind == .initializer || (← isModule)

def isReserved (name : Name) : Parse Bool := do
  if keywords.contains name then return true
  let f ← current
  if f.strict && strictKeywords.contains name then return true
  if name == "yield" then return f.isGenerator
  if name == "await" then awaits
  else return false

/-- The name that the current token is, if it may be one here. -/
def name? : Parse (Option Name) := do
  match ← token with
  | .word name _ => return if ← isReserved name then none else some name
  | _ => return none

/-- The complaint about a token that is not the expected one. -/
def unexpected : Parse α := do
  match ← token with
  | .finish => fault "Unexpected end of input"
  | .number _ | .bigInt _ => fault "Unexpected number"
  | .string .. => fault "Unexpected string"
  | .template .. => fault "Unexpected string template"
  | .regExp .. => fault "Unexpected regexp"
  | .word name _ =>
    if ← isReserved name then fault ("Unexpected token '" ++ name ++ "'")
    else fault ("Unexpected identifier '" ++ name ++ "'")
  | _ => fault ("Unexpected token '" ++ (← tokenText) ++ "'")

def expect (text : String) : Parse Unit := do
  if ← isMark text then advance else unexpected

/-- Takes a mark if it is next. -/
def takes (text : String) : Parse Bool := do
  if ← isMark text then
    advance
    return true
  else return false

def takesWord (name : Name) : Parse Bool := do
  if ← isWord name then
    advance
    return true
  else return false

/-- The end of a statement: a semicolon, or a place where one may be left out. -/
def semicolon : Parse Unit := do
  if ← takes ";" then return
  else if (← token) == .finish || (← isMark "\x7d") || (← isFresh) then return
  else fault "expecting ';'"

/-! ### Names -/

def openBlock : Parse Unit := do
  modify fun s => { s with scopes := s.scopes + 1 }
  let id := (← get).scopes
  modifyCurrent fun f => { f with blocks := { id := id } :: f.blocks }

/-- Ends the innermost block and gives what it declared. -/
def closeBlock : Parse OpenBlock := do
  let f ← current
  modifyCurrent fun f => { f with blocks := f.blocks.tail }
  return (f.blocks.head?).getD default

def modifyBlock (g : OpenBlock → OpenBlock) : Parse Unit :=
  modifyCurrent fun f => match f.blocks with
    | [] => f
    | block :: rest => { f with blocks := g block :: rest }

/-- Is the innermost block the outermost one of its function? -/
def OpenFunction.atTop (f : OpenFunction) : Bool := f.blocks.length ≤ 1

/-- Is the function the whole text of a script or module? -/
def OpenFunction.isWhole (f : OpenFunction) : Bool :=
  match f.program with
  | some .script | some .module | some .indirectEval => true
  | _ => false

/-- Do variables of the program become properties of the global object, or names of the
module? -/
def OpenFunction.sharesNames (f : OpenFunction) : Bool :=
  match f.program with
  | some .script | some .module => true
  | some _ => !f.strict
  | none => false

/-- The nearest block that declares a name, with its distance. -/
def nearest (blocks : List OpenBlock) (name : Name) (caught : Bool) : Option (Nat × Origin) :=
  let rec go (distance : Nat) : List OpenBlock → Option (Nat × Origin)
    | [] => none
    | block :: rest =>
      match block.names.find? fun n => n.1 == name && (caught || n.2 != .caught) with
      | some (_, origin) => some (distance, origin)
      | none => go (distance + 1) rest
  go 0 blocks

/-- Declares a name of the innermost block. -/
def declareLexical (name : Name) (origin : Origin) (redefinable : Bool) : Parse Unit := do
  let f ← current
  let here := ((f.blocks.head?).getD default).id
  let globalLexical := f.program == some .script &&
    f.programNames.any fun p => p.name == name && p.lexical
  match nearest f.blocks name true with
  | some (0, old) =>
    unless old == .function && origin == .function && redefinable && !f.strict do
      fault "invalid redefinition of lexical identifier"
  | some (1, .caught) => fault "invalid redefinition of lexical identifier"
  | some _ => pure ()
  | none =>
    if globalLexical && f.atTop then fault "invalid redefinition of lexical identifier"
  if origin != .function && f.atTop && f.params.contains name then
    fault "invalid redefinition of parameter name"
  if f.vars.any fun v => v.1 == name && v.2.contains here then
    fault "invalid redefinition of a variable"
  if f.programNames.any fun p => p.name == name && p.path.contains here then
    fault "invalid redefinition of global identifier"
  if f.isWhole && f.atTop && f.program != some .indirectEval then
    modifyCurrent fun f =>
      { f with programNames := ⟨name, true, f.blocks.map (·.id)⟩ :: f.programNames }
  else
    modifyBlock fun b => { b with names := (name, origin) :: b.names }

/-- Declares a name with `var`. -/
def declareVar (name : Name) : Parse Unit := do
  let f ← current
  let path := f.blocks.map (·.id)
  let lexicalAround := (nearest f.blocks name false).isSome ||
    (f.program == some .script && f.programNames.any fun p => p.name == name && p.lexical)
  if lexicalAround then fault "invalid redefinition of lexical identifier"
  if f.program == some .module &&
      f.programNames.any (fun p => p.name == name && p.lexical && p.path == path) then
    fault "invalid redefinition of lexical identifier"
  if f.sharesNames then
    modifyCurrent fun f => { f with programNames := ⟨name, false, path⟩ :: f.programNames }
  unless f.vars.any (·.1 == name) do
    modifyCurrent fun f => { f with vars := (name, path) :: f.vars }

/-- Declares a name of a declaration, which must not be `let` if it is lexical. -/
def declareName (kind : DeclKind) (name : Name) : Parse Unit := do
  match kind with
  | .variable => declareVar name
  | .lexical | .constant =>
    if name == "let" then fault "'let' is not a valid lexical identifier"
    declareLexical name .lexical false
    modifyBlock fun b => { b with lexicals := ⟨name, kind == .constant⟩ :: b.lexicals }

/-- Notes that code names `arguments` or calls `eval`, for the function that owns them. -/
def noteUse (isEval : Bool) : Parse Unit :=
  modify fun s =>
    let rec mark : List OpenFunction → List OpenFunction
      | [] => []
      | f :: rest =>
        let f := if isEval then { f with usesEval := true, usesArguments := true }
          else { f with usesArguments := true }
        if f.kind == .arrow then f :: mark rest else f :: rest
    { s with functions := mark s.functions }

/-- Notes a use of a name. -/
def noteName (name : Name) : Parse Unit := do
  if name == "arguments" then noteUse false

end Grammar

end ScriptHost.Script
