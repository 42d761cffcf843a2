import ScriptHost.Script.Grammar.Statement

/-! Whole programs: scripts, modules with their imports and exports, and the code of
functions made from text. -/

namespace ScriptHost.Script

/-- Where an exported name leads. -/
inductive ExportSource where
  /-- A variable of the module itself. -/
  | own (name : Name)
  /-- An exported name of the module of a request. -/
  | other (request : Nat) (name : Name)
  /-- All of the module of a request, as one object. -/
  | whole (request : Nat)
deriving DecidableEq, Repr, Inhabited

/-- A name that a module takes from another; no name stands for all of it. -/
structure Import where
  name : Name
  request : Nat
  source : Option Name
deriving DecidableEq, Repr, Inhabited

/-- How a module is tied to others. Requests are numbered in order. -/
structure Links where
  requests : List String := []
  imports : List Import := []
  exports : List (Name × ExportSource) := []
  /-- Requests all of whose names are exported. -/
  stars : List Nat := []
deriving DecidableEq, Repr, Inhabited

structure Program where
  kind : ProgramKind
  code : Function
  links : Links := {}
deriving Inhabited

namespace Grammar

/-- The name under which a module keeps its default export. -/
def defaultName : Name := "*default*"

structure OpenModule where
  links : Links := {}
  stmts : List Stmt := []
deriving Inhabited

def request (source : String) (m : OpenModule) : Nat × OpenModule :=
  match m.links.requests.idxOf? source with
  | some i => (i, m)
  | none =>
    (m.links.requests.length,
     { m with links := { m.links with requests := m.links.requests ++ [source] } })

def addExport (name : Name) (source : ExportSource) (m : OpenModule) : Parse OpenModule := do
  if m.links.exports.any (·.1 == name) then fault ("duplicate exported name '" ++ name ++ "'")
  return { m with links := { m.links with exports := m.links.exports ++ [(name, source)] } }

/-- The specifier of another module. -/
def specifier : Parse String := do
  match ← token with
  | .string value _ =>
    advance
    return value.display
  | _ => fault "string expected"

def fromClause : Parse String := do
  unless ← takesWord "from" do fault "from clause expected"
  specifier

/-- A name on the far side of an import or export, which may be any word or a text. -/
def outerName : Parse Name := do
  match ← token with
  | .word name _ =>
    advance
    return name
  | .string value _ =>
    advance
    return value.display
  | _ => fault "identifier expected"

/-- Pairs of names in braces, `as` giving the second one of a pair. -/
def namePairs : Parse (List (Name × Name)) := do
  expect "\x7b"
  repeated [] fun pairs => do
    if ← takes "\x7d" then return .inr pairs.reverse
    let first ← outerName
    let second ← if ← takesWord "as" then outerName else pure first
    unless ← isMark "\x7d" do expect ","
    return .inl ((first, second) :: pairs)

def declareImport (name : Name) : Parse Unit := do
  modifyCurrent fun f =>
    { f with programNames := ⟨name, true, f.blocks.map (·.id)⟩ :: f.programNames }

def importItem (m : OpenModule) : Parse OpenModule := do
  advance
  match ← token with
  | .string .. =>
    let source ← specifier
    semicolon
    return (request source m).2
  | _ =>
    let first ←
      match ← name? with
      | some name =>
        advance
        pure [(name, some "default")]
      | none => pure []
    let more : Parse (List (Name × Option Name)) := do
      if ← takes "*" then
        unless ← takesWord "as" do fault "expecting 'as'"
        let name ← bindingName
        return [(name, none)]
      else if ← isMark "\x7b" then
        return (← namePairs).map fun (outer, inner) => (inner, some outer)
      else unexpected
    let names ←
      if first.isEmpty then more
      else if ← takes "," then pure (first ++ (← more))
      else pure first
    let source ← fromClause
    semicolon
    names.forM fun n => declareImport n.1
    let (i, m) := request source m
    let imports := names.map fun (name, outer) => (⟨name, i, outer⟩ : Import)
    return { m with links := { m.links with imports := m.links.imports ++ imports } }

/-- The names that a declaration binds. -/
def declaredNames (before after : List ProgramName) : List Name :=
  ((after.take (after.length - before.length)).map (·.name)).reverse

def exportItem (g : Grammar) (m : OpenModule) : Parse OpenModule := do
  advance
  let declaration (read : Parse Stmt) : Parse OpenModule := do
    let before := (← current).programNames
    let stmt ← read
    let names := declaredNames before (← current).programNames
    let m ← names.foldlM (fun m name => addExport name (.own name) m) m
    return { m with stmts := stmt :: m.stmts }
  match ← token with
  | .mark "\x7b" =>
    let pairs ← namePairs
    if ← isWord "from" then
      let source ← fromClause
      semicolon
      let (i, m) := request source m
      pairs.foldlM (fun m (inner, outer) => addExport outer (.other i inner) m) m
    else
      semicolon
      pairs.foldlM (fun m (inner, outer) => addExport outer (.own inner) m) m
  | .mark "*" =>
    advance
    if ← takesWord "as" then
      let name ← outerName
      let source ← fromClause
      semicolon
      let (i, m) := request source m
      addExport name (.whole i) m
    else
      let source ← fromClause
      semicolon
      let (i, m) := request source m
      return { m with links := { m.links with stars := m.links.stars ++ [i] } }
  | .word "default" false =>
    advance
    let start := (← get).lexeme.start
    let next ← peek
    let isAsync := (← isWord "async") && next.token == .word "function" false && !next.fresh
    if isAsync then advance
    if ← isWord "function" then
      advance
      let star ← takes "*"
      let name ← match ← name? with
        | some name =>
          advance
          pure name
        | none => pure ""
      let own := if name == "" then defaultName else name
      declareVar own
      let f ← g (.functionRest start (if name == "" then "default" else name) .normal isAsync star)
      modifyBlock fun b => { b with functions := (own, f) :: b.functions }
      addExport "default" (.own own) m
    else if ← isWord "class" then
      advance
      let name ← if ← isWord "extends" then pure none else name?
      if name.isSome then advance
      let own := name.getD defaultName
      declareLexical own .lexical false
      modifyBlock fun b => { b with lexicals := ⟨own, false⟩ :: b.lexicals }
      let c ← g (.classRest start name)
      let stmt := match name with
        | some name => Stmt.classDecl name c
        | none => Stmt.exportDefault (.classDef c)
      let m ← addExport "default" (.own own) m
      return { m with stmts := stmt :: m.stmts }
    else
      let value ← g (.assignment true)
      semicolon
      declareLexical defaultName .lexical false
      modifyBlock fun b => { b with lexicals := ⟨defaultName, false⟩ :: b.lexicals }
      let m ← addExport "default" (.own defaultName) m
      return { m with stmts := .exportDefault value :: m.stmts }
  | .word name escaped =>
    if escaped then fault "invalid export syntax"
    else if name == "var" || name == "const" || name == "let" then declaration do
      advance
      let kind : DeclKind :=
        if name == "var" then .variable else if name == "const" then .constant else .lexical
      let bindings ← declarations g kind true
      semicolon
      return .declare kind bindings
    else if name == "function" || name == "class" || name == "async" then
      declaration (g (.statement anywhere))
    else fault "invalid export syntax"
  | _ => fault "invalid export syntax"

/-- The items of a program up to its end. -/
def items (g : Grammar) (isModule : Bool) : Parse OpenModule := do
  repeated ({} : OpenModule) fun m => do
    if (← token) == .finish then return .inr { m with stmts := m.stmts.reverse }
    let isImport ←
      if isModule && (← isWord "import") then
        let next := (← peek).token
        pure (next != .mark "(" && next != .mark ".")
      else pure false
    if isImport then return .inl (← importItem m)
    else if isModule && (← isWord "export") then return .inl (← exportItem g m)
    else
      let stmt ← g (.statement anywhere)
      return .inl { m with stmts := stmt :: m.stmts }

/-- The code around a direct `eval`, as far as it matters to what may be written in it. -/
structure Around where
  superDot : Bool := false
  superCall : Bool := false
  newTarget : Bool := false
  isFunction : Bool := false
deriving Inhabited

def program (g : Grammar) (kind : ProgramKind) (strict : Bool) (around : Around) :
    Parse Program := do
  let isModule := kind == .module
  let f : OpenFunction := {
    kind := if kind == .directEval then .arrow else .program
    program := some kind, isAsync := isModule, strict := strict || isModule
    superDot := around.superDot, superCall := around.superCall, newTarget := around.newTarget }
  modify fun s => { s with functions := [f] }
  openBlock
  reread
  discard directives
  let m ← items g isModule
  let (f, names) ← closeFunction
  let lexicals := names.lexicals.reverse
  let info : FunctionInfo := {
    kind := .program, isAsync := isModule, strict := f.strict
    vars := (f.vars.map (·.1)).reverse, file := (← get).file
    usesArguments := f.usesArguments, usesEval := f.usesEval }
  return {
    kind := kind, links := m.links
    code := ⟨info, [], none, ⟨lexicals, names.functions.reverse, m.stmts⟩⟩ }

def startState (source : List Char) (html : Bool) (file : String) : Except String State := do
  let source := match source with
    | '#' :: '!' :: rest => rest.dropWhile fun c => !isLineEnd c
    | source => source
  let (fresh, start) ← Scan.skip html .blank false source
  return {
    lexeme := { token := .finish, fresh := fresh, start := start, rest := start }
    last := start, functions := [], html := html, file := file }

end Grammar

namespace Program

/-- Reads a program. -/
def read (kind : ProgramKind) (strict : Bool) (file : String) (source : String)
    (around : Grammar.Around) : Except String Program := do
  let chars := source.toList
  let state ← Grammar.startState chars (kind != .module) file
  let g := Grammar.reader (4 * chars.length + 16)
  (Grammar.program g kind strict around).run' state

/-- The first exported name that the module does not declare. -/
def missingExport? (p : Program) : Option Name :=
  let body := p.code.body
  let names := p.code.info.vars ++ body.lexicals.map (·.name) ++ body.functions.map (·.1)
    ++ p.links.imports.map (·.name)
  p.links.exports.findSome? fun (_, source) =>
    match source with
    | .own name => if names.contains name then none else some name
    | _ => none

end Program

end ScriptHost.Script
