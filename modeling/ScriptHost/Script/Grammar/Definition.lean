import ScriptHost.Script.Grammar.Expression

/-! Patterns, functions and classes. -/

namespace ScriptHost.Script.Grammar

/-! ### Patterns -/

/-- The name that a pattern binds at its current token. -/
def bindingName : Parse Name := do
  match ← token with
  | .word name escaped =>
    if ← isReserved name then
      if escaped then fault ("'" ++ name ++ "' is a reserved identifier")
      else fault "variable name expected"
    else
      if (← isStrict) && (name == "eval" || name == "arguments") then
        fault "invalid variable name in strict mode"
      advance
      return name
  | _ => fault "variable name expected"

/-- One place of a pattern, without its default. -/
def place (g : Grammar) (binding : Bool) : Parse (Pattern × List Name) := do
  let bracket := (← isMark "[") || (← isMark "\x7b")
  if binding then
    if bracket then g (.pattern true)
    else
      let name ← bindingName
      return (.target (.ident name), [name])
  else
    let nested ←
      if bracket then afterBracketsIs fun t =>
        match t with
        | .mark text => [",", "=", "]", "\x7d", ")"].contains text
        | .word name _ => name == "of" || name == "in"
        | _ => false
      else pure false
    if nested then g (.pattern false)
    else
      let e ← postfixed g
      checkTarget e "invalid assignment left-hand side"
      return (.target e, [])

def defaultValue (g : Grammar) : Parse (Option Expr) := do
  if ← takes "=" then return some (← g (.assignment true)) else return none

def arrayPattern (g : Grammar) (binding : Bool) : Parse (Pattern × List Name) := do
  expect "["
  repeated ([], []) fun (items, names) => do
    if ← takes "]" then return .inr (.array items.reverse none, names)
    if ← takes "," then return .inl (none :: items, names)
    if ← takes "..." then
      let (rest, more) ← place g binding
      if ← isMark "," then fault "rest element must be the last one"
      expect "]"
      return .inr (.array items.reverse (some rest), names ++ more)
    let (p, more) ← place g binding
    let value ← defaultValue g
    unless ← isMark "]" do expect ","
    return .inl (some (p, value) :: items, names ++ more)

def objectPattern (g : Grammar) (binding : Bool) : Parse (Pattern × List Name) := do
  expect "\x7b"
  repeated ([], []) fun (members, names) => do
    if ← takes "\x7d" then return .inr (.object members.reverse none, names)
    if ← takes "..." then
      let (rest, more) ← place g binding
      if ← isMark "," then fault "assignment rest property must be last"
      expect "\x7d"
      return .inr (.object members.reverse (some rest), names ++ more)
    let name ← name?
    let key ← propertyKey g
    let (p, more) ←
      if ← takes ":" then place g binding
      else
        match name with
        | some name =>
          if (← isStrict) && (name == "eval" || name == "arguments") then
            fault "invalid destructuring target"
          unless binding do noteName name
          pure (Pattern.target (.ident name), [name])
        | none => fault "invalid destructuring target"
    let value ← defaultValue g
    unless ← isMark "\x7d" do expect ","
    return .inl ((key, p, value) :: members, names ++ more)

def pattern (g : Grammar) (binding : Bool) : Parse (Pattern × List Name) := do
  if ← isMark "[" then arrayPattern g binding
  else if ← isMark "\x7b" then objectPattern g binding
  else place g binding

/-! ### Functions -/

/-- Sets strict mode if the directives at the front of a body ask for it. Says whether
they do. The directives themselves are read again as statements. -/
def directives : Parse Bool := do
  let saved ← get
  let found ← repeated false fun found => do
    match ← token with
    | .string .. =>
      let text ← tokenText
      advance
      let ends ←
        if ← takes ";" then pure true
        else match ← token with
          | .mark "\x7d" | .finish => pure true
          | .mark "++" | .mark "--" => isFresh
          | .mark _ => pure false
          | _ => isFresh
      if !ends then return .inr found
      let strict := text == "'use strict'" || text == "\"use strict\""
      if strict then modifyCurrent fun f => { f with strict := true }
      return .inl (found || strict)
    | _ => return .inr found
  set saved
  if found then
    modifyCurrent fun f => { f with strict := true }
    reread
  return found

/-- The parameters up to the closing bracket. Gives them with the rest parameter, their
names, whether they are plain names and how many come before the first default. -/
structure Params where
  items : List (Pattern × Option Expr) := []
  rest : Option Pattern := none
  names : List Name := []
  simple : Bool := true
  length : Nat := 0
  counting : Bool := true
deriving Inhabited

def params (g : Grammar) : Parse Params := do
  expect "("
  repeated ({} : Params) fun ps => do
    if ← takes ")" then return .inr { ps with items := ps.items.reverse }
    if ← takes "..." then
      let (p, names) ← place g true
      if ← isMark "=" then fault "rest parameter may not have a default initializer"
      unless ← takes ")" do unexpected
      return .inr { ps with
        items := ps.items.reverse, rest := some p, names := ps.names ++ names, simple := false }
    let plain := !((← isMark "[") || (← isMark "\x7b"))
    let (p, names) ← place g true
    let value ← defaultValue g
    let counting := ps.counting && value.isNone
    let ps := { ps with
      items := (p, value) :: ps.items, names := ps.names ++ names,
      simple := ps.simple && plain && value.isNone,
      length := if counting then ps.length + 1 else ps.length, counting := counting }
    unless ← isMark ")" do expect ","
    return .inl ps

/-- Begins a function inside of the current one. -/
def openFunction (kind : FunctionKind) (isAsync isGenerator : Bool) : Parse Unit := do
  let strict ← isStrict
  let methodLike := match kind with
    | .method | .getter | .setter | .constructor | .derivedConstructor | .initializer => true
    | _ => false
  let f : OpenFunction := {
    kind := kind, isAsync := isAsync, isGenerator := isGenerator, strict := strict,
    superDot := methodLike, superCall := kind == .derivedConstructor,
    newTarget := kind != .arrow }
  modify fun s => { s with functions := f :: s.functions }
  openBlock

/-- Ends the current function. -/
def closeFunction : Parse (OpenFunction × OpenBlock) := do
  let block ← closeBlock
  let f ← current
  modify fun s => { s with functions := s.functions.tail }
  return (f, block)

/-- Statements up to a closing brace, which is read as well. -/
def statementsToBrace (g : Grammar) : Parse (List Stmt) := do
  repeated [] fun stmts => do
    if ← isMark "\x7d" then return .inr stmts.reverse
    return .inl ((← g (.statement anywhere)) :: stmts)

def hasDuplicate : List Name → Bool
  | [] => false
  | name :: rest => rest.contains name || hasDuplicate rest

/-- What strict code and parameters with defaults forbid. -/
def checkNames (name : Name) (kind : FunctionKind) (ps : Params) : Parse Unit := do
  let strict ← isStrict
  if strict then
    if name == "eval" || name == "arguments" then fault "invalid function name in strict code"
    if ps.names.any fun n => n == "eval" || n == "arguments" || strictKeywords.contains n then
      fault "invalid argument name in strict code"
  if strict || !ps.simple || kind == .arrow || kind == .method then
    if hasDuplicate ps.names then fault "duplicate argument names not allowed in this context"

/-- The braces and the body of a function whose parameters are read. -/
def braced (g : Grammar) (ps : Params) (name : Name) (kind : FunctionKind) :
    Parse (List Stmt) := do
  unless ← isMark "\x7b" do unexpected
  advance
  let found ← directives
  if found && !ps.simple then
    fault "\"use strict\" not allowed in function with default or destructuring parameter"
  checkNames name kind ps
  statementsToBrace g

def makeFunction (name : Name) (kind : FunctionKind) (isAsync isGenerator : Bool) (ps : Params)
    (source : String) (f : OpenFunction) (block : OpenBlock) (body : List Stmt) :
    Parse Function := do
  let info : FunctionInfo := {
    name := name, kind := kind, isAsync := isAsync, isGenerator := isGenerator,
    strict := f.strict, simple := ps.simple, length := ps.length, paramNames := ps.names,
    vars := (f.vars.map (·.1)).reverse, source := source, file := (← get).file,
    usesArguments := f.usesArguments, usesEval := f.usesEval }
  return {
    info := info, params := ps.items, rest := ps.rest
    body := ⟨block.lexicals.reverse, block.functions.reverse, body⟩ }

def functionRest (g : Grammar) (start : List Char) (name : Name) (kind : FunctionKind)
    (isAsync isGenerator : Bool) : Parse Function := do
  openFunction kind isAsync isGenerator
  let ps ← params g
  match kind with
  | .getter =>
    unless ps.items.isEmpty && ps.rest.isNone do
      fault "invalid number of arguments for getter or setter"
  | .setter =>
    unless ps.items.length == 1 && ps.rest.isNone do
      fault "invalid number of arguments for getter or setter"
  | _ => pure ()
  modifyCurrent fun f => { f with params := ps.names }
  let body ← braced g ps name kind
  let (f, block) ← closeFunction
  advance
  makeFunction name kind isAsync isGenerator ps (← textFrom start) f block body

def arrow (g : Grammar) (start : List Char) (isAsync allowIn : Bool) : Parse Function := do
  openFunction .arrow isAsync false
  let ps ←
    if ← isMark "(" then params g
    else
      let name ← bindingName
      pure ({ items := [(.target (.ident name), none)], names := [name], length := 1 } : Params)
  modifyCurrent fun f => { f with params := ps.names }
  expect "=>"
  if ← isMark "\x7b" then
    let body ← braced g ps "" .arrow
    let (f, block) ← closeFunction
    advance
    makeFunction "" .arrow isAsync false ps (← textFrom start) f block body
  else
    checkNames "" .arrow ps
    let value ← g (.assignment allowIn)
    let (f, block) ← closeFunction
    makeFunction "" .arrow isAsync false ps (← textFrom start) f block [.return (some value)]

/-! ### Classes -/

/-- The constructor of a class that has none of its own. -/
def defaultConstructor (derived strict : Bool) (file : String) : Function where
  info := {
    kind := if derived then .derivedConstructor else .constructor
    strict := strict, simple := !derived, file := file
    paramNames := if derived then ["args"] else [] }
  params := []
  rest := if derived then some (.target (.ident "args")) else none
  body := ⟨[], [], if derived then [.expr (.superCall [.spread (.ident "args")])] else []⟩

/-- A value or a block that a class runs for itself, as a function. -/
def initializer (start : List Char) (body : Parse (List Stmt)) : Parse Function := do
  openFunction .initializer false false
  let stmts ← body
  let (f, block) ← closeFunction
  makeFunction "" .initializer false false {} (← textFrom start) f block stmts

structure OpenClass where
  constructor : Option Function := none
  members : List ClassMember := []
deriving Inhabited

def classMember (g : Grammar) (derived : Bool) (c : OpenClass) : Parse OpenClass := do
  let isStatic ←
    if ← isWord "static" then
      let next := (← peek).token
      if endsKey next && next != .mark "\x7b" then pure false
      else
        advance
        pure true
    else pure false
  let start := (← get).lexeme.start
  if isStatic && (← isMark "\x7b") then
    let f ← initializer start do
      advance
      let stmts ← statementsToBrace g
      advance
      return stmts
    return { c with members := .block f :: c.members }
  let (announced, key) ← announcedKey g
  let isConstructor := match key with
    | .fixed (.text "constructor") => !isStatic
    | _ => false
  let add (member : ClassMember) : OpenClass := { c with members := member :: c.members }
  let method (kind : FunctionKind) (isAsync isGenerator : Bool) : Parse OpenClass := do
    if isConstructor then fault "invalid method name"
    return add (.method isStatic key (← g (.functionRest start "" kind isAsync isGenerator)))
  match announced with
  | .get => method .getter false false
  | .set => method .setter false false
  | .method isAsync isGenerator => method .method isAsync isGenerator
  | .plain =>
    if ← isMark "(" then
      if isConstructor then
        if c.constructor.isSome then fault "property constructor appears more than once"
        let kind : FunctionKind := if derived then .derivedConstructor else .constructor
        let f ← g (.functionRest start "" kind false false)
        return { c with constructor := some f }
      else method .method false false
    else
      if isConstructor then fault "invalid field name"
      let value ←
        if ← takes "=" then
          let from_ := (← get).lexeme.start
          pure (some (← initializer from_ do
            return [.return (some (← g (.assignment true)))]))
        else pure none
      semicolon
      return add (.field isStatic key value)

def classRest (g : Grammar) (start : List Char) (name : Option Name) : Parse ClassDef := do
  let strict ← isStrict
  modifyCurrent fun f => { f with strict := true }
  let heritage ←
    if ← takesWord "extends" then pure (some (← postfixed g)) else pure none
  expect "\x7b"
  let c ← repeated ({} : OpenClass) fun c => do
    if ← isMark "\x7d" then return .inr c
    if ← takes ";" then return .inl c
    return .inl (← classMember g heritage.isSome c)
  modifyCurrent fun f => { f with strict := strict }
  advance
  let file := (← get).file
  return {
    name := name, heritage := heritage
    constructor := c.constructor.getD (defaultConstructor heritage.isSome true file)
    members := c.members.reverse, source := ← textFrom start }

end ScriptHost.Script.Grammar
