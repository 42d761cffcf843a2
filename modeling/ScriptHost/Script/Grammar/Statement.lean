import ScriptHost.Script.Grammar.Definition

/-! Statements. -/

namespace ScriptHost.Script.Grammar

/-- Runs a reader inside a block of its own and gives what the block declared. -/
def inBlock {α : Type} (body : Parse α) : Parse (α × OpenBlock) := do
  openBlock
  let result ← body
  return (result, ← closeBlock)

def blockOf (block : OpenBlock) (body : List Stmt) : Block :=
  ⟨block.lexicals.reverse, block.functions.reverse, body⟩

/-- A braced block. -/
def block (g : Grammar) : Parse Block := do
  expect "\x7b"
  let (stmts, names) ← inBlock (statementsToBrace g)
  advance
  return blockOf names stmts

def parenthesized (g : Grammar) : Parse Expr := do
  expect "("
  let e ← g (.expression true)
  expect ")"
  return e

/-- Reads a statement that jumps may refer to. -/
def withJump {α : Type} (jump : Jump) (body : Parse α) : Parse α := do
  modifyCurrent fun f => { f with jumps := jump :: f.jumps }
  let result ← body
  modifyCurrent fun f => { f with jumps := f.jumps.tail }
  return result

def inLoop {α : Type} (body : Parse α) : Parse α := withJump ⟨none, true, true⟩ body

/-! ### Declarations -/

/-- The declarations after `var`, `let` or `const`. A `for` head passes over what its
loop supplies. -/
def declarations (g : Grammar) (kind : DeclKind) (allowIn : Bool) :
    Parse (List (Pattern × Option Expr)) := do
  repeated [] fun bindings => do
    let plain := !((← isMark "[") || (← isMark "\x7b"))
    let (p, names) ← place g true
    names.forM (declareName kind)
    let value ←
      if ← takes "=" then pure (some (← g (.assignment allowIn)))
      else
        let looped := !allowIn && ((← isWord "in") || (← isWord "of"))
        unless looped do
          if kind == .constant then fault "missing initializer for const variable"
          if !plain then fault "missing initializer for destructuring declaration"
        pure none
    let bindings := (p, value) :: bindings
    if ← takes "," then return .inl bindings
    return .inr bindings.reverse

/-- Does a declaration with `let` begin here? -/
def letAhead (place : Place) : Parse Bool := do
  if ← isWord "let" then
    let next ← peek
    match next.token with
    | .mark "[" => return true
    | .mark "\x7b" => return !next.fresh || place.others
    | .word name _ =>
      if name == "in" || name == "instanceof" || name == "of" then return false
      else return !next.fresh || place.others
    | _ => return false
  else return false

/-- A function declaration; the word `function` is the current token. At the top of a
function its name is one of the variables, in a block it belongs to the block. -/
def functionDeclaration (g : Grammar) (start : List Char) (isAsync : Bool) : Parse Stmt := do
  advance
  let star ← takes "*"
  match ← token with
  | .word name _ =>
    if ← isReserved name then fault "function name expected"
    advance
    let f ← current
    if f.atTop then
      declareVar name
      let definition ← g (.functionRest start name .normal isAsync star)
      modifyBlock fun b => { b with functions := (name, definition) :: b.functions }
      return .function name false
    else
      let plain := !isAsync && !star
      let copies := !f.strict && plain && (nearest f.blocks name false).isNone &&
        !f.params.contains name &&
        !(f.program == some .script && f.programNames.any fun p => p.name == name && p.lexical)
      declareLexical name .function plain
      if copies then
        unless f.vars.any (·.1 == name) do
          modifyCurrent fun f => { f with vars := (name, []) :: f.vars }
      let definition ← g (.functionRest start name .normal isAsync star)
      modifyBlock fun b =>
        { b with functions := (name, definition) :: b.functions.filter (·.1 != name) }
      return .function name copies
  | _ => fault "function name expected"

def classDeclaration (g : Grammar) : Parse Stmt := do
  let start := (← get).lexeme.start
  advance
  match ← name? with
  | some name =>
    if ← isWord "extends" then fault "class statement requires a name"
    advance
    declareName .lexical name
    return .classDecl name (← g (.classRest start (some name)))
  | none => fault "class statement requires a name"

/-! ### Loops -/

/-- Does a `for` statement supply items to what has been read so far? -/
inductive Supply where
  | keys | items

def supply? : Parse (Option Supply) := do
  if ← takesWord "in" then return some .keys
  else if ← takesWord "of" then return some .items
  else return none

/-- The rest of a loop over keys or items. -/
def overItems (g : Grammar) (isAwait : Bool) (target : LoopTarget) (supply : Supply) :
    Parse Stmt := do
  match supply with
  | .keys =>
    let object ← g (.expression true)
    expect ")"
    return .forIn target object (← inLoop (g (.statement nested)))
  | .items =>
    let items ← g (.assignment true)
    expect ")"
    return .forOf isAwait target items (← inLoop (g (.statement nested)))

/-- The rest of a loop with a test and an update. -/
def counted (g : Grammar) (start : Option Stmt) (names : List Lexical) : Parse Stmt := do
  expect ";"
  let test ← if ← isMark ";" then pure none else pure (some (← g (.expression true)))
  expect ";"
  let update ← if ← isMark ")" then pure none else pure (some (← g (.expression true)))
  expect ")"
  return .loop start test update names (← inLoop (g (.statement nested)))

/-- The names that the innermost block has declared so far. -/
def blockLexicals : Parse (List Lexical) := do
  match (← current).blocks with
  | block :: _ => return block.lexicals.reverse
  | [] => return []

def forStatement (g : Grammar) : Parse Stmt := do
  advance
  let isAwait ← if (← isWord "await") && (← awaits) then
      advance
      pure true
    else pure false
  expect "("
  let declared (kind : DeclKind) : Parse Stmt := do
    advance
    let bindings ← declarations g kind false
    let names ← blockLexicals
    match bindings, ← supply? with
    | [(p, none)], some supply =>
      overItems g isAwait (.declare kind p (names.map (·.name))) supply
    | _, some _ => fault "a declaration in the head of a for-in or for-of loop can't have an initializer"
    | bindings, none =>
      counted g (some (.declare kind bindings)) (if kind == .variable then [] else names)
  let (stmt, _) ← inBlock do
    if ← isMark ";" then counted g none []
    else if ← isWord "var" then declared .variable
    else if ← isWord "const" then declared .constant
    else if ← letAhead anywhere then declared .lexical
    else
      let bracket := (← isMark "[") || (← isMark "\x7b")
      let isPattern ←
        if bracket then
          afterBracketsIs fun t => t == .word "of" false || t == .word "in" false
        else pure false
      if isPattern then
        let (p, _) ← g (.pattern false)
        match ← supply? with
        | some supply => overItems g isAwait (.assign p) supply
        | none => unexpected
      else
        let e ← g (.expression false)
        match ← supply? with
        | some supply =>
          checkTarget e "invalid assignment left-hand side"
          overItems g isAwait (.assign (.target e)) supply
        | none => counted g (some (.expr e)) []
  return stmt

/-! ### Other statements -/

def jumpStatement (isBreak : Bool) : Parse Stmt := do
  advance
  let label ← if ← isFresh then pure none else name?
  let jumps := (← current).jumps
  match label with
  | some name =>
    advance
    let found := jumps.any fun j =>
      j.label == some name && (isBreak || j.isLoop)
    unless found do fault "break/continue label not found"
  | none =>
    if isBreak then
      unless jumps.any (·.plain) do fault "break must be inside loop or switch"
    else
      unless jumps.any (fun j => j.isLoop && j.label.isNone) do
        fault "continue must be inside loop"
  semicolon
  return if isBreak then .break label else .continue label

def returnStatement (g : Grammar) : Parse Stmt := do
  let f ← current
  if f.program.isSome then fault "return not in a function"
  if f.kind == .initializer then fault "return in a static initializer block"
  advance
  let ends := (← isMark ";") || (← isMark "\x7d") || (← token) == .finish || (← isFresh)
  if ends then
    semicolon
    return .return none
  else
    let value ← g (.expression true)
    semicolon
    return .return (some value)

def switchStatement (g : Grammar) : Parse Stmt := do
  advance
  let value ← parenthesized g
  expect "\x7b"
  let (cases, names) ← inBlock <| withJump ⟨none, false, true⟩ <|
    repeated ([], false) fun (cases, hasDefault) => do
      if ← isMark "\x7d" then return .inr cases.reverse
      let test ←
        if ← takesWord "case" then pure (some (← g (.expression true)))
        else if ← takesWord "default" then
          if hasDefault then fault "duplicate default"
          pure none
        else fault "invalid switch statement"
      expect ":"
      let body ← repeated [] fun stmts => do
        if (← isWord "case") || (← isWord "default") || (← isMark "\x7d") then
          return .inr stmts.reverse
        return .inl ((← g (.statement anywhere)) :: stmts)
      return .inl ((test, body) :: cases, hasDefault || test.isNone)
  advance
  return .switch value (blockOf names []) cases

def tryStatement (g : Grammar) : Parse Stmt := do
  advance
  let body ← block g
  let handler ←
    if ← takesWord "catch" then
      let (handler, _) ← inBlock do
        let (p, names) ←
          if ← takes "(" then
            let (p, names) ← place g true
            let origin : Origin := match p with
              | .target _ => .caught
              | _ => .lexical
            modifyBlock fun b => { b with names := names.map (·, origin) }
            expect ")"
            pure (some p, names)
          else pure (none, [])
        return (p, names, ← block g)
      pure (some handler)
    else pure none
  let finalizer ← if ← takesWord "finally" then pure (some (← block g)) else pure none
  if handler.isNone && finalizer.isNone then fault "expecting catch or finally"
  return .tryCatch body handler finalizer

/-- A label and its statement; the name is the current token. -/
def labelledStatement (g : Grammar) (place : Place) (name : Name) : Parse Stmt := do
  let f ← current
  if f.jumps.any (·.label == some name) then fault "duplicate label name"
  advance
  expect ":"
  let isLoop := (← isWord "for") || (← isWord "while") || (← isWord "do")
  let place : Place := ⟨!f.strict && place.functions, false⟩
  return .labelled name (← withJump ⟨some name, isLoop, false⟩ (g (.statement place)))

def expressionStatement (g : Grammar) : Parse Stmt := do
  let e ← g (.expression true)
  semicolon
  return .expr e

/-- A statement that begins with a keyword. -/
def keywordStatement (g : Grammar) (place : Place) (name : Name) : Parse Stmt := do
  match name with
  | "return" => returnStatement g
  | "throw" =>
    advance
    if ← isFresh then fault "line terminator not allowed after throw"
    let value ← g (.expression true)
    semicolon
    return .throw value
  | "var" =>
    advance
    let bindings ← declarations g .variable true
    semicolon
    return .declare .variable bindings
  | "const" =>
    unless place.others do
      fault "lexical declarations can't appear in single-statement context"
    advance
    let bindings ← declarations g .constant true
    semicolon
    return .declare .constant bindings
  | "if" =>
    advance
    let test ← parenthesized g
    let branch : Parse Stmt := do
      let strict ← isStrict
      if (← isWord "function") && !strict then
        let (stmt, names) ← inBlock (g (.statement ⟨true, false⟩))
        return .block (blockOf names [stmt])
      else g (.statement nested)
    let yes ← branch
    let no ← if ← takesWord "else" then pure (some (← branch)) else pure none
    return .cond test yes no
  | "while" =>
    advance
    let test ← parenthesized g
    return .while test (← inLoop (g (.statement nested)))
  | "do" =>
    advance
    let body ← inLoop (g (.statement nested))
    unless ← takesWord "while" do fault "expecting 'while'"
    let test ← parenthesized g
    discard (takes ";")
    return .doWhile body test
  | "for" => forStatement g
  | "break" => jumpStatement true
  | "continue" => jumpStatement false
  | "switch" => switchStatement g
  | "try" => tryStatement g
  | "with" =>
    if ← isStrict then fault "invalid keyword: with"
    advance
    let object ← parenthesized g
    return .withObject object (← inBlock (g (.statement nested))).1
  | "function" =>
    unless place.functions do
      fault "function declarations can't appear in single-statement context"
    if !place.others && (← peek).token == .mark "*" then
      fault "function declarations can't appear in single-statement context"
    functionDeclaration g (← get).lexeme.start false
  | "class" =>
    unless place.others do
      fault "class declarations can't appear in single-statement context"
    classDeclaration g
  | "debugger" =>
    advance
    semicolon
    return .empty
  | "enum" | "export" | "extends" => fault ("unsupported keyword: " ++ name)
  | _ => expressionStatement g

def statement (g : Grammar) (place : Place) : Parse Stmt := do
  match ← token with
  | .mark "\x7b" => return .block (← block g)
  | .mark ";" =>
    advance
    return .empty
  | .word name escaped =>
    if !escaped && (← isReserved name) then
      if name == "let" then
        if ← letAhead place then
          unless place.others do
            fault "lexical declarations can't appear in single-statement context"
          advance
          let bindings ← declarations g .lexical true
          semicolon
          return .declare .lexical bindings
        else expressionStatement g
      else keywordStatement g place name
    else
      let next ← peek
      if next.token == .mark ":" then labelledStatement g place name
      else if ← letAhead place then
        unless place.others do
          fault "lexical declarations can't appear in single-statement context"
        advance
        let bindings ← declarations g .lexical true
        semicolon
        return .declare .lexical bindings
      else if name == "async" && !escaped && next.token == .word "function" false && !next.fresh
      then
        unless place.others do
          fault "function declarations can't appear in single-statement context"
        let start := (← get).lexeme.start
        advance
        functionDeclaration g start true
      else expressionStatement g
  | _ => expressionStatement g

/-! ### The knot -/

/-- The body of each rule, given a reader of all rules. -/
def body (g : Grammar) : Grammar
  | .expression allowIn => expression g allowIn
  | .assignment allowIn => assignment g allowIn
  | .unary => unary g
  | .statement place => statement g place
  | .pattern binding => pattern g binding
  | .functionRest start name kind isAsync isGenerator =>
    functionRest g start name kind isAsync isGenerator
  | .arrow start isAsync allowIn => arrow g start isAsync allowIn
  | .classRest start name => classRest g start name

/-- A reader that may enter rules inside of each other up to a depth. -/
def reader : Nat → Grammar
  | 0, _ => fault "the script is too deeply nested"
  | depth + 1, rule => body (reader depth) rule

end ScriptHost.Script.Grammar
