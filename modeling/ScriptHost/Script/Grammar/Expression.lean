import ScriptHost.Script.Grammar.Basic

/-! Expressions. -/

namespace ScriptHost.Script.Grammar

/-! ### Looking ahead over brackets -/

/-- May a regular expression begin after a token? -/
def allowsRegExp : Token → Bool
  | .number _ | .bigInt _ | .string .. | .regExp .. | .hidden _ => false
  | .template _ _ last => !last
  | .word name _ => ["return", "typeof", "delete", "void", "in", "instanceof", "case", "do",
      "else", "throw", "new", "of", "yield", "await"].contains name
  | .mark text => !([")", "]", "\x7d", "++", "--"].contains text)
  | .finish => true

/-- Reads over tokens until every open bracket is closed and gives the lexeme after
them. A template with substitutions counts as a bracket. -/
def skipBrackets (html : Bool) : Nat → Token → List String → List Char → Option Lexeme
  | 0, _, _, _ => none
  | limit + 1, before, stack, input =>
    match Scan.lexeme html false input with
    | .error _ => none
    | .ok next =>
      let go (token : Token) (stack : List String) (rest : List Char) : Option Lexeme :=
        if stack.isEmpty then (Scan.lexeme html false rest).toOption
        else skipBrackets html limit token stack rest
      match next.token with
      | .finish => none
      | .template _ _ last => go next.token (if last then stack else "`" :: stack) next.rest
      | .mark text =>
        if text == "(" then go next.token (")" :: stack) next.rest
        else if text == "[" then go next.token ("]" :: stack) next.rest
        else if text == "\x7b" then go next.token ("\x7d" :: stack) next.rest
        else if text == "/" || text == "/=" then
          if allowsRegExp before then
            match Scan.regExpBody false [] next.start.tail with
            | .ok (token, rest) => go token stack rest
            | .error _ => none
          else go next.token stack next.rest
        else if text == "\x7d" && stack.head? == some "`" then
          match Scan.templateBody (next.rest.length + 1) (some []) [] next.rest with
          | .ok (token, rest) =>
            match token with
            | .template _ _ true => go token stack.tail rest
            | token => go token stack rest
          | .error _ => none
        else if text == ")" || text == "]" || text == "\x7d" then
          if stack.head? == some text then go next.token stack.tail next.rest else none
        else go next.token stack next.rest
      | token => go token stack next.rest

/-- The lexeme after the bracketed part that begins with the current token. -/
def afterBrackets : Parse (Option Lexeme) := do
  let s ← get
  return skipBrackets s.html (s.lexeme.start.length + 1) (.mark "=") [] s.lexeme.start

def afterBracketsIs (test : Token → Bool) : Parse Bool := do
  match ← afterBrackets with
  | some next => return test next.token
  | none => return false

/-! ### Pieces -/

/-- The arguments of a call, with the brackets around them. -/
def arguments (g : Grammar) : Parse (List Element) := do
  expect "("
  repeated [] fun items => do
    if ← takes ")" then return .inr items.reverse
    let item ←
      if ← takes "..." then pure (Element.spread (← g (.assignment true)))
      else pure (Element.item (← g (.assignment true)))
    if ← isMark ")" then return .inl (item :: items)
    expect ","
    return .inl (item :: items)

/-- The substitutions of a template whose first piece is the current token. -/
def templateRest (g : Grammar) :
    Parse (List (Option Utf16 × Utf16) × List Expr) := do
  match ← token with
  | .template cooked raw true =>
    advance
    return ([(cooked, raw)], [])
  | .template cooked raw false =>
    repeated ([(cooked, raw)], []) fun (pieces, values) => do
      advance
      let value ← g (.expression true)
      unless ← isMark "\x7d" do fault "expected '\x7d' after template expression"
      let s ← get
      let (piece, rest) ← Scan.templateBody (s.lexeme.rest.length + 1) (some []) [] s.lexeme.rest
      set { s with lexeme := { s.lexeme with token := piece, rest := rest } }
      match piece with
      | .template cooked raw true =>
        advance
        return .inr (((cooked, raw) :: pieces).reverse, (value :: values).reverse)
      | .template cooked raw false => return .inl ((cooked, raw) :: pieces, value :: values)
      | _ => unexpected
  | _ => unexpected

def template (g : Grammar) : Parse Expr := do
  let (pieces, values) ← templateRest g
  match pieces with
  | [] => unexpected
  | (first, _) :: rest =>
    match first, rest.mapM (·.1) with
    | some first, some rest => return .template first (values.zip rest)
    | _, _ => fault "malformed escape sequence in string literal"

/-- The name of a property: a word, a text, a number or a computed one. -/
def propertyKey (g : Grammar) : Parse PropertyKey := do
  match ← token with
  | .word name _ =>
    advance
    return .fixed name
  | .string value _ =>
    advance
    return .fixed value
  | .number value =>
    advance
    return .computed (.literal (.number value))
  | .bigInt value =>
    advance
    return .fixed (toString value)
  | .hidden name =>
    advance
    return .hidden name
  | .mark "[" =>
    advance
    let key ← g (.assignment true)
    expect "]"
    return .computed key
  | _ => fault "invalid property name"

/-- What kind of member a property name announces. -/
inductive Announced where
  | plain | get | set | method (isAsync isGenerator : Bool)
deriving Inhabited

/-- Does the token after a word such as `get` show that the word is itself the name? -/
def endsKey : Token → Bool
  | .mark text => [",", ":", "(", "\x7d", "=", ";"].contains text
  | .finish => true
  | _ => false

/-- A property name with the words and the star before it. -/
def announcedKey (g : Grammar) : Parse (Announced × PropertyKey) := do
  let word (name : Name) : Parse Bool := do
    if ← isWord name then return !endsKey (← peek).token else return false
  if ← takes "*" then return (.method false true, ← propertyKey g)
  else if ← word "get" then
    advance
    return (.get, ← propertyKey g)
  else if ← word "set" then
    advance
    return (.set, ← propertyKey g)
  else if (← word "async") && !(← peek).fresh then
    advance
    let star ← takes "*"
    return (.method true star, ← propertyKey g)
  else return (.plain, ← propertyKey g)

/-- Is an expression an anonymous function, whose name comes from where it is put? -/
def isAnonymous : Expr → Bool
  | .function f => f.info.name == ""
  | .classDef c => c.name.isNone
  | _ => false

def objectLiteral (g : Grammar) : Parse Expr := do
  expect "\x7b"
  repeated ([], false) fun (members, hasProto) => do
    if ← takes "\x7d" then return .inr (.object members.reverse)
    let continueWith (member : Member) (hasProto : Bool) :
        Parse ((List Member × Bool) ⊕ Expr) := do
      unless ← isMark "\x7d" do expect ","
      return .inl (member :: members, hasProto)
    if ← takes "..." then
      let value ← g (.assignment true)
      continueWith (.spread value) hasProto
    else
      let start := (← get).lexeme.start
      let first ← token
      let name ← name?
      let (announced, key) ← announcedKey g
      let method (kind : FunctionKind) (isAsync isGenerator : Bool) : Parse Member := do
        let f ← g (.functionRest start "" kind isAsync isGenerator)
        return .method key f
      match announced with
      | .get => continueWith (← method .getter false false) hasProto
      | .set => continueWith (← method .setter false false) hasProto
      | .method isAsync isGenerator => continueWith (← method .method isAsync isGenerator) hasProto
      | .plain =>
        if ← isMark "(" then continueWith (← method .method false false) hasProto
        else if ← takes ":" then
          let value ← g (.assignment true)
          match key with
          | .fixed (.text "__proto__") =>
            if hasProto then fault "duplicate __proto__ property name"
            continueWith (.proto value) true
          | key => continueWith (.property key value) hasProto
        else
          match first, name, key with
          | .word .., some name, .fixed key =>
            noteName name
            continueWith (.property (.fixed key) (.ident name)) hasProto
          | _, _, _ => unexpected

def arrayLiteral (g : Grammar) : Parse Expr := do
  expect "["
  repeated [] fun items => do
    if ← takes "]" then return .inr (.array items.reverse)
    if ← takes "," then return .inl (Element.hole :: items)
    let item ←
      if ← takes "..." then pure (Element.spread (← g (.assignment true)))
      else pure (Element.item (← g (.assignment true)))
    unless ← isMark "]" do expect ","
    return .inl (item :: items)

/-! ### Functions and classes as expressions -/

/-- A function expression; the word `function` is the current token. -/
def functionExpr (g : Grammar) (start : List Char) (isAsync : Bool) : Parse Expr := do
  advance
  let star ← takes "*"
  match ← token with
  | .word name _ =>
    let fits ←
      if name == "yield" then pure (!star && !(← isStrict))
      else if name == "await" then pure (!isAsync && !(← isModule))
      else pure !(← isReserved name)
    if fits then
      advance
      return .function (← g (.functionRest start name .normal isAsync star))
    else unexpected
  | _ => return .function (← g (.functionRest start "" .normal isAsync star))

/-- A class; the word `class` is the current token. -/
def classExpr (g : Grammar) : Parse Expr := do
  let start := (← get).lexeme.start
  advance
  match ← name? with
  | some name =>
    if ← isWord "extends" then return .classDef (← g (.classRest start none))
    else
      advance
      return .classDef (← g (.classRest start (some name)))
  | none => return .classDef (← g (.classRest start none))

/-! ### Operands -/

/-- Reads the current token again as a regular expression. -/
def regExp : Parse Expr := do
  let s ← get
  let (token, rest) ← Scan.regExpBody false [] s.lexeme.start.tail
  match token with
  | .regExp pattern flags =>
    set { s with lexeme := { s.lexeme with rest := rest } }
    advance
    return .regExp pattern flags
  | _ => unexpected

def importExpr (g : Grammar) : Parse Expr := do
  advance
  if ← takes "." then
    unless ← isWord "meta" do fault "meta expected"
    unless ← isModule do fault "import.meta only valid in module code"
    advance
    return .importMeta
  else
    expect "("
    let specifier ← g (.assignment true)
    if ← takes "," then
      unless ← isMark ")" do
        discard (g (.assignment true))
        discard (takes ",")
    expect ")"
    return .importCall specifier

/-- May `super` be used here, through the arrow functions around? -/
def superAllowed (test : OpenFunction → Bool) : Parse Bool := do
  let rec go : List OpenFunction → Bool
    | [] => false
    | f :: rest => test f || (f.kind == .arrow && go rest)
  return go (← get).functions

def superExpr (g : Grammar) : Parse Expr := do
  advance
  if ← isMark "(" then
    unless ← superAllowed (·.superCall) do
      fault "super() is only valid in a derived class constructor"
    return .superCall (← arguments g)
  else if ← takes "." then
    unless ← superAllowed (·.superDot) do fault "'super' is only valid in a method"
    match ← token with
    | .word name _ =>
      advance
      return .superIndex (.literal (.string name))
    | _ => fault "expecting field name"
  else if ← takes "[" then
    unless ← superAllowed (·.superDot) do fault "'super' is only valid in a method"
    let key ← g (.expression true)
    expect "]"
    return .superIndex key
  else fault "invalid use of 'super'"

def invalidOperand : Parse Expr := do
  fault ("unexpected token in expression: '" ++ (← tokenText) ++ "'")

/-- The innermost operands of expressions, `new` left out. -/
def primary (g : Grammar) : Parse Expr := do
  let start := (← get).lexeme.start
  let literal (value : Literal) : Parse Expr := do
    advance
    return .literal value
  match ← token with
  | .number value => literal (.number value)
  | .bigInt value => literal (.bigInt value)
  | .string value _ => literal (.string value)
  | .template .. => template g
  | .mark "/" | .mark "/=" => regExp
  | .mark "(" =>
    advance
    let e ← g (.expression true)
    expect ")"
    return e
  | .mark "\x7b" => objectLiteral g
  | .mark "[" => arrayLiteral g
  | .word name escaped =>
    if ← isReserved name then
      if escaped then fault ("'" ++ name ++ "' is a reserved identifier")
      else match name with
        | "function" => functionExpr g start false
        | "class" => classExpr g
        | "null" => literal .null
        | "true" => literal (.bool true)
        | "false" => literal (.bool false)
        | "this" =>
          advance
          return .this
        | "super" => superExpr g
        | "import" => importExpr g
        | _ => invalidOperand
    else if name == "async" && !escaped then
      let next ← peek
      if next.token == .word "function" false && !next.fresh then
        advance
        functionExpr g start true
      else
        advance
        return .ident name
    else
      noteName name
      advance
      return .ident name
  | _ => invalidOperand

/-- A name after a point. -/
def fieldAfterPoint (object : Expr) (optional : Bool) : Parse Expr := do
  match ← token with
  | .word name _ =>
    advance
    return .dot object name optional
  | .hidden name =>
    advance
    return .privateDot object name optional
  | _ => fault "expecting field name"

/-- An operand with the accesses after it; with calls as well if they are allowed. -/
def accesses (g : Grammar) (calls : Bool) (operand : Expr) : Parse Expr := do
  repeated (operand, false) fun (e, chained) => do
    let done : Parse ((Expr × Bool) ⊕ Expr) := return .inr (if chained then .chain e else e)
    match ← token with
    | .mark "?." =>
      if !calls then fault "new keyword cannot be used with an optional chain"
      advance
      if ← isMark "(" then return .inl (.call e (← arguments g) true, true)
      else if ← takes "[" then
        let key ← g (.expression true)
        expect "]"
        return .inl (.index e key true, true)
      else
        match ← token with
        | .template .. => fault "template literal cannot appear in an optional chain"
        | _ => return .inl (← fieldAfterPoint e true, true)
    | .mark "." =>
      advance
      return .inl (← fieldAfterPoint e false, chained)
    | .mark "[" =>
      advance
      let key ← g (.expression true)
      expect "]"
      return .inl (.index e key false, chained)
    | .mark "(" =>
      if !calls then done
      else
        match e with
        | .ident "eval" => noteUse true
        | _ => pure ()
        return .inl (.call e (← arguments g) false, chained)
    | .template .. =>
      if chained then fault "template literal cannot appear in an optional chain"
      let (pieces, values) ← templateRest g
      modify fun s => { s with sites := s.sites + 1 }
      let site := (← get).sites
      return .inl (.tagged e site (pieces.map (·.1)) (pieces.map (·.2)) values, chained)
    | _ => done

/-- The operand of `new`, one level of the word for each, with its arguments. -/
def construct (g : Grammar) : Nat → Parse Expr
  | 0 => unexpected
  | limit + 1 => do
    advance
    if ← takes "." then
      unless ← isWord "target" do fault "expecting target"
      unless ← superAllowed (·.newTarget) do fault "new.target only allowed within functions"
      advance
      return .newTarget
    else
      let operand ← if ← isWord "new" then construct g limit else primary g
      match operand with
      | .importCall _ => fault "invalid use of 'import()'"
      | _ => pure ()
      let callee ← accesses g false operand
      let args ← if ← isMark "(" then arguments g else pure []
      return .construct callee args

/-- An operand with its accesses and calls. -/
def postfixed (g : Grammar) : Parse Expr := do
  let operand ←
    if ← isWord "new" then construct g ((← get).lexeme.start.length + 1) else primary g
  accesses g true operand

/-! ### Operators -/

/-- Can an expression be assigned to? -/
def isTarget : Expr → Bool
  | .ident _ | .dot _ _ false | .index _ _ false | .privateDot _ _ false | .superIndex _ => true
  | _ => false

def checkTarget (e : Expr) (message : String) : Parse Unit := do
  unless isTarget e do fault message
  match e with
  | .ident name =>
    if (← isStrict) && (name == "eval" || name == "arguments") then
      fault "invalid lvalue in strict mode"
  | _ => pure ()

/-- An operand that a power operator may follow, unless a sign stands before it. -/
def powerRest (g : Grammar) (allowed : Bool) (base : Expr) : Parse Expr := do
  if ← isMark "**" then
    if !allowed then
      fault "unparenthesized unary expression can't appear on the left-hand side of '**'"
    advance
    return .binary .pow base (← g .unary)
  else return base

def updateRest (g : Grammar) (allowed : Bool) : Parse Expr := do
  let operand ← postfixed g
  let update (increment : Bool) : Parse Expr := do
    checkTarget operand "invalid increment/decrement operand"
    advance
    powerRest g allowed (.update false increment operand)
  if ← isFresh then powerRest g allowed operand
  else if ← isMark "++" then update true
  else if ← isMark "--" then update false
  else powerRest g allowed operand

/-- The operand of a sign or of a word such as `typeof`: signs may be repeated, and no
power operator may follow. -/
def signed (g : Grammar) : Nat → Bool → Parse Expr
  | 0, _ => unexpected
  | limit + 1, allowed => do
    let apply (make : Expr → Expr) : Parse Expr := do
      advance
      let operand ← signed g limit false
      if ← isMark "**" then
        fault "unparenthesized unary expression can't appear on the left-hand side of '**'"
      return make operand
    let step (increment : Bool) : Parse Expr := do
      advance
      let operand ← signed g limit false
      checkTarget operand "invalid increment/decrement operand"
      powerRest g allowed (.update true increment operand)
    match ← token with
    | .mark "+" => apply (.unary .plus)
    | .mark "-" => apply (.unary .minus)
    | .mark "!" => apply (.unary .invert)
    | .mark "~" => apply (.unary .complement)
    | .mark "++" => step true
    | .mark "--" => step false
    | .word "void" false => apply (.unary .discard)
    | .word "typeof" false => apply (.unary .typeOf)
    | .word "delete" false =>
      advance
      let operand ← signed g limit false
      match operand with
      | .ident _ => if ← isStrict then fault "cannot delete a direct reference in strict mode"
      | .privateDot .. => fault "cannot delete a private class field"
      | _ => pure ()
      return .delete operand
    | .word "await" false =>
      if ← awaits then apply .await else updateRest g allowed
    | _ => updateRest g allowed

def unary (g : Grammar) : Parse Expr := do
  signed g ((← get).lexeme.start.length + 1) true

/-- The operators of each level of precedence, the tightest first. -/
def operatorLevels : List (List (String × BinaryOp)) :=
  [[("*", .mul), ("/", .div), ("%", .rem)],
   [("+", .add), ("-", .sub)],
   [("<<", .shiftLeft), (">>", .shiftRight), (">>>", .shiftRightZero)],
   [("<", .less), (">", .greater), ("<=", .lessEq), (">=", .greaterEq)],
   [("==", .equal), ("!=", .unequal), ("===", .same), ("!==", .different)],
   [("&", .bitAnd)], [("^", .bitXor)], [("|", .bitOr)]]

/-- The operator of a level that is the current token. -/
def operatorAt? (allowIn : Bool) (level : List (String × BinaryOp)) : Parse (Option BinaryOp) := do
  match ← token with
  | .mark text => return level.lookup text
  | .word "instanceof" false => return if level.any (·.1 == "<") then some .instanceOf else none
  | .word "in" false => return if allowIn && level.any (·.1 == "<") then some .isIn else none
  | _ => return none

/-- Expressions of the operators of the given levels, the loosest level first. -/
def binary (g : Grammar) (allowIn : Bool) : List (List (String × BinaryOp)) → Parse Expr
  | [] => unary g
  | level :: tighter => do
    let first ←
      match ← token with
      | .hidden name =>
        if (level.any (·.1 == "<")) && allowIn && (← peek).token == .word "in" false then
          advance
          advance
          pure (.hasPrivate name (← binary g allowIn tighter))
        else binary g allowIn tighter
      | _ => binary g allowIn tighter
    repeated first fun left => do
      match ← operatorAt? allowIn level with
      | some op =>
        advance
        return .inl (.binary op left (← binary g allowIn tighter))
      | none => return .inr left

def conjunction (g : Grammar) (allowIn : Bool) : Parse Expr := do
  let operand := binary g allowIn operatorLevels.reverse
  repeated (← operand) fun left => do
    if ← takes "&&" then return .inl (.logical .and left (← operand)) else return .inr left

def disjunction (g : Grammar) (allowIn : Bool) : Parse Expr := do
  let first ← conjunction g allowIn
  if ← isMark "??" then
    let operand := binary g allowIn operatorLevels.reverse
    repeated first fun left => do
      if ← takes "??" then return .inl (.logical .coalesce left (← operand)) else return .inr left
  else
    repeated first fun left => do
      if ← takes "||" then return .inl (.logical .or left (← conjunction g allowIn))
      else return .inr left

def conditional (g : Grammar) (allowIn : Bool) : Parse Expr := do
  let test ← disjunction g allowIn
  if ← takes "?" then
    let yes ← g (.assignment true)
    expect ":"
    return .conditional test yes (← g (.assignment allowIn))
  else return test

/-! ### Assignment -/

def compoundOps : List (String × BinaryOp) :=
  [("*=", .mul), ("/=", .div), ("%=", .rem), ("+=", .add), ("-=", .sub), ("<<=", .shiftLeft),
   (">>=", .shiftRight), (">>>=", .shiftRightZero), ("&=", .bitAnd), ("^=", .bitXor),
   ("|=", .bitOr), ("**=", .pow)]

def logicalOps : List (String × LogicalOp) :=
  [("&&=", .and), ("||=", .or), ("??=", .coalesce)]

def yieldExpr (g : Grammar) (allowIn : Bool) : Parse Expr := do
  advance
  let ends ←
    if ← isFresh then pure true
    else match ← token with
      | .mark text => pure ([";", ")", "]", "\x7d", ",", ":"].contains text)
      | .word name _ => pure (name == "in" || name == "of")
      | .finish => pure true
      | _ => pure false
  if ends then return .yield none
  else if ← takes "*" then return .yieldAll (← g (.assignment allowIn))
  else return .yield (some (← g (.assignment allowIn)))

/-- Does an arrow function begin here? Says whether it is an asynchronous one. -/
def arrowAhead? : Parse (Option Bool) := do
  let isArrow (next : Lexeme) : Bool := next.token == .mark "=>" && !next.fresh
  match ← token with
  | .mark "(" =>
    match ← afterBrackets with
    | some next => return if isArrow next then some false else none
    | none => return none
  | .word name escaped =>
    let next ← peek
    if isArrow next && !(← isReserved name) then return some false
    else if name == "async" && !escaped && !next.fresh then
      match next.token with
      | .mark "(" =>
        let s ← get
        match skipBrackets s.html (s.lexeme.start.length + 1) (.mark "=") [] next.start with
        | some after => return if isArrow after then some true else none
        | none => return none
      | .word .. =>
        let s ← get
        match Scan.lexeme s.html false next.rest with
        | .ok after => return if isArrow after then some true else none
        | .error _ => return none
      | _ => return none
    else return none
  | _ => return none

def assignment (g : Grammar) (allowIn : Bool) : Parse Expr := do
  let start := (← get).lexeme.start
  if (← isWord "yield") && (← current).isGenerator then yieldExpr g allowIn
  else
    match ← arrowAhead? with
    | some isAsync =>
      if isAsync then advance
      return .function (← g (.arrow start isAsync allowIn))
    | none =>
      let bracket := (← isMark "[") || (← isMark "\x7b")
      if bracket && (← afterBracketsIs (· == .mark "=")) then
        let (target, _) ← g (.pattern false)
        expect "="
        return .assign target (← g (.assignment allowIn))
      else
        let e ← conditional g allowIn
        match ← token with
        | .mark "=" =>
          checkTarget e "invalid assignment left-hand side"
          advance
          return .assign (.target e) (← g (.assignment allowIn))
        | .mark text =>
          match compoundOps.lookup text, logicalOps.lookup text with
          | some op, _ =>
            checkTarget e "invalid assignment left-hand side"
            advance
            return .compound op e (← g (.assignment allowIn))
          | none, some op =>
            checkTarget e "invalid assignment left-hand side"
            advance
            return .logicalAssign op e (← g (.assignment allowIn))
          | none, none => return e
        | _ => return e

def expression (g : Grammar) (allowIn : Bool) : Parse Expr := do
  repeated (← g (.assignment allowIn)) fun left => do
    if ← takes "," then return .inl (.sequence left (← g (.assignment allowIn)))
    else return .inr left

end ScriptHost.Script.Grammar
