import ScriptHost.Script.Evaluate.Class

/-! Statements. A statement ends in a value when the next one is to follow, and in what it
asks of the statements around it otherwise. -/

namespace ScriptHost.Script.Comp

/-- The result of a statement that is followed by the next one. -/
def normal : Result := .value .undefined

/-- Sets the value of the program under way. -/
def complete (v : Value) (scope : Scope) : Comp Unit :=
  match scope.completion with
  | some c => setCell c v
  | none => pure ()

/-- Does statements one after the other, up to one that does not end normally. -/
def statements (body : List Stmt) (scope : Scope) : Comp Result :=
  match body with
  | [] => return normal
  | [s] => ask (.stmt s scope)
  | s :: rest => do
    match ← ask (.stmt s scope) with
    | .value _ => statements rest scope
    | r => return r

def block (b : Block) (scope : Scope) : Comp Result := do
  statements b.body (← enterBlock b scope)

def declare (kind : DeclKind) (scope : Scope) (bindings : List (Pattern × Option Expr)) :
    Comp Unit :=
  forEach bindings fun (p, start) => do
    match start with
    | some e =>
      let v ← match p with
        | .target (.ident name) => namedValue e name scope
        | _ => value e scope
      bindPart p v (some kind) scope
    | none =>
      match kind with
      | .variable => pure ()
      | _ => bindPart p .undefined (some kind) scope

/-! ### Loops -/

/-- What the end of the body of a loop means for the loop: to go on, or a result. -/
def leavesLoop (labels : List Name) (r : Result) : Option Result :=
  match r with
  | .value _ | .continued none => none
  | .continued (some l) => if labels.contains l then none else some r
  | r => some r

/-- The result of a loop that was left. -/
def afterLoop (r : Result) : Result :=
  match r with
  | .broke none => normal
  | r => r

/-- Variables that begin with the values of others. -/
def copyBindings (bindings : List Binding) : Comp (List Binding) :=
  change fun h => bindings.foldr (fun b (copies, h) =>
    let (c, h) := h.newCell (h.cell b.cell)
    ({ b with cell := c } :: copies, h)) ([], h)

def copyBack (targets sources : List Binding) : Comp Unit :=
  update fun h => (targets.zip sources).foldl (fun h (t, s) => h.setCell t.cell (h.cell s.cell)) h

/-- One round of a loop: the update unless it is the first one, the test and the body. -/
def loopRound (test update : Option Expr) (carriers : List Binding) (body : Stmt)
    (labels : List Name) (outer : Scope) (round : Nat) : Comp Result := do
  let names ← if carriers.isEmpty then pure [] else copyBindings carriers
  let scope := if carriers.isEmpty then outer else outer.push (.names names)
  match update with
  | some e => if 0 < round then discard (value e scope)
  | none => pure ()
  let goes ← match test with
    | some e => do pure (truthy (← value e scope))
    | none => pure true
  if !goes then return .broke none
  match leavesLoop labels (← ask (.stmt body scope)) with
  | some r => return r
  | none =>
    unless carriers.isEmpty do copyBack carriers names
    return normal

def again (f : Nat → Comp Result) : Comp Result := do
  return afterLoop (← ask (.again 0 fun n => f n .done))

def countedLoop (start : Option Stmt) (test update : Option Expr) (names : List Lexical)
    (body : Stmt) (labels : List Name) (scope : Scope) : Comp Result := do
  if names.isEmpty then
    match start with
    | some (.expr e) => discard (value e scope)
    | some s => discard (ask (.stmt s scope))
    | none => pure ()
    again (loopRound test update [] body labels scope)
  else
    let bindings ← newBindings (names.map fun l => (l.name, lexicalKind l)) none
    match start with
    | some s => discard (ask (.stmt s (scope.push (.names bindings))))
    | none => pure ()
    let carriers ← copyBindings bindings
    again (loopRound test update carriers body labels scope)

/-- Binds what a round of a loop supplies and gives the scope of its body. -/
def bindTarget (target : LoopTarget) (v : Value) (scope : Scope) : Comp Scope := do
  match target with
  | .assign p =>
    bindPart p v none scope
    return scope
  | .declare .variable p _ =>
    bindPart p v (some .variable) scope
    return scope
  | .declare kind p names =>
    let kindOf : BindingKind := if kind == .constant then .constant else .lexical
    let bindings ← newBindings (names.map (·, kindOf)) none
    let scope := scope.push (.names bindings)
    bindPart p v (some kind) scope
    return scope

/-- The scope of the head of a loop, where the names of the loop are not set yet. -/
def headScope (target : LoopTarget) (scope : Scope) : Comp Scope := do
  match target with
  | .declare .variable _ _ | .assign _ => return scope
  | .declare _ _ names =>
    return scope.push (.names (← newBindings (names.map (·, .lexical)) none))

/-- The keys that a loop goes over: those of the object and of its prototypes, each with
the object that has it. A key that is not enumerable hides those behind it. -/
def loopKeys : Nat → Option Ref → List Key → Comp (List (Ref × Key))
  | 0, _, _ => return []
  | _, none, _ => return []
  | limit + 1, some r, seen => do
    let keys := ((← ownKeys r).filter Key.isText).filter (!seen.contains ·)
    let own ← foldList keys [] fun k found => do
      match ← getOwn r k with
      | some p => if p.enumerable then return (r, k) :: found else return found
      | none => return found
    return own.reverse ++ (← loopKeys limit (← getPrototype r) (keys ++ seen))

/-- Goes over keys as long as the body ends in a value. -/
def overKeys (f : Key → Comp Result) : List (Ref × Key) → Comp Result
  | [] => return normal
  | (owner, k) :: rest => do
    if (← getOwn owner k).isNone then overKeys f rest
    else
      match ← f k with
      | .value _ => overKeys f rest
      | r => return r

def loopBody (target : LoopTarget) (body : Stmt) (labels : List Name) (scope : Scope) (v : Value) :
    Comp Result := do
  let inner ← bindTarget target v scope
  return (leavesLoop labels (← ask (.stmt body inner))).getD normal

def keyLoop (target : LoopTarget) (object : Expr) (body : Stmt) (labels : List Name)
    (scope : Scope) : Comp Result := do
  let v ← value object (← headScope target scope)
  if v.isNone then return normal
  let keys ← loopKeys ((← read (·.objects.size)) + 1) (some (← toObject v)) []
  return afterLoop (← overKeys (fun k => loopBody target body labels scope k.toValue) keys)

def itemLoop (isAwait : Bool) (target : LoopTarget) (items : Expr) (body : Stmt)
    (labels : List Name) (scope : Scope) : Comp Result := do
  let v ← value items (← headScope target scope)
  let s ← if isAwait then iterateAsync v else iterate v
  return afterLoop (← ask (.each s.iterator s.next isAwait 0 fun _ v =>
    loopBody target body labels scope v .done))

def loop (s : Stmt) (labels : List Name) (scope : Scope) : Comp Result := do
  match s with
  | .loop start test update names body => countedLoop start test update names body labels scope
  | .while test body => again (loopRound (some test) none [] body labels scope)
  | .doWhile body test =>
    again fun round => do
      if 0 < round && !truthy (← value test scope) then return .broke none
      return (leavesLoop labels (← ask (.stmt body scope))).getD normal
  | .forIn target object body => keyLoop target object body labels scope
  | .forOf isAwait target items body => itemLoop isAwait target items body labels scope
  | s => ask (.stmt s scope)

/-! ### Exceptions and choices -/

/-- Does the handler of an exception. -/
def handle (param : Option Pattern) (names : List Name) (body : Block) (e : Value) (scope : Scope) :
    Comp Result := do
  let scope ← match param with
    | some p => do
      let bindings ← newBindings (names.map (·, .lexical)) none
      let scope := scope.push (.names bindings)
      bindPart p e (some .lexical) scope
      pure scope
    | none => pure scope
  block body scope

def tryStatement (body : Block) (handler : Option (Option Pattern × List Name × Block))
    (finalizer : Option Block) (scope : Scope) : Comp Result := do
  let before ← standing
  let tried : Comp Result := do
    match handler with
    | none => block body scope
    | some (param, names, b) =>
      match ← attempt (block body scope) with
      | .ok r => return r
      | .error (.thrown e) =>
        restore before
        update (·.stamp e)
        complete .undefined scope
        handle param names b e scope
      | .error f => fault f
  match finalizer with
  | none => tried
  | some b =>
    let outcome ← attempt tried
    match outcome with
    | .error (.interrupted e) => fault (.interrupted e)
    | .error (.thrown e) => update (·.stamp e)
    | _ => pure ()
    let saved ← match scope.completion with
      | some c => read (·.cell c)
      | none => pure none
    match ← block b scope with
    | .value _ =>
      match scope.completion with
      | some c => update fun h => h.setCell c saved
      | none => pure ()
      match outcome with
      | .ok r => return r
      | .error f => fault f
    | r => return r

/-- The statements from the first case on that has a value. -/
def caseFor (v : Value) (scope : Scope) : List (Option Expr × List Stmt) →
    Comp (Option (List Stmt))
  | [] => return none
  | (none, _) :: rest => caseFor v scope rest
  | (some e, body) :: rest => do
    if strictEq v (← value e scope) then return some (body ++ rest.flatMap (·.2))
    caseFor v scope rest

def switchStatement (e : Expr) (b : Block) (cases : List (Option Expr × List Stmt)) (scope : Scope) :
    Comp Result := do
  let v ← value e scope
  let scope ← enterBlock b scope
  let body ← match ← caseFor v scope cases with
    | some body => pure body
    | none => pure ((cases.dropWhile (·.1.isSome)).flatMap (·.2))
  return afterLoop (← statements body scope)

/-- The labels before a statement, and the statement. -/
def unlabelled (labels : List Name) : Stmt → List Name × Stmt
  | .labelled label body => unlabelled (label :: labels) body
  | s => (labels, s)

/-- The value that a function returns. -/
def returnStatement (e : Option Expr) (scope : Scope) : Comp Result := do
  let v ← match e with
    | none => pure Value.undefined
    | some e =>
      match Scope.enclosing scope.links with
      | some (callee, _, _) =>
        if Grammar.isAnonymous e then
          -- the value of a field is named for the field
          let name ← read fun h => match h.kind callee with
            | .closure c =>
              if c.code.info.kind == .initializer then
                match (h.object callee).find? "name" with
                | some ⟨.data (.string s) _, _, _⟩ => some s
                | _ => none
              else none
            | _ => none
          match name with
          | some name => namedValue e name scope
          | none => value e scope
        else value e scope
      | none => value e scope
  let generates ← match Scope.enclosing scope.links with
    | some (callee, _, _) => read fun h => match h.kind callee with
      | .closure c => c.code.info.isAsync && c.code.info.isGenerator
      | _ => false
    | none => pure false
  if generates then return .returned (← awaitHere v) else return .returned v

/-- Performs a statement. -/
def performStmt (s : Stmt) (scope : Scope) : Comp Result := do
  match s with
  | .empty => return normal
  | .expr e =>
    let v ← value e scope
    complete v scope
    return normal
  | .declare kind bindings =>
    declare kind scope bindings
    return normal
  | .function name copies =>
    if copies then
      let v ← readName name scope
      match outerVariable name scope.links with
      | some b => setCell b.cell v
      | none => setValue (.object Intrinsic.global.ref) name v false
    return normal
  | .classDecl name c =>
    startName name (← classValue c name scope) scope
    return normal
  | .return e => returnStatement e scope
  | .cond test yes no =>
    complete .undefined scope
    if truthy (← value test scope) then ask (.stmt yes scope)
    else
      match no with
      | some no => ask (.stmt no scope)
      | none => return normal
  | .break label => return .broke label
  | .continue label => return .continued label
  | .throw e => throw (← value e scope)
  | .tryCatch body handler finalizer =>
    complete .undefined scope
    tryStatement body handler finalizer scope
  | .switch e b cases =>
    complete .undefined scope
    switchStatement e b cases scope
  | .block b => block b scope
  | .labelled label body =>
    let (labels, body) := unlabelled [label] body
    match ← loopOrOther labels body with
    | .broke (some l) => if labels.contains l then return normal else return .broke (some l)
    | r => return r
  | .withObject object body =>
    complete .undefined scope
    let r ← toObject (← value object scope)
    ask (.stmt body (scope.push (.object r true)))
  | .exportDefault e =>
    let v ← namedValue e "default" scope
    startName Grammar.defaultName v scope
    return normal
  | s =>
    complete .undefined scope
    loop s [] scope
where
  loopOrOther (labels : List Name) (body : Stmt) : Comp Result := do
    match body with
    | .loop .. | .while .. | .doWhile .. | .forIn .. | .forOf .. =>
      complete .undefined scope
      loop body labels scope
    | body => ask (.stmt body scope)

end ScriptHost.Script.Comp
