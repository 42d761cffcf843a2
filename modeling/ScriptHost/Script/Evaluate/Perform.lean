import ScriptHost.Script.Evaluate.Program
import ScriptHost.Script.Machine

/-! What each task does. -/

namespace ScriptHost.Script

namespace Comp

/-- The value of a named function or class, if the expression is one that has no name. -/
def performNamed (e : Expr) (name : Utf16) (scope : Scope) : Comp Value :=
  match e with
  | .function f => functionValue f scope name
  | .classDef c => classValue c name scope
  | e => value e scope

/-- The regular expression object of a literal. -/
def newPattern (source flags : Utf16) : Comp Value := do
  return .object (← newObject {
    kind := .pattern source flags, proto := some Intrinsic.patternPrototype.ref
    props := #[("lastIndex", ⟨.data (.nat 0) true, false, false⟩)] })

/-- Calls what a call names, with its arguments. -/
def performCallExpr (callee : Expr) (args : List Element) (optional : Bool) (scope : Scope) :
    Comp Value := do
  let (f, this) ← calleeOf callee scope
  if optional && f.isNone then giveUp
  let vs ← arguments args scope
  match callee with
  | .ident "eval" =>
    if f == .object Intrinsic.evalFunction.ref then evalHere (vs.headD .undefined) scope
    else call f this vs
  | _ => call f this vs

/-- Performs an expression. -/
def performExpr (e : Expr) (scope : Scope) : Comp Value := do
  match e with
  | .literal l => return l.value
  | .regExp pattern flags => newPattern pattern flags
  | .template first rest => templateLiteral first rest scope
  | .tagged tag site cooked raw values =>
    let (f, this) ← calleeOf tag scope
    let object ← templateObject site cooked raw
    let vs ← mapList values (value · scope)
    call f this (object :: vs)
  | .ident name => readName name scope
  | .this => thisValue scope
  | .newTarget =>
    match Scope.enclosing scope.links with
    | some (_, newTarget, _) => return newTarget
    | none => return .undefined
  | .importMeta =>
    match Scope.moduleOf scope.links with
    | some index =>
      match ← read fun h => (moduleOf h index).metaObject with
      | some r => return .object r
      | none =>
        let r ← newObject { kind := .ordinary, proto := none }
        modifyModule index fun m => { m with metaObject := some r }
        return .object r
    | none => return .undefined
  | .array list => arrayLiteral list scope
  | .object members => objectLiteral members scope
  | .function f => functionValue f scope ""
  | .classDef c => classValue c "" scope
  | .unary op operand =>
    match op, operand with
    | .typeOf, .ident name =>
      let v ← readPlace name (pure .undefined) (← place name scope)
      unary .typeOf v
    | op, operand => unary op (← value operand scope)
  | .delete operand =>
    match operand with
    | .chain inner =>
      fun k => .request (.expr (.delete inner) scope) fun
        | .value v => k v
        | _ => k (.bool true)
    | operand => deleteTarget operand scope
  | .update before up operand => updateTarget before up operand scope
  | .binary op left right =>
    let a ← value left scope
    let b ← value right scope
    binary op a b
  | .logical op left right =>
    let v ← value left scope
    if goesOn op v then value right scope else return v
  | .hasPrivate name object =>
    let k ← hiddenKey name scope
    match ← value object scope with
    | .object r => return .bool (← read fun h => ((h.object r).find? k).isSome)
    | _ => typeError "invalid 'in' operand"
  | .conditional test yes no =>
    if truthy (← value test scope) then value yes scope else value no scope
  | .assign target e => assign target e scope
  | .compound op target e => compound op target e scope
  | .logicalAssign op target e => logicalAssign op target e scope
  | .call callee args optional => performCallExpr callee args optional scope
  | .construct callee args =>
    let f ← value callee scope
    let vs ← arguments args scope
    construct f vs
  | .superCall args => superCall args scope
  | .dot object name optional => getValue (← baseOf object optional scope) name
  | .index object key optional =>
    let b ← baseOf object optional scope
    getComputed b (← value key scope)
  | .privateDot object name optional =>
    let b ← baseOf object optional scope
    getHidden b (← hiddenKey name scope) name
  | .superIndex _ => (← reference e scope).get
  | .chain body =>
    fun k => .request (.expr body scope) fun
      | .value v => k v
      | _ => k .undefined
  | .sequence first second =>
    discard (value first scope)
    value second scope
  | .yield none => yieldValue .undefined scope
  | .yield (some e) => yieldValue (← value e scope) scope
  | .yieldAll e => yieldAll (← value e scope) scope
  | .await e => awaitHere (← value e scope)
  | .importCall e =>
    let v ← value e scope
    let c ← newCapability promiseConstructor
    enqueue (.importModule scope.file v c.resolve c.reject)
    return c.promise

/-! ### Jobs -/

def performJob (j : Job) : Comp Unit := do
  match j with
  | .react r argument => react r argument
  | .adopt promise thenable method => adopt promise thenable method
  | .call f => discard (call f .undefined [])
  | .importModule base specifier resolve reject => importNow base specifier resolve reject

/-- Takes the job that waits longest. -/
def takeJob : Comp (Option Job) :=
  change fun h => match h.jobs with
    | j :: rest => (some j, { h with jobs := rest })
    | [] => (none, h)

def isPending (h : Heap) (promise : Ref) : Bool :=
  match h.kind promise with
  | .promise .pending _ _ => true
  | _ => false

/-- Runs jobs until a promise is settled, or until none is left; gives their number. What a
job leaves unhandled is dropped while a promise is waited for. -/
def performJobs (until_ : Option Ref) (count : Nat) : Comp Value := do
  let settled ← read fun h => until_.any (!isPending h ·)
  if settled then return .nat count
  match ← takeJob with
  | none => return .nat count
  | some j =>
    let before ← standing
    match until_ with
    | some _ =>
      discard (attempt (ask (.job j)))
      restore before
    | none => discard (ask (.job j))
    become (.jobs until_ (count + 1))

/-! ### Properties of objects that decide for themselves -/

/-- The value that a typed array stores for a value. -/
def typedValue (t : ElementType) (v : Value) : Comp Value := do
  if t.isBig then return .bigInt (← toBigInt v) else return .number (← toNumber v)

/-- Stores a value in a typed array; places outside of it are left alone. -/
def storeTyped (r : Ref) (n : Nat) (v : Value) : Comp Unit := do
  match ← read (·.kind r) with
  | .typed t buffer offset length =>
    let v ← typedValue t v
    if n < length then
      update fun h => h.modifyObject buffer fun o => match o.kind with
        | .buffer bytes =>
          let start := offset + n * t.size
          let bytes := (t.encode v).zipIdx.foldl
            (fun bytes (b, i) => bytes.setIfInBounds (start + i) b) bytes
          { o with kind := .buffer bytes }
        | _ => o
  | _ => pure ()

def performGet (r : Ref) (k : Key) (receiver : Value) : Comp Value := do
  match ← read (·.kind r) with
  | .proxy .. => proxyGet r k receiver
  | .namespace _ =>
    if ← read fun h => unsetName h r k then notSet (← read (·.keyName k))
    getFrom r k receiver
  | _ => getFrom r k receiver

def performSet (r : Ref) (k : Key) (v receiver : Value) : Comp Bool := do
  match ← read (·.kind r), k with
  | .proxy .., k => proxySet r k v receiver
  | .typed .., .index n =>
    storeTyped r n v
    return true
  | .namespace _, _ => return false
  | .array .., k =>
    if receiver == .object r && k == .name "length" then define r k { value := some v }
    else ordinarySet r k v receiver
  | _, k => ordinarySet r k v receiver

def performDefine (r : Ref) (k : Key) (d : Definition) : Comp Bool := do
  match ← read (·.kind r), k with
  | .proxy .., k => proxyDefine r k d
  | .typed _ _ _ length, .index n =>
    if length ≤ n || d.isAccessor || d.configurable == some false || d.enumerable == some false
        || d.writable == some false then return false
    match d.value with
    | some v => storeTyped r n v
    | none => pure ()
    return true
  | .array .., .name (.text "length") =>
    match d.value with
    | none => change fun h => h.define r k d
    | some v =>
      let n ← toWord v
      let d' ← toNumber v
      unless (Double.ofNat n).numEq d' do rangeError "invalid array length"
      change fun h => h.define r k { d with value := some (.nat n) }
  | _, k => change fun h => h.define r k d

def performGetOwn (r : Ref) (k : Key) : Comp (Option Property) := do
  if ← read (·.isProxy r) then proxyGetOwn r k
  else
    if ← read fun h => unsetName h r k then notSet (← read (·.keyName k))
    read (·.ownProperty r k)

end Comp

/-- What each task does, given what the built-in functions do. -/
def perform (builtins : Builtins) (t : Task) : Prog :=
  let flag (c : Comp Bool) : Prog := c fun b => .done (.flag b)
  let unit (c : Comp Unit) : Prog := c fun _ => .done Comp.normal
  match t with
  | .expr e scope => (Comp.performExpr e scope).toProg
  | .named e name scope => (Comp.performNamed e name scope).toProg
  | .stmt s scope => (Comp.performStmt s scope).ofResult
  | .call f this args => (Comp.performCall builtins f this args).toProg
  | .construct f args newTarget => (Comp.performConstruct builtins f args newTarget).toProg
  | .getPrototype r => (Comp.proxyGetPrototype r).toProg
  | .setPrototype r proto => flag (Comp.proxySetPrototype r proto)
  | .isExtensible r => flag (Comp.proxyIsExtensible r)
  | .preventExtensions r => flag (Comp.proxyPreventExtensions r)
  | .getOwn r k => Comp.performGetOwn r k fun p => .done (.property p)
  | .define r k d => flag (Comp.performDefine r k d)
  | .has r k => flag (Comp.proxyHas r k)
  | .get r k receiver => (Comp.performGet r k receiver).toProg
  | .set r k v receiver => flag (Comp.performSet r k v receiver)
  | .delete r k => flag (Comp.proxyDelete r k)
  | .ownKeys r => Comp.proxyOwnKeys r fun ks => .done (.keys ks)
  | .again index f => .guarded (f index) fun
    | .ok (.value _) => .become (.again (index + 1) f)
    | .ok r => .done r
    | .error e => .fail e
  | .each iterator next isAwait index f =>
    (Comp.performEach ⟨iterator, next⟩ isAwait index f).ofResult
  | .bind p v kind scope => unit (Comp.performBind p v kind scope)
  | .delegate iterator next isAsync received =>
    (Comp.performDelegate iterator next isAsync received).toProg
  | .advance w s => (Comp.advance w s).ofResult
  | .advanceGenerator generator s => (Comp.advanceGenerator generator s).ofResult
  | .drain generator => (Comp.drain generator).ofResult
  | .evaluateModule index => (Comp.evaluateModule index).toProg
  | .job j => unit (Comp.performJob j)
  | .jobs until_ count => (Comp.performJobs until_ count).toProg

/-- What happens when the time of a command is over. -/
def interrupted : Prog :=
  .act fun h =>
    let (e, h) := h.newError .internalError "interrupted"
    (h, .fail (.interrupted e))

/-- The interpreter of scripts, given what the built-in functions do. -/
def interpreter (builtins : Builtins) : Interpreter := ⟨perform builtins, interrupted⟩

end ScriptHost.Script
