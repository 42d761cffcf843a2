import ScriptHost.Number.Double
import ScriptHost.Text.Utf16

/-! The syntax of scripts. Declarations are gathered where they take effect: a function
lists its variables, a block its lexical names and its functions. -/

namespace ScriptHost.Script

abbrev Name := String

inductive UnaryOp where
  | plus | minus | invert | complement | discard | typeOf
deriving DecidableEq, Repr, Inhabited

inductive BinaryOp where
  | add | sub | mul | div | rem | pow
  | shiftLeft | shiftRight | shiftRightZero | bitAnd | bitOr | bitXor
  | less | lessEq | greater | greaterEq
  | equal | unequal | same | different
  | instanceOf | isIn
deriving DecidableEq, Repr, Inhabited

inductive LogicalOp where
  | and | or | coalesce
deriving DecidableEq, Repr, Inhabited

inductive DeclKind where
  | variable | lexical | constant
deriving DecidableEq, Repr, Inhabited

/-- What a function is for, which decides its `this`, its prototype and how it may be
called. -/
inductive FunctionKind where
  | normal | arrow | method | getter | setter
  | constructor | derivedConstructor
  /-- The initialiser of a field, or a static block. -/
  | initializer
  /-- The body of a script or a module. -/
  | program
deriving DecidableEq, Repr, Inhabited

/-- A name that a block declares for itself. -/
structure Lexical where
  name : Name
  constant : Bool
deriving DecidableEq, Repr, Inhabited

/-- What is known of a function besides its code. -/
structure FunctionInfo where
  name : Name := ""
  kind : FunctionKind := .normal
  isAsync : Bool := false
  isGenerator : Bool := false
  strict : Bool := false
  /-- Are all parameters plain names without defaults? -/
  simple : Bool := true
  /-- The number of parameters before the first one with a default. -/
  length : Nat := 0
  paramNames : List Name := []
  /-- The names declared with `var`, parameters left out. -/
  vars : List Name := []
  source : String := ""
  file : String := ""
  usesArguments : Bool := false
  /-- Does the code call `eval` by name? It may then declare variables while it runs. -/
  usesEval : Bool := false
deriving DecidableEq, Repr, Inhabited

inductive Literal where
  | null
  | bool (value : Bool)
  | number (value : Double)
  | bigInt (value : Int)
  | string (value : Utf16)
deriving DecidableEq, Repr, Inhabited

mutual

inductive Expr where
  | literal (value : Literal)
  | regExp (pattern flags : Utf16)
  | template (first : Utf16) (rest : List (Expr × Utf16))
  /-- A template given to a function, with the cooked and the raw texts of its pieces. The
  site tells templates of one source apart. -/
  | tagged (tag : Expr) (site : Nat) (cooked : List (Option Utf16)) (raw : List Utf16)
      (values : List Expr)
  | ident (name : Name)
  | this
  | newTarget
  | importMeta
  | array (items : List Element)
  | object (members : List Member)
  | function (f : Function)
  | classDef (c : ClassDef)
  | unary (op : UnaryOp) (operand : Expr)
  | delete (operand : Expr)
  | update (before : Bool) (increment : Bool) (operand : Expr)
  | binary (op : BinaryOp) (left right : Expr)
  | logical (op : LogicalOp) (left right : Expr)
  | hasPrivate (name : Name) (object : Expr)
  | conditional (test yes no : Expr)
  | assign (target : Pattern) (value : Expr)
  | compound (op : BinaryOp) (target value : Expr)
  | logicalAssign (op : LogicalOp) (target value : Expr)
  | call (callee : Expr) (args : List Element) (optional : Bool)
  | construct (callee : Expr) (args : List Element)
  | superCall (args : List Element)
  | dot (object : Expr) (name : Name) (optional : Bool)
  | index (object key : Expr) (optional : Bool)
  | privateDot (object : Expr) (name : Name) (optional : Bool)
  | superIndex (key : Expr)
  /-- The extent of a chain of accesses in which an optional one may give up. -/
  | chain (body : Expr)
  | sequence (first second : Expr)
  | yield (value : Option Expr)
  | yieldAll (value : Expr)
  | await (value : Expr)
  | importCall (specifier : Expr)

/-- An item of an array or of an argument list. -/
inductive Element where
  | hole
  | item (e : Expr)
  | spread (e : Expr)

inductive PropertyKey where
  | fixed (name : Utf16)
  | computed (e : Expr)
  | hidden (name : Name)

inductive Member where
  | property (key : PropertyKey) (value : Expr)
  | method (key : PropertyKey) (f : Function)
  | spread (e : Expr)
  /-- The member `__proto__: e`, which sets the prototype. -/
  | proto (e : Expr)

inductive ClassMember where
  | method (isStatic : Bool) (key : PropertyKey) (f : Function)
  | field (isStatic : Bool) (key : PropertyKey) (value : Option Function)
  | block (f : Function)

/-- What a value is bound or assigned to. -/
inductive Pattern where
  | target (e : Expr)
  | array (items : List (Option (Pattern × Option Expr))) (rest : Option Pattern)
  | object (members : List (PropertyKey × Pattern × Option Expr)) (rest : Option Pattern)

inductive Stmt where
  | empty
  | expr (e : Expr)
  | declare (kind : DeclKind) (bindings : List (Pattern × Option Expr))
  /-- A function declaration; its function is made when its block is entered. In a block of
  sloppy code the value also goes to the variable of the same name. -/
  | function (name : Name) (copies : Bool)
  | classDecl (name : Name) (c : ClassDef)
  | return (value : Option Expr)
  | cond (test : Expr) (yes : Stmt) (no : Option Stmt)
  | loop (start : Option Stmt) (test update : Option Expr) (names : List Lexical)
      (body : Stmt)
  | forIn (target : LoopTarget) (object : Expr) (body : Stmt)
  | forOf (isAwait : Bool) (target : LoopTarget) (items : Expr) (body : Stmt)
  | while (test : Expr) (body : Stmt)
  | doWhile (body : Stmt) (test : Expr)
  | break (label : Option Name)
  | continue (label : Option Name)
  | throw (value : Expr)
  | tryCatch (body : Block) (handler : Option (Option Pattern × List Name × Block))
      (finalizer : Option Block)
  | switch (value : Expr) (block : Block) (cases : List (Option Expr × List Stmt))
  | block (b : Block)
  | labelled (label : Name) (body : Stmt)
  | withObject (object : Expr) (body : Stmt)
  /-- The value of `export default e`. -/
  | exportDefault (value : Expr)

/-- What each round of a loop over items binds. -/
inductive LoopTarget where
  | assign (p : Pattern)
  | declare (kind : DeclKind) (p : Pattern) (names : List Name)

structure Block where
  lexicals : List Lexical
  functions : List (Name × Function)
  body : List Stmt

structure Function where
  info : FunctionInfo
  params : List (Pattern × Option Expr)
  rest : Option Pattern
  body : Block

structure ClassDef where
  name : Option Name
  heritage : Option Expr
  constructor : Function
  members : List ClassMember
  source : String

end

instance : Inhabited Expr := ⟨.this⟩
instance : Inhabited Stmt := ⟨.empty⟩
instance : Inhabited Block := ⟨⟨[], [], []⟩⟩
instance : Inhabited Pattern := ⟨.target .this⟩
instance : Inhabited Function := ⟨⟨default, [], none, default⟩⟩
instance : Inhabited ClassDef := ⟨⟨none, none, default, [], ""⟩⟩
instance : Inhabited LoopTarget := ⟨.assign default⟩

end ScriptHost.Script
