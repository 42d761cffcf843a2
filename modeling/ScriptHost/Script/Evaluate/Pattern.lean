import ScriptHost.Script.Evaluate.Expression

/-! Binding and assigning values to patterns. -/

namespace ScriptHost.Script.Comp

/-- The value for a place of a pattern: the default stands in for `undefined`. -/
def orDefault (v : Value) (missing : Option Expr) (p : Pattern) (scope : Scope) : Comp Value :=
  match v, missing with
  | .undefined, some e =>
    match p with
    | .target (.ident name) => namedValue e name scope
    | _ => value e scope
  | v, _ => pure v

/-- Gives one place of a pattern its value. -/
def bindPart (p : Pattern) (v : Value) (kind : Option DeclKind) (scope : Scope) : Comp Unit := do
  match p, kind with
  | .target (.ident name), none | .target (.ident name), some .variable => writeName name v scope
  | .target (.ident name), some _ => startName name v scope
  | p, kind => discard (ask (.bind p v kind scope))

/-- The next item of an iterator that may have come to its end. The cell tells whether it
has, or whether it failed. -/
def nextItem (s : Source) (ended : Cell) : Comp (Option Value) := do
  if (← read (·.cell ended)) == some (.bool true) then return none
  setCell ended (.bool true)
  let item ← step s
  if item.isSome then setCell ended (.bool false)
  return item

def bindItems (items : List (Option (Pattern × Option Expr))) (s : Source) (ended : Cell)
    (kind : Option DeclKind) (scope : Scope) : Comp Unit :=
  forEach items fun item => do
    match item with
    | none => discard (nextItem s ended)
    | some (p, missing) =>
      -- an object to assign to is found before the item is taken
      match p, kind with
      | .target (.dot object name _), none =>
        let b ← value object scope
        let v := Value.ofOption (← nextItem s ended)
        setValue b name (← orDefault v missing p scope) scope.strict
      | p, kind =>
        let v := Value.ofOption (← nextItem s ended)
        bindPart p (← orDefault v missing p scope) kind scope

def bindArray (items : List (Option (Pattern × Option Expr))) (rest : Option Pattern) (v : Value)
    (kind : Option DeclKind) (scope : Scope) : Comp Unit := do
  let s ← iterate v
  let ended ← change fun h => h.newCell (some (.bool false))
  match ← attempt do
    bindItems items s ended kind scope
    match rest with
    | some p =>
      match ← newArray [] with
      | .object list =>
        unless (← read (·.cell ended)) == some (.bool true) do
          setCell ended (.bool true)
          collect s list
        bindPart p (.object list) kind scope
      | _ => pure ()
    | none => pure ()
    return .value .undefined with
  | .ok _ =>
    unless (← read (·.cell ended)) == some (.bool true) do close s.iterator
  | .error f =>
    unless (← read (·.cell ended)) == some (.bool true) do
      match f with
      | .thrown _ => closeQuietly s.iterator
      | .leaving _ => close s.iterator
      | .interrupted _ => pure ()
    fault f

def bindMembers (v : Value) (kind : Option DeclKind) (scope : Scope) :
    List (PropertyKey × Pattern × Option Expr) → List Key → Comp (List Key)
  | [], taken => return taken
  | (key, p, missing) :: rest, taken => do
    let k ← keyOf key scope
    let item ← orDefault (← getValue v k) missing p scope
    bindPart p item kind scope
    bindMembers v kind scope rest (k :: taken)

def bindObject (members : List (PropertyKey × Pattern × Option Expr)) (rest : Option Pattern)
    (v : Value) (kind : Option DeclKind) (scope : Scope) : Comp Unit := do
  if v.isNone then typeError "cannot convert to object"
  let taken ← bindMembers v kind scope members []
  match rest with
  | some p =>
    let r ← newObject { kind := .ordinary, proto := some Intrinsic.objectPrototype.ref }
    copyProperties r v taken
    bindPart p (.object r) kind scope
  | none => pure ()

/-- Performs the task of binding a pattern. -/
def performBind (p : Pattern) (v : Value) (kind : Option DeclKind) (scope : Scope) :
    Comp Unit := do
  match p with
  | .target (.ident _) => bindPart p v kind scope
  | .target e => Reference.set v scope.strict (← reference e scope)
  | .array items rest => bindArray items rest v kind scope
  | .object members rest => bindObject members rest v kind scope

end ScriptHost.Script.Comp
