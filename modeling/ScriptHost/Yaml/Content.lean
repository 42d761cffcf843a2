import ScriptHost.Text.Quoted
import ScriptHost.Yaml.Schema

/-! What the one document of a text in the relaxed dialect holds. No key may be in a
mapping twice; a tree that is cut is read up to the cut, so a key that is there twice
before it is reported first. -/

namespace ScriptHost.Yaml

inductive Content where
  | null
  /-- A scalar that does not fit its tag, or a name for what it is part of. -/
  | bad
  | bool (b : Bool)
  | int (i : Int)
  /-- A number with a point or an exponent, as it is written. -/
  | real (text : String)
  | text (s : String)
  | sequence (items : List Content)
  | mapping (entries : List (Content × Content))
deriving Inhabited, Repr

namespace Content

mutual

def beq : Content → Content → Bool
  | .null, .null => true
  | .bad, .bad => true
  | .bool a, .bool b => a == b
  | .int a, .int b => a == b
  | .real a, .real b => a == b
  | .text a, .text b => a == b
  | .sequence as, .sequence bs => beqItems as bs
  | .mapping as, .mapping bs => beqEntries as bs
  | _, _ => false

def beqItems : List Content → List Content → Bool
  | [], [] => true
  | a :: as, b :: bs => a.beq b && beqItems as bs
  | _, _ => false

def beqEntries : List (Content × Content) → List (Content × Content) → Bool
  | [], [] => true
  | (k, a) :: as, (l, b) :: bs => k.beq l && a.beq b && beqEntries as bs
  | _, _ => false

end

instance : BEq Content := ⟨beq⟩

mutual

/-- How a key is shown in messages. -/
def shown : Content → String
  | .null => "Null"
  | .bad => "BadValue"
  | .bool b => "Boolean(" ++ (if b then "true" else "false") ++ ")"
  | .int i => "Integer(" ++ toString i ++ ")"
  | .real written => "Real(" ++ Text.quote written ++ ")"
  | .text s => "String(" ++ Text.quote s ++ ")"
  | .sequence items => "Array([" ++ ", ".intercalate (shownItems items) ++ "])"
  | .mapping entries => "Hash(\x7b" ++ ", ".intercalate (shownEntries entries) ++ "\x7d)"

def shownItems : List Content → List String
  | [] => []
  | item :: rest => item.shown :: shownItems rest

def shownEntries : List (Content × Content) → List String
  | [] => []
  | (key, value) :: rest => (key.shown ++ ": " ++ value.shown) :: shownEntries rest

end

/-- What a plain scalar stands for. -/
def ofPlain (written : String) : Content :=
  match relaxedAtom written with
  | .null => .null
  | .bool b => .bool b
  | .int i => .int i
  | .float _ => .real written
  | .text s => .text s

/-- What a plain scalar with a tag stands for. -/
def ofTagged (tag written : String) : Content :=
  if tag == schemaTag "bool" then
    if written == "true" then .bool true else if written == "false" then .bool false else .bad
  else if tag == schemaTag "int" then
    match (Decimal.int? 10 written.toList).filter fun (i : Int) =>
        -Nat.pow 2 63 ≤ i ∧ i < Nat.pow 2 63 with
    | some i => .int i
    | none => .bad
  else if tag == schemaTag "float" then
    if (relaxedFloat? written).isSome then .real written else .bad
  else if tag == schemaTag "null" then
    if written == "~" || written == "null" then .null else .bad
  else .text written

def ofScalar (tag : Option String) (written : String) (style : ScalarStyle) : Content :=
  match style, tag with
  | .plain, none => ofPlain written
  | .plain, some tag => ofTagged tag written
  | _, _ => .text written

mutual

/-- What a node holds; at a cut there is the fault. -/
def ofNode (ending : Fault) : Node → Except Fault Content
  | .scalar tag written style => .ok (ofScalar tag written style)
  | .sequence _ items => (ofItems ending items).map .sequence
  | .mapping _ entries => (ofEntries ending entries []).map .mapping
  | .alias none => .ok .bad
  | .alias (some target) => ofNode ending target
  | .cut => .error ending

def ofItems (ending : Fault) : List Node → Except Fault (List Content)
  | [] => .ok []
  | item :: rest => do
    let item ← ofNode ending item
    return item :: (← ofItems ending rest)

def ofEntries (ending : Fault) :
    List (Node × Node) → List (Content × Content) → Except Fault (List (Content × Content))
  | [], known => .ok known.reverse
  | (key, value) :: rest, known => do
    let key ← ofNode ending key
    let value ← ofNode ending value
    if known.any fun entry => entry.1 == key then throw (.duplicateKey key.shown)
    ofEntries ending rest ((key, value) :: known)

end

/-- What a text holds, if it is one document; a text without one is an empty mapping. -/
def ofText (text : String) : Except Fault Content := do
  let contents ← (readDocuments .relaxed text).mapM fun document => do
    let content ← ofNode (document.fault.getD .noDocumentStart) document.root
    match document.fault with
    | some f => throw f
    | none => return content
  match contents with
  | [] => return .mapping []
  | [content] => return content
  | contents => throw (.manyDocuments contents.length)

end Content

end ScriptHost.Yaml
