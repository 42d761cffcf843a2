import ScriptHost.Yaml.Token

/-! The nodes that the tokens of a YAML text describe. A text with a fault still has the
nodes before it: where the fault is the tree is cut. -/

namespace ScriptHost.Yaml

inductive Node where
  | scalar (tag : Option String) (text : String) (style : ScalarStyle)
  | sequence (tag : Option String) (items : List Node)
  | mapping (tag : Option String) (entries : List (Node × Node))
  /-- Another name for a node before it; for one that it is part of it has none. -/
  | alias (target : Option Node)
  /-- The text makes no sense from here on. -/
  | cut
deriving Inhabited, Repr

/-- A node that nothing is written for. -/
def Node.nothing : Node := .scalar none "" .plain

/-- One document of a text. -/
structure Document where
  root : Node
  fault : Option Fault
deriving Inhabited

structure Parser where
  dialect : Dialect
  tokens : List Token
  /-- What is wrong after the last token. -/
  ending : Option Fault
  /-- What was found to be wrong. -/
  fault : Option Fault := none
  anchors : List (String × Option Node) := []
  handles : List (String × String) := []

namespace Parser

def peek (p : Parser) : Option Token := p.tokens.head?

def skip (p : Parser) : Parser := { p with tokens := p.tokens.tail }

/-- Stops at a fault; at the end of the tokens at what is wrong there. -/
def fail (p : Parser) (f : Fault) : Node × Parser :=
  let f := if p.tokens.isEmpty then p.ending.getD f else f
  (.cut, { p with fault := some f })

def failed (p : Parser) : Bool := p.fault.isSome

def isNext (p : Parser) (ts : List Token) : Bool := p.peek.any ts.contains

/-- The meaning of a tag as it is written. -/
def resolveTag (p : Parser) (t : TagText) : Option String :=
  if t.handle == "" then some t.suffix
  else
    match p.handles.lookup t.handle with
    | some expansion => some (expansion ++ t.suffix)
    | none =>
      if t.handle == "!" then some ("!" ++ t.suffix)
      else if t.handle == "!!" then some ("tag:yaml.org,2002:" ++ t.suffix)
      else none

structure Properties where
  anchor : Option String := none
  tag : Option TagText := none

/-- Takes the anchor and the tag of a node, in either order. -/
def properties : Nat → Properties → Parser → Properties × Parser
  | 0, props, p => (props, p)
  | fuel + 1, props, p =>
    match p.peek with
    | some (.anchor name) =>
      if props.anchor.isSome then (props, p)
      else properties fuel { props with anchor := some name } p.skip
    | some (.tag t) =>
      if props.tag.isSome then (props, p) else properties fuel { props with tag := some t } p.skip
    | _ => (props, p)

/-- Names a node, or the one that is under way. -/
def bind (p : Parser) (anchor : Option String) (node : Option Node) : Parser :=
  match anchor with
  | some name => { p with anchors := (name, node) :: p.anchors }
  | none => p

/-- A node of which only the properties are written is empty. -/
def missing (tag : Option String) (props : Properties) (finish : Node × Parser → Node × Parser)
    (p : Parser) (block : Bool) : Node × Parser :=
  if props.anchor.isSome || props.tag.isSome then finish (.scalar tag "" .plain, p)
  else p.fail (.noNode block)

mutual

/-- Takes a node. A sequence in a mapping of a block may be indented no deeper than its
key. -/
def node (fuel : Nat) (block indentless : Bool) (p : Parser) : Node × Parser :=
  match fuel with
  | 0 => p.fail .recursionLimit
  | fuel + 1 =>
    match p.peek with
    | some (.alias name) =>
      match p.anchors.lookup name with
      | some target => (.alias target, p.skip)
      | none => p.fail .unknownAnchor
    | _ =>
      let (props, p) := properties 2 {} p
      match props.tag.map p.resolveTag with
      | some none => p.fail .undefinedHandle
      | tag =>
        let tag := tag.bind id
        let p := p.bind props.anchor none
        let finish (r : Node × Parser) : Node × Parser := (r.1, r.2.bind props.anchor (some r.1))
        match p.peek with
        | some (.scalar text style) => finish (.scalar tag text style, p.skip)
        | some .flowSequenceStart =>
          let (items, p) := flowItems fuel true p.skip
          finish (.sequence tag items, p)
        | some .flowMappingStart =>
          let (entries, p) := flowEntries fuel true p.skip
          finish (.mapping tag entries, p)
        | some .blockEntry =>
          if indentless then
            let (items, p) := blockItems fuel true p
            finish (.sequence tag items, p)
          else missing tag props finish p block
        | some .blockSequenceStart =>
          if block then
            let (items, p) := blockItems fuel false p.skip
            finish (.sequence tag items, p)
          else missing tag props finish p block
        | some .blockMappingStart =>
          if block then
            let (entries, p) := blockEntries fuel p.skip
            finish (.mapping tag entries, p)
          else missing tag props finish p block
        | _ => missing tag props finish p block

/-- Takes the entries of a block sequence. -/
def blockItems (fuel : Nat) (indentless : Bool) (p : Parser) : List Node × Parser :=
  match fuel with
  | 0 => ([.cut], (p.fail .recursionLimit).2)
  | fuel + 1 =>
    match p.peek with
    | some .blockEntry =>
      let p := p.skip
      let ends : List Token :=
        if indentless then [.blockEntry, .key, .value, .blockEnd] else [.blockEntry, .blockEnd]
      let (item, p) := if p.isNext ends then (Node.nothing, p) else node fuel true false p
      if p.failed then ([item], p)
      else
        let (rest, p) := blockItems fuel indentless p
        (item :: rest, p)
    | some .blockEnd => ([], if indentless then p else p.skip)
    | some _ => if indentless then ([], p) else ([.cut], (p.fail .noEntry).2)
    | none => ([.cut], (p.fail .noEntry).2)

/-- Takes the entries of a block mapping. -/
def blockEntries (fuel : Nat) (p : Parser) : List (Node × Node) × Parser :=
  match fuel with
  | 0 => ([(.cut, .cut)], (p.fail .recursionLimit).2)
  | fuel + 1 =>
    let ends : List Token := [.key, .value, .blockEnd]
    let withKey (key : Node) (p : Parser) : List (Node × Node) × Parser :=
      if p.failed then ([(key, .cut)], p)
      else
        let (value, p) :=
          if p.peek == some .value then
            let p := p.skip
            if p.isNext ends then (Node.nothing, p) else node fuel true true p
          else if p.tokens.isEmpty then p.fail .noKey
          else (Node.nothing, p)
        if p.failed then ([(key, value)], p)
        else
          let (rest, p) := blockEntries fuel p
          ((key, value) :: rest, p)
    match p.peek with
    | some .key =>
      let p := p.skip
      let (key, p) := if p.isNext ends then (Node.nothing, p) else node fuel true true p
      withKey key p
    | some .value => if p.dialect == .relaxed then withKey Node.nothing p
      else ([(.cut, .cut)], (p.fail .noKey).2)
    | some .blockEnd => ([], p.skip)
    | _ => ([(.cut, .cut)], (p.fail .noKey).2)

/-- Takes the items of a sequence in brackets. -/
def flowItems (fuel : Nat) (first : Bool) (p : Parser) : List Node × Parser :=
  match fuel with
  | 0 => ([.cut], (p.fail .recursionLimit).2)
  | fuel + 1 =>
    if p.peek == some .flowSequenceEnd then ([], p.skip)
    else
      let between := first || p.peek == some .flowEntry
      if !between then ([.cut], (p.fail .noSequenceEnd).2)
      else
        let p := if first then p else p.skip
        if p.peek == some .flowSequenceEnd then ([], p.skip)
        else
          let (item, p) :=
            if p.peek == some .key then
              let p := p.skip
              let (key, p) :=
                if p.isNext [.value, .flowEntry, .flowSequenceEnd] then (Node.nothing, p)
                else node fuel false false p
              if p.failed then (Node.mapping none [(key, .cut)], p)
              else
                let (value, p) :=
                  if p.peek == some .value then
                    let p := p.skip
                    if p.isNext [.flowEntry, .flowSequenceEnd] then (Node.nothing, p)
                    else node fuel false false p
                  else (Node.nothing, p)
                (Node.mapping none [(key, value)], p)
            else node fuel false false p
          if p.failed then ([item], p)
          else
            let (rest, p) := flowItems fuel false p
            (item :: rest, p)

/-- Takes the entries of a mapping in braces. -/
def flowEntries (fuel : Nat) (first : Bool) (p : Parser) : List (Node × Node) × Parser :=
  match fuel with
  | 0 => ([(.cut, .cut)], (p.fail .recursionLimit).2)
  | fuel + 1 =>
    if p.peek == some .flowMappingEnd then ([], p.skip)
    else
      let between := first || p.peek == some .flowEntry
      if !between then ([(.cut, .cut)], (p.fail .noMappingEnd).2)
      else
        let p := if first then p else p.skip
        if p.peek == some .flowMappingEnd then ([], p.skip)
        else
          let ends : List Token := [.value, .flowEntry, .flowMappingEnd]
          let marked := p.peek == some .key
          let p := if marked then p.skip else p
          let (key, p) :=
            if (marked && p.isNext ends) || p.peek == some .value then (Node.nothing, p)
            else node fuel false false p
          if p.failed then ([(key, .cut)], p)
          else
            let (value, p) :=
              if p.peek == some .value then
                let p := p.skip
                if p.isNext [.flowEntry, .flowMappingEnd] then (Node.nothing, p)
                else node fuel false false p
              else (Node.nothing, p)
            if p.failed then ([(key, value)], p)
            else
              let (rest, p) := flowEntries fuel false p
              ((key, value) :: rest, p)

end

/-- Takes the directives of a document. -/
def directives : Nat → Parser → Parser
  | 0, p => p
  | fuel + 1, p =>
    match p.peek with
    | some .version => directives fuel p.skip
    | some (.tagDirective handle expansion) =>
      directives fuel { p.skip with handles := (handle, expansion) :: p.handles }
    | _ => p

def skipEnds : Nat → Parser → Parser
  | 0, p => p
  | fuel + 1, p => if p.peek == some .documentEnd then skipEnds fuel p.skip else p

/-- Takes the documents of a text. One that follows another needs a mark of its own. -/
def documents : Nat → Bool → Parser → List Document
  | 0, _, _ => []
  | fuel + 1, first, p =>
    let p := { p with anchors := [], handles := [] }
    let p := if first && p.dialect == .strict then p else skipEnds (p.tokens.length + 1) p
    let bound := 4 * p.tokens.length + 16
    let finish (r : Node × Parser) : List Document :=
      let (root, p) := r
      match p.fault with
      | some f => [⟨root, some f⟩]
      | none =>
        let ended := p.peek == some .documentEnd
        let p := if ended then p.skip else p
        ⟨root, none⟩ :: documents fuel (ended && p.dialect == .relaxed) p
    match p.peek with
    | none => [⟨.cut, some (p.ending.getD .noDocumentStart)⟩]
    | some .streamEnd => []
    | some t =>
      let marked := t == .version || t == .documentStart
        || match t with
          | .tagDirective .. => true
          | _ => false
      if first && !marked then finish (node bound true false p)
      else
        let p := directives (p.tokens.length + 1) p
        if p.peek != some .documentStart then finish (p.fail .noDocumentStart)
        else
          let p := p.skip
          let ends := p.isNext [.version, .documentStart, .documentEnd, .streamEnd]
            || match p.peek with
              | some (.tagDirective ..) => true
              | _ => false
          if ends then finish (.nothing, p) else finish (node bound true false p)

end Parser

/-- The documents of a text. -/
def readDocuments (d : Dialect) (text : String) : List Document :=
  let (tokens, ending) := scan d text
  Parser.documents (tokens.length + 1) true { dialect := d, tokens := tokens, ending := ending }

end ScriptHost.Yaml
