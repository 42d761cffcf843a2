import ScriptHost.Yaml.Scalar

/-! Scanning YAML into tokens. The indentation of blocks becomes tokens of its own. A key
without a mark of its own is known only when its colon comes, so what belongs before it is
kept aside with its place and put in at the end. -/

namespace ScriptHost.Yaml

inductive ScalarStyle where
  | plain | quoted | block
deriving DecidableEq, Repr, Inhabited

/-- A tag as it is written: its handle and what follows. -/
structure TagText where
  handle : String
  suffix : String
deriving DecidableEq, Repr, Inhabited

inductive Token where
  | version
  | tagDirective (handle expansion : String)
  | documentStart | documentEnd | streamEnd
  | blockSequenceStart | blockMappingStart | blockEnd
  | flowSequenceStart | flowSequenceEnd | flowMappingStart | flowMappingEnd
  | blockEntry | flowEntry | key | value
  | alias (name : String)
  | anchor (name : String)
  | tag (text : TagText)
  | scalar (text : String) (style : ScalarStyle)
deriving DecidableEq, Repr, Inhabited

/-- A place where a key may have begun. -/
structure KeyPlace where
  /-- How many tokens come before it. -/
  token : Nat
  required : Bool
  line : Nat
  column : Nat
  index : Nat
deriving Inhabited

structure Scanner where
  cursor : Cursor
  /-- The tokens so far, in reverse, and how many they are. -/
  tokens : List Token := []
  count : Nat := 0
  /-- Tokens to be put in before those of a number, the earliest last. -/
  inserts : List (Nat × Token) := []
  indent : Int := -1
  outer : List Int := []
  flowLevel : Nat := 0
  /-- The place of a possible key, for each level of brackets. -/
  keys : List (Option KeyPlace) := [none]
  keyAllowed : Bool := true
deriving Inhabited

/-- Keys without a mark may be so long. -/
def keyBound : Nat := 1024

namespace Scanner

def push (s : Scanner) (t : Token) : Scanner :=
  { s with tokens := t :: s.tokens, count := s.count + 1 }

/-- Over blanks, comments and line ends. -/
def skipSpace (d : Dialect) : Nat → Scanner → Except Fault Scanner
  | 0, s => .ok s
  | fuel + 1, s =>
    let c := s.cursor
    match c.peek with
    | none => .ok s
    | some ch =>
      if ch == ' ' then skipSpace d fuel { s with cursor := c.next }
      else if ch == '\t' && (d == .relaxed || 0 < s.flowLevel || !s.keyAllowed) then
        if d == .relaxed && s.flowLevel == 0 && (c.column : Int) < s.indent && s.keyAllowed
            && !endsLine d (c.skipWhile isBlank).peek then .error .tabIndentation
        else skipSpace d fuel { s with cursor := c.next }
      else if ch == '#' then skipSpace d fuel { s with cursor := c.skipWhile (!isBreak d ·) }
      else if isBreak d ch then
        skipSpace d fuel { s with cursor := c.nextLine, keyAllowed := s.keyAllowed || s.flowLevel == 0 }
      else .ok s

/-- Gives up the places of keys that can be keys no more. -/
def dropStale (d : Dialect) (s : Scanner) : Except Fault Scanner := do
  let c := s.cursor
  let keys ← s.keys.mapM fun key =>
    match key with
    | some k =>
      if (d == .strict || s.flowLevel == 0) && (k.line < c.line || k.index + keyBound < c.index) then
        if k.required then throw .noColon else return none
      else return some k
    | none => return none
  return { s with keys := keys }

/-- Gives up the place of a key at the present level. -/
def removeKey (s : Scanner) : Except Fault Scanner :=
  match s.keys with
  | some k :: rest => if k.required then .error .noColon else .ok { s with keys := none :: rest }
  | _ => .ok s

/-- Notes that a key may begin here. -/
def saveKey (s : Scanner) : Except Fault Scanner := do
  if s.keyAllowed then
    let c := s.cursor
    let required := s.flowLevel == 0 && s.indent == c.column
    let s ← s.removeKey
    return { s with keys := some ⟨s.count, required, c.line, c.column, c.index⟩ :: s.keys.tail }
  else return s

/-- Begins a block at a column if that is deeper than what is around. -/
def roll (s : Scanner) (column : Nat) (place : Option Nat) (t : Token) : Scanner :=
  if 0 < s.flowLevel || (column : Int) ≤ s.indent then s
  else
    let s := { s with outer := s.indent :: s.outer, indent := column }
    match place with
    | some n => { s with inserts := (n, t) :: s.inserts }
    | none => s.push t

/-- Ends the blocks that are deeper than a column. -/
def unrollFrom : List Int → Int → Scanner → Scanner
  | outer, column, s =>
    if 0 < s.flowLevel || s.indent ≤ column then s
    else
      match outer with
      | [] => s
      | indent :: rest =>
        unrollFrom rest column { (s.push .blockEnd) with indent := indent, outer := rest }

def unroll (s : Scanner) (column : Int) : Scanner := unrollFrom s.outer column s

/-- A token of one character or more. -/
def take (s : Scanner) (n : Nat) (t : Token) : Scanner :=
  { (s.push t) with cursor := s.cursor.skip n }

/-! ### Tokens by kind -/

def openFlow (s : Scanner) (t : Token) : Except Fault Scanner := do
  let s ← s.saveKey
  return { (s.take 1 t) with keys := none :: s.keys, flowLevel := s.flowLevel + 1, keyAllowed := true }

def closeFlow (s : Scanner) (t : Token) : Except Fault Scanner := do
  let s ← s.removeKey
  let keys := if s.flowLevel = 0 then s.keys else s.keys.tail
  return { (s.take 1 t) with keys := keys, flowLevel := s.flowLevel - 1, keyAllowed := false }

def flowEntry (s : Scanner) : Except Fault Scanner := do
  let s ← s.removeKey
  return { (s.take 1 .flowEntry) with keyAllowed := true }

def blockEntry (s : Scanner) : Except Fault Scanner := do
  if s.flowLevel == 0 && !s.keyAllowed then throw .entryNotAllowed
  let s ← (s.roll s.cursor.column none .blockSequenceStart).removeKey
  return { (s.take 1 .blockEntry) with keyAllowed := true }

def keyMark (s : Scanner) : Except Fault Scanner := do
  if s.flowLevel == 0 && !s.keyAllowed then throw .keyNotAllowed
  let s ← (s.roll s.cursor.column none .blockMappingStart).removeKey
  return { (s.take 1 .key) with keyAllowed := s.flowLevel == 0 }

def valueMark (s : Scanner) : Except Fault Scanner := do
  match s.keys with
  | some k :: rest =>
    let s := { s with inserts := (k.token, .key) :: s.inserts, keys := none :: rest }
    let s := s.roll k.column (some k.token) .blockMappingStart
    return { (s.take 1 .value) with keyAllowed := false }
  | _ =>
    if s.flowLevel == 0 && !s.keyAllowed then throw .valueNotAllowed
    let s := s.roll s.cursor.column none .blockMappingStart
    return { (s.take 1 .value) with keyAllowed := s.flowLevel == 0 }

def anchor (d : Dialect) (isAlias : Bool) (s : Scanner) : Except Fault Scanner := do
  let s ← s.saveKey
  let test (c : Char) : Bool :=
    match d with
    | .strict => isWord c
    | .relaxed => !endsWord d (some c) && !isFlow c
  let (name, after) := s.cursor.next.takeWhile test
  let ends := endsWord d after.peek
    || after.peek.any fun c => isFlow c || c == '?' || c == ':' || c == '%' || c == '@' || c == '`'
  if name.isEmpty || !ends then throw (.badAnchor isAlias)
  let name := String.ofList name
  return { (s.push (if isAlias then .alias name else .anchor name)) with
    cursor := after, keyAllowed := false }

/-- The characters of an address. -/
def isUri (whole : Bool) (c : Char) : Bool :=
  isWord c || ";/?:@&=+$.!~*'()%".toList.contains c || (whole && (c == ',' || c == '[' || c == ']'))

/-- Takes percent escapes for ASCII back. -/
def unescaped : List Char → List Char
  | '%' :: a :: b :: rest =>
    match hexDigit? a, hexDigit? b with
    | some a, some b => Char.ofNat (a * 16 + b) :: unescaped rest
    | _, _ => '%' :: unescaped (a :: b :: rest)
  | c :: rest => c :: unescaped rest
  | [] => []

/-- Reads a tag. -/
def readTag (d : Dialect) (inFlow : Bool) (c : Cursor) : Except Fault (TagText × Cursor) := do
  let text (cs : List Char) : String := String.ofList (unescaped cs)
  let (t, c) ←
    if c.peekAt 1 == some '<' then do
      let (uri, c) := (c.skip 2).takeWhile (isUri true)
      if uri.isEmpty then throw .tagUri
      if c.peek != some '>' then throw .tagEnd
      pure ((⟨"", text uri⟩ : TagText), c.next)
    else do
      let (word, after) := c.next.takeWhile isWord
      if after.peek == some '!' then
        let (suffix, c) := after.next.takeWhile (isUri false)
        if suffix.isEmpty then throw .tagUri
        pure (⟨"!" ++ String.ofList word ++ "!", text suffix⟩, c)
      else
        let (more, c) := after.takeWhile (isUri false)
        let suffix := word ++ more
        pure (if suffix.isEmpty then ⟨"", "!"⟩ else ⟨"!", text suffix⟩, c)
  unless endsWord d c.peek || (inFlow && c.peek == some ',') do throw .tagBreak
  return (t, c)

def tag (d : Dialect) (s : Scanner) : Except Fault Scanner := do
  let s ← s.saveKey
  let (t, c) ← readTag d (0 < s.flowLevel) s.cursor
  return { (s.push (.tag t)) with cursor := c, keyAllowed := false }

/-- After the closing quote only what can go on with the node may follow. -/
def checkTrailing (d : Dialect) (s : Scanner) (line : Nat) (c : Cursor) : Except Fault Unit := do
  if d == .relaxed then
    let after := c.skipWhile isBlank
    let fine := match after.peek with
      | none => true
      | some ch => isBreak d ch || (ch == '#' && after.index != c.index)
        || (0 < s.flowLevel && (ch == ',' || ch == '}' || ch == ']' || ch == ':'))
        || (ch == ':' && line == c.line)
    unless fine do throw .quoteTrailing

def quoted (d : Dialect) (single : Bool) (s : Scanner) : Except Fault Scanner := do
  let s ← s.saveKey
  let (text, c) ← scanQuoted d single (s.cursor.rest.length + 1) s.cursor.next []
  checkTrailing d s s.cursor.line c
  return { (s.push (.scalar (String.ofList text.reverse) .quoted)) with cursor := c, keyAllowed := false }

def block (d : Dialect) (literal : Bool) (s : Scanner) : Except Fault Scanner := do
  let s ← s.removeKey
  let (text, c) ← scanBlock d literal s.indent s.cursor.next
  return { (s.push (.scalar (String.ofList text.reverse) .block)) with cursor := c, keyAllowed := true }

def plain (d : Dialect) (s : Scanner) : Except Fault Scanner := do
  let s ← s.saveKey
  let (text, atBreak, c) ←
    scanPlain d (0 < s.flowLevel) (s.indent + 1) (s.cursor.rest.length + 1) s.cursor {} []
  return { (s.push (.scalar (String.ofList text.reverse) .plain)) with cursor := c, keyAllowed := atBreak }

/-- A directive: of a version or of a handle for tags. -/
def directive (d : Dialect) (s : Scanner) : Except Fault Scanner := do
  let s ← (s.unroll (-1)).removeKey
  let s := { s with keyAllowed := false }
  let (name, c) := s.cursor.next.takeWhile isWord
  let finish (s : Scanner) (c : Cursor) : Except Fault Scanner := do
    let c := c.skipWhile isBlank
    let c := if c.peek == some '#' then c.skipWhile (!isBreak d ·) else c
    unless endsLine d c.peek do throw .directiveEnd
    return { s with cursor := if c.peek.isNone then c else c.nextLine }
  match String.ofList name with
  | "YAML" =>
    let (version, c) := (c.skipWhile isBlank).takeWhile fun ch => ch.isDigit || ch == '.'
    if version.isEmpty then throw .directiveVersion
    finish (s.push .version) c
  | "TAG" =>
    let (handle, c) := (c.skipWhile isBlank).takeWhile fun ch => !endsWord d (some ch)
    let (expansion, c) := (c.skipWhile isBlank).takeWhile fun ch => !endsWord d (some ch)
    if handle.head? != some '!' then throw .tagHandle
    finish (s.push (.tagDirective (String.ofList handle) (String.ofList (unescaped expansion)))) c
  | _ =>
    match d with
    | .strict => throw .directiveName
    | .relaxed => finish s (c.skipWhile (!isBreak d ·))

/-- The mark of the beginning or end of a document. -/
def document (d : Dialect) (s : Scanner) : Except Fault Scanner := do
  let s ← (s.unroll (-1)).removeKey
  let ends := s.cursor.peek == some '.'
  let s := { (s.take 3 (if ends then .documentEnd else .documentStart)) with keyAllowed := false }
  if d == .relaxed && ends then
    let after := s.cursor.skipWhile isBlank
    unless endsLine d after.peek || after.peek == some '#' do throw .documentTrailing
  return s

/-- Can a plain scalar begin here? -/
def beginsPlain (d : Dialect) (inFlow : Bool) (c : Cursor) : Bool :=
  match c.peek with
  | none => false
  | some ch =>
    let followed := !endsWord d (c.peekAt 1)
    if ch == '-' then followed
    else if ch == '?' || ch == ':' then followed && !inFlow
    else !(isBlank ch || isBreak d ch || isFlow ch || "#&*!|>'\"%@`".toList.contains ch)

/-- Scans the next token. Says whether it was the last one. -/
def step (d : Dialect) (s : Scanner) : Except Fault (Scanner × Bool) := do
  let s ← skipSpace d (s.cursor.rest.length + 1) s
  let s ← s.dropStale d
  let s := s.unroll s.cursor.column
  let c := s.cursor
  let inFlow := 0 < s.flowLevel
  let on (r : Except Fault Scanner) : Except Fault (Scanner × Bool) := r.map (·, false)
  match c.peek with
  | none =>
    let s ← (s.unroll (-1)).removeKey
    return (s.push .streamEnd, true)
  | some ch =>
    if c.column == 0 && ch == '%' then on (s.directive d)
    else if c.atDocument d then on (s.document d)
    else if d == .relaxed && inFlow && (c.column : Int) < s.indent then throw .indentation
    else
      let apart := endsWord d (c.peekAt 1)
      let atValue := match d with
        | .strict => apart || inFlow
        | .relaxed => apart || (inFlow && ((c.peekAt 1).any isFlow || afterQuote s))
      if ch == '[' then on (s.openFlow .flowSequenceStart)
      else if ch == '{' then on (s.openFlow .flowMappingStart)
      else if ch == ']' then on (s.closeFlow .flowSequenceEnd)
      else if ch == '}' then on (s.closeFlow .flowMappingEnd)
      else if ch == ',' then on s.flowEntry
      else if ch == '-' && apart then on s.blockEntry
      else if ch == '?' && (apart || (d == .strict && inFlow)) then on s.keyMark
      else if ch == ':' && atValue then on s.valueMark
      else if ch == '*' then on (s.anchor d true)
      else if ch == '&' then on (s.anchor d false)
      else if ch == '!' then on (s.tag d)
      else if ch == '|' && !inFlow then on (s.block d true)
      else if ch == '>' && !inFlow then on (s.block d false)
      else if ch == '\'' then on (s.quoted d true)
      else if ch == '"' then on (s.quoted d false)
      else if beginsPlain d inFlow c || (d == .relaxed && !"%@`".toList.contains ch) then on (s.plain d)
      else throw (.strayCharacter ch)
where
  /-- Did the last token end right before this place, in brackets or quotes? -/
  afterQuote (s : Scanner) : Bool :=
    match s.tokens with
    | .scalar _ .quoted :: _ | .flowSequenceEnd :: _ | .flowMappingEnd :: _ => true
    | _ => false

/-- The tokens so far with those put in that were kept aside. -/
def ordered (s : Scanner) (count : Nat) : List Token :=
  let before (n : Nat) : List Token := (s.inserts.filter (·.1 == n)).map (·.2)
  ((s.tokens.reverse.take count).zipIdx).flatMap fun (t, n) => before n ++ [t]

end Scanner

/-- The place of a character that no YAML text may have. -/
def controlPlace? : Nat → List Char → Option Nat
  | _, [] => none
  | place, c :: rest =>
    let n := c.toNat
    let fine := n == 9 || n == 10 || n == 13 || (0x20 ≤ n && n ≤ 0x7E) || n == 0x85
      || (0xA0 ≤ n && n ≤ 0xFFFD && n != 0xFEFF) || 0x10000 ≤ n
    if fine then controlPlace? (place + c.utf8Size) rest else some place

/-- Scans on until the end or a fault. Of what may still turn out to be part of a key
nothing is handed on with a fault. -/
def scanFrom (d : Dialect) : Nat → Scanner → List Token × Option Fault
  | 0, s => (s.ordered s.count, none)
  | fuel + 1, s =>
    match s.step d with
    | .ok (s, true) => (s.ordered s.count, none)
    | .ok (s, false) => scanFrom d fuel s
    | .error f =>
      let known := s.keys.foldl (fun n key => match key with
        | some k => min n k.token
        | none => n) s.count
      (s.ordered known, some f)

/-- The tokens of a text, up to a fault if there is one. -/
def scan (d : Dialect) (text : String) : List Token × Option Fault :=
  let c := Cursor.start text
  let refused := if d == .strict then controlPlace? 0 c.rest else none
  match refused with
  | some place => ([], some (.controlCharacter place))
  | none => scanFrom d (2 * c.rest.length + 2) { cursor := c }

end ScriptHost.Yaml
