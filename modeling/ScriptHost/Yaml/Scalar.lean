import ScriptHost.Yaml.Cursor

/-! Scanning the scalars of YAML: plain ones, quoted ones and blocks. Line ends inside of a
scalar are folded: one alone is a blank, and of several all but the first stay. -/

namespace ScriptHost.Yaml

/-! ### Folding -/

/-- Blanks and line ends inside of a scalar whose meaning is not known before the next
character. All texts are held in reverse. -/
structure Gap where
  blanks : List Char := []
  /-- The first line end. -/
  first : List Char := []
  later : List Char := []
  /-- Has there been a line end? -/
  broken : Bool := false
deriving Inhabited

/-- What a gap stands for, in reverse. -/
def Gap.folded (g : Gap) : List Char :=
  if g.broken then
    if g.first == ['\n'] then (if g.later.isEmpty then [' '] else g.later)
    else g.later ++ g.first
  else g.blanks

/-- A line end more. -/
def Gap.addBreak (g : Gap) (c : Cursor) : Gap :=
  if g.broken then { g with later := c.lineEnd.reverse ++ g.later }
  else { blanks := [], first := c.lineEnd.reverse, later := [], broken := true }

/-- Takes blanks and line ends. A tab before the indentation of a plain scalar is refused;
in the relaxed dialect only if something follows on the line. -/
def scanGap (d : Dialect) (indent : Option Int) : Nat → Cursor → Gap → Except Fault (Gap × Cursor)
  | 0, c, g => .ok (g, c)
  | fuel + 1, c, g =>
    match c.peek with
    | none => .ok (g, c)
    | some ch =>
      if isBlank ch then
        if ch == '\t' && g.broken && indent.any (fun i => (c.column : Int) < i) then
          match d with
          | .strict => .error .plainTab
          | .relaxed =>
            let after := c.skipWhile isBlank
            if endsLine d after.peek then scanGap d indent fuel after g else .error .plainTab
        else scanGap d indent fuel c.next (if g.broken then g else { g with blanks := ch :: g.blanks })
      else if isBreak d ch then scanGap d indent fuel c.nextLine (g.addBreak c)
      else .ok (g, c)

/-! ### Plain scalars -/

/-- Does a plain scalar end here? -/
def endsPlain (d : Dialect) (inFlow : Bool) (c : Cursor) : Bool :=
  match c.peek with
  | none => true
  | some ch =>
    endsWord d (some ch)
      || (ch == ':' && (endsWord d (c.peekAt 1) || (d == .relaxed && inFlow && (c.peekAt 1).any isFlow)))
      || (inFlow && isFlow ch)

/-- Takes the characters of one word of a plain scalar. -/
def scanPlainWord (d : Dialect) (inFlow : Bool) : Nat → Cursor → List Char → Except Fault (List Char × Cursor)
  | 0, c, found => .ok (found, c)
  | fuel + 1, c, found =>
    if d == .strict && inFlow && c.peek == some ':'
        && (c.peekAt 1).any (fun n => isFlow n || n == '?') then .error .plainColon
    else if endsPlain d inFlow c then .ok (found, c)
    else scanPlainWord d inFlow fuel c.next ((c.peek.getD ' ') :: found)

/-- Takes a plain scalar. Says as well whether it ends with a line. -/
def scanPlain (d : Dialect) (inFlow : Bool) (indent : Int) :
    Nat → Cursor → Gap → List Char → Except Fault (List Char × Bool × Cursor)
  | 0, c, g, found => .ok (found, g.broken, c)
  | fuel + 1, c, g, found =>
    if c.atDocument d || c.peek == some '#' then .ok (found, g.broken, c)
    else do
      let (word, after) ← scanPlainWord d inFlow (c.rest.length + 1) c []
      if word.isEmpty then return (found, g.broken, c)
      let found := word ++ g.folded ++ found
      if !after.peek.any (fun ch => isBlank ch || isBreak d ch) then return (found, false, after)
      let (g, after) ← scanGap d (some indent) (after.rest.length + 1) after {}
      if !inFlow && (after.column : Int) < indent then return (found, g.broken, after)
      scanPlain d inFlow indent fuel after g found

/-! ### Quoted scalars -/

def hexDigit? (c : Char) : Option Nat :=
  if c.isDigit then some (c.toNat - '0'.toNat)
  else if 'a' ≤ c && c ≤ 'f' then some (c.toNat - 'a'.toNat + 10)
  else if 'A' ≤ c && c ≤ 'F' then some (c.toNat - 'A'.toNat + 10)
  else none

/-- The character that so many hexadecimal digits stand for. -/
def scanCodePoint (count : Nat) (c : Cursor) : Except Fault (Char × Cursor) :=
  match (c.rest.take count).mapM hexDigit? with
  | some digits =>
    if digits.length < count then .error .badHex
    else
      let n := digits.foldl (fun n d => n * 16 + d) 0
      if (0xD800 ≤ n && n < 0xE000) || 0x10FFFF < n then .error .badCodePoint
      else .ok (Char.ofNat n, c.skip count)
  | none => .error .badHex

/-- What a letter after a backslash stands for. -/
def escapes : List (Char × Char) :=
  [('0', '\x00'), ('a', '\x07'), ('b', '\x08'), ('t', '\t'), ('\t', '\t'), ('n', '\n'),
   ('v', '\x0b'), ('f', '\x0c'), ('r', '\r'), ('e', '\x1b'), (' ', ' '), ('"', '"'), ('/', '/'),
   ('\\', '\\'), ('N', '\x85'), ('_', '\xa0'), ('L', '\u2028'), ('P', '\u2029')]

def scanEscape (c : Cursor) : Except Fault (Char × Cursor) :=
  match c.peek with
  | some 'x' => scanCodePoint 2 c.next
  | some 'u' => scanCodePoint 4 c.next
  | some 'U' => scanCodePoint 8 c.next
  | some letter =>
    match escapes.lookup letter with
    | some ch => .ok (ch, c.next)
    | none => .error .unknownEscape
  | none => .error .unknownEscape

/-- How a run of characters in quotes ends. -/
inductive QuoteStop where
  | closed | gap | escapedBreak
deriving DecidableEq

/-- Takes characters in quotes up to a blank, a line end or the closing quote. -/
def scanQuotedWord (d : Dialect) (single : Bool) :
    Nat → Cursor → List Char → Except Fault (List Char × QuoteStop × Cursor)
  | 0, c, found => .ok (found, .gap, c)
  | fuel + 1, c, found =>
    match c.peek with
    | none => .ok (found, .gap, c)
    | some ch =>
      if endsWord d (some ch) then .ok (found, .gap, c)
      else if single && ch == '\'' then
        if c.peekAt 1 == some '\'' then scanQuotedWord d single fuel (c.skip 2) ('\'' :: found)
        else .ok (found, .closed, c.next)
      else if !single && ch == '"' then .ok (found, .closed, c.next)
      else if !single && ch == '\\' then
        if (c.peekAt 1).any (isBreak d) then .ok (found, .escapedBreak, c.next.nextLine)
        else do
          let (e, after) ← scanEscape c.next
          scanQuotedWord d single fuel after (e :: found)
      else scanQuotedWord d single fuel c.next (ch :: found)

/-- Takes a quoted scalar after its first quote. -/
def scanQuoted (d : Dialect) (single : Bool) :
    Nat → Cursor → List Char → Except Fault (List Char × Cursor)
  | 0, _, _ => .error .quoteEnd
  | fuel + 1, c, found => do
    if c.atDocument d then throw .quoteDocument
    if c.peek.isNone then throw .quoteEnd
    let (found, stop, after) ← scanQuotedWord d single (c.rest.length + 1) c found
    match stop with
    | .closed => return (found, after)
    | stop =>
      let (g, after) ← scanGap d none (after.rest.length + 1) after { broken := stop == .escapedBreak }
      scanQuoted d single fuel after (g.folded ++ found)

/-! ### Block scalars -/

/-- What is done with the line ends at the end of a block. -/
inductive Chomping where
  | strip | clip | keep
deriving DecidableEq, Inhabited

structure BlockHeader where
  chomping : Chomping := .clip
  /-- How much deeper the block is than what is around it, if it says so. -/
  increment : Option Nat := none
deriving Inhabited

def scanHeader : Nat → Cursor → BlockHeader → Except Fault (BlockHeader × Cursor)
  | 0, c, h => .ok (h, c)
  | fuel + 1, c, h =>
    match c.peek with
    | some '+' => scanHeader fuel c.next { h with chomping := .keep }
    | some '-' => scanHeader fuel c.next { h with chomping := .strip }
    | some ch =>
      if ch == '0' then .error .zeroIndentation
      else if ch.isDigit && h.increment.isNone then
        scanHeader fuel c.next { h with increment := some (ch.toNat - '0'.toNat) }
      else .ok (h, c)
    | none => .ok (h, c)

/-- Takes the indentation and the empty lines before a line of a block. An indentation that
is not known yet is the deepest one found. -/
def scanBlockGap (d : Dialect) (known : Option Nat) :
    Nat → Cursor → Nat → List Char → Except Fault (Nat × List Char × Cursor)
  | 0, c, deepest, found => .ok (deepest, found, c)
  | fuel + 1, c, deepest, found =>
    let room := match known with
      | some n => n - c.column
      | none => c.rest.length
    let (_, c) := (fun (spaces : List Char) => (spaces, c.skip spaces.length))
      ((c.rest.take room).takeWhile (· == ' '))
    let deepest := max deepest c.column
    if known.all (c.column < ·) && c.peek == some '\t' then .error .blockTab
    else if c.peek.any (isBreak d) then
      scanBlockGap d known fuel c.nextLine deepest (c.lineEnd.reverse ++ found)
    else .ok (deepest, found, c)

/-- Takes the lines of a block. The text and the gaps are held in reverse. -/
def scanBlockLines (d : Dialect) (literal : Bool) (indent : Nat) :
    Nat → Cursor → List Char → List Char → Bool → List Char →
      Except Fault (List Char × List Char × List Char × Cursor)
  | 0, c, first, later, _, found => .ok (found, first, later, c)
  | fuel + 1, c, first, later, wasBlank, found =>
    if c.column != indent || c.peek.isNone then .ok (found, first, later, c)
    else do
      let blank := c.peek.any isBlank
      let joined :=
        if !literal && first == ['\n'] && !wasBlank && !blank then
          (if later.isEmpty then [' '] else later)
        else later ++ first
      let (line, after) := c.takeWhile (!isBreak d ·)
      let (_, later, next) ←
        scanBlockGap d (some indent) (after.rest.length + 1) after.nextLine 0 []
      scanBlockLines d literal indent fuel next after.lineEnd.reverse later blank
        (line.reverse ++ joined ++ found)

/-- Takes a block after its indicator; `outer` is the indentation around it. -/
def scanBlock (d : Dialect) (literal : Bool) (outer : Int) (c : Cursor) :
    Except Fault (List Char × Cursor) := do
  let (h, c) ← scanHeader 2 c {}
  let c := c.skipWhile isBlank
  let c := if c.peek == some '#' then c.skipWhile (!isBreak d ·) else c
  unless endsLine d c.peek do throw .blockHeader
  let c := c.nextLine
  let known := h.increment.map fun n => if 0 ≤ outer then outer.toNat + n else n
  let (deepest, later, c) ← scanBlockGap d known (c.rest.length + 1) c 0 []
  let indent := known.getD (max deepest (max (outer + 1).toNat 1))
  let (found, first, later, c) ←
    scanBlockLines d literal indent (c.rest.length + 1) c [] later false []
  let found := if h.chomping == .strip then found else first ++ found
  let found := if h.chomping == .keep then later ++ found else found
  return (found, c)

end ScriptHost.Yaml
