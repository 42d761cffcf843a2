import ScriptHost.Text.Letter
import ScriptHost.Text.Pattern

/-! The patterns of redactions: reading their text. What is wrong with a pattern is
reported with the place of the fault. -/

namespace ScriptHost.Redaction

open ScriptHost.Text (Pattern CharSet Anchor)

/-- Characters from a place on, up to another one that is not included. -/
structure Span where
  start : Nat
  stop : Nat
deriving DecidableEq, Repr, Inhabited

/-- What is wrong with a pattern, where, and perhaps which other place matters. -/
structure PatternFault where
  reason : String
  span : Span
  also : Option Span := none
deriving DecidableEq, Repr, Inhabited

namespace PatternFault

/-- Marks under the places that matter. -/
def marks (f : PatternFault) : String :=
  let spans := match f.also with
    | some other => if other.start ≤ f.span.start then [other, f.span] else [f.span, other]
    | none => [f.span]
  spans.foldl (fun text span =>
    (text.pushn ' ' (span.start - text.length)).pushn '^' (max 1 (span.stop - span.start))) ""

/-- The lines that explain what is wrong with a pattern. -/
def lines (f : PatternFault) (pattern : String) : List String :=
  ["regex parse error:", "    " ++ pattern, "    " ++ f.marks, "error: " ++ f.reason]

end PatternFault

/-- What letters in a pattern can switch on and off. -/
structure PatternMode where
  ignoreCase : Bool := false
  lineAnchors : Bool := false
  dotMatchesAll : Bool := false
  lazyFirst : Bool := false
  /-- Are blanks and comments passed over? -/
  spaced : Bool := false
deriving DecidableEq, Repr, Inhabited

/-- A pattern that was read, with the names of some of its groups. -/
structure CompiledPattern where
  pattern : Pattern
  groups : Nat
  names : List (String × Nat)
deriving Inhabited

namespace Syntax

structure State where
  rest : List Char
  place : Nat := 0
  mode : PatternMode := {}
  groups : Nat := 0
  /-- Names with their groups and where they are written. -/
  names : List (String × Nat × Span) := []

abbrev Parse := StateT State (Except PatternFault)

def fail {α : Type} (reason : String) (start stop : Nat) : Parse α := throw { reason := reason, span := ⟨start, stop⟩ }

def peek : Parse (Option Char) := return (← get).rest.head?

def place : Parse Nat := return (← get).place

def advance (n : Nat) : Parse Unit :=
  modify fun s => { s with rest := s.rest.drop n, place := s.place + min n s.rest.length }

/-- Fails at the next character. -/
def failHere {α : Type} (reason : String) : Parse α := do fail reason (← place) ((← place) + 1)

def takes (text : String) : Parse Bool := do
  let wanted := text.toList
  if wanted.isPrefixOf (← get).rest then
    advance wanted.length
    return true
  else return false

/-- Passes over blanks and comments if they mean nothing. -/
def skipSpace : Nat → Parse Unit
  | 0 => return
  | limit + 1 => do
    if (← get).mode.spaced then
      match ← peek with
      | some c =>
        if c.isWhitespace then
          advance 1
          skipSpace limit
        else if c == '#' then
          let comment := (← get).rest.takeWhile (· != '\n')
          advance comment.length
          skipSpace limit
        else return
      | none => return

/-- Passes over all blanks and comments that mean nothing. -/
def skipSpaces : Parse Unit := do skipSpace ((← get).rest.length + 1)

/-! ### Sets of characters -/

def digitRanges : List (Nat × Nat) := Text.digitZeros.map fun first => (first, first + 9)

/-- Letters, digits and marks of all scripts, and the underscore. -/
def wordRanges : List (Nat × Nat) :=
  CharSet.word ++ CharSet.complement ((0, 0x7F) :: Text.noLetterRanges)

def blankRanges : List (Nat × Nat) :=
  [(9, 13), (32, 32), (0x85, 0x85), (0xA0, 0xA0), (0x1680, 0x1680), (0x2000, 0x200A),
   (0x2028, 0x2029), (0x202F, 0x202F), (0x205F, 0x205F), (0x3000, 0x3000)]

/-- The sets that have a letter. -/
def letterSet? (c : Char) : Option (List (Nat × Nat)) :=
  match c with
  | 'd' => some digitRanges
  | 'D' => some (CharSet.complement digitRanges)
  | 's' => some blankRanges
  | 'S' => some (CharSet.complement blankRanges)
  | 'w' => some wordRanges
  | 'W' => some (CharSet.complement wordRanges)
  | _ => none

/-- The sets of ASCII characters that have a name. -/
def asciiSets : List (String × List (Nat × Nat)) :=
  [("alnum", [(48, 57), (65, 90), (97, 122)]), ("alpha", [(65, 90), (97, 122)]),
   ("ascii", [(0, 127)]), ("blank", [(9, 9), (32, 32)]), ("cntrl", [(0, 31), (127, 127)]),
   ("digit", [(48, 57)]), ("graph", [(33, 126)]), ("lower", [(97, 122)]), ("print", [(32, 126)]),
   ("punct", [(33, 47), (58, 64), (91, 96), (123, 126)]), ("space", [(9, 13), (32, 32)]),
   ("upper", [(65, 90)]), ("word", CharSet.word), ("xdigit", [(48, 57), (65, 70), (97, 102)])]

/-- The properties of characters that are known by name. -/
def propertySets : List (String × List (Nat × Nat)) :=
  let letters := [(65, 90), (97, 122)] ++ CharSet.complement ((0, 0x7F) :: Text.noLetterRanges)
  [("L", letters), ("Letter", letters), ("Alphabetic", letters), ("N", digitRanges),
   ("Nd", digitRanges), ("White_Space", blankRanges), ("Any", [(0, CharSet.top)]),
   ("ASCII", [(0, 127)])]

/-- The numbers in both of two lists of ranges. -/
def intersect (a b : List (Nat × Nat)) : List (Nat × Nat) :=
  a.flatMap fun x => b.filterMap fun y =>
    if max x.1 y.1 ≤ min x.2 y.2 then some (max x.1 y.1, min x.2 y.2) else none

/-! ### Escapes -/

/-- What a backslash with the characters after it stands for. -/
inductive Escape where
  | literal (c : Char)
  | set (ranges : List (Nat × Nat))
  | place (p : Pattern)

def isMeta (c : Char) : Bool := "\\.+*?()|[]\x7b\x7d^$#&-~".toList.contains c

def hexValue? (c : Char) : Option Nat :=
  if c.isDigit then some (c.toNat - '0'.toNat)
  else if 'a' ≤ c && c ≤ 'f' then some (c.toNat - 'a'.toNat + 10)
  else if 'A' ≤ c && c ≤ 'F' then some (c.toNat - 'A'.toNat + 10)
  else none

/-- The character with a code; codes of surrogates and codes that are too large have none. -/
def codePoint (digits : List Nat) (start stop : Nat) : Parse Char := do
  let n := digits.foldl (fun n d => n * 16 + d) 0
  if n > 0x10FFFF || (0xD800 ≤ n && n < 0xE000) then
    fail "hexadecimal literal is not a Unicode scalar value" start stop
  return Char.ofNat n

def earlyEnd : String := "incomplete escape sequence, reached end of pattern prematurely"

/-- So many hexadecimal digits. -/
def hexDigits : Nat → List Nat → Parse (List Nat)
  | 0, found => return found.reverse
  | count + 1, found => do
    match ← peek with
    | none => fail earlyEnd (← place) (← place)
    | some c =>
      match hexValue? c with
      | none => failHere "invalid hexadecimal digit"
      | some d =>
        advance 1
        hexDigits count (d :: found)

/-- A character by its code; the letter is the next one. -/
def hexEscape (count : Nat) : Parse Char := do
  advance 1
  match ← peek with
  | none => fail earlyEnd (← place) (← place)
  | some '\x7b' => do
    let brace ← place
    advance 1
    let written := (← get).rest.takeWhile (· != '\x7d')
    match written.findIdx? fun c => (hexValue? c).isNone with
    | some i =>
      fail "invalid hexadecimal digit" (brace + 1 + i) (brace + 2 + i)
    | none => pure ()
    advance written.length
    unless ← takes "\x7d" do fail earlyEnd brace (← place)
    if written.isEmpty then fail "hexadecimal literal empty" brace (← place)
    codePoint (written.filterMap hexValue?) (brace + 1) (brace + 1 + written.length)
  | some _ => do
    let start ← place
    let digits ← hexDigits count []
    codePoint digits start (← place)

/-- A set by the name of a property; the letter is the next one. -/
def propertySet (start : Nat) (negated : Bool) : Parse (List (Nat × Nat)) := do
  advance 1
  let name ← match ← peek with
    | none => fail earlyEnd (← place) (← place)
    | some '\x7b' => do
      advance 1
      let written := (← get).rest.takeWhile (· != '\x7d')
      advance written.length
      unless ← takes "\x7d" do fail earlyEnd (← place) (← place)
      pure (String.ofList written)
    | some c => do
      advance 1
      pure c.toString
  let (flipped, name) := if name.startsWith "^" then (true, (name.drop 1).toString) else (false, name)
  match propertySets.lookup name with
  | some ranges => return if negated != flipped then CharSet.complement ranges else ranges
  | none => fail "Unicode property not found" start (← place)

/-- The places at which words begin and end. -/
def wordPlace (beginning : Bool) : Pattern :=
  .sequence (.anchor .wordEdge)
    (.look beginning false (.set ⟨wordRanges, false⟩ false))

/-- What stands after a backslash; the backslash is the next character. -/
def escape : Parse Escape := do
  let start ← place
  advance 1
  match ← peek with
  | none => fail earlyEnd start (← place)
  | some c =>
    if c.isDigit then fail "backreferences are not supported" start (start + 2)
    match c with
    | 'x' => return .literal (← hexEscape 2)
    | 'u' => return .literal (← hexEscape 4)
    | 'U' => return .literal (← hexEscape 8)
    | 'p' => return .set (← propertySet start false)
    | 'P' => return .set (← propertySet start true)
    | _ =>
      advance 1
      match letterSet? c with
      | some ranges => return .set ranges
      | none =>
        match c with
        | 'a' => return .literal '\x07'
        | 'f' => return .literal '\x0c'
        | 't' => return .literal '\t'
        | 'n' => return .literal '\n'
        | 'r' => return .literal '\r'
        | 'v' => return .literal '\x0b'
        | 'A' => return .place (.anchor .start)
        | 'z' => return .place (.anchor .finish)
        | 'b' => return .place (.anchor .wordEdge)
        | 'B' => return .place (.anchor .noWordEdge)
        | '<' => return .place (wordPlace true)
        | '>' => return .place (wordPlace false)
        | _ =>
          if isMeta c || (c.toNat < 0x80 && !c.isAlphanum) then return .literal c
          fail "unrecognized escape sequence" start (← place)

/-! ### Classes in brackets -/

def unclosedClass : String := "unclosed character class"

/-- An item of a class: a character, or a set. -/
def classItem : Parse (Char ⊕ List (Nat × Nat)) := do
  let start ← place
  match ← peek with
  | some '\\' =>
    match ← escape with
    | .literal c => return .inl c
    | .set ranges => return .inr ranges
    | .place _ => fail "invalid escape sequence found in character class" start (← place)
  | some c =>
    advance 1
    return .inl c
  | none => fail unclosedClass start start

/-- A named set of ASCII characters, if one is written here. -/
def asciiSet? : Parse (Option (List (Nat × Nat))) := do
  let saved ← get
  unless ← takes "[:" do return none
  let negated ← takes "^"
  let name := (← get).rest.takeWhile Char.isAlpha
  advance name.length
  let closed ← takes ":]"
  match closed, asciiSets.lookup (String.ofList name) with
  | true, some ranges => return some (if negated then CharSet.complement ranges else ranges)
  | _, _ =>
    set saved
    return none

/-- How two sets are put together. -/
inductive SetOperator where
  | intersection | difference | symmetricDifference

def SetOperator.apply (op : SetOperator) (a b : List (Nat × Nat)) : List (Nat × Nat) :=
  let without (a b : List (Nat × Nat)) : List (Nat × Nat) := intersect a (CharSet.complement b)
  match op with
  | .intersection => intersect a b
  | .difference => without a b
  | .symmetricDifference => without a b ++ without b a

/-- Minus signs, which stand for themselves at the beginning of a class. -/
def leadingMinus : Nat → Nat → List (Nat × Nat) → Parse (List (Nat × Nat))
  | 0, _, found => return found
  | limit + 1, start, found => do
    if ← takes "-" then
      if (← peek).isNone then fail unclosedClass start start
      leadingMinus limit start ((45, 45) :: found)
    else return found

mutual

/-- A class; its opening bracket is the next character. -/
def bracketed (limit : Nat) : Parse CharSet := do
  match limit with
  | 0 => failHere unclosedClass
  | limit + 1 =>
    let start ← place
    advance 1
    skipSpaces
    if (← peek).isNone then fail unclosedClass start (← place)
    let negated ← takes "^"
    if (← peek).isNone then fail unclosedClass start (← place)
    let found ← leadingMinus limit start []
    let found ←
      if found.isEmpty then do
        if ← takes "]" then
          if (← peek).isNone then fail unclosedClass start (← place)
          pure [(93, 93)]
        else pure found
      else pure found
    let ranges ← classMembers limit ⟨start, ← place⟩ found none
    return ⟨ranges, negated⟩

/-- The members of a class up to its closing bracket, after those that are read. -/
def classMembers (limit : Nat) (opening : Span) (found : List (Nat × Nat))
    (pending : Option (List (Nat × Nat) × SetOperator)) : Parse (List (Nat × Nat)) := do
  match limit with
  | 0 => fail unclosedClass opening.start opening.stop
  | limit + 1 =>
    skipSpaces
    let unclosed {α : Type} : Parse α := fail unclosedClass opening.start opening.stop
    let combined := match pending with
      | some (before, op) => op.apply before found
      | none => found
    match ← peek with
    | none => unclosed
    | some '[' =>
      match ← asciiSet? with
      | some ranges => classMembers limit opening (ranges ++ found) pending
      | none =>
        let inner ← bracketed limit
        let ranges := if inner.negated then CharSet.complement inner.ranges else inner.ranges
        classMembers limit opening (ranges ++ found) pending
    | some ']' =>
      advance 1
      return combined
    | some _ =>
      if ← takes "&&" then classMembers limit opening [] (some (combined, .intersection))
      else if ← takes "--" then classMembers limit opening [] (some (combined, .difference))
      else if ← takes "~~" then
        classMembers limit opening [] (some (combined, .symmetricDifference))
      else
        let start ← place
        let first ← classItem
        let firstStop ← place
        skipSpaces
        let single := match first with
          | .inl c => [(c.toNat, c.toNat)]
          | .inr ranges => ranges
        match (← get).rest with
        | [] => unclosed
        | '-' :: ']' :: _ => classMembers limit opening (single ++ found) pending
        | '-' :: '-' :: _ => classMembers limit opening (single ++ found) pending
        | '-' :: rest =>
          advance 1
          skipSpaces
          if rest.isEmpty then unclosed
          let secondStart ← place
          let second ← classItem
          let stop ← place
          match first, second with
          | .inl low, .inl high =>
            if high < low then
              fail "invalid character class range, the start must be <= the end" start stop
            classMembers limit opening ((low.toNat, high.toNat) :: found) pending
          | .inr _, _ => fail "invalid range boundary, must be a literal" start firstStop
          | _, .inr _ => fail "invalid range boundary, must be a literal" secondStart stop
        | _ => classMembers limit opening (single ++ found) pending

end

/-! ### Groups and repetitions -/

/-- Sets what a letter stands for. -/
def setFlag (c : Char) (on : Bool) (m : PatternMode) : Option PatternMode :=
  match c with
  | 'i' => some { m with ignoreCase := on }
  | 'm' => some { m with lineAnchors := on }
  | 's' => some { m with dotMatchesAll := on }
  | 'U' => some { m with lazyFirst := on }
  | 'x' => some { m with spaced := on }
  | 'u' => some m
  | 'R' => some m
  | _ => none

/-- Flags up to a colon or a closing bracket. Gives the mode after them, and how many
items there were. -/
def flags : Nat → List (Char × Nat) → PatternMode → Parse (PatternMode × Nat)
  | 0, _, mode => return (mode, 0)
  | limit + 1, seen, mode => do
    let here ← place
    match ← peek with
    | none => fail "expected flag but got end of regex" here here
    | some c =>
      if c == ':' || c == ')' then
        match seen with
        | ('-', i) :: _ => fail "dangling flag negation operator" i (i + 1)
        | _ => return (mode, seen.length)
      let again (reason : String) : Parse Unit :=
        match seen.lookup c with
        | some i => throw { reason := reason, span := ⟨here, here + 1⟩, also := some ⟨i, i + 1⟩ }
        | none => return
      if c == '-' then again "flag negation operator repeated"
      else if (setFlag c true mode).isNone then failHere "unrecognized flag"
      else again "duplicate flag"
      advance 1
      let on := !(seen.any fun item => item.1 == '-')
      flags limit ((c, here) :: seen) ((setFlag c on mode).getD mode)

/-- The name of a group up to its closing bracket. -/
def groupName : Parse (String × Span) := do
  let start ← place
  if (← peek).isNone then fail "unclosed capture group name" start start
  let written := (← get).rest.takeWhile (· != '>')
  let isNameChar (first : Bool) (c : Char) : Bool :=
    c == '_' || c.isAlpha || Text.isLetterBeyondAscii c
      || (!first && (c == '.' || c == '[' || c == ']' || c.isAlphanum))
  match written.zipIdx.find? fun (c, i) => !isNameChar (i == 0) c with
  | some (_, i) => fail "invalid capture group character" (start + i) (start + i + 1)
  | none => pure ()
  advance written.length
  unless ← takes ">" do fail "unclosed capture group name" (← place) (← place)
  if written.isEmpty then fail "empty capture group name" start start
  let span : Span := ⟨start, start + written.length⟩
  let name := String.ofList written
  match (← get).names.lookup name with
  | some (_, original) =>
    throw { reason := "duplicate capture group name", span := span, also := some original }
  | none => return (name, span)

/-- A decimal number with blanks around it. -/
def decimal : Parse Nat := do
  let blank (c : Char) : Bool := c.isWhitespace
  advance ((← get).rest.takeWhile blank).length
  let start ← place
  let digits := (← get).rest.takeWhile Char.isDigit
  advance digits.length
  let stop ← place
  advance ((← get).rest.takeWhile blank).length
  if digits.isEmpty then fail "repetition quantifier expects a valid decimal" start stop
  let n := digits.foldl (fun n d => n * 10 + (d.toNat - '0'.toNat)) 0
  if UInt32.size ≤ n then fail "decimal literal invalid" start stop
  return n

/-- A counted repetition; its opening brace is the next character. -/
def counts : Parse (Nat × Option Nat) := do
  let start ← place
  advance 1
  let unclosed {α : Type} : Parse α := do fail "unclosed counted repetition" start (← place)
  skipSpaces
  if (← peek).isNone then unclosed
  let least ← tryCatch decimal fun e => do
    -- Nothing at all after the brace is the worse fault.
    let blank (c : Char) : Bool := c.isWhitespace
    if ((← get).rest.dropWhile fun c => blank c || c.isDigit).isEmpty then
      fail "unclosed counted repetition" start ((← place) + (← get).rest.length)
    throw e
  if (← peek).isNone then unclosed
  if ← takes "," then
    skipSpaces
    if (← peek).isNone then unclosed
    if ← takes "\x7d" then return (least, none)
    let most ← decimal
    unless ← takes "\x7d" do unclosed
    return (least, some most)
  else
    unless ← takes "\x7d" do unclosed
    return (least, some least)

mutual

/-- Alternatives up to the end or a closing bracket. -/
def alternatives (limit : Nat) : Parse Pattern := do
  match limit with
  | 0 => failHere "exceed the maximum number of nested parentheses/brackets (250)"
  | limit + 1 =>
    let first ← terms limit []
    if ← takes "|" then return .choice first (← alternatives limit) else return first

/-- Terms after those that are read; the last one comes first. One that only sets flags
cannot be repeated. -/
def terms (limit : Nat) (before : List (Option Pattern)) : Parse Pattern := do
  match limit with
  | 0 => failHere "exceed the maximum number of nested parentheses/brackets (250)"
  | limit + 1 =>
    skipSpaces
    let joined := (before.reverse.filterMap id).foldr (fun a b => match b with
      | .empty => a
      | b => .sequence a b) Pattern.empty
    let start ← place
    match ← peek with
    | none => return joined
    | some c =>
      if c == '|' || c == ')' then return joined
      else if c == '*' || c == '+' || c == '?' || c == '\x7b' then
        match before with
        | some body :: earlier =>
          let (least, most) ←
            if c == '\x7b' then counts
            else do
              advance 1
              pure (if c == '*' then (0, none) else if c == '+' then (1, none) else (0, some 1))
          if c == '\x7b' then skipSpaces
          let marked ← takes "?"
          if most.any (· < least) then
            fail "invalid repetition count range, the start must be <= the end" start (← place)
          let greedy := marked == (← get).mode.lazyFirst
          terms limit (some (.repeated least most greedy body) :: earlier)
        | _ => fail "repetition operator missing expression" start start
      else
        let term ← atom limit c
        terms limit (term :: before)

/-- One part of a pattern, which begins with a character; nothing if it only sets flags. -/
def atom (limit : Nat) (c : Char) : Parse (Option Pattern) := do
  match limit with
  | 0 => failHere "exceed the maximum number of nested parentheses/brackets (250)"
  | limit + 1 =>
    let mode := (← get).mode
    let one (ranges : List (Nat × Nat)) : Pattern := .set ⟨ranges, false⟩ mode.ignoreCase
    match c with
    | '(' => group limit
    | '[' =>
      let start ← get
      let chars ← bracketed (2 * start.rest.length + 2)
      return some (.set chars mode.ignoreCase)
    | '\\' =>
      match ← escape with
      | .literal c => return some (one [(c.toNat, c.toNat)])
      | .set ranges => return some (one ranges)
      | .place p => return some p
    | '.' =>
      advance 1
      return some (.set (if mode.dotMatchesAll then ⟨[], true⟩ else ⟨[(10, 10)], true⟩) false)
    | '^' =>
      advance 1
      return some (.anchor (if mode.lineAnchors then .lineStart else .start))
    | '$' =>
      advance 1
      return some (.anchor (if mode.lineAnchors then .lineEnd else .finish))
    | c =>
      advance 1
      return some (one [(c.toNat, c.toNat)])

/-- A group; its opening bracket is the next character. -/
def group (limit : Nat) : Parse (Option Pattern) := do
  match limit with
  | 0 => failHere "exceed the maximum number of nested parentheses/brackets (250)"
  | limit + 1 =>
    let start ← place
    let mode := (← get).mode
    advance 1
    skipSpaces
    let inner ← place
    let close (body : Pattern) : Parse (Option Pattern) := do
      unless ← takes ")" do fail "unclosed group" start (start + 1)
      modify fun s => { s with mode := mode }
      return some body
    let captured (name : Option (String × Span)) : Parse (Option Pattern) := do
      let index := (← get).groups + 1
      modify fun s =>
        { s with
          groups := index
          names := match name with
            | some (name, span) => (name, index, span) :: s.names
            | none => s.names }
      let body ← alternatives limit
      close (.group index body)
    if (← takes "?=") || (← takes "?!") || (← takes "?<=") || (← takes "?<!") then
      fail "look-around, including look-ahead and look-behind, is not supported" start (← place)
    else if (← takes "?P<") || (← takes "?<") then captured (some (← groupName))
    else if ← takes "?" then
      if (← peek).isNone then fail "unclosed group" start (start + 1)
      let (inside, count) ← flags ((← get).rest.length + 1) [] mode
      if ← takes ")" then
        if count = 0 then fail "repetition operator missing expression" inner inner
        modify fun s => { s with mode := inside }
        return none
      else
        advance 1
        modify fun s => { s with mode := inside }
        close (← alternatives limit)
    else captured none

end

/-- Reads a pattern. -/
def compile (text : String) : Except PatternFault CompiledPattern := do
  let rest := text.toList
  let (pattern, after) ← (alternatives (4 * rest.length + 8)).run { rest := rest }
  if after.rest.isEmpty then
    return ⟨pattern, after.groups, after.names.map fun (name, index, _) => (name, index)⟩
  else throw { reason := "unopened group", span := ⟨after.place, after.place + 1⟩ }

end Syntax

end ScriptHost.Redaction
