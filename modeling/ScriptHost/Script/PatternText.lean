import ScriptHost.Script.Letter
import ScriptHost.Text.Pattern
import ScriptHost.Text.Utf16

/-! The regular expressions of scripts: reading their text. -/

namespace ScriptHost.Script

open ScriptHost.Text (Pattern CharSet Anchor)

/-- What the letters after a regular expression ask for. -/
structure PatternFlags where
  indices : Bool := false
  isGlobal : Bool := false
  ignoreCase : Bool := false
  multiline : Bool := false
  dotAll : Bool := false
  unicode : Bool := false
  unicodeSets : Bool := false
  sticky : Bool := false
deriving DecidableEq, Repr, Inhabited

namespace PatternFlags

/-- Reads flags; none may stand twice. -/
def read (flags : PatternFlags) : List Char → Option PatternFlags
  | [] => if flags.unicode && flags.unicodeSets then none else some flags
  | c :: rest =>
    let next (taken : Bool) (flags : PatternFlags) : Option PatternFlags :=
      if taken then none else flags.read rest
    match c with
    | 'd' => next flags.indices { flags with indices := true }
    | 'g' => next flags.isGlobal { flags with isGlobal := true }
    | 'i' => next flags.ignoreCase { flags with ignoreCase := true }
    | 'm' => next flags.multiline { flags with multiline := true }
    | 's' => next flags.dotAll { flags with dotAll := true }
    | 'u' => next flags.unicode { flags with unicode := true }
    | 'v' => next flags.unicodeSets { flags with unicodeSets := true }
    | 'y' => next flags.sticky { flags with sticky := true }
    | _ => none

/-- Is the text taken in code points? -/
def wide (flags : PatternFlags) : Bool := flags.unicode || flags.unicodeSets

end PatternFlags

/-- A regular expression that was read: its pattern, the number of its groups and the names
of some. -/
structure CompiledPattern where
  pattern : Pattern
  groups : Nat
  names : List (Utf16 × Nat)
deriving Inhabited

namespace PatternText

structure State where
  rest : List Nat
  flags : PatternFlags
  groups : Nat := 0
  names : List (Utf16 × Nat) := []
  /-- All names of groups, found beforehand. -/
  allNames : List (Utf16 × Nat) := []
  total : Nat := 0

abbrev Parse := StateT State (Except String)

def fault {α : Type} (message : String) : Parse α := throw message

def peek : Parse (Option Nat) := return (← get).rest.head?

def isNext (c : Char) : Parse Bool := return (← get).rest.head? == some c.toNat

def advance (n : Nat) : Parse Unit := modify fun s => { s with rest := s.rest.drop n }

def takes (text : String) : Parse Bool := do
  let wanted := text.toList.map Char.toNat
  if wanted.isPrefixOf (← get).rest then
    advance wanted.length
    return true
  else return false

def isDigit (n : Nat) : Bool := 48 ≤ n && n ≤ 57

def decimal (ns : List Nat) : Nat := ns.foldl (fun total n => total * 10 + (n - 48)) 0

/-- Digits at the front. -/
def digits? : Parse (Option Nat) := do
  let found := (← get).rest.takeWhile isDigit
  if found.isEmpty then return none
  advance found.length
  return some (decimal found)

def spaces : List (Nat × Nat) :=
  [(9, 13), (32, 32), (0xA0, 0xA0), (0x1680, 0x1680), (0x2000, 0x200A), (0x2028, 0x2029),
   (0x202F, 0x202F), (0x205F, 0x205F), (0x3000, 0x3000), (0xFEFF, 0xFEFF)]

def lineEnds : List (Nat × Nat) := [(10, 10), (13, 13), (0x2028, 0x2029)]

/-- The class that a letter after a backslash stands for. -/
def classEscape? (n : Nat) : Option CharSet :=
  if n == 'd'.toNat then some ⟨CharSet.digits, false⟩
  else if n == 'D'.toNat then some ⟨CharSet.digits, true⟩
  else if n == 'w'.toNat then some ⟨CharSet.word, false⟩
  else if n == 'W'.toNat then some ⟨CharSet.word, true⟩
  else if n == 's'.toNat then some ⟨spaces, false⟩
  else if n == 'S'.toNat then some ⟨spaces, true⟩
  else none

def hexValue? (n : Nat) : Option Nat := digitValue? 16 (Char.ofNat n)

/-- A fixed number of hexadecimal digits at the front. -/
def hex? (count : Nat) : Parse (Option Nat) := do
  let found := (← get).rest.take count
  match found.mapM hexValue? with
  | some ds =>
    if ds.length = count then
      advance count
      return some (ds.foldl (fun total d => total * 16 + d) 0)
    else return none
  | none => return none

/-- The character that an escape stands for; the backslash is read already. -/
def characterEscape : Parse Nat := do
  match ← peek with
  | none => fault "unexpected end of pattern"
  | some n =>
    advance 1
    let c := Char.ofNat n
    match c with
    | 'f' => return 12
    | 'n' => return 10
    | 'r' => return 13
    | 't' => return 9
    | 'v' => return 11
    | '0' => return 0
    | 'c' =>
      match ← peek with
      | some l =>
        if (Char.ofNat l).isAlpha then
          advance 1
          return l % 32
        else return 99
      | none => return 99
    | 'x' => return (← hex? 2).getD n
    | 'u' =>
      if (← get).flags.wide && (← isNext '\x7b') then
        advance 1
        let found := (← get).rest.takeWhile fun n => (hexValue? n).isSome
        advance found.length
        unless ← takes "\x7d" do fault "invalid unicode escape"
        return (found.filterMap hexValue?).foldl (fun total d => total * 16 + d) 0
      else
        match ← hex? 4 with
        | some high =>
          if (← get).flags.wide && 0xD800 ≤ high && high < 0xDC00 then
            let saved ← get
            if ← takes "\\u" then
              match ← hex? 4 with
              | some low =>
                if 0xDC00 ≤ low && low < 0xE000 then
                  return Utf16.pairValue (UInt16.ofNat high) (UInt16.ofNat low)
                else
                  set saved
                  return high
              | none =>
                set saved
                return high
            else return high
          else return high
        | none => return n
    | _ => return n

/-- One member of a class: a character or a class of its own. -/
def classAtom : Parse (Nat ⊕ CharSet) := do
  match ← peek with
  | none => fault "unexpected end of regexp"
  | some n =>
    advance 1
    if n == '\\'.toNat then
      match ← peek with
      | some e =>
        match classEscape? e with
        | some s =>
          advance 1
          return .inr s
        | none =>
          if e == 'b'.toNat then
            advance 1
            return .inl 8
          else return .inl (← characterEscape)
      | none => fault "unexpected end of regexp"
    else return .inl n

def setRanges (s : CharSet) : List (Nat × Nat) :=
  if s.negated then CharSet.complement s.ranges else s.ranges

/-- The members of a class up to its closing bracket. -/
def classMembers : Nat → List (Nat × Nat) → Parse (List (Nat × Nat))
  | 0, _ => fault "unexpected end of regexp"
  | limit + 1, found => do
    if ← takes "]" then return found
    match ← classAtom with
    | .inr s => classMembers limit (setRanges s ++ found)
    | .inl low =>
      let saved ← get
      if ← takes "-" then
        if ← isNext ']' then
          set saved
          classMembers limit ((low, low) :: found)
        else
          match ← classAtom with
          | .inl high =>
            if high < low then fault "invalid class range"
            classMembers limit ((low, high) :: found)
          | .inr s => classMembers limit ((low, low) :: (45, 45) :: setRanges s ++ found)
      else classMembers limit ((low, low) :: found)

/-- A name in angle brackets; the opening one is read already. -/
def groupName : Parse Utf16 := do
  let found := (← get).rest.takeWhile (· != '>'.toNat)
  advance found.length
  unless ← takes ">" do fault "invalid group name"
  if found.isEmpty then fault "invalid group name"
  return Utf16.concat (found.map Utf16.ofCodePoint)

/-- A quantifier at the front: how often, and whether as often as possible. -/
def quantifier? : Parse (Option (Nat × Option Nat × Bool)) := do
  let range ←
    if ← takes "*" then pure (some (0, none))
    else if ← takes "+" then pure (some (1, none))
    else if ← takes "?" then pure (some (0, some 1))
    else if ← isNext '\x7b' then do
      let saved ← get
      advance 1
      match ← digits? with
      | none =>
        set saved
        pure none
      | some least =>
        if ← takes "\x7d" then pure (some (least, some least))
        else if ← takes "," then do
          let most ← digits?
          if ← takes "\x7d" then
            if most.any (· < least) then fault "invalid repetition count"
            pure (some (least, most))
          else
            set saved
            pure none
        else
          set saved
          pure none
    else pure none
  match range with
  | none => return none
  | some (least, most) =>
    let lazy ← takes "?"
    return some (least, most, !lazy)

mutual

/-- Alternatives up to the end or a closing bracket. -/
def alternatives : Nat → Parse Pattern
  | 0 => fault "stack overflow"
  | limit + 1 => do
    let first ← terms limit .empty
    if ← takes "|" then return .choice first (← alternatives limit) else return first

def terms : Nat → Pattern → Parse Pattern
  | 0, _ => fault "stack overflow"
  | limit + 1, before => do
    match ← peek with
    | none => return before
    | some n =>
      if n == '|'.toNat || n == ')'.toNat then return before
      else
        let (term, repeatable) ← atom limit
        let saved ← get
        match ← quantifier? with
        | some (least, most, greedy) =>
          if !repeatable then
            set saved
            fault "nothing to repeat"
          terms limit (.sequence before (.repeated least most greedy term))
        | none => terms limit (.sequence before term)

/-- One part of a pattern, and whether a quantifier may follow it. -/
def atom : Nat → Parse (Pattern × Bool)
  | 0 => fault "stack overflow"
  | limit + 1 => do
    let s ← get
    let flags := s.flags
    let one (set : CharSet) : Pattern := .set set flags.ignoreCase
    match s.rest with
    | [] => return (.empty, false)
    | n :: _ =>
      advance 1
      let c := Char.ofNat n
      match c with
      | '^' => return (.anchor (if flags.multiline then .lineStart else .start), false)
      | '$' => return (.anchor (if flags.multiline then .lineEnd else .finish), false)
      | '.' => return (one (if flags.dotAll then ⟨[], true⟩ else ⟨lineEnds, true⟩), true)
      | '*' | '+' | '?' => fault "nothing to repeat"
      | '\x7b' =>
        if flags.wide then fault "syntax error"
        return (one ⟨[(n, n)], false⟩, true)
      | '\x7d' | ']' =>
        if flags.wide then fault "syntax error"
        return (one ⟨[(n, n)], false⟩, true)
      | '(' => group limit
      | '[' =>
        let negated ← takes "^"
        let ranges ← classMembers ((← get).rest.length + 1) []
        return (one ⟨ranges, negated⟩, true)
      | '\\' =>
        match ← peek with
        | none => fault "unexpected end of pattern"
        | some e =>
          if e == 'b'.toNat then
            advance 1
            return (.anchor .wordEdge, false)
          if e == 'B'.toNat then
            advance 1
            return (.anchor .noWordEdge, false)
          match classEscape? e with
          | some set =>
            advance 1
            return (one set, true)
          | none =>
            if 49 ≤ e && e ≤ 57 then
              let found := (← get).rest.takeWhile isDigit
              let k := decimal found
              if k ≤ (← get).total then
                advance found.length
                return (.again k flags.ignoreCase, true)
              if flags.wide then fault "back reference out of range in regular expression"
              let n ← characterEscape
              return (one ⟨[(n, n)], false⟩, true)
            if e == 'k'.toNat && !(← get).allNames.isEmpty then
              advance 1
              unless ← takes "<" do fault "expecting group name"
              let name ← groupName
              match (← get).allNames.lookup name with
              | some k => return (.again k flags.ignoreCase, true)
              | none => fault "group name not defined"
            let n ← characterEscape
            return (one ⟨[(n, n)], false⟩, true)
      | _ => return (one ⟨[(n, n)], false⟩, true)

def group : Nat → Parse (Pattern × Bool)
  | 0 => fault "stack overflow"
  | limit + 1 => do
    let close : Parse Unit := do
      unless ← takes ")" do fault "expecting ')'"
    let look (ahead negated : Bool) : Parse (Pattern × Bool) := do
      let body ← alternatives limit
      close
      return (.look ahead negated body, ahead && !(← get).flags.wide)
    let captured (name : Option Utf16) : Parse (Pattern × Bool) := do
      modify fun s => { s with groups := s.groups + 1 }
      let k := (← get).groups
      match name with
      | some name =>
        if (← get).names.any (·.1 == name) then fault "duplicate group name"
        modify fun s => { s with names := s.names ++ [(name, k)] }
      | none => pure ()
      let body ← alternatives limit
      close
      return (.group k body, true)
    if ← takes "?:" then
      let body ← alternatives limit
      close
      return (body, true)
    else if ← takes "?=" then look true false
    else if ← takes "?!" then look true true
    else if ← takes "?<=" then look false false
    else if ← takes "?<!" then look false true
    else if ← takes "?<" then do captured (some (← groupName))
    else if ← isNext '?' then fault "invalid group"
    else captured none

end

/-- The groups of a pattern, counted without reading the rest of it, with their names. -/
def countGroups : Bool → Nat → List (Utf16 × Nat) → List Nat → Nat × List (Utf16 × Nat)
  | _, count, names, [] => (count, names)
  | inClass, count, names, 92 :: _ :: rest => countGroups inClass count names rest
  | true, count, names, n :: rest => countGroups (n != 93) count names rest
  | false, count, names, 91 :: rest => countGroups true count names rest
  | false, count, names, 40 :: 63 :: 60 :: n :: rest =>
    if n == 61 || n == 33 then countGroups false count names rest
    else
      let name := (n :: rest).takeWhile (· != 62)
      countGroups false (count + 1) (names ++ [(Utf16.concat (name.map Utf16.ofCodePoint), count + 1)]) rest
  | false, count, names, 40 :: 63 :: rest => countGroups false count names rest
  | false, count, names, 40 :: rest => countGroups false (count + 1) names rest
  | false, count, names, _ :: rest => countGroups false count names rest

/-- The items that patterns and texts are taken in. -/
def items (flags : PatternFlags) (s : Utf16) : List Nat :=
  if flags.wide then s.codePoints else s.toUnits.map UInt16.toNat

/-- Reads a regular expression. -/
def compile (source : Utf16) (flags : PatternFlags) : Except String CompiledPattern := do
  let rest := items flags source
  let (total, allNames) := countGroups false 0 [] rest
  let state : State := { rest := rest, flags := flags, total := total, allNames := allNames }
  let (pattern, after) ← (alternatives (4 * rest.length + 8)).run state
  if after.rest.isEmpty then return ⟨pattern, total, after.names⟩
  else throw "extraneous characters at the end"

end PatternText

end ScriptHost.Script
