import ScriptHost.Redaction.Syntax
import ScriptHost.Settings.Basic

/-! Redacting texts: every match of a pattern gives way to the placeholder of the pattern,
in which a dollar sign names a group. -/

namespace ScriptHost.Redaction

open ScriptHost.Text (Pattern)

/-- A piece of a placeholder. -/
inductive Piece where
  | literal (c : Char)
  | group (name : String)
deriving DecidableEq, Repr

def isNameChar (c : Char) : Bool := c.isAlphanum || c == '_'

/-- Reads a placeholder. A name goes on as far as it can, or up to the brace that closes
it; two dollar signs are one. -/
def pieces : Nat → List Char → List Piece
  | 0, _ => []
  | _, [] => []
  | fuel + 1, '$' :: '$' :: rest => .literal '$' :: pieces fuel rest
  | fuel + 1, '$' :: rest =>
    match rest with
    | '\x7b' :: inner =>
      let name := inner.takeWhile (· != '\x7d')
      if name.length < inner.length then
        .group (String.ofList name) :: pieces fuel (inner.drop (name.length + 1))
      else .literal '$' :: pieces fuel rest
    | _ =>
      let name := rest.takeWhile isNameChar
      if name.isEmpty then .literal '$' :: pieces fuel rest
      else .group (String.ofList name) :: pieces fuel (rest.drop name.length)
  | fuel + 1, c :: rest => .literal c :: pieces fuel rest

/-- A rule: a pattern, and what its matches give way to. -/
structure Rule where
  compiled : CompiledPattern
  placeholder : List Piece
deriving Inhabited

namespace Rule

/-- Reads a rule. -/
def ofPattern (p : RedactionPattern) : Except PatternFault Rule := do
  let compiled ← Syntax.compile p.regex
  return ⟨compiled, pieces (p.placeholder.length + 1) p.placeholder.toList⟩

def subject (text : String) : Pattern.Subject where
  items := (text.toList.map Char.toNat).toArray
  isWord n := Syntax.wordRanges.any fun range => range.1 ≤ n && n ≤ range.2
  isLineEnd n := n == 10
  forgets := false

/-- The number of the group that a name in a placeholder means. -/
def groupOf (rule : Rule) (name : String) : Option Nat :=
  if !name.isEmpty && name.toList.all Char.isDigit then
    some (name.foldl (fun n c => n * 10 + (c.toNat - '0'.toNat)) 0)
  else rule.compiled.names.lookup name

/-- What a match gives way to; a group that matched nothing gives nothing. -/
def replacement (rule : Rule) (s : Pattern.Subject) (start : Nat) (p : Pattern.Place) : List Nat :=
  rule.placeholder.flatMap fun
    | .literal c => [c.toNat]
    | .group name =>
      match rule.groupOf name with
      | some 0 => Pattern.slice s start p.index
      | some k =>
        match p.capture? k with
        | some (a, b) => Pattern.slice s a b
        | none => []
      | none => []

/-- Replaces the matches from a place on; an empty match does not follow a match directly. -/
def replaceFrom (rule : Rule) (s : Pattern.Subject) :
    Nat → (copied search : Nat) → (last : Option Nat) → List Nat
  | 0, copied, _, _ => Pattern.slice s copied s.items.size
  | fuel + 1, copied, search, last =>
    match rule.compiled.pattern.find? s search with
    | none => Pattern.slice s copied s.items.size
    | some (start, p) =>
      if start == p.index && last == some p.index then
        if search < s.items.size then replaceFrom rule s fuel copied (search + 1) last
        else Pattern.slice s copied s.items.size
      else
        Pattern.slice s copied start ++ rule.replacement s start p
          ++ replaceFrom rule s fuel p.index p.index (some p.index)

/-- Replaces all matches in a text. -/
def replace (rule : Rule) (text : String) : String :=
  let s := subject text
  String.ofList ((rule.replaceFrom s (2 * s.items.size + 2) 0 0 none).map Char.ofNat)

end Rule

/-- The rules of a redaction in their order, and what is said about those that cannot be
read. -/
def rules (redaction : Redaction) : List Rule × List String :=
  if !redaction.enabled then ([], [])
  else
    redaction.patterns.foldr (fun p (rules, warnings) =>
      match Rule.ofPattern p with
      | .ok rule => (rule :: rules, warnings)
      | .error fault =>
        match fault.lines p.regex with
        | first :: rest =>
          (rules, ("warning: skipping redaction pattern '" ++ p.name ++ "': " ++ first) :: rest
            ++ warnings)
        | [] => (rules, warnings)) ([], [])

/-- Applies rules one after another. -/
def apply (rules : List Rule) (text : String) : String :=
  rules.foldl (fun text rule => rule.replace text) text

end ScriptHost.Redaction
