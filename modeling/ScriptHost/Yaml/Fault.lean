/-! What can be wrong with a YAML text. There are two dialects: the strict one treats tabs
as no indentation at all and reports a fault before the place where it was found; the
relaxed one takes tabs for blanks in most places. -/

namespace ScriptHost.Yaml

inductive Dialect where
  | strict | relaxed
deriving DecidableEq, Repr, Inhabited

inductive Fault where
  | controlCharacter (position : Nat)
  | valueNotAllowed | keyNotAllowed | entryNotAllowed
  /-- A key that the indentation requires has no colon. -/
  | noColon
  | strayCharacter (c : Char)
  | badAnchor (isAlias : Bool)
  | tagEnd | tagBreak | tagHandle | tagUri
  | directiveName | directiveVersion | directiveEnd | undefinedHandle
  | quoteDocument | quoteEnd | quoteTrailing
  | unknownEscape | badHex | badCodePoint
  | zeroIndentation | blockHeader | blockTab
  | plainTab | plainColon
  | indentation | tabIndentation | documentTrailing
  /-- There is no node where one has to be; inside of a block or of brackets. -/
  | noNode (inBlock : Bool)
  | noKey | noEntry | noSequenceEnd | noMappingEnd
  | noDocumentStart
  | unknownAnchor
  | manyDocuments (count : Nat)
  | recursionLimit | repetitionLimit
  | duplicateKey (shown : String)
deriving DecidableEq, Repr, Inhabited

namespace Fault

/-- What was being done, and what is wrong. -/
def parts : Fault → Option String × String
  | controlCharacter position =>
    (none, "control characters are not allowed at position " ++ toString position)
  | valueNotAllowed => (none, "mapping values are not allowed in this context")
  | keyNotAllowed => (none, "mapping keys are not allowed in this context")
  | entryNotAllowed => (none, "block sequence entries are not allowed in this context")
  | noColon => (some "while scanning a simple key", "could not find expected ':'")
  | strayCharacter _ =>
    (some "while scanning for the next token", "found character that cannot start any token")
  | badAnchor isAlias =>
    (some (if isAlias then "while scanning an alias" else "while scanning an anchor"),
     "did not find expected alphabetic or numeric character")
  | tagEnd => (some "while scanning a tag", "did not find the expected '>'")
  | tagBreak => (some "while scanning a tag", "did not find expected whitespace or line break")
  | tagHandle => (some "while scanning a tag", "did not find expected '!'")
  | tagUri => (some "while parsing a tag", "did not find expected tag URI")
  | directiveName => (some "while scanning a directive", "found unknown directive name")
  | directiveVersion =>
    (some "while scanning a %YAML directive", "did not find expected version number")
  | directiveEnd =>
    (some "while scanning a directive", "did not find expected comment or line break")
  | undefinedHandle => (some "while parsing a node", "found undefined tag handle")
  | quoteDocument => (some "while scanning a quoted scalar", "found unexpected document indicator")
  | quoteEnd => (some "while scanning a quoted scalar", "found unexpected end of stream")
  | quoteTrailing => (none, "invalid trailing content after double-quoted scalar")
  | unknownEscape => (some "while parsing a quoted scalar", "found unknown escape character")
  | badHex => (some "while parsing a quoted scalar", "did not find expected hexdecimal number")
  | badCodePoint =>
    (some "while parsing a quoted scalar", "found invalid Unicode character escape code")
  | zeroIndentation =>
    (some "while scanning a block scalar", "found an indentation indicator equal to 0")
  | blockHeader =>
    (some "while scanning a block scalar", "did not find expected comment or line break")
  | blockTab =>
    (some "while scanning a block scalar",
     "found a tab character where an indentation space is expected")
  | plainTab =>
    (some "while scanning a plain scalar", "found a tab character that violates indentation")
  | plainColon => (some "while scanning a plain scalar", "found unexpected ':'")
  | indentation => (none, "invalid indentation")
  | tabIndentation => (none, "tabs disallowed within this context (block indentation)")
  | documentTrailing => (none, "invalid content after document end marker")
  | noNode inBlock =>
    (some (if inBlock then "while parsing a block node" else "while parsing a flow node"),
     "did not find expected node content")
  | noKey => (some "while parsing a block mapping", "did not find expected key")
  | noEntry => (some "while parsing a block collection", "did not find expected '-' indicator")
  | noSequenceEnd => (some "while parsing a flow sequence", "did not find expected ',' or ']'")
  | noMappingEnd => (some "while parsing a flow mapping", "did not find expected ',' or '\x7d'")
  | noDocumentStart => (none, "did not find expected <document start>")
  | unknownAnchor => (none, "unknown anchor")
  | manyDocuments _ =>
    (none, "deserializing from YAML containing more than one document is not supported")
  | recursionLimit => (none, "recursion limit exceeded")
  | repetitionLimit => (none, "repetition limit exceeded")
  | duplicateKey shown => (none, shown ++ ": duplicated key in mapping")

/-- The words of the relaxed dialect where they are other ones. -/
def relaxedWords : Fault → Option String
  | noColon => some "simple key expected"
  | strayCharacter c => some ("unexpected character: \x60" ++ String.ofList [c] ++ "'")
  | badAnchor _ =>
    some ("while scanning an anchor or alias, did not find expected alphabetic or numeric "
      ++ "character")
  | badHex => some "while parsing a quoted scalar, did not find expected hexadecimal number"
  | blockTab => some "a block scalar content cannot start with a tab"
  | plainTab => some "while scanning a plain scalar, found a tab"
  | noNode _ => some "while parsing a node, did not find expected node content"
  | noSequenceEnd => some "while parsing a flow sequence, expected ',' or ']'"
  | undefinedHandle => some "the handle wasn't declared"
  | unknownAnchor => some "while parsing node, found unknown anchor"
  | manyDocuments count => some ("Got " ++ toString count ++ " YAML documents, expected 1")
  | _ => none

def message (dialect : Dialect) (f : Fault) : String :=
  let (context, problem) := f.parts
  match dialect with
  | .strict =>
    match context with
    | some context => problem ++ ", " ++ context
    | none => problem
  | .relaxed =>
    match f.relaxedWords, context with
    | some words, _ => words
    | none, some context => context ++ ", " ++ problem
    | none, none => problem

end Fault

end ScriptHost.Yaml
