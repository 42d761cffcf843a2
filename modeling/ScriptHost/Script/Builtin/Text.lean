import ScriptHost.Script.Builtin.Array
import ScriptHost.Text.Case

/-! The built-in functions on text. -/

namespace ScriptHost.Script.Comp

/-- The text that a method of text works on. -/
def textOfThis (v : Value) : Comp Utf16 := do
  if v.isNone then typeError "null or undefined are forbidden"
  toText v

def trimStart (s : Utf16) : Utf16 :=
  match s with
  | .text t => .text (String.ofList (t.toList.dropWhile isSpace))
  | .units u => .ofUnits (u.dropWhile fun c => isSpace (Char.ofNat c.toNat))

def trimEnd (s : Utf16) : Utf16 :=
  match s with
  | .text t => .text (String.ofList (t.toList.reverse.dropWhile isSpace).reverse)
  | .units u => .ofUnits (u.reverse.dropWhile fun c => isSpace (Char.ofNat c.toNat)).reverse

/-- Text in which every character is changed; surrogates without a partner stay. -/
def mapText (f : String → String) (s : Utf16) : Utf16 :=
  match s with
  | .text t => .text (f t)
  | .units u => Utf16.concat ((Utf16.codePointsOf u).map fun n =>
      if 0xD800 ≤ n ∧ n < 0xE000 then .ofUnits [UInt16.ofNat n] else .text (f (Char.ofNat n).toString))

def wellFormed (s : Utf16) : Utf16 := .text s.display

/-- Text made longer with copies of a filler. -/
def padText (s : Utf16) (i : Invocation) (atEnd : Bool) : Comp Value := do
  let n := s.length
  let wanted ← toLength (i.arg 0)
  if wanted ≤ n then return .string s
  let filler ← if (i.arg 1).isUndefined then pure (Utf16.text " ") else toText (i.arg 1)
  if filler.isEmpty then return .string s
  if textBound < wanted then rangeError "invalid string length"
  fits wanted
  let missing := wanted - n
  let copies := filler.repeated (missing / filler.length + 1)
  let pad := copies.extract 0 missing
  return .string (if atEnd then s ++ pad else pad ++ s)

/-- Splits text at each place where a separator stands. At most `limit` pieces. -/
def splitUnits (separator : List UInt16) : Nat → List UInt16 → List UInt16 → List Utf16
  | 0, piece, rest => [.ofUnits (piece.reverse ++ rest)]
  | _, piece, [] => [.ofUnits piece.reverse]
  | limit + 1, piece, u :: rest =>
    if Utf16.startsWith (u :: rest) separator then
      .ofUnits piece.reverse :: splitUnits separator limit [] ((u :: rest).drop separator.length)
    else splitUnits separator limit (u :: piece) rest

def splitText (s separator : Utf16) : List Utf16 :=
  let units := s.toUnits
  if separator.isEmpty then units.map Utf16.ofUnit
  else splitUnits separator.toUnits (units.length + 1) [] units

/-- The replacement text with its references to the match filled in. -/
def expandReplacement (template : Utf16) (s : Utf16) (place : Nat) (found : Utf16)
    (captures : List (Option Utf16)) : Utf16 :=
  let units := template.toUnits
  let digit (u : UInt16) : Option Nat := if 48 ≤ u && u ≤ 57 then some (u.toNat - 48) else none
  let capture (n : Nat) : Option Utf16 :=
    if n = 0 then none else captures[n - 1]?.map (·.getD {})
  let rec go : Nat → List UInt16 → List Utf16
    | 0, _ => []
    | limit + 1, 36 :: u :: rest =>
      if u == 36 then .text "$" :: go limit rest
      else if u == 38 then found :: go limit rest
      else if u == 96 then s.extract 0 place :: go limit rest
      else if u == 39 then s.extract (place + found.length) s.length :: go limit rest
      else
        match digit u with
        | none => .text "$" :: go limit (u :: rest)
        | some a =>
          let two := match rest with
            | v :: _ => (digit v).bind fun b => capture (a * 10 + b)
            | [] => none
          match two with
          | some c => c :: go limit rest.tail
          | none =>
            match capture a with
            | some c => c :: go limit rest
            | none => .text "$" :: go limit (u :: rest)
    | limit + 1, u :: rest => .ofUnit u :: go limit rest
    | _, [] => []
  Utf16.concat (go (units.length + 1) units)

/-- The places where text holds another, none of them overlapping. -/
def allPlaces (s pattern : Utf16) : List Nat :=
  let step := max 1 pattern.length
  let rec go : Nat → Nat → List Nat
    | 0, _ => []
    | limit + 1, start =>
      match s.indexOf? pattern start with
      | some k => k :: go limit (k + step)
      | none => []
  go (s.length + 2) 0

def replaceText (s : Utf16) (i : Invocation) (all : Bool) : Comp Value := do
  let pattern ← toText (i.arg 0)
  let callable ← read (·.callable (i.arg 1))
  let template ← if callable then pure Utf16.empty else toText (i.arg 1)
  let places := allPlaces s pattern
  let places := if all then places else places.take 1
  let (parts, rest) ← foldList places ([], 0) fun k (parts, start) => do
    let put ←
      if callable then toText (← call (i.arg 1) .undefined [.string pattern, .nat k, .string s])
      else pure (expandReplacement template s k pattern [])
    return (put :: s.extract start k :: parts, k + pattern.length)
  let text := Utf16.concat (s.extract rest s.length :: parts).reverse
  fits text.size
  return .string text

/-- Hands a method of text on to its argument if that knows what to do. -/
def handOver (symbol : WellKnown) (i : Invocation) (rest : List Value) (otherwise : Comp Value) :
    Comp Value := do
  if i.this.isNone then typeError "cannot convert to object"
  if (i.arg 0).isObject then
    match ← getMethod (i.arg 0) symbol.key with
    | some f => call f (i.arg 0) (i.this :: rest)
    | none => otherwise
  else otherwise

/-- Hands the text to a regular expression made of the argument. -/
def byPattern (symbol : WellKnown) (i : Invocation) (flags : List Value) : Comp Value := do
  let s ← toText i.this
  let source := if (i.arg 0).isUndefined then [] else [i.arg 0]
  let source := if flags.isEmpty then source else (if source.isEmpty then [.undefined] else source) ++ flags
  let p ← construct (.object Intrinsic.pattern.ref) source
  invoke p symbol.key [.string s]

/-- Patterns are refused where plain text is wanted. -/
def refusePattern (v : Value) : Comp Unit := do
  match v with
  | .object r =>
    let isPattern ← match ← get r WellKnown.«match».key with
      | .undefined => read fun h => match h.kind r with
        | .pattern .. => true
        | _ => false
      | v => pure (truthy v)
    if isPattern then typeError "regexp not supported"
  | _ => pure ()

def textMethod (f : StringFunction) (s : Utf16) (i : Invocation) : Comp Value := do
  match f with
  | .at =>
    match ← placeFrom (i.arg 0) s.length with
    | some k => return .string (s.extract k (k + 1))
    | none => return .undefined
  | .charAt =>
    match ← toWhole (i.arg 0) with
    | .finite k => return .string (if 0 ≤ k then s.extract k.toNat (k.toNat + 1) else {})
    | .infinite _ => return .text ""
  | .charCodeAt =>
    match ← toWhole (i.arg 0) with
    | .finite k =>
      match (if 0 ≤ k then s.unitAt? k.toNat else none) with
      | some u => return .nat u.toNat
      | none => return .number Double.nan
    | .infinite _ => return .number Double.nan
  | .codePointAt =>
    match ← toWhole (i.arg 0) with
    | .finite k =>
      if k < 0 then return .undefined
      match (s.extract k.toNat (k.toNat + 2)).codePoints with
      | n :: _ => return .nat n
      | [] => return .undefined
    | .infinite _ => return .undefined
  | .concat =>
    foldList i.args (.string s) fun v text => do
      match text with
      | .string t => joinText t (← toText v)
      | text => return text
  | .endsWith =>
    refusePattern (i.arg 0)
    let part ← toText (i.arg 0)
    let stop ← toPosition (i.arg 1) s.length s.length
    return .bool (part.length ≤ stop && s.extract (stop - part.length) stop == part)
  | .startsWith =>
    refusePattern (i.arg 0)
    let part ← toText (i.arg 0)
    let start := ((← toWhole (i.arg 1)).clamp 0 s.length).toNat
    return .bool (s.extract start (start + part.length) == part)
  | .includes =>
    refusePattern (i.arg 0)
    let part ← toText (i.arg 0)
    let start := ((← toWhole (i.arg 1)).clamp 0 s.length).toNat
    return .bool (s.indexOf? part start).isSome
  | .indexOf =>
    let part ← toText (i.arg 0)
    let start := ((← toWhole (i.arg 1)).clamp 0 s.length).toNat
    return match s.indexOf? part start with
      | some k => .nat k
      | none => .int (-1)
  | .lastIndexOf =>
    let part ← toText (i.arg 0)
    let d ← toNumber (i.arg 1)
    let start := if d.isNaN then s.length else ((wholeOf d).clamp 0 s.length).toNat
    return match s.lastIndexOf? part start with
      | some k => .nat k
      | none => .int (-1)
  | .isWellFormed =>
    return .bool (match s with
      | .text _ => true
      | .units _ => false)
  | .localeCompare =>
    let other ← toText (i.arg 0)
    return .int (if s.less other then -1 else if other.less s then 1 else 0)
  | .normalize =>
    let form ← if (i.arg 0).isUndefined then pure (Utf16.text "NFC") else toText (i.arg 0)
    unless ["NFC", "NFD", "NFKC", "NFKD"].contains form.display do
      rangeError "bad normalization form"
    return .string s
  | .padEnd => padText s i true
  | .padStart => padText s i false
  | .repeat =>
    match ← toWhole (i.arg 0) with
    | .finite n =>
      if n < 0 then rangeError "invalid repeat count"
      let n := n.toNat
      if textBound < s.length * n then rangeError "invalid string length"
      fits (s.size * n)
      return .string (if s.isEmpty then s else s.repeated n)
    | .infinite _ => rangeError "invalid repeat count"
  | .slice =>
    let n := s.length
    let start ← toPosition (i.arg 0) n 0
    let stop ← toPosition (i.arg 1) n n
    return .string (s.extract start stop)
  | .substr =>
    let n := s.length
    let start ← toPosition (i.arg 0) n 0
    let count ← if (i.arg 1).isUndefined then pure n else do
      pure ((← toWhole (i.arg 1)).clamp 0 n).toNat
    return .string (s.extract start (start + count))
  | .substring =>
    let n := s.length
    let start := ((← toWhole (i.arg 0)).clamp 0 n).toNat
    let stop ← if (i.arg 1).isUndefined then pure n else do
      pure ((← toWhole (i.arg 1)).clamp 0 n).toNat
    return .string (s.extract (min start stop) (max start stop))
  | .toLowerCase => return .string (mapText Text.lower s)
  | .toUpperCase => return .string (mapText Text.upper s)
  | .toWellFormed => return .string (wellFormed s)
  | .trim => return .string (trimStart (trimEnd s))
  | .trimEnd => return .string (trimEnd s)
  | .trimStart => return .string (trimStart s)
  | .iterator => newIterator (.stringIterator s.codePoints) .stringIteratorPrototype
  | _ => return .undefined

/-- The text that a text object, or text itself, stands for. -/
def thisText (v : Value) : Comp Value := do
  match v with
  | .string s => return .string s
  | .object r =>
    match ← read (·.kind r) with
    | .string s => return .string s
    | _ => typeError "not a string"
  | _ => typeError "not a string"

def textFunction (f : StringFunction) (i : Invocation) : Comp Value := do
  match f with
  | .construct =>
    let s ← match i.args with
      | [] => pure Utf16.empty
      | v :: _ =>
        match v with
        | .symbol id =>
          if i.isConstruct then toText v
          else do
            let d ← read fun h => (h.symbol id).description
            pure ("Symbol(" ++ d.getD {} ++ ")")
        | v => toText v
    if i.isConstruct then
      return .object (← newFrom i.newTarget .stringPrototype (.string s))
    else return .string s
  | .fromCharCode =>
    let units ← mapList i.args fun v => return UInt16.ofNat ((← toWord v) % 65536)
    return .string (.ofUnits units)
  | .fromCodePoint =>
    let parts ← mapList i.args fun v => do
      let d ← toNumber v
      match d.toInt? with
      | some n =>
        if 0 ≤ n ∧ n ≤ 0x10FFFF then return Utf16.ofCodePoint n.toNat
        else rangeError "invalid code point"
      | none => rangeError "invalid code point"
    return .string (Utf16.ofUnits (parts.flatMap Utf16.toUnits))
  | .raw =>
    let r ← toObject (← get (← toObject (i.arg 0)) "raw")
    let n ← lengthOf r
    let parts ← foldUp n 0 [] fun k parts => do
      let piece ← toText (← get r (.ofNat k))
      if k + 1 < n && k + 1 < i.args.length then
        return (← toText (i.arg (k + 1))) :: piece :: parts
      else return piece :: parts
    return .string (Utf16.concat parts.reverse)
  | .toString | .valueOf => thisText i.this
  | .match => handOver .match i [] (byPattern .match i [])
  | .matchAll => handOver .matchAll i [] (byPattern .matchAll i [.text "g"])
  | .search => handOver .search i [] (byPattern .search i [])
  | .replace | .replaceAll =>
    handOver .replace i [i.arg 1] do
      replaceText (← toText i.this) i (f == .replaceAll)
  | .split =>
    handOver .split i [i.arg 1] do
      let s ← toText i.this
      let limit ← if (i.arg 1).isUndefined then pure (UInt32.size - 1) else toWord (i.arg 1)
      let separator ← toText (i.arg 0)
      if limit = 0 then newArray []
      else if (i.arg 0).isUndefined then newArray [.string s]
      else if s.isEmpty then newArray (if separator.isEmpty then [] else [.string s])
      else newArray (((splitText s separator).take limit).map .string)
  | f => textMethod f (← textOfThis i.this) i

end ScriptHost.Script.Comp
