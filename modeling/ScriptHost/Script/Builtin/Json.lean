import ScriptHost.Script.Builtin.Number

/-! JSON text read into script values, and written from them. -/

namespace ScriptHost.Script.Comp

/-! ### Reading -/

def isJsonSpace (c : Char) : Bool := c == ' ' || c == '\t' || c == '\n' || c == '\r'

/-- What is read, with the whole text to tell places by. -/
structure JsonText where
  whole : List Char
  rest : List Char

def byteCount (s : List Char) : Nat := s.foldl (fun n c => n + c.utf8Size) 0

namespace JsonText

def skip (t : JsonText) : JsonText := { t with rest := t.rest.dropWhile isJsonSpace }

def drop (t : JsonText) (n : Nat) : JsonText := { t with rest := t.rest.drop n }

/-- The line of a place and its column in bytes. -/
def lineOf (before : List Char) : Nat × Nat :=
  before.foldl (fun (line, column) c =>
    if c == '\n' then (line + 1, 1) else (line, column + c.utf8Size)) (1, 1)

def fault {α : Type} (t : JsonText) (message : String) : Comp α :=
  let before := t.whole.take (t.whole.length - t.rest.length)
  let (line, column) := lineOf before
  syntaxFault inputName (message ++ " in JSON at position " ++ toString (byteCount before)
    ++ " (line " ++ toString line ++ " column " ++ toString column ++ ")")

def ended {α : Type} : Comp α := syntaxFault inputName "Unexpected end of JSON input"

end JsonText

def hexDigits? (s : List Char) : Option Nat :=
  if s.length = 4 && s.all (isDigitOf 16) then some (digitsValue 16 s) else none

/-- The rest of a text in quotes, as units of 16 bits, back to front. -/
def jsonString (start : JsonText) : List UInt16 → List Char → Comp (Utf16 × List Char)
  | _, [] => start.fault "Unterminated string"
  | found, '"' :: rest => return (.ofUnits found.reverse, rest)
  | _, ['\\'] => start.fault "Unterminated string"
  | found, '\\' :: c :: rest =>
    let put (n : Nat) := jsonString start (UInt16.ofNat n :: found) rest
    match c with
    | '"' => put 34
    | '\\' => put 92
    | '/' => put 47
    | 'b' => put 8
    | 'f' => put 12
    | 'n' => put 10
    | 'r' => put 13
    | 't' => put 9
    | 'u' =>
      match rest with
      | a :: b :: c :: d :: rest' =>
        match hexDigits? [a, b, c, d] with
        | some n => jsonString start (UInt16.ofNat n :: found) rest'
        | none => { start with rest := rest }.fault "Bad Unicode escape"
      | rest => { start with rest := rest }.fault "Bad Unicode escape"
    | _ => { start with rest := c :: rest }.fault "Bad escaped character"
  | found, c :: rest =>
    if c.toNat < 32 then { start with rest := c :: rest }.fault "Bad control character in string literal"
    else jsonString start ((Utf16.unitsOfChar c).reverse ++ found) rest

/-- A number at the front of the text. -/
def jsonNumber (t : JsonText) : Comp (Value × JsonText) := do
  let (sign, digits) := match t.rest with
    | '-' :: rest => (['-'], rest)
    | rest => ([], rest)
  match digits with
  | [] => ({ t with rest := digits } : JsonText).fault "No number after minus sign"
  | c :: more =>
    if !c.isDigit then ({ t with rest := digits } : JsonText).fault "No number after minus sign"
    else if c == '0' && more.head?.any Char.isDigit then
      ({ t with rest := more } : JsonText).fault "Unexpected number"
    else
      let whole := digits.takeWhile Char.isDigit
      let rest := digits.drop whole.length
      let (fraction, rest) := match rest with
        | '.' :: more => ('.' :: more.takeWhile Char.isDigit, more.dropWhile Char.isDigit)
        | rest => ([], rest)
      if fraction.length == 1 then
        ({ t with rest := rest } : JsonText).fault "Unterminated fractional number"
      else
        let (exponent, rest) := match rest with
          | e :: more =>
            if e == 'e' || e == 'E' then
              let (signs, more) := match more with
                | '+' :: more => (['+'], more)
                | '-' :: more => (['-'], more)
                | more => ([], more)
              ('e' :: signs ++ more.takeWhile Char.isDigit, more.dropWhile Char.isDigit)
            else ([], rest)
          | [] => ([], [])
        if !exponent.isEmpty && !exponent.getLast?.any Char.isDigit then
          ({ t with rest := rest } : JsonText).fault "Exponent part is missing a number"
        else
          return (.number (textNumber (sign ++ whole ++ fraction ++ exponent)), { t with rest := rest })

mutual

/-- The value at the front of a text, which may be `limit` characters deep. -/
def jsonValue : Nat → JsonText → Comp (Value × JsonText)
  | 0, t => t.fault "Unexpected token"
  | limit + 1, t => do
    let t := t.skip
    let word (text : String) (v : Value) : Comp (Value × JsonText) := do
      if text.toList.isPrefixOf t.rest then return (v, t.drop text.length)
      else t.fault "Unexpected token"
    match t.rest with
    | [] => JsonText.ended
    | '"' :: rest =>
      let (s, rest) ← jsonString t [] rest
      return (.string s, { t with rest := rest })
    | '\x7b' :: rest =>
      let r ← newObject { kind := .ordinary, proto := some Intrinsic.objectPrototype.ref }
      let inner := { t with rest := rest }.skip
      match inner.rest with
      | '\x7d' :: _ => return (.object r, inner.drop 1)
      | _ => jsonMembers limit r "Expected property name or '\x7d'" inner
    | '[' :: rest =>
      match ← newArray [] with
      | .object r =>
        let inner := { t with rest := rest }.skip
        match inner.rest with
        | ']' :: _ => return (.object r, inner.drop 1)
        | _ => jsonItems limit r 0 inner
      | _ => t.fault "Unexpected token"
    | 't' :: _ => word "true" (.bool true)
    | 'f' :: _ => word "false" (.bool false)
    | 'n' :: _ => word "null" .null
    | c :: _ =>
      if c == '-' || c.isDigit then jsonNumber t else t.fault "Unexpected token"

/-- The rest of an object, from a name on. -/
def jsonMembers : Nat → Ref → String → JsonText → Comp (Value × JsonText)
  | 0, _, _, t => t.fault "Unexpected token"
  | limit + 1, r, complaint, t => do
    match t.rest with
    | '"' :: rest =>
      let (name, rest) ← jsonString t [] rest
      let t := { t with rest := rest }.skip
      match t.rest with
      | ':' :: rest =>
        let (v, t) ← jsonValue limit { t with rest := rest }
        putPlain r (.ofText name) v
        let t := t.skip
        match t.rest with
        | '\x7d' :: _ => return (.object r, t.drop 1)
        | ',' :: rest =>
          jsonMembers limit r "Expected double-quoted property name" { t with rest := rest }.skip
        | _ => t.fault "Expected ',' or '\x7d' after property value"
      | _ => t.fault "Expected ':' after property name"
    | _ => t.fault complaint

/-- The rest of an array, from an item on. -/
def jsonItems : Nat → Ref → Nat → JsonText → Comp (Value × JsonText)
  | 0, _, _, t => t.fault "Unexpected token"
  | limit + 1, r, n, t => do
    let (v, t) ← jsonValue limit t
    charge 16
    update fun h => h.addOwn r (.ofNat n) v
    let t := t.skip
    match t.rest with
    | ']' :: _ => return (.object r, t.drop 1)
    | ',' :: rest => jsonItems limit r (n + 1) { t with rest := rest }
    | _ => t.fault "Expected ',' or ']' after array element"

end

/-- Lets a function look at every value that was read, innermost first. At most `limit`
objects deep. -/
def revive (f : Value) : Nat → Ref → Key → Comp Value
  | 0, holder, k => get holder k
  | limit + 1, holder, k => do
    let v ← get holder k
    match v with
    | .object r =>
      let keys ← if ← isArray v then do
          pure ((List.range (← lengthOf r)).map Key.ofNat)
        else enumerableKeys r
      forEach keys fun k => do
        match ← revive f limit r k with
        | .undefined => discard (delete r k)
        | v => discard (define r k (.ofProperty (.plain v)))
    | _ => pure ()
    call f (.object holder) [k.toValue, v]

def parseJson (i : Invocation) : Comp Value := do
  let s ← toText (i.arg 0)
  let chars := s.display.toList
  let (v, t) ← jsonValue (2 * chars.length + 2) ⟨chars, chars⟩
  let t := t.skip
  unless t.rest.isEmpty do t.fault "Unexpected non-whitespace character after JSON"
  if ← read (·.callable (i.arg 1)) then
    match ← newPlain [("", .plain v)] with
    | .object root => revive (i.arg 1) (chars.length + 1) root ""
    | _ => return v
  else return v

/-! ### Writing -/

def hexDigit (n : Nat) : Char := digitChar (n % 16)

/-- One unit of a text in quotes. -/
def jsonUnit (u : UInt16) : List UInt16 :=
  let escape (c : Char) : List UInt16 := [92, UInt16.ofNat c.toNat]
  let coded : List UInt16 :=
    let n := u.toNat
    92 :: 117 :: [n / 4096, n / 256, n / 16, n].map fun d => UInt16.ofNat (hexDigit d).toNat
  if u == 34 then escape '"'
  else if u == 92 then escape '\\'
  else if u == 8 then escape 'b'
  else if u == 12 then escape 'f'
  else if u == 10 then escape 'n'
  else if u == 13 then escape 'r'
  else if u == 9 then escape 't'
  else if u < 32 then coded
  else [u]

/-- A text in quotes. Surrogates without a partner are written as escapes. -/
def jsonQuoted (s : Utf16) : Utf16 :=
  let body := s.codePoints.map fun n =>
    if 0xD800 ≤ n ∧ n < 0xE000 then
      Utf16.ofUnits (92 :: 117 :: [n / 4096, n / 256, n / 16, n].map fun d => UInt16.ofNat (hexDigit d).toNat)
    else Utf16.ofUnits ((Utf16.unitsOfChar (Char.ofNat n)).flatMap jsonUnit)
  "\"" ++ Utf16.concat body ++ "\""

structure JsonPlan where
  replacer : Value := .undefined
  /-- The keys that are written, if not all are. -/
  keys : Option (List Key) := none
  gap : Utf16 := {}

/-- Lists items in brackets, over several lines if there is a gap. -/
def jsonList (opening closing : String) (gap indent : Utf16) (parts : List Utf16) : Utf16 :=
  if parts.isEmpty then opening ++ closing
  else if gap.isEmpty then opening ++ Utf16.intercalate "," parts ++ closing
  else
    let inner := indent ++ gap
    opening ++ "\n" ++ inner ++ Utf16.intercalate (",\n" ++ inner) parts ++ "\n" ++ indent ++ closing

/-- The value to be written in place of a value. -/
def jsonReady (p : JsonPlan) (holder : Value) (k : Key) (v : Value) : Comp Value := do
  let v ← match v with
    | .object _ | .bigInt _ =>
      match ← getValue v "toJSON" with
      | f => if ← read (·.callable f) then call f v [k.toValue] else pure v
    | v => pure v
  let v ← if p.replacer.isUndefined then pure v else call p.replacer holder [k.toValue, v]
  match v with
  | .object r =>
    match ← read (·.kind r) with
    | .number _ => return .number (← toNumber v)
    | .string _ => return .string (← toText v)
    | .boolean b => return .bool b
    | .bigInt n => return .bigInt n
    | _ => return v
  | v => return v

/-- The text of a value, if it has one. At most `limit` objects deep. -/
def writeJson (p : JsonPlan) : Nat → List Ref → Utf16 → Value → Key → Value → Comp (Option Utf16)
  | 0, _, _, _, _, _ => rangeError "Maximum call stack size exceeded"
  | limit + 1, stack, indent, holder, k, v => do
    match ← jsonReady p holder k v with
    | .null => return some "null"
    | .bool b => return some (if b then "true" else "false")
    | .number d => return some (if d.isFinite then numberText d else "null")
    | .string s => return some (jsonQuoted s)
    | .bigInt _ => typeError "BigInt are forbidden in JSON"
    | .undefined | .symbol _ => return none
    | .object r =>
      if ← read (·.isCallable r) then return none
      if stack.contains r then typeError "circular reference"
      let inner := indent ++ p.gap
      let text ←
        if ← isArray (.object r) then do
          let n ← lengthOf r
          let parts ← foldUp n 0 [] fun i parts => do
            let v ← get r (.ofNat i)
            let part ← writeJson p limit (r :: stack) inner (.object r) (.ofNat i) v
            return part.getD "null" :: parts
          pure (jsonList "[" "]" p.gap indent parts.reverse)
        else do
          let keys ← match p.keys with
            | some keys => pure keys
            | none => enumerableKeys r
          let parts ← foldList keys [] fun k parts => do
            let v ← get r k
            match ← writeJson p limit (r :: stack) inner (.object r) k v with
            | some part =>
              let colon : Utf16 := if p.gap.isEmpty then ":" else ": "
              return (jsonQuoted (k.text?.getD {}) ++ colon ++ part) :: parts
            | none => return parts
          pure (jsonList "\x7b" "\x7d" p.gap indent parts.reverse)
      fits text.size
      return some text

/-- The keys that a list of names asks for. -/
def keysOfList (r : Ref) : Comp (List Key) := do
  let found ← foldList (← itemsLike r) [] fun v found => do
    let name ← match v with
      | .string s => pure (some s)
      | .number d => pure (some (Utf16.text (numberText d)))
      | .object o =>
        match ← read (·.kind o) with
        | .string _ | .number _ => do pure (some (← toText v))
        | _ => pure none
      | _ => pure none
    match name with
    | some s => return if found.contains (.ofText s) then found else .ofText s :: found
    | none => return found
  return found.reverse

def stringifyJson (i : Invocation) : Comp Value := do
  let (replacer, keys) ← match i.arg 1 with
    | .object r =>
      if ← read (·.isCallable r) then pure (i.arg 1, none)
      else if ← isArray (i.arg 1) then pure (.undefined, some (← keysOfList r))
      else pure (.undefined, none)
    | _ => pure (.undefined, none)
  let space ← match i.arg 2 with
    | .object r =>
      match ← read (·.kind r) with
      | .number _ => do pure (.number (← toNumber (i.arg 2)))
      | .string _ => do pure (.string (← toText (i.arg 2)))
      | _ => pure .undefined
    | v => pure v
  let gap := match space with
    | .number d => Utf16.text ("".pushn ' ' ((wholeOf d).clamp 0 10).toNat)
    | .string s => s.extract 0 10
    | _ => {}
  let holder ← newRecord [("", i.arg 0)]
  let limit := (← read (·.quota.calls)) + 1
  match ← writeJson ⟨replacer, keys, gap⟩ limit [] {} holder "" (i.arg 0) with
  | some s => return .string s
  | none => return .undefined

end ScriptHost.Script.Comp
