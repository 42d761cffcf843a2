import ScriptHost.Script.Builtin.Promise
import ScriptHost.Script.PatternText

/-! The built-in functions on regular expressions. -/

namespace ScriptHost.Script.Comp

open ScriptHost.Text (Pattern CharSet)

/-- The source and the flags of a regular expression object. -/
def patternOf (v : Value) : Comp (Ref × Utf16 × PatternFlags) := do
  match v with
  | .object r =>
    match ← read (·.kind r) with
    | .pattern source flags =>
      return (r, source, (PatternFlags.read {} flags.display.toList).getD {})
    | _ => typeError "not a RegExp object"
  | _ => typeError "not a RegExp object"

def compiled (source : Utf16) (flags : PatternFlags) : Comp CompiledPattern := do
  match PatternText.compile source flags with
  | .ok c => return c
  | .error message => raise .syntaxError message

/-- Refuses a regular expression that cannot be read. -/
def checkPattern (source flags : Utf16) : Comp Unit := do
  match PatternFlags.read {} flags.display.toList with
  | some f => discard (compiled source f)
  | none => raise .syntaxError "invalid regular expression flags"

def makePattern (source flags : Utf16) (newTarget : Value) : Comp Value := do
  checkPattern source flags
  let r ← newFrom newTarget .patternPrototype (.pattern source flags)
  update fun h => h.modifyObject r (·.put "lastIndex" ⟨.data (.nat 0) true, false, false⟩)
  return .object r

def newPatternObject (i : Invocation) : Comp Value := do
  let (source, flags) ← match i.arg 0 with
    | .object r =>
      match ← read (·.kind r) with
      | .pattern source flags => pure (some source, some flags)
      | _ => pure (none, none)
    | _ => pure (none, none)
  if !i.isConstruct && source.isSome && (i.arg 1).isUndefined then return i.arg 0
  let source ← match source with
    | some s => pure s
    | none => if (i.arg 0).isUndefined then pure Utf16.empty else toText (i.arg 0)
  let flags ← if (i.arg 1).isUndefined then pure (flags.getD {}) else toText (i.arg 1)
  makePattern source flags (if i.isConstruct then i.newTarget else i.callee)

/-! ### Matching -/

/-- A match in a text: where it begins and ends, in units, and what the groups matched. -/
structure Found where
  start : Nat
  stop : Nat
  captures : List (Option (Nat × Nat))
  names : List (Utf16 × Nat)

/-- How many units the first code points take. -/
def unitCount (points : List Nat) : Nat :=
  points.foldl (fun n p => n + (if p < 0x10000 then 1 else 2)) 0

/-- Looks for a match from a place on; only there if `fixed`. -/
def matchText (c : CompiledPattern) (flags : PatternFlags) (s : Utf16) (start : Nat) (fixed : Bool) :
    Option Found :=
  let items := PatternText.items flags s
  let wide := flags.wide
  let toItem (units : Nat) : Nat :=
    if wide then (s.extract 0 units).codePoints.length else units
  let toUnit (item : Nat) : Nat := if wide then unitCount (items.take item) else item
  let subject : Pattern.Subject := {
    items := items.toArray
    isWord := fun n => (CharSet.mk CharSet.word false).contains n
    isLineEnd := fun n => (CharSet.mk PatternText.lineEnds false).contains n
    forgets := true }
  let found :=
    if fixed then (c.pattern.matchAt? subject (toItem start)).map fun p => (toItem start, p)
    else c.pattern.find? subject (toItem start)
  found.map fun (first, p) => {
    start := toUnit first, stop := toUnit p.index, names := c.names
    captures := (List.range c.groups).map fun k =>
      (p.capture? (k + 1)).map fun (a, b) => (toUnit a, toUnit b) }

def setIndex (r : Ref) (n : Nat) : Comp Unit := set r "lastIndex" (.nat n)

/-- The array that describes a match. -/
def describeMatch (s : Utf16) (f : Found) (indices : Bool) : Comp Value := do
  let part (range : Option (Nat × Nat)) : Value := match range with
    | some (a, b) => .string (s.extract a b)
    | none => .undefined
  let groups (value : Option (Nat × Nat) → Comp Value) : Comp Value := do
    if f.names.isEmpty then return .undefined
    let members ← mapList f.names fun (name, k) => do
      return (Key.ofText name, Property.plain (← value (f.captures.getD (k - 1) none)))
    match ← newPlain members with
    | .object g =>
      update fun h => h.modifyObject g fun o => { o with proto := none }
      return .object g
    | v => return v
  let made ← requireObject (← newArray (part (some (f.start, f.stop)) :: f.captures.map part))
  putPlain made "index" (.nat f.start)
  putPlain made "input" (.string s)
  putPlain made "groups" (← groups fun range => return part range)
  if indices then
    let place (range : Option (Nat × Nat)) : Comp Value := match range with
      | some (a, b) => newArray [.nat a, .nat b]
      | none => pure .undefined
    let places ← requireObject (← newArray (← mapList (some (f.start, f.stop) :: f.captures) place))
    putPlain places "groups" (← groups place)
    putPlain made "indices" (.object places)
  return .object made

def execBuiltin (this : Value) (s : Utf16) : Comp Value := do
  let (r, source, flags) ← patternOf this
  let c ← compiled source flags
  let moves := flags.isGlobal || flags.sticky
  let last ← toLength (← get r "lastIndex")
  let start := if moves then last else 0
  let found := if s.length < start then none else matchText c flags s start flags.sticky
  match found with
  | some f =>
    if moves then setIndex r f.stop
    describeMatch s f flags.indices
  | none =>
    if moves then setIndex r 0
    return .null

/-- Matches by the method of the object, if it has one of its own. -/
def exec (r : Ref) (s : Utf16) : Comp Value := do
  let f ← get r "exec"
  let own ← read fun h => match f with
    | .object g =>
      match h.kind g with
      | .native (.pattern .exec) _ => false
      | _ => h.isCallable g
    | _ => false
  if own then
    let answer ← call f (.object r) [.string s]
    if answer.isObject || answer == .null then return answer else typeError "object or null expected"
  else execBuiltin (.object r) s

/-- The place after one character. -/
def afterOne (s : Utf16) (index : Nat) (wide : Bool) : Nat :=
  if wide then
    match (s.extract index (index + 2)).codePoints with
    | p :: _ => index + (if p < 0x10000 then 1 else 2)
    | [] => index + 1
  else index + 1

/-- All matches of a global expression, in order; at most `limit`. -/
def allMatches (r : Ref) (s : Utf16) (wide : Bool) : Nat → List Ref → Comp (List Ref)
  | 0, found => return found.reverse
  | limit + 1, found => do
    match ← exec r s with
    | .object m =>
      if (← toText (← get m (.index 0))).isEmpty then
        setIndex r (afterOne s (← toLength (← get r "lastIndex")) wide)
      allMatches r s wide limit (m :: found)
    | _ => return found.reverse

def flagText (r : Ref) : Comp String := do toDisplay (← get r "flags")

def replacePattern (r : Ref) (s : Utf16) (replacement : Value) : Comp Value := do
  let flags ← flagText r
  let isGlobal := flags.contains 'g'
  let callable ← read (·.callable replacement)
  let template ← if callable then pure Utf16.empty else toText replacement
  let found ←
    if isGlobal then do
      setIndex r 0
      allMatches r s (flags.contains 'u' || flags.contains 'v') (s.length + 2) []
    else do
      match ← exec r s with
      | .object m => pure [m]
      | _ => pure []
  let (parts, rest) ← foldList found (([] : List Utf16), 0) fun m (parts, rest) => do
    let n ← lengthOf m
    let whole ← toText (← get m (.index 0))
    let place := ((← toWhole (← get m "index")).clamp 0 s.length).toNat
    let captures ← mapList ((List.range n).drop 1) fun k => do
      let v ← get m (.ofNat k)
      if v.isUndefined then return none else return some (← toText v)
    let groups ← get m "groups"
    let put ←
      if callable then
        let values := captures.map fun c => match c with
          | some t => Value.string t
          | none => .undefined
        let last := if groups.isUndefined then [] else [groups]
        toText (← call replacement .undefined
          ([.string whole] ++ values ++ [.nat place, .string s] ++ last))
      else do
        let named ← match groups with
          | .object g => do
            let keys ← ownKeys g
            mapList keys fun k => do
              let v ← get g k
              let t ← if v.isUndefined then pure Utf16.empty else toText v
              return (k.text?.getD {}, t)
          | _ => pure []
        let filled := named.foldl (fun t (name, v) =>
          match t, name with
          | .text t, .text name => Utf16.text (t.replace ("$<" ++ name ++ ">") v.display)
          | t, _ => t) template
        pure (expandReplacement filled s place whole captures)
    if rest ≤ place then return (put :: s.extract rest place :: parts, place + whole.length)
    else return (parts, rest)
  return .string (Utf16.concat (s.extract rest s.length :: parts).reverse)

/-- Splits text where an expression matches. -/
def splitPattern (r : Ref) (s : Utf16) (limit : Nat) : Comp Value := do
  if limit = 0 then return (← newArray [])
  let (_, source, flags) ← patternOf (.object r)
  let c ← compiled source flags
  let n := s.length
  if n = 0 then
    if (matchText c flags s 0 true).isSome then newArray [] else newArray [.string s]
  else
    let capture (range : Option (Nat × Nat)) : Value := match range with
      | some (a, b) => .string (s.extract a b)
      | none => .undefined
    let rec go : Nat → Nat → Nat → List Value → List Value
      | 0, start, _, parts => .string (s.extract start n) :: parts
      | fuel + 1, start, index, parts =>
        if n ≤ index then .string (s.extract start n) :: parts
        else
          match matchText c flags s index false with
          | none => .string (s.extract start n) :: parts
          | some f =>
            if n ≤ f.start then .string (s.extract start n) :: parts
            else if f.stop == start || (f.stop == f.start && f.start == start) then
              go fuel start (afterOne s (max index f.start) flags.wide) parts
            else
              let parts := .string (s.extract start f.start) :: parts
              go fuel f.stop (if f.stop == f.start then afterOne s f.stop flags.wide else f.stop)
                ((f.captures.map capture).reverse ++ parts)
    newArray ((go (n + 2) 0 0 []).reverse.take limit)

def flagLetters : List (Char × String) :=
  [('d', "hasIndices"), ('g', "global"), ('i', "ignoreCase"), ('m', "multiline"), ('s', "dotAll"),
   ('u', "unicode"), ('v', "unicodeSets"), ('y', "sticky")]

/-- The source of an expression as it may stand between slashes. -/
def escapedSource (s : Utf16) : Utf16 :=
  if s.isEmpty then "(?:)"
  else
    let rec go : Bool → Bool → List UInt16 → List UInt16
      | _, _, [] => []
      | inClass, _, 92 :: u :: rest => 92 :: u :: go inClass false rest
      | inClass, escaped, u :: rest =>
        if u == 10 then 92 :: 110 :: go inClass escaped rest
        else if u == 13 then 92 :: 114 :: go inClass escaped rest
        else if u == 47 && !inClass then 92 :: 47 :: go inClass escaped rest
        else if u == 91 then u :: go true escaped rest
        else if u == 93 then u :: go false escaped rest
        else u :: go inClass escaped rest
    .ofUnits (go false false s.toUnits)

def patternFunction (f : PatternFunction) (i : Invocation) : Comp Value := do
  let text : Comp Utf16 := toText (i.arg 0)
  match f with
  | .construct => newPatternObject i
  | .exec =>
    let s ← text
    execBuiltin i.this s
  | .test =>
    let r ← requireObject i.this
    let s ← text
    return .bool (← exec r s).isObject
  | .toString =>
    let r ← requireObject i.this
    let source ← toText (← get r "source")
    return .string ("/" ++ source ++ "/" ++ (← toText (← get r "flags")))
  | .compile =>
    let (r, _, _) ← patternOf i.this
    let source ← if (i.arg 0).isUndefined then pure Utf16.empty else toText (i.arg 0)
    let flags ← if (i.arg 1).isUndefined then pure Utf16.empty else toText (i.arg 1)
    checkPattern source flags
    update fun h => h.setKind r (.pattern source flags)
    setIndex r 0
    return i.this
  | .flags =>
    let r ← requireObject i.this
    let letters ← foldList flagLetters "" fun (letter, name) letters => do
      return if truthy (← get r name) then letters.push letter else letters
    return .text letters
  | .flag letter =>
    match i.this with
    | .object r =>
      if r == Intrinsic.patternPrototype.ref then return .undefined
      let (_, _, _) ← patternOf i.this
      return .bool (← read fun h => match h.kind r with
        | .pattern _ flags => flags.display.contains letter
        | _ => false)
    | _ => typeError "not an object"
  | .source =>
    match i.this with
    | .object r =>
      if r == Intrinsic.patternPrototype.ref then return .text "(?:)"
      let (_, source, _) ← patternOf i.this
      return .string (escapedSource source)
    | _ => typeError "not an object"
  | .species => return i.this
  | .symbolMatch =>
    let r ← requireObject i.this
    let s ← text
    let flags ← flagText r
    if flags.contains 'g' then
      setIndex r 0
      let found ← allMatches r s (flags.contains 'u' || flags.contains 'v') (s.length + 2) []
      if found.isEmpty then return .null
      newArray (← mapList found fun m => do return .string (← toText (← get m (.index 0))))
    else exec r s
  | .symbolMatchAll =>
    let r ← requireObject i.this
    let s ← text
    let flags ← get r "flags"
    let copy ← construct (← speciesOf r .pattern) [.object r, flags]
    let flags ← toDisplay flags
    match copy with
    | .object c => setIndex c (← toLength (← get r "lastIndex"))
    | _ => pure ()
    newIterator (.patternIterator copy s (flags.contains 'g') (flags.contains 'u' || flags.contains 'v') false)
      .patternIteratorPrototype
  | .symbolReplace =>
    let r ← requireObject i.this
    let s ← text
    replacePattern r s (i.arg 1)
  | .symbolSearch =>
    let r ← requireObject i.this
    let s ← text
    let before ← get r "lastIndex"
    setIndex r 0
    let answer ← exec r s
    set r "lastIndex" before
    match answer with
    | .object m => get m "index"
    | _ => return .int (-1)
  | .symbolSplit =>
    let r ← requireObject i.this
    let s ← text
    let limit ← if (i.arg 1).isUndefined then pure (UInt32.size - 1) else toWord (i.arg 1)
    splitPattern r s limit

/-- The next match of an iteration over matches. -/
def nextMatch (this : Value) : Comp Value := do
  match this with
  | .object r =>
    match ← read (·.kind r) with
    | .patternIterator _ _ _ _ true => stepObject .undefined true
    | .patternIterator p s isGlobal wide false =>
      let finish : Comp Unit :=
        update fun h => h.setKind r (.patternIterator p s isGlobal wide true)
      let pattern ← requireObject p
      match ← exec pattern s with
      | .object m =>
        if isGlobal then
          if (← toText (← get m (.index 0))).isEmpty then
            setIndex pattern (afterOne s (← toLength (← get pattern "lastIndex")) wide)
        else finish
        stepObject (.object m) false
      | _ =>
        finish
        stepObject .undefined true
    | _ => typeError "not a RegExp String Iterator"
  | _ => typeError "not a RegExp String Iterator"

end ScriptHost.Script.Comp
