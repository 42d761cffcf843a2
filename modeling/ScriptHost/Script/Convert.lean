import ScriptHost.Script.Access
import ScriptHost.Script.NumberText

/-! Conversions between the types of script values. Objects are asked through their
methods, so every conversion is a computation. -/

namespace ScriptHost.Script.Comp

/-- What an object is wanted for when it is turned into something simpler. -/
inductive Hint where
  | any | number | text
deriving DecidableEq, Inhabited

def Hint.word : Hint → String
  | .any => "default"
  | .number => "number"
  | .text => "string"

/-- Tries the methods of an object until one gives something that is no object. -/
def firstSimple (v : Value) : List String → Comp Value
  | [] => typeError "toPrimitive"
  | name :: rest => do
    let f ← getValue v name
    if ← read (·.callable f) then
      let answer ← call f v []
      if answer.isObject then firstSimple v rest else return answer
    else firstSimple v rest

/-- A value that is no object. -/
def toPrimitive (v : Value) (hint : Hint) : Comp Value := do
  match v with
  | .object _ =>
    match ← getMethod v WellKnown.toPrimitive.key with
    | some f =>
      let answer ← call f v [.text hint.word]
      if answer.isObject then typeError "toPrimitive" else return answer
    | none =>
      firstSimple v (if hint == .text then ["toString", "valueOf"] else ["valueOf", "toString"])
  | v => return v

def primitiveNumber (v : Value) : Comp Double :=
  match v with
  | .undefined => pure Double.nan
  | .null => pure (Double.zero false)
  | .bool b => pure (Double.ofNat (if b then 1 else 0))
  | .number d => pure d
  | .string (.text s) => pure (textNumber s.toList)
  | .string _ => pure Double.nan
  | .symbol _ => typeError "cannot convert symbol to number"
  | .bigInt _ => typeError "cannot convert bigint to number"
  | .object _ => pure Double.nan

def toNumber (v : Value) : Comp Double := do
  match v with
  | .number d => return d
  | .object _ => primitiveNumber (← toPrimitive v .number)
  | v => primitiveNumber v

/-- A number or a big integer. -/
def toNumeric (v : Value) : Comp Value := do
  match ← toPrimitive v .number with
  | .bigInt i => return .bigInt i
  | v => return .number (← primitiveNumber v)

def primitiveText (v : Value) : Comp Utf16 :=
  match v with
  | .undefined => pure "undefined"
  | .null => pure "null"
  | .bool b => pure (if b then "true" else "false")
  | .number d => pure (numberText d)
  | .bigInt i => pure (toString i)
  | .string s => pure s
  | .symbol _ => typeError "cannot convert symbol to string"
  | .object _ => pure "[object Object]"

def toText (v : Value) : Comp Utf16 := do
  match v with
  | .string s => return s
  | .object _ => primitiveText (← toPrimitive v .text)
  | v => primitiveText v

/-- Text for messages and names of the host. -/
def toDisplay (v : Value) : Comp String := return (← toText v).display

def toKey (v : Value) : Comp Key := do
  match v with
  | .number d =>
    match d.toInt? with
    | some i => if 0 ≤ i then return .ofNat i.toNat else return .ofText (numberText d)
    | none => return .ofText (numberText d)
  | .string s => return .ofText s
  | v =>
    match ← toPrimitive v .text with
    | .symbol id => return .symbol id
    | v => return .ofText (← primitiveText v)

def toObject (v : Value) : Comp Ref := do
  let wrap (kind : Kind) (proto : Intrinsic) : Comp Ref :=
    newObject { kind := kind, proto := some proto.ref }
  match v with
  | .object r => return r
  | .undefined | .null => typeError "cannot convert to object"
  | .bool b => wrap (.boolean b) .booleanPrototype
  | .number d => wrap (.number d) .numberPrototype
  | .string s => wrap (.string s) .stringPrototype
  | .symbol id => wrap (.symbol id) .symbolPrototype
  | .bigInt i => wrap (.bigInt i) .bigIntPrototype

/-- The integer part of a number; infinities stay, not-a-number is zero. -/
inductive Whole where
  | finite (i : Int)
  | infinite (negative : Bool)
deriving DecidableEq, Inhabited

def wholeOf (d : Double) : Whole :=
  if d.isNaN then .finite 0
  else if d.isInfinite then .infinite d.negative
  else .finite d.truncate

def toWhole (v : Value) : Comp Whole := return wholeOf (← toNumber v)

/-- A whole number kept between two bounds. -/
def Whole.clamp (w : Whole) (low high : Int) : Int :=
  match w with
  | .finite i => max low (min high i)
  | .infinite negative => if negative then low else high

/-- A position in something of a length; negative ones count from its end. -/
def Whole.position (w : Whole) (length : Nat) : Nat :=
  match w with
  | .finite i => (if i < 0 then max 0 ((length : Int) + i) else min i length).toNat
  | .infinite negative => if negative then 0 else length

def toPosition (v : Value) (length missing : Nat) : Comp Nat := do
  if v.isUndefined then return missing
  return (← toWhole v).position length

/-- The largest length that anything may have. -/
def lengthBound : Nat := Nat.pow 2 53 - 1

def toLength (v : Value) : Comp Nat := do
  return ((← toWhole v).clamp 0 lengthBound).toNat

/-- The number modulo `2 ^ 32`, as an unsigned one. -/
def word (d : Double) : Nat := (ElementType.integerPart d % UInt32.size).toNat

def toWord (v : Value) : Comp Nat := return word (← toNumber v)

/-- The number modulo `2 ^ 32`, as a signed one. -/
def signedWord (n : Nat) : Int := if Nat.pow 2 31 ≤ n then (n : Int) - UInt32.size else n

def toInt32 (v : Value) : Comp Int := return signedWord (← toWord v)

/-- A position that must be a whole number of at least zero and of a size that fits. -/
def toIndex (v : Value) : Comp Nat := do
  if v.isUndefined then return 0
  match ← toWhole v with
  | .finite i => if 0 ≤ i ∧ i ≤ lengthBound then return i.toNat else rangeError "invalid array index"
  | .infinite _ => rangeError "invalid array index"

def lengthOf (r : Ref) : Comp Nat := do
  match ← read fun h => match h.kind r with
    | .array _ length _ => some length
    | _ => none with
  | some n => return n
  | none => toLength (← get r "length")

def bigIntOfPrimitive (v : Value) : Comp Int := do
  match v with
  | .bigInt i => return i
  | .bool b => return if b then 1 else 0
  | .string s =>
    match s with
    | .text t =>
      match textBigInt? t.toList with
      | some i => return i
      | none => raise .syntaxError "invalid BigInt literal"
    | _ => raise .syntaxError "invalid BigInt literal"
  | _ => typeError "cannot convert to BigInt"

def toBigInt (v : Value) : Comp Int := do
  bigIntOfPrimitive (← toPrimitive v .number)

/-- Is it an array, perhaps behind proxies? -/
def isArrayRef (h : Heap) : Nat → Ref → Bool
  | 0, _ => false
  | limit + 1, r =>
    match h.kind r with
    | .array .. => true
    | .proxy target (some _) _ _ => isArrayRef h limit target
    | _ => false

def isArray (v : Value) : Comp Bool := do
  match v with
  | .object r => read fun h => isArrayRef h (h.objects.size + 1) r
  | _ => return false

/-! ### Equality -/

/-- Equality as `===` has it. -/
def strictEq (a b : Value) : Bool :=
  match a, b with
  | .number a, .number b => a.numEq b
  | a, b => a == b

/-- Equality that takes all not-a-numbers for one. -/
def sameNumberZero (a b : Value) : Bool :=
  match a, b with
  | .number a, .number b => a.numEq b || (a.isNaN && b.isNaN)
  | a, b => a == b

/-- Equality that tells the zeros apart. -/
def sameValue (a b : Value) : Bool :=
  match a, b with
  | .number a, .number b => a == b || (a.isNaN && b.isNaN)
  | a, b => a == b

/-- Does a big integer equal a number? -/
def bigEqNumber (i : Int) (d : Double) : Bool := d.toInt? == some i

/-- Equality as `==` has it, for values that are no objects. -/
def looseSimple (a b : Value) : Bool :=
  let number : Value → Option Double
    | .number d => some d
    | .bool b => some (Double.ofNat (if b then 1 else 0))
    | .string (.text s) => some (textNumber s.toList)
    | .string _ => some Double.nan
    | _ => none
  match a, b with
  | .undefined, .undefined | .undefined, .null | .null, .undefined | .null, .null => true
  | .undefined, _ | .null, _ | _, .undefined | _, .null => false
  | .string a, .string b => a == b
  | .symbol a, .symbol b => a == b
  | .symbol _, _ | _, .symbol _ => false
  | .bigInt a, .bigInt b => a == b
  | .bigInt a, .string (.text s) | .string (.text s), .bigInt a => textBigInt? s.toList == some a
  | .bigInt a, b => (number b).any (bigEqNumber a)
  | a, .bigInt b => (number a).any (bigEqNumber b)
  | a, b =>
    match number a, number b with
    | some a, some b => a.numEq b
    | _, _ => false

def looseEq (a b : Value) : Comp Bool := do
  match a, b with
  | .object a, .object b => return a == b
  | .object _, b =>
    if b.isNone then return false
    return looseSimple (← toPrimitive a .any) b
  | a, .object _ =>
    if a.isNone then return false
    return looseSimple a (← toPrimitive b .any)
  | a, b => return looseSimple a b

/-! ### Names of functions -/

/-- The name of a function that is kept under a key. -/
def functionName (k : Key) : Comp Utf16 := do
  match k with
  | .symbol id =>
    match (← read (·.symbol id)).description with
    | some d => return "[" ++ d ++ "]"
    | none => return ""
  | .hidden id => return ((← read (·.symbol id)).description.getD "")
  | k => return k.text?.getD ""

end ScriptHost.Script.Comp
