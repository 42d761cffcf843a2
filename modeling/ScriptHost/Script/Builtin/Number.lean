import ScriptHost.Script.Builtin.Text

/-! The built-in functions on numbers, truth values, symbols and big integers, and those of
`Math`. -/

namespace ScriptHost.Script.Comp

/-! ### Reading numbers -/

def parseWhole (s : List Char) (radix : Int) : Double :=
  let s := s.dropWhile isSpace
  let (negative, s) := match s with
    | '-' :: rest => (true, rest)
    | '+' :: rest => (false, rest)
    | rest => (false, rest)
  if radix != 0 && (radix < 2 || 36 < radix) then Double.nan
  else
    let (base, s) : Nat × List Char :=
      if radix == 0 || radix == 16 then
        match s with
        | '0' :: x :: rest => if x == 'x' || x == 'X' then (16, rest) else (if radix == 0 then 10 else 16, s)
        | s => (if radix == 0 then 10 else 16, s)
      else (radix.toNat, s)
    let digits := s.takeWhile (isDigitOf base)
    if digits.isEmpty then Double.nan
    else Double.ofRatio negative (digitsValue base digits) 1

def parseDecimal (s : List Char) : Double :=
  match decimalPrefix? (s.dropWhile isSpace) with
  | some (d, _) => d
  | none => Double.nan

/-! ### Numbers -/

def thisNumber (v : Value) : Comp Double := do
  match v with
  | .number d => return d
  | .object r =>
    match ← read (·.kind r) with
    | .number d => return d
    | _ => typeError "not a number"
  | _ => typeError "not a number"

def signOf (d : Double) : String := if d.negative && !d.isZero then "-" else ""

def numberFunction (f : NumberFunction) (i : Invocation) : Comp Value := do
  let whole (v : Value) : Bool := match v with
    | .number d => d.toInt?.isSome
    | _ => false
  match f with
  | .construct =>
    let d ← match i.args with
      | [] => pure (Double.zero false)
      | v :: _ => do
        match ← toNumeric v with
        | .bigInt n => pure (Double.ofInt n)
        | .number d => pure d
        | _ => pure Double.nan
    if i.isConstruct then return .object (← newFrom i.newTarget .numberPrototype (.number d))
    else return .number d
  | .isFinite =>
    return .bool (match i.arg 0 with
      | .number d => d.isFinite
      | _ => false)
  | .isNaN =>
    return .bool (match i.arg 0 with
      | .number d => d.isNaN
      | _ => false)
  | .isInteger => return .bool (whole (i.arg 0))
  | .isSafeInteger =>
    return .bool (match i.arg 0 with
      | .number d => d.toInt?.any fun n => n.natAbs < Nat.pow 2 53
      | _ => false)
  | .globalIsFinite => return .bool (← toNumber (i.arg 0)).isFinite
  | .globalIsNaN => return .bool (← toNumber (i.arg 0)).isNaN
  | .parseFloat =>
    return .number (parseDecimal (← toText (i.arg 0)).display.toList)
  | .parseInt =>
    let s ← toText (i.arg 0)
    return .number (parseWhole s.display.toList (← toInt32 (i.arg 1)))
  | .toExponential =>
    let d ← thisNumber i.this
    let places ← toWhole (i.arg 0)
    if !d.isFinite then return .text (numberText d)
    let (digits, exponent) ← match places with
      | .finite n =>
        if n < 0 || 100 < n then rangeError "toExponential() argument must be between 0 and 100"
        else if (i.arg 0).isUndefined then
          if d.isZero then pure ("0", 0)
          else
            let text := toString d.shortest.digits
            pure (text, d.shortest.exponent + text.length - 1)
        else pure (leadingDigits (n.toNat + 1) d)
      | .infinite _ => rangeError "toExponential() argument must be between 0 and 100"
    return .text (signOf d ++ exponentText digits exponent)
  | .toFixed =>
    let d ← thisNumber i.this
    match ← toWhole (i.arg 0) with
    | .finite n =>
      if n < 0 || 100 < n then rangeError "toFixed() digits argument must be between 0 and 100"
      if !d.isFinite || 1e21 ≤ d.toFloat.abs then return .text (numberText d)
      return .text (fixedText n.toNat d)
    | .infinite _ => rangeError "toFixed() digits argument must be between 0 and 100"
  | .toPrecision =>
    let d ← thisNumber i.this
    if (i.arg 0).isUndefined then return .text (numberText d)
    let places ← toWhole (i.arg 0)
    if !d.isFinite then return .text (numberText d)
    match places with
    | .finite n =>
      if n < 1 || 100 < n then rangeError "toPrecision() argument must be between 1 and 100"
      let count := n.toNat
      let (digits, exponent) := leadingDigits count d
      if exponent < -6 || (count : Int) ≤ exponent then
        return .text (signOf d ++ exponentText digits exponent)
      else if exponent < 0 then
        return .text (signOf d ++ "0." ++ zerosText (-exponent - 1).toNat ++ digits)
      else
        let front := exponent.toNat + 1
        let tail := String.ofList (digits.toList.drop front)
        return .text (signOf d ++ String.ofList (digits.toList.take front)
          ++ (if tail.isEmpty then "" else "." ++ tail))
    | .infinite _ => rangeError "toPrecision() argument must be between 1 and 100"
  | .toLocaleString => return .text (numberText (← thisNumber i.this))
  | .toString =>
    let d ← thisNumber i.this
    let base ← if (i.arg 0).isUndefined then pure (Whole.finite 10) else toWhole (i.arg 0)
    match base with
    | .finite base =>
      if base < 2 || 36 < base then rangeError "toString() radix must be between 2 and 36"
      if base == 10 || !d.isFinite then return .text (numberText d)
      return .text (radixText base.toNat d)
    | .infinite _ => rangeError "toString() radix must be between 2 and 36"
  | .valueOf => return .number (← thisNumber i.this)

/-! ### Truth values, symbols and big integers -/

def thisBoolean (v : Value) : Comp Bool := do
  match v with
  | .bool b => return b
  | .object r =>
    match ← read (·.kind r) with
    | .boolean b => return b
    | _ => typeError "not a boolean"
  | _ => typeError "not a boolean"

def thisSymbol (v : Value) : Comp Nat := do
  match v with
  | .symbol id => return id
  | .object r =>
    match ← read (·.kind r) with
    | .symbol id => return id
    | _ => typeError "not a symbol"
  | _ => typeError "not a symbol"

def thisBigInt (v : Value) : Comp Int := do
  match v with
  | .bigInt n => return n
  | .object r =>
    match ← read (·.kind r) with
    | .bigInt n => return n
    | _ => typeError "not a BigInt"
  | _ => typeError "not a BigInt"

def bigIntOf (v : Value) : Comp Int := do
  match ← toPrimitive v .number with
  | .number d =>
    match d.toInt? with
    | some n => return n
    | none =>
      if d.isFinite then rangeError "cannot convert to BigInt: not an integer"
      else rangeError "cannot convert NaN or Infinity to BigInt"
  | v => bigIntOfPrimitive v

def primitiveFunction (f : PrimitiveFunction) (i : Invocation) : Comp Value := do
  match f with
  | .boolean =>
    let b := truthy (i.arg 0)
    if i.isConstruct then return .object (← newFrom i.newTarget .booleanPrototype (.boolean b))
    else return .bool b
  | .booleanToString => return .text (if ← thisBoolean i.this then "true" else "false")
  | .booleanValueOf => return .bool (← thisBoolean i.this)
  | .symbol =>
    if i.isConstruct then typeError "not a constructor"
    let description ← if (i.arg 0).isUndefined then pure none else do pure (some (← toText (i.arg 0)))
    return .symbol (← change fun h => h.newSymbol { description := description })
  | .symbolFor =>
    let s ← toText (i.arg 0)
    match ← read fun h => h.symbols.findIdx? (·.registered == some s) with
    | some id => return .symbol id
    | none =>
      return .symbol (← change fun h => h.newSymbol { description := some s, registered := some s })
  | .symbolKeyFor =>
    match i.arg 0 with
    | .symbol id =>
      match (← read fun h => h.symbol id).registered with
      | some s => return .string s
      | none => return .undefined
    | _ => typeError "not a symbol"
  | .symbolToString =>
    let d := (← read (·.symbol)) (← thisSymbol i.this)
    return .string ("Symbol(" ++ d.description.getD {} ++ ")")
  | .symbolValueOf | .symbolToPrimitive => return .symbol (← thisSymbol i.this)
  | .symbolDescription =>
    match ((← read (·.symbol)) (← thisSymbol i.this)).description with
    | some s => return .string s
    | none => return .undefined
  | .bigInt =>
    if i.isConstruct then typeError "not a constructor"
    return .bigInt (← bigIntOf (i.arg 0))
  | .bigIntAsIntN | .bigIntAsUintN =>
    let bits ← toIndex (i.arg 0)
    let n ← toBigInt (i.arg 1)
    if Nat.pow 2 24 < bits then return .bigInt n
    let bound : Int := Nat.pow 2 bits
    let rest := n % bound
    if f == .bigIntAsUintN || bits = 0 || 2 * rest < bound then return .bigInt rest
    else return .bigInt (rest - bound)
  | .bigIntToString =>
    let n ← thisBigInt i.this
    let base ← if (i.arg 0).isUndefined then pure (Whole.finite 10) else toWhole (i.arg 0)
    match base with
    | .finite base =>
      if base < 2 || 36 < base then rangeError "toString() radix must be between 2 and 36"
      return .text (intText base.toNat n)
    | .infinite _ => rangeError "toString() radix must be between 2 and 36"
  | .bigIntValueOf => return .bigInt (← thisBigInt i.this)

/-! ### Mathematics -/

def one : Double := Double.ofNat 1

/-- The logarithm of one more than a number, exact also near zero. -/
def logOfSuccessor (x : Float) : Float :=
  let u := 1.0 + x
  if u == 1.0 then x else if u.isInf then u else u.log * x / (u - 1.0)

/-- One less than the exponential of a number, exact also near zero. -/
def exponentialLessOne (x : Float) : Float :=
  let u := x.exp
  if u == 1.0 then x
  else if u - 1.0 == -1.0 then -1.0
  else if u.isInf then u
  else (u - 1.0) * x / u.log

def roundHalf (x : Float) : Float :=
  let low := x.floor
  if x - low ≥ 0.5 then (if low == -1.0 then -0.0 else low + 1.0) else low

def larger (a b : Double) : Double :=
  if a.isNaN || b.isNaN then Double.nan
  else if a.isZero && b.isZero then (if a.negative then b else a)
  else if lessNumber a b then b else a

def smaller (a b : Double) : Double :=
  if a.isNaN || b.isNaN then Double.nan
  else if a.isZero && b.isZero then (if a.negative then a else b)
  else if lessNumber a b then a else b

def mathFunction (f : MathFunction) (i : Invocation) : Comp Value := do
  let real (g : Float → Float) : Comp Value := do
    return .number (.ofFloat (g (← toNumber (i.arg 0)).toFloat))
  match f with
  | .abs => return .number ⟨(← toNumber (i.arg 0)).bits &&& 0x7fffffffffffffff⟩
  | .acos => real Float.acos
  | .acosh => real Float.acosh
  | .asin => real Float.asin
  | .asinh => real Float.asinh
  | .atan => real Float.atan
  | .atan2 =>
    let y ← toNumber (i.arg 0)
    let x ← toNumber (i.arg 1)
    return .number (.ofFloat (Float.atan2 y.toFloat x.toFloat))
  | .atanh => real Float.atanh
  | .cbrt => real Float.cbrt
  | .ceil => real Float.ceil
  | .clz32 =>
    let n ← toWord (i.arg 0)
    return .nat (if n = 0 then 32 else 31 - n.log2)
  | .cos => real Float.cos
  | .cosh => real Float.cosh
  | .exp => real Float.exp
  | .expm1 => real exponentialLessOne
  | .floor => real Float.floor
  | .fround => real fun x => x.toFloat32.toFloat
  | .hypot =>
    let ds ← mapList i.args toNumber
    if ds.any (·.isInfinite) then return .number (Double.infinity false)
    if ds.any (·.isNaN) then return .number Double.nan
    match ds with
    | [] => return .nat 0
    | [d] => return .number ⟨d.bits &&& 0x7fffffffffffffff⟩
    | ds =>
      let largest := ds.foldl (fun m d => max m d.toFloat.abs) 0.0
      if largest == 0.0 then return .nat 0
      let sum := ds.foldl (fun s d => s + (d.toFloat / largest) * (d.toFloat / largest)) 0.0
      return .number (.ofFloat (largest * sum.sqrt))
  | .imul =>
    let a ← toWord (i.arg 0)
    let b ← toWord (i.arg 1)
    return .int (signedWord (a * b % UInt32.size))
  | .log => real Float.log
  | .log10 => real Float.log10
  | .log1p => real logOfSuccessor
  | .log2 => real Float.log2
  | .max | .min =>
    let ds ← mapList i.args toNumber
    return .number (if f == .max then ds.foldl larger (Double.infinity true)
      else ds.foldl smaller (Double.infinity false))
  | .pow =>
    let a ← toNumber (i.arg 0)
    return .number (power a (← toNumber (i.arg 1)))
  | .random =>
    -- the answer depends on how far the script has come, and on nothing outside of it
    let seed ← read fun h => h.cells.size * 2654435761 + h.objects.size * 40503
    discard (change fun h => h.newCell none)
    return .number (Double.ofRatio false (seed % UInt32.size) UInt32.size)
  | .round => real roundHalf
  | .sign => real fun x => if x > 0.0 then 1.0 else if x < 0.0 then -1.0 else x
  | .sin => real Float.sin
  | .sinh => real Float.sinh
  | .sqrt => real Float.sqrt
  | .tan => real Float.tan
  | .tanh => real Float.tanh
  | .trunc => real fun x => if x < 0.0 then x.ceil else x.floor

end ScriptHost.Script.Comp
