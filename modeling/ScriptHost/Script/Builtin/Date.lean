import ScriptHost.Calendar
import ScriptHost.Script.Builtin.Array

/-! The built-in functions on dates. A date is a number of milliseconds; local time is
universal time. -/

namespace ScriptHost.Script.Comp

def msPerDay : Int := 86400000

/-- The parts of a moment: year, month, day, hour, minute, second, millisecond and day of
the week. -/
def momentParts (ms : Int) : List Int :=
  let days := ms.fdiv msPerDay
  let rest := ms.fmod msPerDay
  let d := Calendar.dateOf days
  [d.year, d.month, d.day, rest / 3600000, rest / 60000 % 60, rest / 1000 % 60, rest % 1000,
   Calendar.weekday days]

/-- The moment of parts, each of which may be beyond its usual bounds. -/
def momentOf (parts : List Int) : Int :=
  let part (n : Nat) : Int := parts.getD n 0
  (Calendar.monthStart (part 0) (part 1) + part 2 - 1) * msPerDay
    + part 3 * 3600000 + part 4 * 60000 + part 5 * 1000 + part 6

/-- The number of a moment, unless it is too far away. -/
def clipMoment (ms : Int) : Double :=
  if ms.natAbs ≤ 8640000000000000 then Double.ofInt ms else .nan

/-- All whole numbers of some values; none if one of them is no finite number. -/
def wholeParts (vs : List Value) : Comp (Option (List Int)) := do
  let ds ← mapList vs toNumber
  return ds.mapM fun d =>
    if d.isFinite && d.toFloat.abs < 1e15 then some (ElementType.integerPart d) else none

/-- The number of a date given by its parts. Years below a hundred are of the last
century. -/
def dateFromParts (vs : List Value) : Comp Double := do
  match ← wholeParts (vs.take 7) with
  | some (year :: parts) =>
    let year := if 0 ≤ year ∧ year < 100 then year + 1900 else year
    let parts := parts ++ [0, 1, 0, 0, 0, 0].drop parts.length
    return clipMoment (momentOf (year :: parts))
  | _ => return .nan

/-! ### Reading and writing -/

def digitsOf (count : Nat) (cs : List Char) : Option (Int × List Char) :=
  let digits := cs.take count
  if digits.length == count && digits.all Char.isDigit then
    some (digits.foldl (fun n c => n * 10 + (c.toNat - '0'.toNat : Nat)) 0, cs.drop count)
  else none

/-- What follows a mark, if it is there: a number of some digits. -/
def afterMark (mark : Char) (count : Nat) (cs : List Char) : Option (Int × List Char) :=
  match cs with
  | c :: rest => if c == mark then digitsOf count rest else none
  | [] => none

/-- The thousandths after a point. -/
def thousandths (cs : List Char) : Int × List Char :=
  match cs with
  | '.' :: rest =>
    let digits := rest.takeWhile Char.isDigit
    let value := (digits ++ ['0', '0', '0']).take 3
    (value.foldl (fun n c => n * 10 + (c.toNat - '0'.toNat : Nat)) 0, rest.dropWhile Char.isDigit)
  | cs => (0, cs)

/-- The minutes by which a zone is ahead of universal time. -/
def zoneOffset? (cs : List Char) : Option Int :=
  match cs with
  | [] | ['Z'] => some 0
  | sign :: rest =>
    if sign == '+' || sign == '-' then do
      let (hours, rest) ← digitsOf 2 rest
      let (minutes, rest) ← match rest with
        | ':' :: rest => digitsOf 2 rest
        | rest => digitsOf 2 rest
      if rest.isEmpty then some ((if sign == '-' then -1 else 1) * (hours * 60 + minutes)) else none
    else none

/-- The moment that a text in the standard format stands for. -/
def readDate (s : String) : Option Int := do
  let cs := s.toList
  let (year, cs) ← match cs with
    | '+' :: rest => digitsOf 6 rest
    | '-' :: rest => (digitsOf 6 rest).map fun (n, rest) => (-n, rest)
    | cs => digitsOf 4 cs
  let (month, cs) := (afterMark '-' 2 cs).getD (1, cs)
  let (day, cs) := (afterMark '-' 2 cs).getD (1, cs)
  if month < 1 || 12 < month || day < 1 || 31 < day then none
  else
    let date := [year, month - 1, day]
    match cs with
    | [] => some (momentOf date)
    | mark :: rest =>
      if mark != 'T' && mark != ' ' then none
      else do
        let (hour, rest) ← digitsOf 2 rest
        let (minute, rest) ← afterMark ':' 2 rest
        let (second, rest) := (afterMark ':' 2 rest).getD (0, rest)
        let (ms, rest) := thousandths rest
        let zone ← zoneOffset? rest
        if 24 < hour || 59 < minute || 59 < second then none
        else some (momentOf (date ++ [hour, minute - zone, second, ms]))

def padded (width : Nat) (n : Int) : String :=
  let digits := toString n.natAbs
  "".pushn '0' (width - digits.length) ++ digits

def weekdayNames : List String := ["Sun", "Mon", "Tue", "Wed", "Thu", "Fri", "Sat"]

def monthNames : List String :=
  ["Jan", "Feb", "Mar", "Apr", "May", "Jun", "Jul", "Aug", "Sep", "Oct", "Nov", "Dec"]

def yearText (year : Int) : String :=
  (if year < 0 then "-" else "") ++ padded (if year < 0 then 6 else 4) year

/-- The texts of a date: those of the day and of the time, for each format. -/
def dateText (f : DateFunction) (ms : Int) : String :=
  let parts := momentParts ms
  let part (n : Nat) : Int := parts.getD n 0
  let weekday := weekdayNames.getD (part 7).toNat ""
  let month := monthNames.getD (part 1).toNat ""
  let clock := padded 2 (part 3) ++ ":" ++ padded 2 (part 4) ++ ":" ++ padded 2 (part 5)
  let day := weekday ++ " " ++ month ++ " " ++ padded 2 (part 2) ++ " " ++ yearText (part 0)
  let hour := (part 3 + 11) % 12 + 1
  let local_ := padded 2 (part 1 + 1) ++ "/" ++ padded 2 (part 2) ++ "/" ++ yearText (part 0)
  let localClock := padded 2 hour ++ ":" ++ padded 2 (part 4) ++ ":" ++ padded 2 (part 5)
    ++ (if part 3 < 12 then " AM" else " PM")
  match f with
  | .toISOString =>
    let year := if 0 ≤ part 0 ∧ part 0 ≤ 9999 then padded 4 (part 0)
      else (if part 0 < 0 then "-" else "+") ++ padded 6 (part 0)
    year ++ "-" ++ padded 2 (part 1 + 1) ++ "-" ++ padded 2 (part 2) ++ "T" ++ clock ++ "."
      ++ padded 3 (part 6) ++ "Z"
  | .toUTCString =>
    weekday ++ ", " ++ padded 2 (part 2) ++ " " ++ month ++ " " ++ yearText (part 0) ++ " " ++ clock
      ++ " GMT"
  | .toDateString => day
  | .toTimeString => clock ++ " GMT+0000"
  | .toLocaleString => local_ ++ ", " ++ localClock
  | .toLocaleDateString => local_
  | .toLocaleTimeString => localClock
  | _ => day ++ " " ++ clock ++ " GMT+0000"

/-! ### The functions -/

/-- The moment at which all scripts run: the engine has no clock. -/
def now : Double := Double.ofInt 1700000000000

def dateOf (v : Value) : Comp (Ref × Double) := do
  match v with
  | .object r =>
    match ← read (·.kind r) with
    | .date d => return (r, d)
    | _ => typeError "not a Date object"
  | _ => typeError "not a Date object"

def readDateText (s : String) : Double :=
  match readDate s with
  | some ms => clipMoment ms
  | none => .nan

def newDateObject (i : Invocation) : Comp Value := do
  unless i.isConstruct do return .text (dateText .toString 1700000000000)
  let d ← match i.args with
    | [] => pure now
    | [.object r] => do
      match ← read (·.kind r) with
      | .date d => pure d
      | _ =>
        match ← toPrimitive (.object r) .any with
        | .string s => pure (readDateText s.display)
        | v => do
          let d ← toNumber v
          pure (if d.isFinite then clipMoment (ElementType.integerPart d) else .nan)
    | [.string s] => pure (readDateText s.display)
    | [v] => do
      let d ← toNumber v
      pure (if d.isFinite then clipMoment (ElementType.integerPart d) else .nan)
    | vs => dateFromParts vs
  return .object (← newFrom i.newTarget .datePrototype (.date d))

/-- Sets parts of a date from a place on. -/
def setDate (field : Nat) (i : Invocation) : Comp Value := do
  let (r, d) ← dateOf i.this
  let count := match field with
    | 0 => 3
    | 1 => 2
    | 2 => 1
    | n => 7 - n
  let given ← wholeParts ((if i.args.isEmpty then [.undefined] else i.args).take count)
  let base := if d.isNaN && field == 0 then some (momentParts 0) else d.toInt?.map momentParts
  let d : Double := match given, base with
    | some given, some parts =>
      clipMoment (momentOf (parts.take field ++ given ++ parts.drop (field + given.length)))
    | _, _ => .nan
  update fun h => h.setKind r (.date d)
  return .number d

def dateFunction (f : DateFunction) (i : Invocation) : Comp Value := do
  match f with
  | .construct => newDateObject i
  | .now => return .number now
  | .parse => return .number (readDateText (← toDisplay (i.arg 0)))
  | .utc => return .number (← dateFromParts (if i.args.isEmpty then [.undefined] else i.args))
  | .get field _ =>
    let (_, d) ← dateOf i.this
    return match d.toInt? with
      | some ms => .int ((momentParts ms).getD field 0)
      | none => .number .nan
  | .getYear =>
    let (_, d) ← dateOf i.this
    return match d.toInt? with
      | some ms => .int ((momentParts ms).getD 0 0 - 1900)
      | none => .number .nan
  | .set field _ => setDate field i
  | .getTime | .valueOf => return .number (← dateOf i.this).2
  | .setTime =>
    let (r, _) ← dateOf i.this
    let d ← toNumber (i.arg 0)
    let d := if d.isFinite then clipMoment (ElementType.integerPart d) else .nan
    update fun h => h.setKind r (.date d)
    return .number d
  | .getTimezoneOffset =>
    let (_, d) ← dateOf i.this
    return .number (if d.isNaN then d else Double.ofInt 0)
  | .toJSON =>
    let r ← toObject i.this
    match ← toPrimitive (.object r) .number with
    | .number d => if d.isFinite then invoke (.object r) "toISOString" [] else return .null
    | _ => invoke (.object r) "toISOString" []
  | .toPrimitive =>
    let r ← requireObject i.this
    let order ← match i.arg 0 with
      | .string "number" => pure ["valueOf", "toString"]
      | .string "string" | .string "default" => pure ["toString", "valueOf"]
      | _ => typeError "invalid hint"
    firstSimple (.object r) order
  | f =>
    let (_, d) ← dateOf i.this
    match d.toInt? with
    | some ms => return .text (dateText f ms)
    | none => if f == .toISOString then rangeError "Date value is NaN" else return .text "Invalid Date"

end ScriptHost.Script.Comp
