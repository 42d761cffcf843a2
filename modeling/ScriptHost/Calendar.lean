/-! The calendar: days counted from the first of January 1970, and the dates that they
are. Years are shifted to begin in March, so that the day that leap years add is the last
of a year; four centuries always have the same number of days. -/

namespace ScriptHost.Calendar

structure Date where
  year : Int
  /-- From zero. -/
  month : Int
  /-- From one. -/
  day : Int
deriving DecidableEq, Repr, Inhabited

/-- The days of four centuries. -/
def era : Int := 146097

/-- Days from the first of March of the year zero to the first of January 1970. -/
def epochShift : Int := 719468

/-- The day on which a month begins, counted from the first of January 1970. Months beyond
a year count on into other years. -/
def monthStart (year month : Int) : Int :=
  let year := year + month.fdiv 12
  let month := month.fmod 12
  let year := if month < 2 then year - 1 else year
  let month := if month < 2 then month + 10 else month - 2
  let century := year.fdiv 400
  let ofEra := year - century * 400
  let ofYear := (153 * month + 2).fdiv 5
  century * era + ofEra * 365 + ofEra.fdiv 4 - ofEra.fdiv 100 + ofYear - epochShift

/-- The date of a day. -/
def dateOf (days : Int) : Date :=
  let shifted := days + epochShift
  let century := shifted.fdiv era
  let ofEra := shifted - century * era
  let year := (ofEra - ofEra.fdiv 1460 + ofEra.fdiv 36524 - ofEra.fdiv 146096).fdiv 365
  let ofYear := ofEra - (365 * year + year.fdiv 4 - year.fdiv 100)
  let month := (5 * ofYear + 2).fdiv 153
  let day := ofYear - (153 * month + 2).fdiv 5 + 1
  let early := 10 ≤ month
  ⟨year + century * 400 + (if early then 1 else 0), if early then month - 10 else month + 2, day⟩

/-- The day of the week, Sunday being zero. -/
def weekday (days : Int) : Int := (days + 4).fmod 7

end ScriptHost.Calendar
