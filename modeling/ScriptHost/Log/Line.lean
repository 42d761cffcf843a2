import ScriptHost.Log.Record
import ScriptHost.Settings.Basic
import ScriptHost.Text.Quoted

/-! How an event is written: the time, the level, the part that speaks, the message and
the values. -/

namespace ScriptHost.Log

/-- A character of a message; those that steer terminals are shown by their codes. -/
def plainChar (c : Char) : String :=
  if c == '\x1b' then "\\x1b"
  else if c == '\x07' then "\\x07"
  else if c == '\x08' then "\\x08"
  else if c == '\x0c' then "\\x0c"
  else if c == '\x7f' then "\\x7f"
  else if 0x80 ≤ c.toNat && c.toNat ≤ 0x9F then "\\u\x7b" ++ Text.hex c.toNat ++ "\x7d"
  else c.toString

/-- The level, with room for the longest name. -/
def Level.column (l : Level) : String := "".pushn ' ' (5 - l.word.length) ++ l.word

/-- The text of an event, with the end of its line. -/
def Record.line (format : LogFormat) (time : String) (r : Record) : String :=
  (if format.showTime then time ++ " " else "") ++ r.level.column ++ " "
    ++ (if format.showTarget then r.target ++ ": " else "")
    ++ "".intercalate (r.message.toList.map plainChar)
    ++ "".intercalate (r.values.map fun (name, value) => " " ++ name ++ "=" ++ value) ++ "\n"

end ScriptHost.Log
