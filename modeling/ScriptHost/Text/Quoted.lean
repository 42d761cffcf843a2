/-! Text between double quotes as it is shown to people: quotes, backslashes and
characters that print nothing are escaped. -/

namespace ScriptHost.Text

/-- Ranges of characters that print nothing of their own: controls, formats, separators
other than the space, private use, and code points without a character. -/
def invisibleRanges : List (Nat × Nat) :=
  [(0x00, 0x1F), (0x7F, 0xA0), (0xAD, 0xAD), (0x378, 0x379), (0x600, 0x605), (0x61C, 0x61C),
   (0x6DD, 0x6DD), (0x70F, 0x70F), (0x8E2, 0x8E2), (0x1680, 0x1680), (0x180E, 0x180E),
   (0x2000, 0x200F), (0x2028, 0x202F), (0x205F, 0x206F), (0x3000, 0x3000), (0xE000, 0xF8FF),
   (0xFDD0, 0xFDEF), (0xFEFF, 0xFEFF), (0xFFF0, 0xFFFB), (0xFFFE, 0xFFFF),
   (0x110BD, 0x110BD), (0x1BCA0, 0x1BCA3), (0x1D173, 0x1D17A), (0x1FFFE, 0x1FFFF),
   (0x2FFFE, 0x2FFFF), (0x3134B, 0xE00FF), (0xE01F0, 0x10FFFF)]

/-- Marks that join the character before them; they are shown by their code. -/
def combiningRanges : List (Nat × Nat) :=
  [(0x300, 0x36F), (0x483, 0x489), (0x591, 0x5BD), (0x610, 0x61A), (0x64B, 0x65F),
   (0x1AB0, 0x1ACE), (0x1DC0, 0x1DFF), (0x200C, 0x200C), (0x20D0, 0x20F0), (0x302A, 0x302F),
   (0x3099, 0x309A), (0xFE00, 0xFE0F), (0xFE20, 0xFE2F), (0xE0100, 0xE01EF)]

def isInvisible (c : Char) : Bool :=
  let within (range : Nat × Nat) : Bool := range.1 ≤ c.toNat && c.toNat ≤ range.2
  invisibleRanges.any within || combiningRanges.any within

/-- The hexadecimal digits of a number, lower-case. -/
def hex (n : Nat) : String := String.ofList (Nat.toDigits 16 n)

/-- A character between double quotes. -/
def quoteChar (c : Char) : String :=
  if c = '"' then "\\\""
  else if c = '\\' then "\\\\"
  else if c = '\n' then "\\n"
  else if c = '\r' then "\\r"
  else if c = '\t' then "\\t"
  else if c.toNat = 0 then "\\0"
  else if isInvisible c then "\\u\x7b" ++ hex c.toNat ++ "\x7d"
  else c.toString

/-- A text between double quotes. -/
def quote (s : String) : String :=
  (s.foldl (fun text c => text ++ quoteChar c) "\"").push '"'

end ScriptHost.Text
