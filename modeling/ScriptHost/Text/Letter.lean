/-! The characters of Unicode that are white space, and letters, digits and marks beyond ASCII. -/

namespace ScriptHost.Text

/-- Ranges of the property `White_Space`. -/
def blankRanges : List (Nat × Nat) :=
  [(0x09, 0x0D), (0x20, 0x20), (0x85, 0x85), (0xA0, 0xA0), (0x1680, 0x1680), (0x2000, 0x200A),
   (0x2028, 0x2029), (0x202F, 0x202F), (0x205F, 0x205F), (0x3000, 0x3000)]

def isBlank (c : Char) : Bool :=
  blankRanges.any fun range => range.1 ≤ c.toNat && c.toNat ≤ range.2

/-- A text without the blanks at both of its ends. -/
def trim (s : String) : String :=
  String.ofList ((s.toList.dropWhile isBlank).reverse.dropWhile isBlank).reverse

/-- Does a text hold nothing but blanks? -/
def allBlank (s : String) : Bool := s.all isBlank

/-- Ranges beyond ASCII that hold no letters, digits or marks. -/
def noLetterRanges : List (Nat × Nat) :=
  [(0x80, 0xA9), (0xAB, 0xB4), (0xB6, 0xB6), (0xB8, 0xB9), (0xBB, 0xBF), (0xD7, 0xD7),
   (0xF7, 0xF7), (0x1680, 0x1680), (0x2000, 0x203E), (0x2041, 0x2053), (0x2055, 0x2070),
   (0x207A, 0x207E), (0x2080, 0x208F), (0x20A0, 0x20CF), (0x2190, 0x2BFF), (0x2E00, 0x2E7F),
   (0x3000, 0x3004), (0x3008, 0x3020), (0x3030, 0x3030), (0xD800, 0xF8FF), (0xFE10, 0xFE1F),
   (0xFE30, 0xFE32), (0xFE35, 0xFE4C), (0xFE50, 0xFE6F), (0xFEFF, 0xFF0F), (0xFF1A, 0xFF20),
   (0xFF3B, 0xFF3E), (0xFF40, 0xFF40), (0xFF5B, 0xFF65), (0xFFE0, 0xFFFF), (0x1F000, 0x1FAFF)]

def isLetterBeyondAscii (c : Char) : Bool :=
  0x80 ≤ c.toNat && !(noLetterRanges.any fun range => range.1 ≤ c.toNat && c.toNat ≤ range.2)

/-- The zeros of the scripts that have decimal digits; nine more follow each. -/
def digitZeros : List Nat :=
  [0x30, 0x660, 0x6F0, 0x7C0, 0x966, 0x9E6, 0xA66, 0xAE6, 0xB66, 0xBE6, 0xC66, 0xCE6, 0xD66,
   0xDE6, 0xE50, 0xED0, 0xF20, 0x1040, 0x1090, 0x17E0, 0x1810, 0x1946, 0x19D0, 0x1A80, 0x1A90,
   0x1B50, 0x1BB0, 0x1C40, 0x1C50, 0xA620, 0xA8D0, 0xA900, 0xA9D0, 0xA9F0, 0xAA50, 0xABF0,
   0xFF10, 0x104A0, 0x11066, 0x1D7CE, 0x1D7D8, 0x1D7E2, 0x1D7EC, 0x1D7F6]

end ScriptHost.Text
