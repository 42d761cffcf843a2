/-! UTF-8 as lists of bytes. Decoding reads one byte at a time and refuses the text
at the first byte that no character can have there; the refusal tells where the
unfinished character began and how many of its bytes were sound. -/

namespace ScriptHost.Utf8

/-- Why bytes are not UTF-8. -/
inductive Fault where
  /-- The bytes of the character at `index` are sound up to the next one, which
  cannot follow `count` bytes. -/
  | invalid (count index : Nat)
  /-- The text ends inside the character at `index`. -/
  | incomplete (index : Nat)
deriving DecidableEq, Repr

def Fault.message : Fault → String
  | .invalid count index =>
    "invalid utf-8 sequence of " ++ toString count ++ " bytes from index " ++ toString index
  | .incomplete index => "incomplete utf-8 byte sequence from index " ++ toString index

/-- The bytes of a text. -/
def encode (s : String) : List UInt8 := s.toList.flatMap String.utf8EncodeChar

/-- A character under way: where it began, how many bytes are read and missing, the
bits so far, and the range of the next byte. -/
structure Pending where
  start : Nat
  taken : Nat
  missing : Nat
  value : Nat
  low : UInt8
  high : UInt8

/-- What a first byte of a longer character promises. The narrower ranges keep out
overlong forms, surrogates and values beyond the last character. -/
def lead? (start : Nat) (b : UInt8) : Option Pending :=
  let promise (missing bits : Nat) (low high : UInt8) : Option Pending :=
    some ⟨start, 1, missing, b.toNat % Nat.pow 2 bits, low, high⟩
  if 0xC2 ≤ b ∧ b ≤ 0xDF then promise 1 5 0x80 0xBF
  else if b = 0xE0 then promise 2 4 0xA0 0xBF
  else if b = 0xED then promise 2 4 0x80 0x9F
  else if 0xE1 ≤ b ∧ b ≤ 0xEF then promise 2 4 0x80 0xBF
  else if b = 0xF0 then promise 3 3 0x90 0xBF
  else if 0xF1 ≤ b ∧ b ≤ 0xF3 then promise 3 3 0x80 0xBF
  else if b = 0xF4 then promise 3 3 0x80 0x8F
  else none

/-- Reads on from `index`, with a character under way or none. -/
def decodeFrom (index : Nat) (pending : Option Pending) (read : String) :
    List UInt8 → Except Fault String
  | [] =>
    match pending with
    | none => .ok read
    | some p => .error (.incomplete p.start)
  | b :: rest =>
    match pending with
    | none =>
      if b < 0x80 then decodeFrom (index + 1) none (read.push (Char.ofNat b.toNat)) rest
      else match lead? index b with
        | some p => decodeFrom (index + 1) (some p) read rest
        | none => .error (.invalid 1 index)
    | some p =>
      if p.low ≤ b ∧ b ≤ p.high then
        let value := p.value * 64 + b.toNat % 64
        if p.missing ≤ 1 then decodeFrom (index + 1) none (read.push (Char.ofNat value)) rest
        else
          let next : Pending := ⟨p.start, p.taken + 1, p.missing - 1, value, 0x80, 0xBF⟩
          decodeFrom (index + 1) (some next) read rest
      else .error (.invalid p.taken p.start)

/-- Reads bytes of which some may be no text: for those of a character that is not sound
there is one replacement character. -/
def decodeLooselyFrom (pending : Option Pending) (read : String) : List UInt8 → String
  | [] => if pending.isSome then read.push '\uFFFD' else read
  | b :: rest =>
    let fresh (read : String) : Option Pending × String :=
      if b < 0x80 then (none, read.push (Char.ofNat b.toNat))
      else match lead? 0 b with
        | some p => (some p, read)
        | none => (none, read.push '\uFFFD')
    let (pending, read) := match pending with
      | none => fresh read
      | some p =>
        if p.low ≤ b ∧ b ≤ p.high then
          let value := p.value * 64 + b.toNat % 64
          if p.missing ≤ 1 then (none, read.push (Char.ofNat value))
          else (some ⟨p.start, p.taken + 1, p.missing - 1, value, 0x80, 0xBF⟩, read)
        else fresh (read.push '\uFFFD')
    decodeLooselyFrom pending read rest

/-- The text of bytes of which some may be no text. -/
def decodeLoosely (bytes : List UInt8) : String := decodeLooselyFrom none "" bytes

/-- The text that bytes stand for. -/
def decode (bytes : List UInt8) : Except Fault String := decodeFrom 0 none "" bytes

end ScriptHost.Utf8
