import ScriptHost.Wire.Datum

/-! Payloads under a size limit. Everything that crosses the dispatcher is written with
one limit; reading ignores it, since what arrives has been measured already. A script
without options travels as its bare text, any other behind a tag byte. -/

namespace ScriptHost

/-- What can go wrong between a value and its payload. -/
inductive CodecError where
  | malformed (reason : String)
  | notText (fault : Utf8.Fault)
  | encoding (reason : String)
deriving DecidableEq, Repr

def CodecError.message : CodecError → String
  | .malformed reason => "malformed payload: " ++ reason
  | .notText fault => "payload is not valid UTF-8: " ++ fault.message
  | .encoding reason => "payload encoding failed: " ++ reason

/-- The size that a single payload may have. -/
structure Codec where
  limit : Nat
deriving DecidableEq, Repr

namespace Codec

/-- Sixteen mebibytes. -/
def defaultLimit : Nat := 16 * 1024 * 1024

/-- The first byte of a script payload that carries options. -/
def evalTag : UInt8 := 0

def encode [Wire α] (codec : Codec) (a : α) : Except CodecError (List UInt8) :=
  let bytes := Wire.write a
  if bytes.length ≤ codec.limit then .ok bytes
  else .error (.encoding "the size limit has been reached")

def decode [Wire α] (bytes : List UInt8) : Except CodecError α :=
  match Wire.readAll bytes with
  | .ok a => .ok a
  | .error fault => .error (.malformed fault.message)

/-- Text as it travels in scripts and names. -/
def decodeText (bytes : List UInt8) : Except CodecError String :=
  match Utf8.decode bytes with
  | .ok s => .ok s
  | .error fault => .error (.notText fault)

/-- The payload of a script. The limit does not concern bare text, nor the tag byte. -/
def encodeEval (codec : Codec) (r : EvalRequest) : Except CodecError (List UInt8) :=
  if r.hasOptions then (codec.encode r).map (evalTag :: ·)
  else .ok (Utf8.encode r.source)

def decodeEval (bytes : List UInt8) : Except CodecError EvalRequest :=
  match bytes with
  | b :: rest =>
    if b = evalTag then decode rest else return ⟨← decodeText bytes, none, false, none⟩
  | [] => return ⟨← decodeText bytes, none, false, none⟩

/-- Engine options; an empty payload stands for none. -/
def decodeOptions (bytes : List UInt8) : Except CodecError EngineOptions :=
  if bytes.isEmpty then .ok {} else decode bytes

end Codec

end ScriptHost
