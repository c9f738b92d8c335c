import AppSync.Text.Hex

/-! UTF-8: the bytes of a text, and the first place where bytes are no text. -/

namespace AppSync.Utf8

/-- Why bytes stop being UTF-8. -/
inductive Fault where
  /-- No character begins with this byte. -/
  | start
  /-- A character was begun and the next byte cannot belong to it. -/
  | continuation
  /-- A character was begun and no byte follows. -/
  | ended
deriving DecidableEq, Repr

/-- A fault, where the unfinished character begins, and the bytes of it that were acceptable. -/
structure Error where
  fault : Fault
  position : Nat
  bytes : List UInt8
deriving DecidableEq, Repr

/-- The reason that is reported for a fault. -/
def Fault.reason : Fault → String
  | .start => "invalid start byte"
  | .continuation => "invalid continuation byte"
  | .ended => "unexpected end of data"

/-- One byte is named by its value, several by their positions. -/
def Error.message (error : Error) : String :=
  let subject :=
    match error.bytes with
    | [byte] => s!"byte 0x{Text.hexAtLeast 2 byte.toNat} in position {error.position}"
    | bytes => s!"bytes in position {error.position}-{error.position + (bytes.length - 1)}"
  s!"'utf-8' codec can't decode {subject}: {error.fault.reason}"

/-- A begun character: bytes still owed, bounds of the next one, the value and the bytes so far. -/
structure Begun where
  owed : Nat
  low : Nat
  high : Nat
  value : Nat
  bytes : List UInt8

/-- What a first byte begins; the bounds rule out long forms, surrogates and values too large. -/
def begin? (byte : UInt8) : Option Begun :=
  let b := byte.toNat
  if b < 0x80 then some ⟨0, 0, 0, b, [byte]⟩
  else if b < 0xc2 then none
  else if b < 0xe0 then some ⟨1, 0x80, 0xbf, b - 0xc0, [byte]⟩
  else if b < 0xf0 then
    some ⟨2, if b = 0xe0 then 0xa0 else 0x80, if b = 0xed then 0x9f else 0xbf, b - 0xe0, [byte]⟩
  else if b < 0xf5 then
    some ⟨3, if b = 0xf0 then 0x90 else 0x80, if b = 0xf4 then 0x8f else 0xbf, b - 0xf0, [byte]⟩
  else none

/-- Reads bytes after `count` of them were read into `read`, newest character first. -/
def decodeFrom (count : Nat) (read : List Char) : Option Begun → List UInt8 →
    Except Error (List Char)
  | none, [] => .ok read.reverse
  | some begun, [] => .error ⟨.ended, count - begun.bytes.length, begun.bytes⟩
  | none, byte :: rest =>
    match begin? byte with
    | none => .error ⟨.start, count, [byte]⟩
    | some begun =>
      if begun.owed = 0 then decodeFrom (count + 1) (Char.ofNat begun.value :: read) none rest
      else decodeFrom (count + 1) read (some begun) rest
  | some begun, byte :: rest =>
    if begun.low ≤ byte.toNat ∧ byte.toNat ≤ begun.high then
      let value := begun.value * 64 + (byte.toNat - 0x80)
      if begun.owed = 1 then decodeFrom (count + 1) (Char.ofNat value :: read) none rest
      else
        decodeFrom (count + 1) read
          (some ⟨begun.owed - 1, 0x80, 0xbf, value, begun.bytes ++ [byte]⟩) rest
    else .error ⟨.continuation, count - begun.bytes.length, begun.bytes⟩

/-- The text that bytes encode. -/
def decode (bytes : List UInt8) : Except Error String :=
  (decodeFrom 0 [] none bytes).map String.ofList

/-- The bytes of a text. -/
def encode (text : String) : List UInt8 :=
  text.toUTF8.toList

end AppSync.Utf8
