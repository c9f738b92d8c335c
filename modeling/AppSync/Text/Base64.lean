/-! Base64: bytes written with sixty-four characters, six bits each. -/

namespace AppSync.Base64

/-- Why characters spell no bytes. -/
inductive Fault where
  /-- A single character is left over after this many full groups' characters and itself. -/
  | leftOver (count : Nat)
  /-- The last group is neither full nor padded. -/
  | unpadded
deriving DecidableEq, Repr

/-- The sentence that states a fault. -/
def Fault.message : Fault → String
  | .leftOver count =>
    s!"Invalid base64-encoded string: number of data characters ({count}) cannot be 1 more " ++
      "than a multiple of 4"
  | .unpadded => "Incorrect padding"

/-- The six bits that a character stands for. -/
def bits? (c : Char) : Option Nat :=
  if 'A' ≤ c ∧ c ≤ 'Z' then some (c.toNat - 'A'.toNat)
  else if 'a' ≤ c ∧ c ≤ 'z' then some (c.toNat - 'a'.toNat + 26)
  else if c.isDigit then some (c.toNat - '0'.toNat + 52)
  else if c = '+' then some 62
  else if c = '/' then some 63
  else none

/-- The characters of the group being read, as numbers of six bits, and the bytes before it. -/
structure Partial where
  bytes : List UInt8 := []
  group : List Nat := []
  pads : Nat := 0

/-- The bytes that the numbers of a group spell, leftover bits dropped. -/
def groupBytes : List Nat → List UInt8
  | a :: b :: rest => UInt8.ofNat (a * 4 + b / 16) ::
      match rest with
      | c :: rest => UInt8.ofNat (b * 16 + c / 4) ::
          match rest with
          | d :: _ => [UInt8.ofNat (c * 64 + d)]
          | [] => []
      | [] => []
  | _ => []

/-- Reads characters; padding that completes a group ends the text, and others are skipped. -/
def decodeFrom (sofar : Partial) : List Char → Except Fault (List UInt8)
  | [] =>
    match sofar.group with
    | [] => .ok sofar.bytes
    | [_] => .error (.leftOver (sofar.bytes.length / 3 * 4 + 1))
    | _ => .error .unpadded
  | c :: rest =>
    if c = '=' then
      let pads := if 2 ≤ sofar.group.length then sofar.pads + 1 else sofar.pads
      if 2 ≤ sofar.group.length ∧ 4 ≤ sofar.group.length + pads then
        .ok (sofar.bytes ++ groupBytes sofar.group)
      else decodeFrom { sofar with pads } rest
    else
      match bits? c with
      | none => decodeFrom sofar rest
      | some bits =>
        let group := sofar.group ++ [bits]
        if group.length = 4 then decodeFrom ⟨sofar.bytes ++ groupBytes group, [], 0⟩ rest
        else decodeFrom ⟨sofar.bytes, group, 0⟩ rest

/-- The bytes that a text spells. -/
def decode (text : List Char) : Except Fault (List UInt8) :=
  decodeFrom {} text

end AppSync.Base64
