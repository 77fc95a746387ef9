import ShaderLift.Text.Basic
import ShaderLift.Text.Printable

namespace ShaderLift.Text

inductive EncodingIssue where
  | badStart
  | badContinuation
  | endOfData
  deriving DecidableEq

/-- The first place at which bytes stop being text: its offset and the number of bytes at fault. -/
structure EncodingError where
  position : Nat
  bytes : List UInt8
  issue : EncodingIssue
  deriving DecidableEq

/-- What a first byte announces: its payload and the ranges that the following bytes must be in. -/
def leadByte? (b : UInt8) : Option (Nat × List (Nat × Nat)) :=
  let n := b.toNat
  let tail := (0x80, 0xbf)
  if n < 0x80 then some (n, [])
  else if 0xc2 ≤ n && n ≤ 0xdf then some (n - 0xc0, [tail])
  else if n = 0xe0 then some (0, [(0xa0, 0xbf), tail])
  else if n = 0xed then some (13, [(0x80, 0x9f), tail])
  else if 0xe1 ≤ n && n ≤ 0xef then some (n - 0xe0, [tail, tail])
  else if n = 0xf0 then some (0, [(0x90, 0xbf), tail, tail])
  else if n = 0xf4 then some (4, [(0x80, 0x8f), tail, tail])
  else if 0xf1 ≤ n && n ≤ 0xf3 then some (n - 0xf0, [tail, tail, tail])
  else none

/-- A character being read: the bytes read of it, its value so far and what must follow. -/
structure PartialChar where
  bytes : List UInt8
  value : Nat
  expected : List (Nat × Nat)

/-- Decodes bytes from an offset on, inside a character if one is pending. -/
def decodeFrom (position : Nat) : Option PartialChar → List UInt8 → Except EncodingError Text
  | none, [] => .ok []
  | some pending, [] => .error ⟨position, pending.bytes, .endOfData⟩
  | none, b :: rest =>
    match leadByte? b with
    | none => .error ⟨position, [b], .badStart⟩
    | some (value, []) => (decodeFrom (position + 1) none rest).map (Char.ofNat value :: ·)
    | some (value, expected) => decodeFrom position (some ⟨[b], value, expected⟩) rest
  | some pending, b :: rest =>
    match pending.expected with
    | [] => .error ⟨position, pending.bytes, .badContinuation⟩
    | (low, high) :: others =>
      if low ≤ b.toNat && b.toNat ≤ high then
        let value := pending.value * 64 + (b.toNat - 0x80)
        let bytes := pending.bytes ++ [b]
        if others.isEmpty then
          (decodeFrom (position + bytes.length) none rest).map (Char.ofNat value :: ·)
        else decodeFrom position (some ⟨bytes, value, others⟩) rest
      else .error ⟨position, pending.bytes, .badContinuation⟩

def decode (bytes : List UInt8) : Except EncodingError Text := decodeFrom 0 none bytes

def encode (text : Text) : List UInt8 := text.flatMap String.utf8EncodeChar

def EncodingIssue.message : EncodingIssue → Text
  | .badStart => "invalid start byte"
  | .badContinuation => "invalid continuation byte"
  | .endOfData => "unexpected end of data"

def EncodingError.message (e : EncodingError) : Text :=
  let place : Text :=
    match e.bytes with
    | [b] => "byte 0x" ++ hexDigits 2 b.toNat ++ " in position " ++ ofNat e.position
    | bytes =>
      "bytes in position " ++ ofNat e.position ++ "-" ++ ofNat (e.position + bytes.length - 1)
  "'utf-8' codec can't decode " ++ place ++ ": " ++ e.issue.message

end ShaderLift.Text
