import EnclaveChain.Scale.Bytes

/-!
# Hexadecimal text

Bytes are written as two lower-case digits each. Digits of either case are read, in pairs. The
reader works on the UTF-8 bytes of a text, so a fault is placed by byte and a character outside
ASCII counts as the bytes it takes.
-/
namespace EnclaveChain.Hex

/-- The digit of a number below 16. -/
def digit (value : Nat) : Char :=
  if value < 10 then Char.ofNat (48 + value) else Char.ofNat (87 + value)

/-- Two digits for each byte. -/
def encodeChars (bytes : Bytes) : List Char :=
  bytes.flatMap fun byte => [digit (byte.toNat / 16), digit (byte.toNat % 16)]

/-- The digits of a byte string. -/
def encode (bytes : Bytes) : String := String.ofList (encodeChars bytes)

/-- The digits of a byte string after `0x`. -/
def encode0x (bytes : Bytes) : String := "0x" ++ encode bytes

/-- The UTF-8 bytes of a text. -/
def utf8 (text : String) : Bytes := text.toList.flatMap String.utf8EncodeChar

/-- What is wrong with a text that should hold digits. -/
inductive Fault where
  /-- The number of bytes is odd. -/
  | oddLength
  /-- The byte at a position is no digit. -/
  | badDigit (byte : UInt8) (position : Nat)
deriving DecidableEq, Repr

/-- The value of a digit of either case. -/
def digitValue? (byte : UInt8) : Option UInt8 :=
  if 48 ≤ byte ∧ byte ≤ 57 then some (byte - 48)
  else if 65 ≤ byte ∧ byte ≤ 70 then some (byte - 55)
  else if 97 ≤ byte ∧ byte ≤ 102 then some (byte - 87)
  else none

/-- The value of the digit at a position. -/
def digitAt (byte : UInt8) (position : Nat) : Except Fault UInt8 :=
  match digitValue? byte with
  | some value => .ok value
  | none => .error (.badDigit byte position)

/-- Reads pairs of digits, the first of them at a position. -/
def decodePairs (position : Nat) : Bytes → Except Fault Bytes
  | high :: low :: rest =>
    match digitAt high position with
    | .error fault => .error fault
    | .ok upper =>
      match digitAt low (position + 1) with
      | .error fault => .error fault
      | .ok lower =>
        match decodePairs (position + 2) rest with
        | .error fault => .error fault
        | .ok bytes => .ok ((16 * upper + lower) :: bytes)
  | _ => .ok []

/-- Reads the digits of a byte string; an odd number of bytes is reported before any bad one. -/
def decode (digits : Bytes) : Except Fault Bytes :=
  if digits.length % 2 = 1 then .error .oddLength else decodePairs 0 digits

/-- A text without the `0x` it may begin with. -/
def stripMark : Bytes → Bytes
  | 48 :: 120 :: rest => rest
  | digits => digits

/-- Reads the digits of a byte string after an optional `0x`. -/
def decodeText (text : String) : Except Fault Bytes := decode (stripMark (utf8 text))

end EnclaveChain.Hex
