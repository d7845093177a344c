import EnclaveChain.Scale.Decoder

/-!
# Compact integers

The two low bits of the first byte say how a natural number is stored: alone in that byte, in
two bytes, in four bytes, or in bytes of its own after the first, whose number the other six
bits count from four. Only the shortest of these forms is read back.
-/
namespace EnclaveChain.Scale.Compact

/-- The number of bytes that the digits of a number take, at least one. -/
def byteWidth (value : Nat) : Nat := value.log2 / 8 + 1

/-- The shortest form of a number below `256 ^ 67`. -/
def encode (value : Nat) : Bytes :=
  if value < 2 ^ 6 then Bytes.littleEndian 1 (4 * value)
  else if value < 2 ^ 14 then Bytes.littleEndian 2 (4 * value + 1)
  else if value < 2 ^ 30 then Bytes.littleEndian 4 (4 * value + 2)
  else
    let width := byteWidth value
    UInt8.ofNat (4 * (width - 4) + 3) :: Bytes.littleEndian width value

/-- The fault of a first byte that announces more bytes than the width holds: for four bytes
the number is out of range, for wider numbers the first byte itself is unexpected. -/
def tooWide (width : Nat) : Cause :=
  if width = 4 then .compactRange width else .compactWidth width

/-- Passes on a number that a shorter form could not have held. -/
def atLeast (width least value : Nat) : Decoder Nat := fun rest =>
  if least ≤ value then .ok (value, rest) else .error (.bare (.compactRange width))

/-- Reads the rest of a number that shares its first byte with the two mode bits. -/
def shared (width more least : Nat) (first : UInt8) : Decoder Nat :=
  (Decoder.take more .endOfData).andThen fun bytes =>
    atLeast width least (Bytes.ofLittleEndian (first :: bytes) / 4)

/-- Reads a number from bytes of its own. -/
def separate (width count : Nat) : Decoder Nat :=
  if width < count then Decoder.fail (tooWide width)
  else
    (Decoder.take count .endOfData).andThen fun bytes =>
      atLeast width (max (2 ^ 30) (256 ^ (count - 1))) (Bytes.ofLittleEndian bytes)

/-- Reads a number of at most `width` bytes in its shortest form. -/
def decode (width : Nat) : Decoder Nat
  | [] => .error (.bare .endOfData)
  | first :: rest =>
    match first.toNat % 4 with
    | 0 => .ok (first.toNat / 4, rest)
    | 1 => shared width 1 (2 ^ 6) first rest
    | 2 => shared width 3 (2 ^ 14) first rest
    | _ => separate width (first.toNat / 4 + 4) rest

end EnclaveChain.Scale.Compact
