import EnclaveChain.Hash.Word
import EnclaveChain.Number.Power

/-!
# BLAKE2b without a key

BLAKE2b reads blocks of 16 words. Each block is mixed into eight chaining words by twelve rounds
over a square of sixteen working words, first by its columns, then by its diagonals. The digest is
the front of the chaining words after the last block.
-/
namespace EnclaveChain.Hash.Blake2b

/-- The chaining words before the parameters are mixed in. -/
def initial : Vector UInt64 8 :=
  #v[0x6a09e667f3bcc908, 0xbb67ae8584caa73b, 0x3c6ef372fe94f82b, 0xa54ff53a5f1d36f1,
    0x510e527fade682d1, 0x9b05688c2b3e6c1f, 0x1f83d9abfb41bd6b, 0x5be0cd19137e2179]

/-- The order in which a round reads the words of a block. -/
abbrev Schedule := Vector (Fin 16) 16

/-- The schedules of the twelve rounds. -/
def schedules : List Schedule :=
  [#v[0, 1, 2, 3, 4, 5, 6, 7, 8, 9, 10, 11, 12, 13, 14, 15],
    #v[14, 10, 4, 8, 9, 15, 13, 6, 1, 12, 0, 2, 11, 7, 5, 3],
    #v[11, 8, 12, 0, 5, 2, 15, 13, 10, 14, 3, 6, 7, 1, 9, 4],
    #v[7, 9, 3, 1, 13, 12, 11, 14, 2, 6, 5, 10, 4, 0, 15, 8],
    #v[9, 0, 5, 7, 2, 4, 10, 15, 14, 1, 11, 12, 6, 8, 3, 13],
    #v[2, 12, 6, 10, 0, 11, 8, 3, 4, 13, 7, 5, 15, 14, 1, 9],
    #v[12, 5, 1, 15, 14, 13, 4, 10, 0, 7, 6, 3, 9, 2, 8, 11],
    #v[13, 11, 7, 14, 12, 1, 3, 9, 5, 0, 15, 4, 8, 6, 2, 10],
    #v[6, 15, 14, 9, 11, 3, 0, 8, 12, 2, 13, 7, 1, 4, 10, 5],
    #v[10, 2, 8, 4, 7, 6, 1, 5, 15, 11, 9, 14, 3, 12, 13, 0],
    #v[0, 1, 2, 3, 4, 5, 6, 7, 8, 9, 10, 11, 12, 13, 14, 15],
    #v[14, 10, 4, 8, 9, 15, 13, 6, 1, 12, 0, 2, 11, 7, 5, 3]]

/-- The working words. -/
abbrev Square := Vector UInt64 16

/-- The bits of a word moved down, those that leave it coming back from above. -/
def rotateRight (word count : UInt64) : UInt64 := rotateLeft word (64 - count)

/-- Mixes two words of a block into four working words. -/
def mix (square : Square) (a b c d : Fin 16) (x y : UInt64) : Square :=
  let square := square.set a (square[a] + square[b] + x)
  let square := square.set d (rotateRight (square[d] ^^^ square[a]) 32)
  let square := square.set c (square[c] + square[d])
  let square := square.set b (rotateRight (square[b] ^^^ square[c]) 24)
  let square := square.set a (square[a] + square[b] + y)
  let square := square.set d (rotateRight (square[d] ^^^ square[a]) 16)
  let square := square.set c (square[c] + square[d])
  square.set b (rotateRight (square[b] ^^^ square[c]) 63)

/-- One round: the four columns, then the four diagonals. -/
def round (block : Vector UInt64 16) (square : Square) (order : Schedule) : Square :=
  let square := mix square 0 4 8 12 block[order[0]] block[order[1]]
  let square := mix square 1 5 9 13 block[order[2]] block[order[3]]
  let square := mix square 2 6 10 14 block[order[4]] block[order[5]]
  let square := mix square 3 7 11 15 block[order[6]] block[order[7]]
  let square := mix square 0 5 10 15 block[order[8]] block[order[9]]
  let square := mix square 1 6 11 12 block[order[10]] block[order[11]]
  let square := mix square 2 7 8 13 block[order[12]] block[order[13]]
  mix square 3 4 9 14 block[order[14]] block[order[15]]

/-- The words of the first 128 bytes; missing bytes are zero. -/
def blockOf (bytes : Bytes) : Vector UInt64 16 :=
  Vector.ofFn fun position => wordOf (bytes.drop (8 * position.val))

/-- Mixes a block into the chaining words, when so many bytes have been read with it. -/
def compress (chain : Vector UInt64 8) (bytes : Bytes) (count : Nat) (final : Bool) :
    Vector UInt64 8 :=
  let square : Square := chain ++ initial
  let square := square.set 12 (square[12] ^^^ UInt64.ofNat count)
  let square := square.set 13 (square[13] ^^^ UInt64.ofNat (count / 2 ^ 64))
  let square := if final then square.set 14 (~~~square[14]) else square
  let square := schedules.foldl (round (blockOf bytes)) square
  Vector.ofFn fun position =>
    chain[position] ^^^ square[position.val] ^^^ square[position.val + 8]

/-- Mixes in so many blocks and then the last one, which may be short or empty. -/
def absorb : Nat → Vector UInt64 8 → Nat → Bytes → Vector UInt64 8
  | 0, chain, count, bytes => compress chain bytes (count + bytes.length) true
  | blocks + 1, chain, count, bytes =>
    absorb blocks (compress chain bytes (count + 128) false) (count + 128) (bytes.drop 128)

/-- The chaining words with the size of the digest mixed in. -/
def start (size : Nat) : Vector UInt64 8 :=
  initial.set 0 (initial[0] ^^^ 0x01010000 ^^^ UInt64.ofNat size)

/-- The digest of a byte string, of a size up to 64 bytes. -/
def digest (size : Nat) (data : Bytes) : Bytes :=
  ((absorb ((data.length - 1) / 128) (start size) 0 data).toList.flatMap bytesOf).take size

/-- Bytes of words, eight for each. -/
theorem length_flatMap_bytesOf (words : List UInt64) :
    (words.flatMap bytesOf).length = 8 * words.length := by
  induction words with
  | nil => rfl
  | cons word words ih =>
    simp only [List.flatMap_cons, List.length_append, length_bytesOf, List.length_cons, ih]
    omega

/-- A digest has the size asked for. -/
theorem length_digest {size : Nat} (fits : size ≤ 64) (data : Bytes) :
    (digest size data).length = size := by
  simp only [digest, List.length_take, length_flatMap_bytesOf, Vector.length_toList]
  omega

/-- The hash of 128 bits. -/
def blake2b128 (data : Bytes) : Bytes := digest 16 data

/-- The hash of 256 bits. -/
def blake2b256 (data : Bytes) : Bytes := digest 32 data

/-- The hash of 512 bits. -/
def blake2b512 (data : Bytes) : Bytes := digest 64 data

/-- The hash of 128 bits has 16 bytes. -/
@[simp]
theorem length_blake2b128 (data : Bytes) : (blake2b128 data).length = 16 :=
  length_digest (by decide) data

/-- The hash of 256 bits has 32 bytes. -/
@[simp]
theorem length_blake2b256 (data : Bytes) : (blake2b256 data).length = 32 :=
  length_digest (by decide) data

end EnclaveChain.Hash.Blake2b
