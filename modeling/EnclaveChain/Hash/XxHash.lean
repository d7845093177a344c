import EnclaveChain.Hash.Word

/-!
# XXH64 and the hashes made of it

XXH64 reads stripes of four words into four accumulators, folds these into one word, mixes in what
is left of the input by words, half words and bytes, and scrambles the result. The chain joins the
digests under the seeds 0, 1, 2 and 3 to hashes of 64, 128 and 256 bits.
-/
namespace EnclaveChain.Hash.XxHash

/-- The first multiplier. -/
def prime1 : UInt64 := 0x9E3779B185EBCA87

/-- The second multiplier. -/
def prime2 : UInt64 := 0xC2B2AE3D27D4EB4F

/-- The third multiplier. -/
def prime3 : UInt64 := 0x165667B19E3779F9

/-- The fourth multiplier. -/
def prime4 : UInt64 := 0x85EBCA77C2B2AE63

/-- The fifth multiplier. -/
def prime5 : UInt64 := 0x27D4EB2F165667C5

/-- The four accumulators. -/
structure Lanes where
  /-- Reads the first word of a stripe. -/
  first : UInt64
  /-- Reads the second word of a stripe. -/
  second : UInt64
  /-- Reads the third word of a stripe. -/
  third : UInt64
  /-- Reads the fourth word of a stripe. -/
  fourth : UInt64

/-- Mixes a word into an accumulator. -/
def round (lane word : UInt64) : UInt64 := rotateLeft (lane + word * prime2) 31 * prime1

/-- The accumulators under a seed. -/
def start (seed : UInt64) : Lanes :=
  ⟨seed + prime1 + prime2, seed + prime2, seed, seed - prime1⟩

/-- Reads so many stripes of 32 bytes. -/
def stripes : Nat → Lanes → Bytes → Lanes
  | 0, lanes, _ => lanes
  | count + 1, lanes, bytes =>
    stripes count
      ⟨round lanes.first (wordOf bytes), round lanes.second (wordOf (bytes.drop 8)),
        round lanes.third (wordOf (bytes.drop 16)), round lanes.fourth (wordOf (bytes.drop 24))⟩
      (bytes.drop 32)

/-- Folds an accumulator into the digest. -/
def merge (digest lane : UInt64) : UInt64 := (digest ^^^ round 0 lane) * prime1 + prime4

/-- The digest of the accumulators. -/
def converge (lanes : Lanes) : UInt64 :=
  let sum := rotateLeft lanes.first 1 + rotateLeft lanes.second 7 + rotateLeft lanes.third 12 +
    rotateLeft lanes.fourth 18
  merge (merge (merge (merge sum lanes.first) lanes.second) lanes.third) lanes.fourth

/-- Mixes in so many words. -/
def words : Nat → UInt64 → Bytes → UInt64
  | 0, digest, _ => digest
  | count + 1, digest, bytes =>
    words count (rotateLeft (digest ^^^ round 0 (wordOf bytes)) 27 * prime1 + prime4) (bytes.drop 8)

/-- Mixes in a half word. -/
def half (digest : UInt64) (bytes : Bytes) : UInt64 :=
  rotateLeft (digest ^^^ (wordOf (bytes.take 4) * prime1)) 23 * prime2 + prime3

/-- Mixes in a byte. -/
def single (digest : UInt64) (byte : UInt8) : UInt64 :=
  rotateLeft (digest ^^^ (byte.toUInt64 * prime5)) 11 * prime1

/-- Mixes in the last bytes, fewer than 32. -/
def tail (digest : UInt64) (bytes : Bytes) : UInt64 :=
  let digest := words (bytes.length / 8) digest bytes
  let bytes := bytes.drop (8 * (bytes.length / 8))
  if bytes.length < 4 then bytes.foldl single digest
  else (bytes.drop 4).foldl single (half digest bytes)

/-- Spreads every bit over the whole digest. -/
def scramble (digest : UInt64) : UInt64 :=
  let digest := (digest ^^^ (digest >>> 33)) * prime2
  let digest := (digest ^^^ (digest >>> 29)) * prime3
  digest ^^^ (digest >>> 32)

/-- The digest of a byte string under a seed. -/
def digest (seed : UInt64) (data : Bytes) : UInt64 :=
  let count := data.length / 32
  let opening := if count = 0 then seed + prime5 else converge (stripes count (start seed) data)
  scramble (tail (opening + UInt64.ofNat data.length) (data.drop (32 * count)))

/-- The digests under the first seeds, one after the other. -/
def twox (seeds : List UInt64) (data : Bytes) : Bytes :=
  seeds.flatMap fun seed => bytesOf (digest seed data)

/-- The hash of 64 bits. -/
def twox64 (data : Bytes) : Bytes := twox [0] data

/-- The hash of 128 bits. -/
def twox128 (data : Bytes) : Bytes := twox [0, 1] data

/-- The hash of 256 bits. -/
def twox256 (data : Bytes) : Bytes := twox [0, 1, 2, 3] data

/-- Each seed adds eight bytes. -/
theorem length_twox (seeds : List UInt64) (data : Bytes) :
    (twox seeds data).length = 8 * seeds.length := by
  induction seeds with
  | nil => rfl
  | cons seed seeds ih =>
    simp only [twox, List.flatMap_cons, List.length_append, length_bytesOf,
      List.length_cons] at ih ⊢
    omega

/-- The hash of 64 bits has 8 bytes. -/
@[simp]
theorem length_twox64 (data : Bytes) : (twox64 data).length = 8 := length_twox [0] data

/-- The hash of 128 bits has 16 bytes. -/
@[simp]
theorem length_twox128 (data : Bytes) : (twox128 data).length = 16 := length_twox [0, 1] data

/-- The hash of 256 bits has 32 bytes. -/
@[simp]
theorem length_twox256 (data : Bytes) : (twox256 data).length = 32 :=
  length_twox [0, 1, 2, 3] data

end EnclaveChain.Hash.XxHash
