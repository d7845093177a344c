import EnclaveChain.Scale.Bytes

/-!
# Words of a hash

Both hash functions of the chain work on 64-bit words that are read from and written to bytes low
byte first.
-/
namespace EnclaveChain.Hash

/-- The word whose low-byte-first digits these are; bytes after the eighth are dropped. -/
def wordOf (bytes : Bytes) : UInt64 := UInt64.ofNat (Bytes.ofLittleEndian (bytes.take 8))

/-- The eight bytes of a word. -/
def bytesOf (word : UInt64) : Bytes := Bytes.littleEndian 8 word.toNat

/-- A word has eight bytes. -/
@[simp]
theorem length_bytesOf (word : UInt64) : (bytesOf word).length = 8 := by simp [bytesOf]

/-- The bits of a word moved up, those that leave it coming back from below. -/
def rotateLeft (word count : UInt64) : UInt64 := (word <<< count) ||| (word >>> (64 - count))

end EnclaveChain.Hash
