import EnclaveChain.Scale.Bytes

/-!
# Base 58

A byte string as the digits of the number it spells, high byte first, to the base 58. Digits and
letters that are easily mistaken for one another are left out. Each zero byte in front, which the
number does not show, is written as a digit zero.
-/
namespace EnclaveChain.Base58

/-- The digits from zero to fifty-seven. -/
def alphabet : List Char :=
  "123456789ABCDEFGHJKLMNPQRSTUVWXYZabcdefghijkmnopqrstuvwxyz".toList

/-- A digit as a character. -/
def digit (value : Nat) : Char := alphabet.getD value '1'

/-- The digits of a number, the highest first; zero has none. -/
def digits (number : Nat) : List Nat :=
  if number = 0 then [] else digits (number / 58) ++ [number % 58]
termination_by number
decreasing_by omega

/-- The number that bytes spell, the high byte first. -/
def ofBigEndian (bytes : Bytes) : Nat :=
  bytes.foldl (fun number byte => 256 * number + byte.toNat) 0

/-- The digits of a byte string. -/
def encode (bytes : Bytes) : String :=
  String.ofList ((bytes.takeWhile (· = 0)).map (fun _ => '1') ++
    (digits (ofBigEndian bytes)).map digit)

end EnclaveChain.Base58
