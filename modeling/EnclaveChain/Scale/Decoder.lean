import EnclaveChain.Scale.Bytes
import EnclaveChain.Scale.DecodeError

/-!
# Decoders

A decoder reads one value from the front of a byte string and returns the bytes after it, or
says why it could not. Decoders are joined by four operations: reading a number of bytes,
changing the value read, reading a second value after the first, and naming the part that is
being read.
-/
namespace EnclaveChain.Scale

/-- Reads one value from the front of a byte string. -/
abbrev Decoder (α : Type) := Bytes → Except DecodeError (α × Bytes)

namespace Decoder

variable {α β : Type}

/-- Reads nothing and fails. -/
def fail (cause : Cause) : Decoder α := fun _ => .error (.bare cause)

/-- Reads so many bytes; a shorter input is the given fault. -/
def take (count : Nat) (short : Cause) : Decoder Bytes := fun bytes =>
  match Bytes.splitFront? count bytes with
  | none => .error (.bare short)
  | some found => .ok found

/-- Reads a value and changes it. -/
def map (change : α → β) (decoder : Decoder α) : Decoder β := fun bytes =>
  match decoder bytes with
  | .error error => .error error
  | .ok (value, rest) => .ok (change value, rest)

/-- Reads a value and then one that may depend on it. -/
def andThen (decoder : Decoder α) (next : α → Decoder β) : Decoder β := fun bytes =>
  match decoder bytes with
  | .error error => .error error
  | .ok (value, rest) => next value rest

/-- Reads a value as a part of another one. -/
def within (part : Part) (decoder : Decoder α) : Decoder α := fun bytes =>
  match decoder bytes with
  | .error error => .error (error.within part)
  | .ok found => .ok found

/-- Reads so many values, one after the other. -/
def times (item : Decoder α) : Nat → Decoder (List α)
  | 0, bytes => .ok ([], bytes)
  | count + 1, bytes =>
    match item bytes with
    | .error error => .error error
    | .ok (value, rest) =>
      match times item count rest with
      | .error error => .error error
      | .ok (values, rest) => .ok (value :: values, rest)

/-- Reads a value that must be all of the input. -/
def all (decoder : Decoder α) (bytes : Bytes) : Except DecodeError α :=
  match decoder bytes with
  | .error error => .error error
  | .ok (value, []) => .ok value
  | .ok (_, _ :: _) => .error (.bare .leftover)

end Decoder

end EnclaveChain.Scale
