/-!
# Why a decode failed

A failed decode has one cause, found at one place of the input, and the chain of parts of the
value that were being read when it was found, outermost first. The wording of both is here and
nowhere else.
-/
namespace EnclaveChain.Scale

/-- The fault itself. -/
inductive Cause where
  /-- A read of fixed size went past the end of the input. -/
  | endOfData
  /-- A byte vector declares more bytes than the input has left. -/
  | endOfVector
  /-- No variant of the type has this index. -/
  | unknownVariant (type : String)
  /-- The first byte of an option is neither 0 nor 1. -/
  | optionByte
  /-- The byte of a truth value is neither 0 nor 1. -/
  | boolByte
  /-- A compact integer is not in its shortest form or does not fit its width in bytes. -/
  | compactRange (width : Nat)
  /-- A compact integer announces more bytes than its width. -/
  | compactWidth (width : Nat)
  /-- Bytes were left over where all had to be read. -/
  | leftover
deriving DecidableEq, Repr

/-- A part of a value that is being read. -/
inductive Part where
  /-- A field or a payload, named by its path from the type. -/
  | named (path : String)
  /-- The index byte of a variant of the type. -/
  | variantByte (type : String)
  /-- The first byte of an option. -/
  | optionByte
  /-- The value of an option that is present. -/
  | optionValue
deriving DecidableEq, Repr

/-- A failed decode: the cause and the parts around it, outermost first. -/
structure DecodeError where
  /-- The parts being read, outermost first. -/
  parts : List Part
  /-- The fault. -/
  cause : Cause
deriving DecidableEq, Repr

/-- The name of the unsigned integer of a width in bytes. -/
def unsignedName (width : Nat) : String := "u" ++ toString (8 * width)

/-- The text of a fault. -/
def Cause.message : Cause → String
  | endOfData => "Not enough data to fill buffer"
  | endOfVector => "Not enough data to decode vector"
  | unknownVariant type => "Could not decode `" ++ type ++ "`, variant doesn't exist"
  | optionByte => "unexpected first byte decoding Option"
  | boolByte => "Invalid boolean representation"
  | compactRange width => "out of range decoding Compact<" ++ unsignedName width ++ ">"
  | compactWidth width => "unexpected prefix decoding Compact<" ++ unsignedName width ++ ">"
  | leftover => "Input buffer has still data left after decoding!"

/-- The text of a part. -/
def Part.message : Part → String
  | named path => "Could not decode `" ++ path ++ "`"
  | variantByte type => "Could not decode `" ++ type ++ "`, failed to read variant byte"
  | optionByte => "Could not decode variant byte for `Option`"
  | optionValue => "Could not decode `Option::Some(T)`"

namespace DecodeError

/-- A fault with no part around it. -/
def bare (cause : Cause) : DecodeError := ⟨[], cause⟩

/-- The same fault seen from a part around it. -/
def within (part : Part) (error : DecodeError) : DecodeError :=
  ⟨part :: error.parts, error.cause⟩

/-- The lines below the outermost part, each one tab deeper than the line above it. -/
def nested (depth : Nat) (parts : List Part) (cause : Cause) : String :=
  let indent := "".pushn '\t' depth
  match parts with
  | [] => indent ++ cause.message ++ "\n"
  | part :: parts => indent ++ part.message ++ ":\n" ++ nested (depth + 1) parts cause

/-- The text of a failed decode: a bare fault is one line without an end, and each part around
it opens a line of its own. -/
def message (error : DecodeError) : String :=
  match error.parts with
  | [] => error.cause.message
  | _ :: _ => nested 0 error.parts error.cause

end DecodeError

end EnclaveChain.Scale
