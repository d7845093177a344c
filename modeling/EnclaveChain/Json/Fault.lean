import EnclaveChain.Text.Quoted

/-!
# Why a JSON text was not accepted

Either the text is not JSON, or it is and does not have the shape that was asked for.
-/
namespace EnclaveChain.Json

/-- How a value differs from what was asked for. -/
inductive Mismatch where
  /-- A value of another kind. -/
  | kind (found expected : String)
  /-- A value of the right kind that is out of range. -/
  | range (found expected : String)
  /-- An array that ends before a required field. -/
  | length (count : Nat) (expected : String)
  /-- A required field is missing. -/
  | missing (field : String)
  /-- A field is given twice. -/
  | duplicate (field : String)
  /-- A name that is none of those allowed. -/
  | variant (found : String) (expected : List String)
  /-- A string that should hold hexadecimal digits. -/
  | hex (fault : Hex.Fault)
deriving DecidableEq, Repr

/-- Why a text was not accepted. -/
inductive Fault where
  /-- It is not JSON. -/
  | malformed
  /-- It is JSON of another shape. -/
  | mismatch (mismatch : Mismatch)
deriving DecidableEq, Repr

/-- A name between the marks that messages put around names. -/
def marked (name : String) : String := "`" ++ name ++ "`"

/-- The names that were allowed. -/
def oneOf : List String → String
  | [] => "there are no variants"
  | [only] => "expected " ++ marked only
  | [first, second] => "expected " ++ marked first ++ " or " ++ marked second
  | names => "expected one of " ++ String.intercalate ", " (names.map marked)

/-- The text of a mismatch. -/
def Mismatch.message : Mismatch → String
  | kind found expected => "invalid type: " ++ found ++ ", expected " ++ expected
  | range found expected => "invalid value: " ++ found ++ ", expected " ++ expected
  | length count expected =>
    "invalid length " ++ toString count ++ ", expected " ++ expected
  | missing field => "missing field " ++ marked field
  | duplicate field => "duplicate field " ++ marked field
  | variant found expected => "unknown variant " ++ marked found ++ ", " ++ oneOf expected
  | hex fault => fault.message

end EnclaveChain.Json
