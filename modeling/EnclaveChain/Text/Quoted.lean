import EnclaveChain.Text.Printable
import EnclaveChain.Text.Hex

/-!
# Quoted text

Text between quotes, in which a backslash introduces the quote, the backslash itself, line ends
and tabs, and characters without a shape of their own are shown by number.
-/
namespace EnclaveChain.Text

/-- The hexadecimal digits of a number, without leading zeros. -/
def hexNumber (value : Nat) : List Char := Nat.toDigits 16 value

/-- The quoted form of a character between the given quotes. -/
def quoteChar (quote char : Char) : List Char :=
  if char = '\x00' then ['\\', '0']
  else if char = '\t' then ['\\', 't']
  else if char = '\r' then ['\\', 'r']
  else if char = '\n' then ['\\', 'n']
  else if char = '\\' ∨ char = quote then ['\\', char]
  else if isShapeless char then ['\\', 'u', '\x7b'] ++ hexNumber char.toNat ++ ['\x7d']
  else [char]

/-- A text between double quotes. -/
def quoted (text : String) : String :=
  String.ofList (['"'] ++ text.toList.flatMap (quoteChar '"') ++ ['"'])

/-- A character between single quotes. -/
def quotedChar (char : Char) : String :=
  String.ofList (['\''] ++ quoteChar '\'' char ++ ['\''])

end EnclaveChain.Text

namespace EnclaveChain.Hex

/-- The text of a fault; a byte is shown as the character of its number. -/
def Fault.message : Fault → String
  | oddLength => "Odd number of digits"
  | badDigit byte position =>
    "Invalid character " ++ Text.quotedChar (Char.ofNat byte.toNat) ++ " at position " ++
      toString position

end EnclaveChain.Hex
