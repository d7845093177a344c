import EnclaveChain.Text.Hex

/-!
# Tables of characters

Tables about characters are kept as lines of rows between blanks. A row holds numbers in hexadecimal
between hyphens: the ends of a range, or a character and what belongs to it.
-/
namespace EnclaveChain.Domain

/-- The number that hexadecimal digits name. -/
def tableNumber (digits : String) : Nat :=
  digits.toList.foldl
    (fun value digit => 16 * value + ((Hex.digitValue? digit.toNat.toUInt8).getD 0).toNat) 0

/-- The rows of a table. -/
def tableRows (lines : List String) : List (List Nat) :=
  lines.flatMap fun line => (line.splitOn " ").map fun row => (row.splitOn "-").map tableNumber

/-- The ranges of a table whose rows are one number or the two ends of a range. -/
def tableRanges (lines : List String) : List (Nat × Nat) :=
  (tableRows lines).filterMap fun row =>
    match row with
    | [only] => some (only, only)
    | [low, high] => some (low, high)
    | _ => none

/-- Whether a character is in one of some ranges, ends included. -/
def isWithin (ranges : List (Nat × Nat)) (char : Char) : Bool :=
  ranges.any fun (low, high) => low ≤ char.toNat && char.toNat ≤ high

end EnclaveChain.Domain
