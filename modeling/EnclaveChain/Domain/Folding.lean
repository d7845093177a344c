import EnclaveChain.Domain.Letters

/-!
# Folding

How the characters of a domain name are brought to one form: a character that may stand in a name
stays, some are dropped, others are folded, and the rest has no place in a name.
-/
namespace EnclaveChain.Domain

/-- The characters that may stand in a domain name. -/
def allowedRanges : List (Nat × Nat) := tableRanges allowedRows

/-- The characters that a domain name loses. -/
def ignoredRanges : List (Nat × Nat) := tableRanges ignoredRows

/-- Runs that are folded to runs. -/
def shiftedRuns : List (List Nat) := tableRows shiftedRows

/-- Runs in which every other character is folded. -/
def pairedRuns : List (List Nat) := tableRows pairedRows

/-- Single characters and what they are folded to. -/
def foldedCharacters : List (List Nat) := tableRows foldedRows

/-- Whether a character may stand in a domain name as it is. -/
def isAllowed (char : Char) : Bool := isWithin allowedRanges char

/-- What a character becomes by a run whose characters are `step` apart. -/
def foldByRun? (step code : Nat) : List Nat → Option (List Char)
  | [first, last, target] =>
    if first ≤ code ∧ code ≤ last ∧ (code - first) % step = 0 then
      some [Char.ofNat (target + (code - first))]
    else none
  | _ => none

/-- What a character becomes by a row of its own. -/
def foldByRow? (code : Nat) : List Nat → Option (List Char)
  | first :: targets => if code = first then some (targets.map Char.ofNat) else none
  | [] => none

/-- What a character becomes in a domain name, if it has a place in one. -/
def fold? (char : Char) : Option (List Char) :=
  let code := char.toNat
  if isAllowed char then some [char]
  else if isWithin ignoredRanges char then some []
  else
    match shiftedRuns.findSome? (foldByRun? 1 code) with
    | some chars => some chars
    | none =>
      match pairedRuns.findSome? (foldByRun? 2 code) with
      | some chars => some chars
      | none => foldedCharacters.findSome? (foldByRow? code)

/-- What a text becomes in a domain name, if all of it has a place in one. -/
def foldText? : List Char → Option (List Char)
  | [] => some []
  | char :: chars =>
    match fold? char, foldText? chars with
    | some folded, some rest => some (folded ++ rest)
    | _, _ => none

end EnclaveChain.Domain
