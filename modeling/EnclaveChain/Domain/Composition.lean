import EnclaveChain.Domain.Marks

/-!
# Composition

Text with marks has one normal form: composites are taken apart, the marks behind a base are put
into the order of their classes, and each base is joined again with the marks that it has a
composite with. Syllables of Korean are composites by rule: a first consonant and a vowel make a
syllable, and that and a last consonant another one.
-/
namespace EnclaveChain.Domain

/-- Ranges of combining marks. -/
def markRanges : List (Nat × Nat) := tableRanges markRows

/-- Whether a character is a combining mark. -/
def isMark (char : Char) : Bool := isWithin markRanges char

/-- Ranges of characters with their combining classes. -/
def classRanges : List (List Nat) := tableRows classRows

/-- The class by which a mark is ordered; a base has class zero. -/
def combiningClass (char : Char) : Nat :=
  let found := classRanges.findSome? fun row =>
    match row with
    | [low, high, value] => if low ≤ char.toNat ∧ char.toNat ≤ high then some value else none
    | _ => none
  found.getD 0

/-- Composites: the base, the mark and what they make. -/
def composites : List (List Nat) := tableRows compositeRows

/-! ### Syllables -/

/-- The syllable that a consonant and a vowel make, or a syllable without a last consonant and such
a consonant. -/
def joinSyllable? (first second : Nat) : Option Nat :=
  if 0x1100 ≤ first ∧ first < 0x1113 ∧ 0x1161 ≤ second ∧ second < 0x1176 then
    some (0xAC00 + ((first - 0x1100) * 21 + (second - 0x1161)) * 28)
  else if 0xAC00 ≤ first ∧ first < 0xD7A4 ∧ (first - 0xAC00) % 28 = 0 ∧ 0x11A8 ≤ second ∧
      second < 0x11C3 then
    some (first + (second - 0x11A7))
  else none

/-- The two parts that make a syllable. -/
def splitSyllable? (code : Nat) : Option (Nat × Nat) :=
  if 0xAC00 ≤ code ∧ code < 0xD7A4 then
    let index := code - 0xAC00
    if index % 28 = 0 then some (0x1100 + index / 588, 0x1161 + index % 588 / 28)
    else some (code - index % 28, 0x11A7 + index % 28)
  else none

/-! ### The normal form -/

/-- The base and the mark that a composite is made of. -/
def split? (char : Char) : Option (Char × Char) :=
  let pair :=
    match splitSyllable? char.toNat with
    | some pair => some pair
    | none =>
      composites.findSome? fun row =>
        match row with
        | [base, mark, whole] => if char.toNat = whole then some (base, mark) else none
        | _ => none
  pair.map fun (base, mark) => (Char.ofNat base, Char.ofNat mark)

/-- The composite of a base and a mark. -/
def join? (base mark : Char) : Option Char :=
  let whole :=
    match joinSyllable? base.toNat mark.toNat with
    | some whole => some whole
    | none =>
      composites.findSome? fun row =>
        match row with
        | [first, second, whole] =>
          if base.toNat = first ∧ mark.toNat = second then some whole else none
        | _ => none
  whole.map Char.ofNat

/-- A character taken apart, down to a depth. -/
def decompose : Nat → Char → List Char
  | 0, char => [char]
  | depth + 1, char =>
    match split? char with
    | none => [char]
    | some (base, mark) => decompose depth base ++ [mark]

/-- Marks in the order of their classes; marks of one class keep their order. -/
def sortMarks (marks : List Char) : List Char :=
  marks.mergeSort fun left right => combiningClass left ≤ combiningClass right

/-- Text with the marks behind each base in order, after marks that wait for their order. -/
def orderMarks : List Char → List Char → List Char
  | waiting, [] => sortMarks waiting
  | waiting, char :: chars =>
    if combiningClass char = 0 then sortMarks waiting ++ char :: orderMarks [] chars
    else orderMarks (waiting ++ [char]) chars

/-- Whether the marks behind a base keep a character from joining it. -/
def isBlocked (marks : List Char) (char : Char) : Bool :=
  match marks.getLast? with
  | none => false
  | some last => combiningClass char ≤ combiningClass last

/-- Ordered text with its bases joined, after a base and the marks that did not join it. -/
def compose : Option Char → List Char → List Char → List Char
  | base, marks, [] => base.toList ++ marks
  | base, marks, char :: chars =>
    match base.bind fun base => if isBlocked marks char then none else join? base char with
    | some whole => compose (some whole) marks chars
    | none =>
      if combiningClass char = 0 then base.toList ++ marks ++ compose (some char) [] chars
      else compose base (marks ++ [char]) chars

/-- The normal form of a text. No composite holds composites more than two deep. -/
def normalForm (text : List Char) : List Char :=
  compose none [] (orderMarks [] (text.flatMap (decompose 3)))

end EnclaveChain.Domain
