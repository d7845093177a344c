import EnclaveChain.Domain.Direction
import EnclaveChain.Domain.Folding
import EnclaveChain.Domain.Joining
import EnclaveChain.Domain.Punycode

/-!
# Domain names

A domain name is a row of labels. Its text is folded and brought to normal form, labels written in
ASCII are read, and then each label must be one: it does not begin with a mark, its joiners stand
where they may, and in a name with letters from right to left each label is written in one
direction. Empty labels and hyphens anywhere are let through, as names in URLs have them.
-/
namespace EnclaveChain.Domain

/-- The pieces of a text between its dots. -/
def splitDots : List Char → List (List Char)
  | [] => [[]]
  | char :: chars =>
    if char = '.' then [] :: splitDots chars
    else
      match splitDots chars with
      | [] => [[char]]
      | label :: labels => (char :: label) :: labels

/-- Whether a character is one that no host in a URL may hold. -/
def isForbidden (char : Char) : Bool :=
  char ≤ ' ' || char = '\x7f' || "%#/:<>?@[\\]^|".toList.contains char

/-- What a label written in ASCII begins with. -/
def asciiMark : List Char := "xn--".toList

/-- Whether a text is ASCII alone. -/
def isAscii (text : List Char) : Bool := text.all fun char => char.toNat < 128

/-- Whether a text is such as folding leaves it. -/
def isFolded (text : List Char) : Bool := text.all isAllowed && normalForm text = text

/-- The greatest length of a label that is to be written in ASCII. -/
def maxLabel : Nat := 1000

/-- The greatest length of what is written in ASCII in place of a label. -/
def maxAsciiLabel : Nat := 2000

/-- The label that a piece of a folded text stands for. -/
def readLabel? (piece : List Char) : Option (List Char) :=
  if asciiMark.isPrefixOf piece then
    let written := piece.drop asciiMark.length
    if isAscii written ∧ written.length ≤ maxAsciiLabel then
      match Punycode.decode? written with
      | some label =>
        if isAscii label ∨ asciiMark.isPrefixOf label ∨ isFolded label = false then none
        else some label
      | none => none
    else none
  else if isAscii piece ∨ piece.length ≤ maxLabel then some piece
  else none

/-- Whether a label may be part of a name. -/
def isLabel (label : List Char) : Bool :=
  !(label.head?.any isMark) && joinersFit [] label

/-- The labels of the name that a text stands for. -/
def readLabels? (text : List Char) : Option (List (List Char)) :=
  match foldText? text with
  | none => none
  | some folded =>
    let normal := normalForm folded
    if normal.any isForbidden then none else (splitDots normal).mapM readLabel?

/-- The name that a text stands for: its labels, with dots between them. -/
def ofText? (text : List Char) : Option (List Char) :=
  match readLabels? text with
  | none => none
  | some labels =>
    if labels.all isLabel && (!labels.any hasRightToLeft || labels.all isOneWay) then
      some (List.intercalate ['.'] labels)
    else none

end EnclaveChain.Domain
