/-!
# Control characters

A text from outside may hold characters that steer a terminal instead of being shown. A scanner
takes them out: it follows the text character by character, knows at each place whether it is in
text or inside of something that steers, and keeps the characters of the former. White space is
kept wherever a control character may stand, and what it interrupts is then text again.
-/
namespace EnclaveChain.Terminal.Control

/-- Where a scanner is. -/
inductive Place where
  /-- In text that is shown. -/
  | text
  /-- Behind an escape character. -/
  | escape
  /-- Behind an escape character and further signs, before the letter that ends them. -/
  | escapeSigns
  /-- In a control sequence, which a letter ends. -/
  | sequence
  /-- At the start of a device control string. -/
  | device
  /-- In the parameters of a device control string. -/
  | deviceParameters
  /-- Behind the parameters of a device control string. -/
  | deviceSigns
  /-- In a string that ends with the byte `9C`. -/
  | string
  /-- In a string that ends with a bell. -/
  | command
deriving DecidableEq, Repr

/-- Whether a code is that of white space among the control characters. -/
def isBlank (code : Nat) : Bool := code = 0x09 || code = 0x0a || code = 0x0c || code = 0x0d

/-- Whether a code lies in a range. -/
def within (first last code : Nat) : Bool := first ≤ code && code ≤ last

/-- Whether the bytes of a character end a string; they do so in the middle of the character, and
the rest of it is not shown. -/
def endsString (c : Char) : Bool := (String.utf8EncodeChar c).contains 0x9c

namespace Place

/-- The place behind a character, wherever the character does not itself begin or end a control
sequence. -/
def next (place : Place) (c : Char) : Place :=
  let code := c.toNat
  match place with
  | text => text
  | escape =>
    if within 0x20 0x2f code then escapeSigns
    else if c = '[' then sequence
    else if c = ']' then command
    else if c = 'P' then device
    else if c = 'X' || c = '^' || c = '_' then string
    else if isBlank code || within 0x30 0x7e code then text
    else escape
  | escapeSigns => if isBlank code || within 0x30 0x7e code then text else escapeSigns
  | sequence => if isBlank code || within 0x40 0x7e code then text else sequence
  | device =>
    if within 0x20 0x2f code then deviceSigns
    else if within 0x30 0x3f code then deviceParameters
    else if within 0x40 0x7e code then string
    else device
  | deviceParameters =>
    if within 0x20 0x2f code then deviceSigns
    else if within 0x3c 0x7e code then string
    else deviceParameters
  | deviceSigns => if within 0x30 0x7e code then string else deviceSigns
  | string => if endsString c then text else string
  | command => if code = 0x07 then text else command

/-- Whether a character at a place is shown. -/
def shows (place : Place) (c : Char) : Bool :=
  let code := c.toNat
  match place with
  | text => isBlank code || 0x20 ≤ code && code ≠ 0x7f
  | escape | escapeSigns | sequence => isBlank code
  | device | deviceParameters | deviceSigns | string | command => false

/-- The place behind a character. Two characters break off whatever they stand in, and the escape
character begins anew everywhere. -/
def step (place : Place) (c : Char) : Place :=
  if c = '\x18' || c = '\x1a' then text
  else if c = '\x1b' then escape
  else place.next c

end Place

/-- The characters of a text that are shown when its scanner starts at a place. -/
def shown : Place → List Char → List Char
  | _, [] => []
  | place, c :: rest =>
    if place.shows c then c :: shown (place.step c) rest else shown (place.step c) rest

/-- A text without what steers a terminal. -/
def strip (text : String) : String := String.ofList (shown .text text.toList)

end EnclaveChain.Terminal.Control
