import EnclaveChain.Number.Binary64
import EnclaveChain.Toml.Text

/-!
# TOML numbers, dates and times

An integer has 64 bits and may be written to the base ten, sixteen, eight or two. A real number
must not round to infinity from below. A date exists in the calendar, and a time on the clock, with
room for a leap second.
-/
namespace EnclaveChain.Toml

/-- The value of a digit to a base up to sixteen. -/
def digitOf? (base : Nat) (char : Char) : Option Nat :=
  match hexValue? char with
  | some digit => if digit < base then some digit else none
  | none => none

/-- More digits, an underscore allowed in front of each of them. -/
def moreDigits (base : Nat) : List Char → List Nat × List Char
  | '_' :: char :: rest =>
    match digitOf? base char with
    | some digit =>
      let (digits, rest) := moreDigits base rest
      (digit :: digits, rest)
    | none => ([], '_' :: char :: rest)
  | char :: rest =>
    match digitOf? base char with
    | some digit =>
      let (digits, rest) := moreDigits base rest
      (digit :: digits, rest)
    | none => ([], char :: rest)
  | [] => ([], [])

/-- One or more digits, single underscores between them. -/
def someDigits (base : Nat) : Scan (List Nat)
  | char :: rest =>
    match digitOf? base char with
    | some digit =>
      let (digits, rest) := moreDigits base rest
      some (digit :: digits, rest)
    | none => none
  | [] => none

/-- The digits of a decimal integer, which begin with zero only if that is all of them. -/
def decimalDigits : Scan (List Nat)
  | '0' :: rest => some ([0], rest)
  | text => someDigits 10 text

/-- A sign, if there is one, and the text after it. -/
def sign : List Char → Bool × List Char
  | '-' :: rest => (true, rest)
  | '+' :: rest => (false, rest)
  | text => (false, text)

/-- The number that digits to a base spell. -/
def ofDigits (base : Nat) (digits : List Nat) : Nat :=
  digits.foldl (fun value digit => base * value + digit) 0

/-- An integer, if it has at most 64 bits. -/
def word? (negative : Bool) (value : Nat) : Option Value :=
  if value < 2 ^ 63 then some (.integer (if negative then -Int.ofNat value else Int.ofNat value))
  else if negative ∧ value = 2 ^ 63 then some (.integer (-Int.ofNat value))
  else none

/-- An integer to a base, after the mark of the base. -/
def basedInteger (base : Nat) : Scan Value := fun text =>
  (someDigits base text).bind fun (digits, rest) =>
    (word? false (ofDigits base digits)).map (·, rest)

/-- An integer. -/
def integer : Scan Value
  | '0' :: 'x' :: rest => basedInteger 16 rest
  | '0' :: 'o' :: rest => basedInteger 8 rest
  | '0' :: 'b' :: rest => basedInteger 2 rest
  | text =>
    let (negative, text) := sign text
    (decimalDigits text).bind fun (digits, rest) =>
      (word? negative (ofDigits 10 digits)).map (·, rest)

/-- The digits after a point. -/
def fraction : Scan (List Nat)
  | '.' :: rest => someDigits 10 rest
  | _ => none

/-- The power of ten after its mark. -/
def power : Scan Int
  | mark :: rest =>
    if mark = 'e' ∨ mark = 'E' then
      let (negative, rest) := sign rest
      (someDigits 10 rest).map fun (digits, rest) =>
        let value := Int.ofNat (ofDigits 10 digits)
        (if negative then -value else value, rest)
    else none
  | [] => none

/-- Whether an integer times a power of ten rounds to infinity. It does not before its order of
magnitude reaches that of the largest number, and beyond there it need not be computed. -/
def overflows (value : Nat) (exponent : Int) : Bool :=
  let order := Int.ofNat (Nat.toDigits 10 value).length + exponent
  if value = 0 ∨ order < 300 then false
  else if 320 < order then true
  else (Number.Magnitude.ofQuotient? (value * 10 ^ exponent.toNat)
    (10 ^ (-exponent).toNat)).isNone

/-- A real number in digits: a fraction, a power of ten, or both. -/
def realDigits : Scan Value := fun text =>
  let (negative, text) := sign text
  (decimalDigits text).bind fun (whole, rest) =>
    match fraction rest with
    | some (places, rest) =>
      let (exponent, rest) := (power rest).getD (0, rest)
      let exponent := exponent - Int.ofNat places.length
      if !negative && overflows (ofDigits 10 (whole ++ places)) exponent then none
      else some (.real, rest)
    | none =>
      (power rest).bind fun (exponent, rest) =>
        if !negative && overflows (ofDigits 10 whole) exponent then none else some (.real, rest)

/-- A real number by name. -/
def realName : Scan Value := fun text =>
  match (sign text).2 with
  | 'i' :: 'n' :: 'f' :: rest => some (.real, rest)
  | 'n' :: 'a' :: 'n' :: rest => some (.real, rest)
  | _ => none

/-- A number of so many decimal digits. -/
def fixedDigits : Nat → Scan Nat
  | 0, text => some (0, text)
  | count + 1, char :: rest =>
    match digitOf? 10 char with
    | none => none
    | some digit => (fixedDigits count rest).map fun (value, rest) =>
      (digit * 10 ^ count + value, rest)
  | _ + 1, [] => none

/-- A number of two digits between bounds. -/
def pairBetween (low high : Nat) : Scan Nat := fun text =>
  (fixedDigits 2 text).bind fun (value, rest) =>
    if low ≤ value ∧ value ≤ high then some (value, rest) else none

/-- The text after a character that must come next. -/
def expect (char : Char) : List Char → Option (List Char)
  | first :: rest => if first = char then some rest else none
  | [] => none

/-- The number of days of a month. -/
def daysOf (year month : Nat) : Nat :=
  if month = 2 then
    if year % 4 = 0 ∧ (year % 100 ≠ 0 ∨ year % 400 = 0) then 29 else 28
  else if month = 4 ∨ month = 6 ∨ month = 9 ∨ month = 11 then 30
  else 31

/-- The text after a date. -/
def date? (text : List Char) : Option (List Char) := do
  let (year, text) ← fixedDigits 4 text
  let text ← expect '-' text
  let (month, text) ← pairBetween 1 12 text
  let text ← expect '-' text
  let (day, text) ← pairBetween 1 31 text
  if day ≤ daysOf year month then some text else none

/-- The text after a fraction of a second, if there is one; a point must not stand alone. -/
def secondFraction? : List Char → Option (List Char)
  | '.' :: char :: rest =>
    if char.isDigit then some (rest.dropWhile Char.isDigit) else none
  | '.' :: [] => none
  | text => some text

/-- The text after a time of day. -/
def time? (text : List Char) : Option (List Char) := do
  let (_, text) ← pairBetween 0 23 text
  let text ← expect ':' text
  let (_, text) ← pairBetween 0 59 text
  let text ← expect ':' text
  let (_, text) ← pairBetween 0 60 text
  secondFraction? text

/-- The text after a distance from universal time, if there is one. -/
def offset? : List Char → Option (List Char)
  | first :: rest =>
    if first = 'Z' ∨ first = 'z' then some rest
    else if first = '+' ∨ first = '-' then do
      let (_, rest) ← pairBetween 0 23 rest
      let rest ← expect ':' rest
      let (_, rest) ← pairBetween 0 59 rest
      return rest
    else some (first :: rest)
  | [] => some []

/-- Whether a character may stand between a date and a time. -/
def joinsTime (char : Char) : Bool := char = 'T' || char = 't' || char = ' '

/-- A date, a time, or both. A date before a blank that no time follows stands alone. -/
def moment (text : List Char) : Option (Value × List Char) :=
  match date? text with
  | none => (time? text).map (.moment, ·)
  | some [] => some (.moment, [])
  | some (mark :: rest) =>
    if joinsTime mark then
      match time? rest with
      | some rest => (offset? rest).map (.moment, ·)
      | none => some (.moment, mark :: rest)
    else some (.moment, mark :: rest)

/-- A value without parts: a number, a date or time, or a truth value. -/
def scalar : Scan Value
  | 't' :: 'r' :: 'u' :: 'e' :: rest => some (.boolean true, rest)
  | 'f' :: 'a' :: 'l' :: 's' :: 'e' :: rest => some (.boolean false, rest)
  | text =>
    (moment text).orElse fun () => (realDigits text).orElse fun () =>
      (realName text).orElse fun () => integer text

end EnclaveChain.Toml
