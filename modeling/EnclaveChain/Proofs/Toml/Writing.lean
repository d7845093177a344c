import EnclaveChain.Proofs.Json.Writing
import EnclaveChain.Proofs.Toml.Grammar

/-!
# A text for every outline

Every outline has a text, whatever characters are in its names and strings: quotes, backslashes and
control characters are written as escapes and everything else as it is.
-/
namespace EnclaveChain.Toml

/-! ### The writer -/

/-- A character between double quotes. -/
def writeChar (char : Char) : List Char :=
  if char = '"' ∨ char = '\\' then ['\\', char]
  else if char.toNat < 0x20 ∨ char = '\x7f' then
    ['\\', 'u', '0', '0', Json.hexDigit (char.toNat / 16), Json.hexDigit (char.toNat % 16)]
  else [char]

/-- A string between double quotes. -/
def writeString (text : String) : List Char := '"' :: (text.toList.flatMap writeChar ++ ['"'])

/-- A key, without quotes if it may be. -/
def writeKey (name : String) : List Char :=
  if name.toList ≠ [] ∧ name.toList.all fun char => StandsInKey char then name.toList
  else writeString name

/-- A line. -/
def Line.write : Line → List Char
  | .pair name text => writeKey name ++ ([' '] ++ '=' :: ([' '] ++ writeString text))
  | .header name => '[' :: ([] ++ (writeKey name ++ ([] ++ [']'])))

/-- A document, each line with an end. -/
def Outline.text (outline : Outline) : String :=
  String.ofList (outline.lines.flatMap fun line => line.write ++ ['\n'])

/-! ### What is written is spelled -/

/-- A character is written so that it is meant. -/
theorem SpellsBasic.writeChar_append (char : Char) {written meant : List Char}
    (others : SpellsBasic written meant) :
    SpellsBasic (writeChar char ++ written) (char :: meant) := by
  rw [writeChar]
  split_ifs with marked control
  · have listed : (char, char) ∈ escapes := by
      rcases marked with rfl | rfl <;> decide
    exact .escape (.letter listed) others
  · have byte : char.toNat < 256 := by
      rcases control with small | rfl
      · omega
      · decide
    obtain ⟨values, four, areDigits, number⟩ := Json.spellsUnit_byte byte
    exact .escape (.short four ⟨values, areDigits, number⟩) others
  · obtain ⟨notQuote, notBackslash⟩ := not_or.mp marked
    obtain ⟨large, notDelete⟩ := not_or.mp control
    exact .plain (.inr ⟨Nat.not_lt.mp large, notDelete⟩) notQuote notBackslash others

/-- Characters are written so that they are meant. -/
theorem spellsBasic_flatMap (chars : List Char) : SpellsBasic (chars.flatMap writeChar) chars := by
  induction chars with
  | nil => exact .nil
  | cons char chars others => exact others.writeChar_append char

/-- A key is written so that it is meant. -/
theorem spellsKey_writeKey (name : String) : SpellsKey (writeKey name) name := by
  rw [writeKey]
  split_ifs with bare
  · exact .bare bare.1 (forall_of_all bare.2)
  · exact .basic (spellsBasic_flatMap name.toList)

/-- A line is written so that it is meant. -/
theorem spellsLine_write (line : Line) : SpellsLine line.write line := by
  have blank : AreBlank [' '] := by simp [AreBlank, blanks]
  cases line with
  | pair name text =>
    exact .pair (spellsKey_writeKey name) blank blank (.basic (spellsBasic_flatMap text.toList))
  | header name => exact .header areBlank_nil (spellsKey_writeKey name) areBlank_nil

/-- A document is written so that it is meant. -/
theorem Outline.isSpelledBy_text (outline : Outline) : outline.IsSpelledBy outline.text := by
  rw [IsSpelledBy, Outline.text, String.toList_ofList]
  induction outline.lines with
  | nil => exact .done
  | cons line lines others =>
    have ends (after : List Char) : EndsLine (['\n'] ++ after) after :=
      ⟨[], [], ['\n'], rfl, areBlank_nil, .inl rfl, .inl (by decide)⟩
    have spelled : SpellsLines [] ([] ++ (line.write ++ _)) (line :: lines) :=
      .line areBlank_nil (spellsLine_write line) (ends _) others
    rwa [List.nil_append, ← List.append_assoc] at spelled

end EnclaveChain.Toml
