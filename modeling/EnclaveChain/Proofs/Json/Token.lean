import EnclaveChain.Json.Reader
import EnclaveChain.Proofs.Json.Grammar
import Mathlib.Tactic.IntervalCases

/-!
# Reading strings and numerals

Inside a string the reader collects code units, and only the closing quote makes them characters;
inside a numeral it collects digits, and only the next character shows that there are no more. So
the statements here are about the state in the middle: after the text of a string it holds units
that spell the string (`SpellsText.foldl_step`), after the text of a numeral it holds the numeral
(`Numeral.SpelledBy.foldl_step`) and waits for what may stand after a value.
-/
namespace EnclaveChain.Json

open State

variable {stack : List Frame}

/-! ### Strings -/

/-- No character is half of a pair. -/
theorem isSurrogate_toNat (char : Char) : isSurrogate char.toNat = false := by
  have valid : char.toNat < 0xD800 ∨ 0xDFFF < char.toNat ∧ char.toNat < 0x110000 := char.valid
  simp only [isSurrogate, Bool.and_eq_false_iff, decide_eq_false_iff_not]
  omega

/-- The unit of a character spells it. -/
theorem spell_toNat_cons (char : Char) (units : List Nat) :
    spell (char.toNat :: units) = (spell units).map (char :: ·) := by
  cases units with
  | nil => simp [spell, isSurrogate_toNat]
  | cons next units => simp [spell, isSurrogate_toNat]

/-- Two halves spell the character that they are of. -/
theorem spell_halves_cons {char : Char} (beyond : 0x10000 ≤ char.toNat) (units : List Nat) :
    spell ((0xD800 + (char.toNat - 0x10000) / 0x400) ::
      (0xDC00 + (char.toNat - 0x10000) % 0x400) :: units) = (spell units).map (char :: ·) := by
  have valid : char.toNat < 0xD800 ∨ 0xDFFF < char.toNat ∧ char.toNat < 0x110000 := char.valid
  have high : isSurrogate (0xD800 + (char.toNat - 0x10000) / 0x400) = true := by
    simp only [isSurrogate, Bool.and_eq_true, decide_eq_true_eq]
    omega
  have joined : 0x10000 + (0xD800 + (char.toNat - 0x10000) / 0x400 - 0xD800) * 0x400 +
      (0xDC00 + (char.toNat - 0x10000) % 0x400 - 0xDC00) = char.toNat := by omega
  rw [spell, if_pos high, if_pos (by omega), joined, Char.ofNat_toNat]

/-- The reader knows the digits of an escape by number. -/
theorem hexDigit?_of_isDigit {char : Char} {value : Nat} (isDigit : Hex.IsDigit char value) :
    hexDigit? char = some value := by
  let check (value : Nat) (char : Char) : Bool := hexDigit? char = some value
  have known : check value char = true := isDigit.of_checked (by decide)
  exact of_decide_eq_true known

/-- A digit of an escape by number is added to the digits before it. -/
theorem step_unicode {char : Char} {digit : Nat} (isDigit : Hex.IsDigit char digit)
    (units : List Nat) (count value : Nat) :
    step ⟨stack, .unicode units count value⟩ char =
      if count ≤ 1 then ⟨stack, .string ((16 * value + digit) :: units)⟩
      else ⟨stack, .unicode units (count - 1) (16 * value + digit)⟩ := by
  simp [step, hexDigit?_of_isDigit isDigit]

/-- The reader knows the letters of escapes. -/
theorem escape?_of_mem {letter char : Char} (listed : (letter, char) ∈ escapes) :
    letter ≠ 'u' ∧ escape? letter = some char.toNat := by
  have known : ∀ escape ∈ escapes, escape.1 ≠ 'u' ∧ escape? escape.1 = some escape.2.toNat := by
    decide
  exact known _ listed

/-- An escape by number adds its unit. -/
theorem SpellsUnit.foldl_step {digits : List Char} {unit : Nat} (spelled : SpellsUnit digits unit)
    (units : List Nat) (rest : List Char) :
    ('\\' :: 'u' :: (digits ++ rest)).foldl step ⟨stack, .string units⟩ =
      rest.foldl step ⟨stack, .string (unit :: units)⟩ := by
  obtain ⟨values, four, isDigits, rfl⟩ := spelled
  match digits, values, isDigits, four with
  | [_, _, _, _], [first, second, third, fourth],
      .cons isFirst (.cons isSecond (.cons isThird (.cons isFourth .nil))), _ =>
    have opened : step (step ⟨stack, .string units⟩ '\\') 'u' = ⟨stack, .unicode units 4 0⟩ := rfl
    have horner : 16 * (16 * (16 * (16 * 0 + first) + second) + third) + fourth =
        Nat.ofDigits 16 [first, second, third, fourth].reverse := by
      simp only [List.reverse_cons, List.reverse_nil, List.nil_append, List.cons_append,
        Nat.ofDigits_cons, Nat.ofDigits_nil]
      omega
    rw [← horner]
    simp only [List.cons_append, List.nil_append, List.foldl_cons, opened, step_unicode isFirst,
      step_unicode isSecond, step_unicode isThird, step_unicode isFourth, Nat.reduceLeDiff,
      if_false, if_true, Nat.reduceSub, le_refl]

variable (stack) in
/-- Between quotes the reader collects units that spell what is meant. -/
theorem SpellsText.foldl_step {written meant : List Char} (spelled : SpellsText written meant) :
    ∃ units, spell units = some meant ∧ ∀ before,
      written.foldl step ⟨stack, .string before⟩ = ⟨stack, .string (units.reverse ++ before)⟩ := by
  induction spelled with
  | nil => exact ⟨[], rfl, fun _ => rfl⟩
  | @plain char written meant notQuote notBackslash notControl _ others =>
    obtain ⟨units, spelled, read⟩ := others
    refine ⟨char.toNat :: units, by rw [spell_toNat_cons, spelled]; rfl, fun before => ?_⟩
    have taken : step ⟨stack, .string before⟩ char = ⟨stack, .string (char.toNat :: before)⟩ := by
      simp only [step, if_neg notQuote, if_neg notBackslash, if_neg (Nat.not_lt.mpr notControl)]
    rw [List.foldl_cons, taken, read]
    simp
  | @letter letter char written meant listed _ others =>
    obtain ⟨units, spelled, read⟩ := others
    refine ⟨char.toNat :: units, by rw [spell_toNat_cons, spelled]; rfl, fun before => ?_⟩
    obtain ⟨notNumber, known⟩ := escape?_of_mem listed
    have opened : step ⟨stack, .string before⟩ '\\' = ⟨stack, .escape before⟩ := rfl
    have taken : step ⟨stack, .escape before⟩ letter = ⟨stack, .string (char.toNat :: before)⟩ := by
      simp only [step, if_neg notNumber, known]
    rw [List.foldl_cons, List.foldl_cons, opened, taken, read]
    simp
  | @number digits char written meant number _ others =>
    obtain ⟨units, spelled, read⟩ := others
    refine ⟨char.toNat :: units, by rw [spell_toNat_cons, spelled]; rfl, fun before => ?_⟩
    rw [number.foldl_step, read]
    simp
  | @pair high low char written meant beyond first second _ others =>
    obtain ⟨units, spelled, read⟩ := others
    refine ⟨_ :: _ :: units, by rw [spell_halves_cons beyond, spelled]; rfl, fun before => ?_⟩
    rw [first.foldl_step, second.foldl_step, read]
    simp

/-- What stands between quotes is read as what it stands for. -/
theorem SpellsText.foldl_step_quoted {written : List Char} {text : String}
    (spelled : SpellsText written text.toList) :
    (written ++ ['"']).foldl step ⟨stack, .string []⟩ = deliver stack (.ofString text) := by
  obtain ⟨units, spelled, read⟩ := spelled.foldl_step stack
  rw [List.foldl_append, read, List.append_nil]
  have closed : step ⟨stack, .string units.reverse⟩ '"' =
      deliver stack (.string ((spell units.reverse.reverse).map String.ofList)) := rfl
  rw [List.foldl_cons, List.foldl_nil, closed, List.reverse_reverse, spelled]
  simp [Tree.ofString]

/-! ### Numerals -/

/-- A value or a key may begin. -/
inductive Mode.Opens : Mode → Prop where
  /-- It must. -/
  | value : Opens .value
  /-- It may. -/
  | opened : Opens .opened

/-- Whether a character may stand right after a value. -/
def Follows (char : Char) : Prop := char ∈ blanks ++ [',', ':', ']', '\x7d']

instance : DecidablePred Follows := fun char => inferInstanceAs (Decidable (char ∈ _))

namespace Numeral

/-- The draft that a numeral is when all of it has been read. -/
def draft (numeral : Numeral) : Draft where
  negative := numeral.negative
  whole := numeral.whole.reverse
  fraction := (numeral.fraction.getD []).reverse
  inverse := numeral.exponent.any (·.1)
  exponent := (numeral.exponent.elim [] (·.2)).reverse

/-- What is read last of a numeral. -/
def stage (numeral : Numeral) : Stage :=
  if numeral.exponent.isSome then .exponent
  else if numeral.fraction.isSome then .fraction
  else if numeral.whole = [0] then .zero
  else .whole

end Numeral

/-- The reader knows the decimal digits. -/
theorem digit?_digitChar : ∀ digit < 10, digit? (Nat.digitChar digit) = some digit := by decide

/-- A character that a numeral goes on with is taken. -/
theorem step_number {draft next : Draft} {stage stage' : Stage} {char : Char}
    (extended : extend draft stage char = some (next, stage')) :
    step ⟨stack, .number draft stage⟩ char = ⟨stack, .number next stage'⟩ := by
  simp only [step, extended]

/-- Digits are collected while the stage takes them. -/
theorem foldl_step_digits {stage : Stage} (put : List Nat → Draft)
    (takes : ∀ before digit char, digit? char = some digit →
      extend (put before) stage char = some (put (digit :: before), stage))
    {digits : List Nat} (small : ∀ digit ∈ digits, digit < 10) (before : List Nat) :
    (digits.map Nat.digitChar).foldl step ⟨stack, .number (put before) stage⟩ =
      ⟨stack, .number (put (digits.reverse ++ before)) stage⟩ := by
  induction digits generalizing before with
  | nil => rfl
  | cons digit digits others =>
    have known := digit?_digitChar digit (small digit List.mem_cons_self)
    rw [List.map_cons, List.foldl_cons, step_number (takes before digit _ known),
      others (fun digit listed => small digit (List.mem_cons_of_mem _ listed))]
    simp

/-- Digits after a mark are collected when the first of them is taken. -/
theorem SpellsDigits.foldl_step {first : Stage} (stage : Stage) (put : List Nat → Draft)
    (starts : ∀ digit char, digit? char = some digit →
      extend (put []) first char = some (put [digit], stage))
    (takes : ∀ before digit char, digit? char = some digit →
      extend (put before) stage char = some (put (digit :: before), stage))
    {chars : List Char} {digits : List Nat} (spelled : SpellsDigits chars digits) :
    chars.foldl step ⟨stack, .number (put []) first⟩ =
      ⟨stack, .number (put digits.reverse) stage⟩ := by
  obtain ⟨nonempty, small, rfl⟩ := spelled
  cases digits with
  | nil => exact absurd rfl nonempty
  | cons digit digits =>
    have known := digit?_digitChar digit (small digit List.mem_cons_self)
    rw [List.map_cons, List.foldl_cons, step_number (starts digit _ known),
      foldl_step_digits put takes (fun digit listed => small digit (List.mem_cons_of_mem _ listed))]
    simp

/-- The first digit of a numeral is read, also after a minus sign. -/
theorem foldl_step_firstDigit {mode : Mode} (opens : mode.Opens) (negative : Bool) {digit : Nat}
    (small : digit < 10) :
    ((if negative then ['-'] else []) ++ [Nat.digitChar digit]).foldl step ⟨stack, mode⟩ =
      ⟨stack, .number ⟨negative, [digit], [], false, []⟩
        (if digit = 0 then .zero else .whole)⟩ := by
  cases opens <;> cases negative <;> interval_cases digit <;> rfl

/-- The digits before the point are read. -/
theorem foldl_step_whole {mode : Mode} (opens : mode.Opens) (negative : Bool)
    {chars : List Char} {whole : List Nat} (spelled : SpellsDigits chars whole)
    (noLeadingZero : whole.head? = some 0 → whole = [0]) :
    ((if negative then ['-'] else []) ++ chars).foldl step ⟨stack, mode⟩ =
      ⟨stack, .number (Numeral.draft ⟨negative, whole, none, none⟩)
        (Numeral.stage ⟨negative, whole, none, none⟩)⟩ := by
  obtain ⟨nonempty, small, rfl⟩ := spelled
  cases whole with
  | nil => exact absurd rfl nonempty
  | cons digit digits =>
    rw [List.map_cons, List.append_cons, List.foldl_append,
      foldl_step_firstDigit opens negative (small digit List.mem_cons_self)]
    by_cases zero : digit = 0
    · subst zero
      have alone : digits = [] := by simpa using noLeadingZero
      subst alone
      rfl
    · have takes : ∀ before digit char, digit? char = some digit →
          extend ⟨negative, before, [], false, []⟩ .whole char =
            some (⟨negative, digit :: before, [], false, []⟩, .whole) := by
        intro before digit char known
        simp only [extend, known]
      rw [if_neg zero, foldl_step_digits (fun whole => ⟨negative, whole, [], false, []⟩) takes
        (fun digit listed => small digit (List.mem_cons_of_mem _ listed))]
      simp [Numeral.draft, Numeral.stage, zero]

/-- A fraction is read after the digits before the point. -/
theorem foldl_step_fraction {negative : Bool} {whole : List Nat} {chars : List Char}
    {fraction : Option (List Nat)} (spelled : SpellsFraction chars fraction) :
    chars.foldl step ⟨stack, .number (Numeral.draft ⟨negative, whole, none, none⟩)
        (Numeral.stage ⟨negative, whole, none, none⟩)⟩ =
      ⟨stack, .number (Numeral.draft ⟨negative, whole, fraction, none⟩)
        (Numeral.stage ⟨negative, whole, fraction, none⟩)⟩ := by
  cases fraction with
  | none => cases spelled; rfl
  | some digits =>
    obtain ⟨written, rfl, spelled⟩ := spelled
    have pointed : extend (Numeral.draft ⟨negative, whole, none, none⟩)
        (Numeral.stage ⟨negative, whole, none, none⟩) '.' =
        some (Numeral.draft ⟨negative, whole, none, none⟩, .point) := by
      by_cases zero : whole = [0] <;> simp [Numeral.stage, zero] <;> rfl
    rw [List.foldl_cons, step_number pointed]
    exact spelled.foldl_step .fraction
      (fun fraction => ⟨negative, whole.reverse, fraction, false, []⟩)
      (fun digit char known => by simp only [extend, known])
      (fun before digit char known => by simp only [extend, known])

variable (stack) in
/-- The mark and the sign of a power of ten are read after the other digits. -/
theorem foldl_step_powerSign (negative : Bool) (whole : List Nat) (fraction : Option (List Nat))
    {inverse : Bool} {mark : Char} {sign : List Char} (isMark : mark ∈ ['e', 'E'])
    (isSign : sign ∈ powerSigns inverse) :
    ∃ stage ∈ [Stage.mark, .sign],
      (mark :: sign).foldl step ⟨stack, .number (Numeral.draft ⟨negative, whole, fraction, none⟩)
          (Numeral.stage ⟨negative, whole, fraction, none⟩)⟩ =
        ⟨stack, .number (Numeral.draft ⟨negative, whole, fraction, some (inverse, [])⟩) stage⟩ := by
  have marked : extend (Numeral.draft ⟨negative, whole, fraction, none⟩)
      (Numeral.stage ⟨negative, whole, fraction, none⟩) mark =
      some (Numeral.draft ⟨negative, whole, fraction, none⟩, .mark) := by
    have noDigit : digit? mark = none ∧ mark ≠ '.' ∧ (mark = 'e' ∨ mark = 'E') := by
      simp only [List.mem_cons, List.not_mem_nil, or_false] at isMark
      rcases isMark with rfl | rfl <;> decide
    cases fraction with
    | none => by_cases zero : whole = [0] <;> simp [Numeral.stage, zero, extend, noDigit]
    | some digits => simp [Numeral.stage, extend, noDigit]
  rw [List.foldl_cons, step_number marked]
  cases inverse with
  | true =>
    simp only [powerSigns, if_true, List.mem_singleton] at isSign
    subst isSign
    exact ⟨.sign, by simp, rfl⟩
  | false =>
    simp only [powerSigns, Bool.false_eq_true, if_false, List.mem_cons, List.not_mem_nil,
      or_false] at isSign
    rcases isSign with rfl | rfl
    · exact ⟨.mark, by simp, rfl⟩
    · exact ⟨.sign, by simp, rfl⟩

/-- A power of ten is read after the other digits. -/
theorem foldl_step_power {negative : Bool} {whole : List Nat} {fraction : Option (List Nat)}
    {chars : List Char} {power : Option (Bool × List Nat)} (spelled : SpellsPower chars power) :
    chars.foldl step ⟨stack, .number (Numeral.draft ⟨negative, whole, fraction, none⟩)
        (Numeral.stage ⟨negative, whole, fraction, none⟩)⟩ =
      ⟨stack, .number (Numeral.draft ⟨negative, whole, fraction, power⟩)
        (Numeral.stage ⟨negative, whole, fraction, power⟩)⟩ := by
  match power with
  | none => cases spelled; rfl
  | some (inverse, digits) =>
    obtain ⟨mark, isMark, sign, isSign, written, rfl, spelled⟩ := spelled
    obtain ⟨stage, isStage, read⟩ :=
      foldl_step_powerSign stack negative whole fraction isMark isSign
    rw [← List.cons_append, List.foldl_append, read]
    refine spelled.foldl_step .exponent
      (fun power => ⟨negative, whole.reverse, (fraction.getD []).reverse, inverse, power⟩)
      (fun digit char known => ?_) (fun before digit char known => by simp only [extend, known])
    simp only [List.mem_cons, List.not_mem_nil, or_false] at isStage
    rcases isStage with rfl | rfl <;> simp only [extend, known]

/-- After the text of a numeral the reader holds the numeral. -/
theorem Numeral.SpelledBy.foldl_step {numeral : Numeral} {chars : List Char}
    (spelled : numeral.SpelledBy chars) {mode : Mode} (opens : mode.Opens) :
    chars.foldl step ⟨stack, mode⟩ = ⟨stack, .number numeral.draft numeral.stage⟩ := by
  obtain ⟨whole, fraction, power, rfl, spelledWhole, noLeadingZero, spelledFraction,
    spelledPower⟩ := spelled
  rw [List.foldl_append, List.foldl_append, foldl_step_whole opens numeral.negative spelledWhole
    noLeadingZero, foldl_step_fraction spelledFraction, foldl_step_power spelledPower]

/-- What may stand after a value is no digit and no mark within a numeral. -/
theorem Follows.not_numeral {char : Char} (follows : Follows char) :
    digit? char = none ∧ char ∉ ['.', 'e', 'E', '+', '-'] := by
  have known : (blanks ++ [',', ':', ']', '\x7d']).all fun char =>
      digit? char = none ∧ char ∉ ['.', 'e', 'E', '+', '-'] := by decide
  exact of_decide_eq_true (List.all_eq_true.mp known char follows)

/-- A numeral does not go on with what may stand after a value. -/
theorem extend_of_follows {char : Char} (follows : Follows char) (draft : Draft) (stage : Stage) :
    extend draft stage char = none := by
  obtain ⟨noDigit, noMark⟩ := follows.not_numeral
  simp only [List.mem_cons, not_or] at noMark
  cases stage <;> simp [extend, noDigit, noMark]

/-- A numeral that has been read ends where no digit follows. -/
theorem Numeral.SpelledBy.numeral? {numeral : Numeral} {chars : List Char}
    (spelled : numeral.SpelledBy chars) (next : Option Char) (noDigit : next.bind digit? = none) :
    State.numeral? numeral.draft numeral.stage next = some numeral := by
  obtain ⟨_, _, _, _, _, _, spelledFraction, _⟩ := spelled
  obtain ⟨negative, whole, fraction, power⟩ := numeral
  -- A draft has no fraction when it has no digits of one, and no fraction is without digits.
  have kept : (if (fraction.getD []).reverse = [] then none
      else some (fraction.getD [])) = fraction := by
    cases fraction with
    | none => rfl
    | some digits =>
      obtain ⟨_, _, nonempty, _⟩ := spelledFraction
      rw [if_neg (by simpa using nonempty)]
      rfl
  simp only [State.numeral?, Numeral.draft, Numeral.stage, kept, List.reverse_reverse, noDigit]
  match power, fraction with
  | some (_, _), _ => simp
  | none, some _ => rfl
  | none, none =>
    by_cases zero : whole = [0]
    · simp [zero]
    · simp [zero]

end EnclaveChain.Json
