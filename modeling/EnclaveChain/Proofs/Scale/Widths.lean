import EnclaveChain.Call.Runtime
import EnclaveChain.Proofs.Scale.Exact

/-!
# Compact integers of different widths

Times, amounts and the lengths of vectors are compact integers of eight, sixteen and four bytes, and
the reader of each width has limits of its own. All of them read a number from its shortest form
and from nothing else, so they agree on every byte string, up to the numbers that the narrower one
does not hold (`compact_widths_agree`).
-/
namespace EnclaveChain

open Scale

/-! ### Three readers of numbers -/

/-- In a call that sets the clock, these bytes are read as the time, and some are left over. -/
def SetsClock (bytes : Bytes) (number : Nat) (rest : Bytes) : Prop :=
  ∃ now : UInt64, now.toNat = number ∧
    RuntimeCall.decode ([2, 0] ++ bytes) = .ok (.timestamp (.set now), rest)

/-- In a transfer to a receiver, these bytes are read as the amount, and some are left over. -/
def Transfers (dest : MultiAddress) (bytes : Bytes) (number : Nat) (rest : Bytes) : Prop :=
  ∃ value : Balance, value.toNat = number ∧
    RuntimeCall.decode ([10, 0] ++ MultiAddress.schema.encode dest ++ bytes) =
      .ok (.balances (.transferAllowDeath dest value), rest)

/-- In front of a vector, these bytes are read as its length, and some are left over. -/
def CountsItems (bytes : Bytes) (number : Nat) (rest : Bytes) : Prop :=
  Compact.decode 4 bytes = .ok (number, rest)

variable {bytes rest : Bytes} {number limit : Nat} {dest : MultiAddress}

/-- A call is read exactly when it fits and its encoding stands at the front. -/
theorem RuntimeCall.decode_eq_ok_iff {call : RuntimeCall} :
    decode bytes = .ok (call, rest) ↔ schema.fits call ∧ bytes = call.encode ++ rest :=
  schema.decode_reads bytes call rest

/-- A time is read from the shortest form of a number of eight bytes. -/
theorem setsClock_iff :
    SetsClock bytes number rest ↔ number < 2 ^ 64 ∧ bytes = Compact.encode number ++ rest := by
  have reads (now : UInt64) :
      RuntimeCall.decode ([2, 0] ++ bytes) = .ok (.timestamp (.set now), rest) ↔
        bytes = Compact.encode now.toNat ++ rest := by
    have encoded : (RuntimeCall.timestamp (.set now)).encode =
        [2, 0] ++ Compact.encode now.toNat := rfl
    rw [RuntimeCall.decode_eq_ok_iff, encoded, List.append_assoc, List.append_right_inj]
    exact and_iff_right rfl
  constructor
  · rintro ⟨now, rfl, read⟩
    exact ⟨now.toNat_lt, (reads now).mp read⟩
  · rintro ⟨bound, form⟩
    have same : (UInt64.ofNat number).toNat = number := UInt64.toNat_ofNat_of_lt' bound
    exact ⟨.ofNat number, same, (reads _).mpr (same.symm ▸ form)⟩

/-- An amount is read from the shortest form of a number of sixteen bytes. -/
theorem transfers_iff (fitting : MultiAddress.schema.fits dest) :
    Transfers dest bytes number rest ↔
      number < 2 ^ 128 ∧ bytes = Compact.encode number ++ rest := by
  have reads (value : Balance) :
      RuntimeCall.decode ([10, 0] ++ MultiAddress.schema.encode dest ++ bytes) =
          .ok (.balances (.transferAllowDeath dest value), rest) ↔
        bytes = Compact.encode value.toNat ++ rest := by
    have encoded : (RuntimeCall.balances (.transferAllowDeath dest value)).encode =
        [10, 0] ++ MultiAddress.schema.encode dest ++ Compact.encode value.toNat := rfl
    rw [RuntimeCall.decode_eq_ok_iff, encoded, List.append_assoc _ _ rest, List.append_right_inj]
    exact and_iff_right (Bool.and_eq_true_iff.mpr ⟨fitting, rfl⟩)
  constructor
  · rintro ⟨value, rfl, read⟩
    exact ⟨value.isLt, (reads value).mp read⟩
  · rintro ⟨bound, form⟩
    have same : (BitVec.ofNat 128 number).toNat = number := by
      rw [BitVec.toNat_ofNat, Nat.mod_eq_of_lt bound]
    exact ⟨.ofNat 128 number, same, (reads _).mpr (same.symm ▸ form)⟩

/-- A length is read from the shortest form of a number of four bytes. -/
theorem countsItems_iff :
    CountsItems bytes number rest ↔ number < 2 ^ 32 ∧ bytes = Compact.encode number ++ rest :=
  length_reads bytes number rest

/-- The bytes of a remark stand behind their number. -/
theorem decode_remark_eq_ok_iff {remark : Bytes} :
    RuntimeCall.decode ([0, 0] ++ bytes) = .ok (.system (.remark remark), rest) ↔
      CountsItems bytes remark.length (remark ++ rest) := by
  have encoded : (RuntimeCall.system (.remark remark)).encode =
      [0, 0] ++ (Compact.encode remark.length ++ remark) := rfl
  have fits : RuntimeCall.schema.fits (.system (.remark remark)) ↔ remark.length < 2 ^ 32 :=
    decide_eq_true_iff
  rw [RuntimeCall.decode_eq_ok_iff, countsItems_iff, fits, encoded, List.append_assoc,
    List.append_right_inj, List.append_assoc]

/-- The items of a vector stand behind their number. -/
theorem decode_list_eq_ok_iff {α : Type} {item : Schema α} {values : List α} :
    (Schema.list item).decode bytes = .ok (values, rest) ↔
      ∃ items, CountsItems bytes values.length items ∧
        item.decode.times values.length items = .ok (values, rest) := by
  rw [Schema.decode, Decoder.andThen_eq_ok_iff]
  constructor
  · rintro ⟨count, items, counted, read⟩
    obtain ⟨⟨rfl, -⟩, -⟩ := (item.decode_reads.times count _ _ _).mp read
    exact ⟨items, counted, read⟩
  · rintro ⟨items, counted, read⟩
    exact ⟨values.length, items, counted, read⟩

/-! ### They agree -/

/-- A number that also fits a narrower width is read from the same form there. -/
theorem transfers_and_lt_iff (fitting : MultiAddress.schema.fits dest)
    (narrow : limit ≤ 2 ^ 128) :
    Transfers dest bytes number rest ∧ number < limit ↔
      number < limit ∧ bytes = Compact.encode number ++ rest := by
  rw [transfers_iff fitting]
  constructor
  · rintro ⟨⟨-, form⟩, small⟩
    exact ⟨small, form⟩
  · rintro ⟨small, form⟩
    exact ⟨⟨Nat.lt_of_lt_of_le small narrow, form⟩, small⟩

/-- Compact integers of all widths agree. Bytes are read as a time exactly when they are read as the
same amount, for any receiver and with the same bytes left over, and the number has at most eight
bytes; they are read as the length of a vector exactly when it has at most four. (This is the length
of the bytes of a remark, and of a vector whose items have any layout.) What is written for an
amount is read as it, and no reader takes a shorter byte string for the same number. -/
theorem compact_widths_agree :
    (∀ (bytes rest : Bytes) (number : Nat) (dest : MultiAddress), MultiAddress.schema.fits dest →
      (SetsClock bytes number rest ↔ Transfers dest bytes number rest ∧ number < 2 ^ 64) ∧
      (CountsItems bytes number rest ↔ Transfers dest bytes number rest ∧ number < 2 ^ 32)) ∧
    (∀ bytes remark rest : Bytes,
      RuntimeCall.decode ([0, 0] ++ bytes) = .ok (.system (.remark remark), rest) ↔
        CountsItems bytes remark.length (remark ++ rest)) ∧
    (∀ {α : Type} (item : Schema α) (bytes rest : Bytes) (values : List α),
      (Schema.list item).decode bytes = .ok (values, rest) ↔
        ∃ items, CountsItems bytes values.length items ∧
          item.decode.times values.length items = .ok (values, rest)) ∧
    ∀ (amount : Balance) (dest : MultiAddress), MultiAddress.schema.fits dest →
      let form := Schema.compact128.encode amount
      (RuntimeCall.balances (.transferAllowDeath dest amount)).encode =
          [10, 0] ++ MultiAddress.schema.encode dest ++ form ∧
        Transfers dest form amount.toNat [] ∧
        ∀ bytes rest : Bytes,
          SetsClock bytes amount.toNat rest ∨ Transfers dest bytes amount.toNat rest ∨
            CountsItems bytes amount.toNat rest →
          form.length + rest.length ≤ bytes.length := by
  refine ⟨?_, ?_, ?_, ?_⟩
  · intro bytes rest number dest fitting
    rw [setsClock_iff, countsItems_iff, transfers_and_lt_iff fitting (by decide),
      transfers_and_lt_iff fitting (by decide)]
    exact ⟨Iff.rfl, Iff.rfl⟩
  · intro bytes remark rest
    exact decode_remark_eq_ok_iff
  · intro α item bytes rest values
    exact decode_list_eq_ok_iff
  · intro amount dest fitting form
    refine ⟨rfl, (transfers_iff fitting).mpr ⟨amount.isLt, (List.append_nil _).symm⟩, ?_⟩
    intro bytes rest read
    have found : bytes = form ++ rest := by
      rw [setsClock_iff, transfers_iff fitting, countsItems_iff] at read
      rcases read with ⟨-, found⟩ | ⟨-, found⟩ | ⟨-, found⟩ <;> exact found
    have sized := congrArg List.length found
    rw [List.length_append] at sized
    exact Nat.le_of_eq sized.symm

/-- The number `2 ^ 32`, in front of a byte that is not part of it, is an amount and a time but not
the length of a vector. -/
theorem compact_widths_agree_beyond_lengths :
    MultiAddress.schema.fits .index ∧
      Transfers .index [7, 0, 0, 0, 0, 1, 9] 4294967296 [9] ∧
      SetsClock [7, 0, 0, 0, 0, 1, 9] 4294967296 [9] ∧
      ¬ CountsItems [7, 0, 0, 0, 0, 1, 9] 4294967296 [9] ∧
      (Schema.compact128.encode (4294967296 : BitVec 128)).length + 1 ≤ 7 := by
  obtain ⟨agree, -, -, shortest⟩ := compact_widths_agree
  obtain ⟨time, length⟩ := agree [7, 0, 0, 0, 0, 1, 9] [9] 4294967296 .index rfl
  have amount : Transfers .index [7, 0, 0, 0, 0, 1, 9] 4294967296 [9] := ⟨4294967296, rfl, rfl⟩
  refine ⟨rfl, amount, time.mpr ⟨amount, by decide⟩, ?_, ?_⟩
  · intro counted
    exact absurd (length.mp counted).2 (by decide)
  · exact (shortest 4294967296 .index rfl).2.2 _ [9] (.inr (.inl amount))

end EnclaveChain
