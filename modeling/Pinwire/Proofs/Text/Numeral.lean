import Pinwire.Text.Decimal

/-!
# Numerals

Which texts are read as which numbers: decimal digits, at least one, with an optional plus sign
before them. Leading zeros do not matter, so a number has many numerals; the one that it is printed
as has no sign. The value of the digits read so far carries the reading of a row of them. Integers
can have a minus sign instead.
-/

namespace Pinwire.Text

/-- A text is a numeral of a number if it consists of the digits of it, after an optional plus
sign. -/
def Numeral (text : List Char) (value : Nat) : Prop :=
  ∃ digits, (text = digits ∨ text = '+' :: digits) ∧ digits ≠ [] ∧
    (∀ digit ∈ digits, digit.isDigit) ∧ Nat.ofDigitChars 10 digits 0 = value

namespace Decimal

theorem digitValue?_of_isDigit {character : Char} (digit : character.isDigit) :
    digitValue? character = some (character.toNat - '0'.toNat) := by
  simp only [Char.isDigit, Bool.and_eq_true, decide_eq_true_eq, ge_iff_le] at digit
  exact if_pos digit

theorem digitValue?_of_not_isDigit {character : Char} (noDigit : ¬character.isDigit) :
    digitValue? character = none := by
  simp only [Char.isDigit, Bool.and_eq_true, decide_eq_true_eq, ge_iff_le] at noDigit
  exact if_neg noDigit

theorem valueAfter?_eq_some_iff {high value : Nat} {text : List Char} :
    valueAfter? high text = some value ↔
      (∀ digit ∈ text, digit.isDigit) ∧ Nat.ofDigitChars 10 text high = value := by
  induction text generalizing high with
  | nil => simp [valueAfter?, Nat.ofDigitChars]
  | cons character text ih =>
      rw [Nat.ofDigitChars_cons, List.forall_mem_cons]
      by_cases digit : character.isDigit
      · rw [valueAfter?, digitValue?_of_isDigit digit, Option.bind_some, ih]
        simp [digit]
      · rw [valueAfter?, digitValue?_of_not_isDigit digit]
        simp [digit]

theorem value?_eq_some_iff {value : Nat} {text : List Char} :
    value? text = some value ↔
      text ≠ [] ∧ (∀ digit ∈ text, digit.isDigit) ∧ Nat.ofDigitChars 10 text 0 = value := by
  cases text with
  | nil => simp [value?]
  | cons character text =>
      rw [value?, valueAfter?_eq_some_iff]
      simp

theorem numeral_plus_iff {value : Nat} {rest : List Char} :
    Numeral ('+' :: rest) value ↔ value? rest = some value := by
  have plus : ¬Char.isDigit '+' := by decide
  rw [value?_eq_some_iff]
  constructor
  · rintro ⟨digits, rfl | same, some, all, evaluated⟩
    · exact absurd (all '+' List.mem_cons_self) plus
    · cases same
      exact ⟨some, all, evaluated⟩
  · rintro ⟨some, digits, evaluated⟩
    exact ⟨rest, .inr rfl, some, digits, evaluated⟩

theorem numeral_iff_of_unsigned {value : Nat} {text : List Char}
    (unsigned : ∀ rest, text ≠ '+' :: rest) : Numeral text value ↔ value? text = some value := by
  rw [value?_eq_some_iff]
  constructor
  · rintro ⟨digits, rfl | same, some, all, evaluated⟩
    · exact ⟨some, all, evaluated⟩
    · exact absurd same (unsigned digits)
  · rintro ⟨some, digits, evaluated⟩
    exact ⟨text, .inl rfl, some, digits, evaluated⟩

/-- Reading a number admits the numerals up to the limit and nothing else. -/
theorem unsigned?_eq_some_iff {limit value : Nat} {text : List Char} :
    unsigned? limit text = some value ↔ Numeral text value ∧ value ≤ limit := by
  unfold unsigned?
  rw [Option.filter_eq_some_iff, decide_eq_true_eq]
  apply and_congr_left
  intro _
  split
  · exact numeral_plus_iff.symm
  · rename_i unsigned
    exact (numeral_iff_of_unsigned unsigned).symm

theorem word?_eq_some_iff {word : UInt32} {text : List Char} :
    word? text = some word ↔ Numeral text word.toNat := by
  rw [word?, Option.map_eq_some_iff]
  constructor
  · rintro ⟨value, read, rfl⟩
    rcases unsigned?_eq_some_iff.1 read with ⟨numeral, small⟩
    have bound : value < UInt32.size := Nat.lt_succ_of_le small
    rwa [UInt32.toNat_ofNat_of_lt' bound]
  · intro numeral
    refine ⟨word.toNat, unsigned?_eq_some_iff.2 ⟨numeral, ?_⟩, UInt32.ofNat_toNat⟩
    exact Nat.le_of_lt_succ word.toNat_lt

theorem byte?_eq_some_iff {byte : UInt8} {text : List Char} :
    byte? text = some byte ↔ Numeral text byte.toNat := by
  rw [byte?, Option.map_eq_some_iff]
  constructor
  · rintro ⟨value, read, rfl⟩
    rcases unsigned?_eq_some_iff.1 read with ⟨numeral, small⟩
    have bound : value < UInt8.size := Nat.lt_succ_of_le small
    rwa [UInt8.toNat_ofNat_of_lt' bound]
  · intro numeral
    refine ⟨byte.toNat, unsigned?_eq_some_iff.2 ⟨numeral, ?_⟩, UInt8.ofNat_toNat⟩
    exact Nat.le_of_lt_succ byte.toNat_lt

theorem word?_eq_none_iff {text : List Char} :
    word? text = none ↔ ∀ word : UInt32, ¬Numeral text word.toNat := by
  simp only [Option.eq_none_iff_forall_ne_some, ne_eq, word?_eq_some_iff]

theorem byte?_eq_none_iff {text : List Char} :
    byte? text = none ↔ ∀ byte : UInt8, ¬Numeral text byte.toNat := by
  simp only [Option.eq_none_iff_forall_ne_some, ne_eq, byte?_eq_some_iff]

theorem digit_eq_digitChar {value : Nat} (small : value < 10) : digit value = value.digitChar := by
  have all : ∀ value < 10, digit value = value.digitChar := by decide
  exact all value small

theorem render_eq_toDigits (value : Nat) : render value = Nat.toDigits 10 value := by
  induction value using render.induct with
  | case1 value small =>
      rw [render, if_pos small, Nat.toDigits_of_lt_base small, digit_eq_digitChar small]
  | case2 value large ih =>
      have last : value % 10 < 10 := Nat.mod_lt _ (by decide)
      rw [render, if_neg large, Nat.toDigits_of_base_le (by decide) (Nat.le_of_not_lt large), ih,
        digit_eq_digitChar last]

end Decimal

namespace Numeral

variable {text : List Char} {value : Nat}

/-- What a number is printed as is a numeral of it. -/
theorem toDigits (value : Nat) : Numeral (Nat.toDigits 10 value) value := by
  refine ⟨_, .inl rfl, Nat.toDigits_ne_nil, ?_, Nat.ofDigitChars_ten_toDigits⟩
  intro digit member
  exact Nat.isDigit_of_mem_toDigits (by decide) (by decide) member

theorem toString (value : Nat) : Numeral (ToString.toString value).toList value := by
  rw [Nat.toString_eq_ofList_toDigits, String.toList_ofList]
  exact toDigits value

theorem unique {value' : Nat} (numeral : Numeral text value) (numeral' : Numeral text value') :
    value = value' := by
  have read := Decimal.unsigned?_eq_some_iff.2 ⟨numeral, Nat.le_max_left value value'⟩
  rw [Decimal.unsigned?_eq_some_iff.2 ⟨numeral', Nat.le_max_right value value'⟩] at read
  exact (Option.some.inj read).symm

theorem ofWord (word : UInt32) : Numeral (ToString.toString word).toList word.toNat :=
  toString word.toNat

/-- A numeral has no characters but digits and a plus sign. -/
theorem isDigit_of_mem (numeral : Numeral text value) {character : Char}
    (member : character ∈ text) : character.isDigit ∨ character = '+' := by
  rcases numeral with ⟨digits, rfl | rfl, _, all, _⟩
  · exact .inl (all character member)
  · rcases List.mem_cons.1 member with rfl | member
    · exact .inr rfl
    · exact .inl (all character member)

theorem not_mem (numeral : Numeral text value) {character : Char} (noDigit : ¬character.isDigit)
    (unsigned : character ≠ '+') : character ∉ text := by
  intro member
  rcases numeral.isDigit_of_mem member with digit | plus
  · exact noDigit digit
  · exact unsigned plus

theorem exists_isDigit (numeral : Numeral text value) : ∃ digit ∈ text, digit.isDigit := by
  rcases numeral with ⟨_ | ⟨digit, digits⟩, written, some, all, _⟩
  · exact absurd rfl some
  · refine ⟨digit, ?_, all digit List.mem_cons_self⟩
    rcases written with rfl | rfl <;> simp

/-- Past its first character, a numeral has nothing but digits. -/
theorem isDigit_of_append {before after : List Char} {character : Char}
    (numeral : Numeral (before ++ character :: after) value)
    (later : before ≠ [] ∨ character ≠ '+') : character.isDigit := by
  rcases numeral with ⟨digits, rfl | signed, _, all, _⟩
  · exact all character (List.mem_append_right before List.mem_cons_self)
  · cases before with
    | nil =>
        cases signed
        simp at later
    | cons first before =>
        rw [List.cons_append, List.cons.injEq] at signed
        rw [← signed.2] at all
        exact all character (List.mem_append_right before List.mem_cons_self)

end Numeral

/-- A text is a numeral of an integer if it is one of a number, or if it is the digits of a number
after a minus sign. -/
inductive SignedNumeral : List Char → Int → Prop where
  | plus {text : List Char} {value : Nat} (numeral : Numeral text value) : SignedNumeral text value
  | minus {digits : List Char} {value : Nat} (numeral : Numeral digits value)
      (unsigned : ∀ rest, digits ≠ '+' :: rest) : SignedNumeral ('-' :: digits) (-value)

/-- What is above zero has no minus sign. -/
theorem SignedNumeral.numeral_toNat {text : List Char} {value : Int}
    (numeral : SignedNumeral text value) (positive : 0 < value) : Numeral text value.toNat := by
  cases numeral with
  | plus numeral => exact numeral
  | minus numeral unsigned => omega

/-- A number that was read counts as an integer. -/
theorem Decimal.map_lifted_eq_some_iff {number : Option Nat} {place : Int → Int} {value : Int} :
    (do pure (Nat.cast (← number)) : Option Int).map place = some value ↔
      ∃ size : Nat, number = some size ∧ place size = value := by
  cases number <;> simp

/-- Reading an integer admits the numerals within the bounds and nothing else. -/
theorem Decimal.signed?_eq_some_iff {lowest highest value : Int} {text : List Char} :
    signed? lowest highest text = some value ↔
      SignedNumeral text value ∧ lowest ≤ value ∧ value ≤ highest := by
  have noDigit : ¬Char.isDigit '-' := by decide
  unfold signed?
  rw [Option.filter_eq_some_iff, decide_eq_true_eq]
  apply and_congr_left
  intro _
  split
  · rename_i digits
    rw [map_lifted_eq_some_iff]
    constructor
    · rintro ⟨value, read, rfl⟩
      have unsigned : ∀ rest, digits ≠ '+' :: rest := by
        rintro rest rfl
        have plus := (value?_eq_some_iff.1 read).2.1 '+' List.mem_cons_self
        exact absurd plus (by decide)
      exact .minus ((numeral_iff_of_unsigned unsigned).2 read) unsigned
    · intro numeral
      cases numeral with
      | plus numeral => exact absurd List.mem_cons_self (numeral.not_mem noDigit (by decide))
      | minus numeral unsigned => exact ⟨_, (numeral_iff_of_unsigned unsigned).1 numeral, rfl⟩
  · rename_i rest
    rw [map_lifted_eq_some_iff]
    constructor
    · rintro ⟨value, read, rfl⟩
      exact .plus (numeral_plus_iff.2 read)
    · intro numeral
      cases numeral with
      | plus numeral => exact ⟨_, numeral_plus_iff.1 numeral, rfl⟩
  · rename_i noMinus noPlus
    rw [map_lifted_eq_some_iff]
    constructor
    · rintro ⟨value, read, rfl⟩
      exact .plus ((numeral_iff_of_unsigned noPlus).2 read)
    · intro numeral
      cases numeral with
      | plus numeral => exact ⟨_, (numeral_iff_of_unsigned noPlus).1 numeral, rfl⟩
      | minus numeral unsigned => exact absurd rfl (noMinus _)

theorem SignedNumeral.unique {text : List Char} {value value' : Int}
    (numeral : SignedNumeral text value) (numeral' : SignedNumeral text value') :
    value = value' := by
  have read := Decimal.signed?_eq_some_iff.2
    ⟨numeral, Int.min_le_left value value', Int.le_max_left value value'⟩
  rw [Decimal.signed?_eq_some_iff.2
    ⟨numeral', Int.min_le_right value value', Int.le_max_right value value'⟩] at read
  exact (Option.some.inj read).symm

end Pinwire.Text
