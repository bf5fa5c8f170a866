import Pinwire.Proofs.Text.Accumulation
import Pinwire.Proofs.Text.Parts
import Pinwire.Spi.ChunkLimit

/-!
# Sizes of buffers

Which texts are read as the size of a buffer, said without the functions that read them: numerals of
the sizes from one to the largest signed 32-bit number, with blanks around them. What is wrong with
all the other texts is listed, and nothing else can be wrong.

Numbers here are as large as they are written. Reading them into machine words, step by step, comes
to the same, so no row of digits is long enough to come round to a size.
-/

namespace Pinwire.ChunkLimit

/-- A text is usable as a size if it is a numeral of it, and the size is at least one and at most
the largest signed number of 32 bits. -/
structure Usable (core : List Char) (size : Nat) : Prop where
  numeral : Text.Numeral core size
  positive : 1 ≤ size
  fits : size ≤ Bounds.signed32

/-- What can be wrong with a text as a size, once the blanks around it are dropped. -/
inductive Unusable : List Char → Prop where
  /-- There is nothing, or a sign alone. -/
  | noDigits {sign : List Char} (among : sign ∈ [[], ['+'], ['-']]) : Unusable sign
  /-- A character is no ASCII digit, and no sign in front of the others: a blank inside, a letter,
  or a digit of another script. -/
  | strayCharacter {before after : List Char} {character : Char} (noDigit : ¬character.isDigit)
      (noSign : before = [] → character ≠ '+' ∧ character ≠ '-') :
      Unusable (before ++ character :: after)
  | notPositive {core : List Char} {value : Int} (numeral : Text.SignedNumeral core value)
      (low : value ≤ 0) : Unusable core
  | tooLarge {core : List Char} {value : Int} (numeral : Text.SignedNumeral core value)
      (large : Bounds.signed32 < value) : Unusable core

/-- Reads a size as `parse` does, but into a word of 64 bits with a sign. -/
def parseWord (text : String) : Except SpiError Nat :=
  let trimmed := Text.trim text.toList
  match Text.Decimal.signedWord? trimmed with
  | none => .error (.bufferSizeInvalid (String.ofList trimmed))
  | some size =>
    if 0 < size ∧ size ≤ 2147483647 then .ok size.toUInt64.toNat
    else .error (.bufferSizeInvalid (String.ofList trimmed))

section Kinds

variable {core : List Char} {size : Nat}

theorem Unusable.not_usable (unusable : Unusable core) : ¬Usable core size := by
  rintro ⟨numeral, positive, fits⟩
  cases unusable with
  | noDigits among =>
      rcases numeral.exists_isDigit with ⟨digit, member, isDigit⟩
      simp only [List.mem_cons, List.not_mem_nil, or_false] at among
      rcases among with rfl | rfl | rfl
      · cases member
      · cases List.mem_singleton.1 member
        exact absurd isDigit (by decide)
      · cases List.mem_singleton.1 member
        exact absurd isDigit (by decide)
  | @strayCharacter before after character noDigit noSign =>
      apply noDigit
      apply numeral.isDigit_of_append
      by_cases first : before = []
      · right
        exact (noSign first).1
      · left
        exact first
  | notPositive signed low =>
      have same := signed.unique (.plus numeral)
      omega
  | tooLarge signed large =>
      have same := signed.unique (.plus numeral)
      omega

/-- A text is the numeral of some integer, unless it has no digits or something beside digits and a
sign in front of them. -/
theorem exists_signedNumeral_or_unusable (core : List Char) :
    (∃ value, Text.SignedNumeral core value) ∨ Unusable core := by
  rcases core with _ | ⟨first, rest⟩
  · exact .inr (.noDigits List.mem_cons_self)
  -- Only the first character can be a sign, so the others decide first.
  by_cases digits : ∀ character ∈ rest, character.isDigit
  · by_cases sign : first = '+' ∨ first = '-'
    · by_cases alone : rest = []
      · subst alone
        exact .inr (.noDigits (by simpa using sign))
      left
      rcases sign with rfl | rfl
      · exact ⟨_, .plus ⟨rest, .inr rfl, alone, digits, rfl⟩⟩
      · have unsigned : ∀ others, rest ≠ '+' :: others := by
          rintro others rfl
          exact absurd (digits '+' List.mem_cons_self) (by decide)
        exact ⟨_, .minus ⟨rest, .inl rfl, alone, digits, rfl⟩ unsigned⟩
    by_cases digit : first.isDigit
    · left
      have all : ∀ digit ∈ first :: rest, digit.isDigit := List.forall_mem_cons.2 ⟨digit, digits⟩
      exact ⟨_, .plus ⟨first :: rest, .inl rfl, List.cons_ne_nil _ _, all, rfl⟩⟩
    · right
      rw [not_or] at sign
      exact @Unusable.strayCharacter [] rest first digit fun _ => sign
  · right
    simp only [Classical.not_forall] at digits
    rcases digits with ⟨character, member, noDigit⟩
    rcases List.append_of_mem member with ⟨before, after, rfl⟩
    exact @Unusable.strayCharacter (first :: before) after character noDigit nofun

/-- Nothing else can be wrong with a text. -/
theorem unusable_or_usable (core : List Char) : Unusable core ∨ ∃ size, Usable core size := by
  rcases exists_signedNumeral_or_unusable core with ⟨value, numeral⟩ | unusable
  · by_cases low : value ≤ 0
    · exact .inl (.notPositive numeral low)
    by_cases large : Bounds.signed32 < value
    · exact .inl (.tooLarge numeral large)
    right
    refine ⟨value.toNat, numeral.numeral_toNat ?_, ?_, ?_⟩ <;> omega
  · exact .inl unusable

end Kinds

section Parse

variable {text : String} {size : Nat} {error : SpiError}

/-- A text that is no usable size is reported without the blanks around it. -/
theorem parse_eq_error (refused : parse text = .error error) :
    error = .bufferSizeInvalid (String.ofList (Text.trim text.toList)) := by
  simp only [parse] at refused
  split at refused
  · cases refused
    rfl
  · split at refused
    · cases refused
    · cases refused
      rfl

theorem parse_eq_ok_iff :
    parse text = .ok size ↔ ∃ core, Text.Trims text.toList core ∧ Usable core size := by
  constructor
  · intro read
    refine ⟨_, Text.trim_eq_iff.1 rfl, ?_⟩
    simp only [parse] at read
    split at read
    · cases read
    · rename_i value signed
      have numeral := (Text.Decimal.signed?_eq_some_iff.1 signed).1
      split at read
      · rename_i range
        cases read
        refine ⟨numeral.numeral_toNat range.1, ?_, ?_⟩ <;> omega
      · cases read
  · rintro ⟨core, trimmed, numeral, positive, fits⟩
    have range : 0 < (size : Int) ∧ (size : Int) ≤ Bounds.signed32 := by omega
    have word : Bounds.smallest64 ≤ size ∧ (size : Int) ≤ Bounds.signed64 := by
      simp only [Bounds.smallest64, Bounds.signed64, Bounds.signed32] at fits ⊢
      omega
    have read := Text.Decimal.signed?_eq_some_iff.2 ⟨.plus numeral, word⟩
    simp only [parse, Text.trim_eq_iff.2 trimmed, read, if_pos range, Int.toNat_natCast]

theorem parse_bounds (read : parse text = .ok size) : 0 < size ∧ size ≤ Bounds.signed32 := by
  rcases parse_eq_ok_iff.1 read with ⟨core, _, usable⟩
  exact ⟨usable.positive, usable.fits⟩

theorem parse_eq_error_iff :
    parse text = .error error ↔ ∃ core, Text.Trims text.toList core ∧ Unusable core ∧
      error = .bufferSizeInvalid (String.ofList core) := by
  constructor
  · intro refused
    have trimmed := Text.trim_eq_iff.1 (rfl : Text.trim text.toList = _)
    refine ⟨_, trimmed, ?_, parse_eq_error refused⟩
    rcases unusable_or_usable (Text.trim text.toList) with unusable | ⟨size, usable⟩
    · exact unusable
    · rw [parse_eq_ok_iff.2 ⟨_, trimmed, usable⟩] at refused
      cases refused
  · rintro ⟨core, trimmed, unusable, rfl⟩
    rw [← Text.trim_eq_iff] at trimmed
    rcases read : parse text with error | size
    · rw [parse_eq_error read, trimmed]
    · rcases parse_eq_ok_iff.1 read with ⟨core', trimmed', usable⟩
      rw [← Text.trim_eq_iff, trimmed] at trimmed'
      subst trimmed'
      exact absurd usable unusable.not_usable

theorem parseWord_eq (text : String) : parseWord text = parse text := by
  have same := Text.Decimal.map_toInt_signedWord? (Text.trim text.toList)
  rw [parseWord, parse, ← same]
  rcases Text.Decimal.signedWord? (Text.trim text.toList) with _ | word
  · rfl
  have range : 0 < word ∧ word ≤ 2147483647 ↔ 0 < word.toInt ∧ word.toInt ≤ Bounds.signed32 := by
    rw [Int64.lt_iff_toInt_lt, Int64.le_iff_toInt_le]
    rfl
  by_cases inside : 0 < word ∧ word ≤ 2147483647
  · have kept : word.toUInt64.toNat = word.toInt.toNat :=
      Int64.toNat_toUInt64_of_le (Int64.le_of_lt inside.1)
    simp only [Option.map_some, if_pos inside, if_pos (range.1 inside), kept]
  · simp only [Option.map_some, if_neg inside, if_neg (mt range.2 inside)]

end Parse

/-- Reading the size of a buffer follows its grammar.
1. A text is read as a size just if it is usable as this size, apart from the blanks around it.
2. It is refused just if something listed is wrong with it, and the report has the text without the
   blanks around it.
3. Reading it into a machine word, with a check at each step, gives the same answer, so there are no
   digits that come round to a size. -/
theorem sizes_follow_grammar (text : String) :
    (∀ size, parse text = .ok size ↔
      ∃ core, Text.Trims text.toList core ∧ Usable core size) ∧
    (∀ error, parse text = .error error ↔
      ∃ core, Text.Trims text.toList core ∧ Unusable core ∧
        error = .bufferSizeInvalid (String.ofList core)) ∧
    parseWord text = parse text :=
  ⟨fun _ => parse_eq_ok_iff, fun _ => parse_eq_error_iff, parseWord_eq text⟩

/-- Zeros and a plus sign with blanks around them, a number that 64 bits would take for one, and
digits of another script. -/
theorem sizes_of_padded_texts :
    (∃ core, Text.Trims "\u2003+004096\n".toList core ∧ Usable core 4096) ∧
      (∃ core, Text.Trims "18446744073709551617".toList core ∧ Unusable core ∧
        SpiError.bufferSizeInvalid "18446744073709551617" =
          .bufferSizeInvalid (String.ofList core)) ∧
      ∃ core, Text.Trims "\u0664\u0660\u0669\u0666 ".toList core ∧ Unusable core ∧
        SpiError.bufferSizeInvalid "\u0664\u0660\u0669\u0666" =
          .bufferSizeInvalid (String.ofList core) := by
  refine ⟨?_, ?_, ?_⟩
  · exact ((sizes_follow_grammar _).1 _).1 rfl
  · exact ((sizes_follow_grammar _).2.1 _).1 rfl
  · exact ((sizes_follow_grammar _).2.1 _).1 rfl

end Pinwire.ChunkLimit
