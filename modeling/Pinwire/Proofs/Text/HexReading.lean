import Pinwire.Proofs.Text.HexDump

/-!
# Texts that hold bytes

The grammar of the texts that bytes are read from, said without the functions that read them: what
is left of a text are digits, pairs of these are bytes, and the first character that is no digit
counts before a digit without a partner.

Reading pairs characters. It could as well pair the bytes of their encoding, and decode each pair
and read it as a number in sixteens. Both can fail for arbitrary bytes, but never do here, because
the encoding of a digit is a single byte.
-/

namespace Pinwire.Text

namespace Hex

/-- A character is the digit of a value, in either case of letters. -/
def Digit (character : Char) (value : Nat) : Prop :=
  writtenDigits.idxOf? character.toLower = some value

/-- A character is a digit of some value. -/
def IsDigit (character : Char) : Prop :=
  ∃ value, Digit character value

section Digits

variable {character : Char} {value : Nat}

theorem digitValue?_eq_none_of_large (large : 128 ≤ character.toNat) :
    digitValue? character = none := by
  have beyond : ∀ last : Char, last.toNat < 128 → ¬character ≤ last := by
    intro last small below
    have : character.toNat ≤ last.toNat := below
    omega
  have decimal := beyond '9' (by decide)
  have low := beyond 'f' (by decide)
  have high := beyond 'F' (by decide)
  simp [digitValue?, decimal, low, high]

theorem toLower_of_large (large : 128 ≤ character.toNat) : character.toLower = character := by
  have beyond : ¬(character.val ≥ 'A'.val ∧ character.val ≤ 'Z'.val) := by
    rintro ⟨_, below⟩
    have : character.toNat ≤ 90 := below
    omega
  exact dif_neg beyond

theorem digitValue?_eq_idxOf? (character : Char) :
    digitValue? character = writtenDigits.idxOf? character.toLower := by
  by_cases small : character.toNat < 128
  · -- Few enough codes to look at each. No later character is a digit on either side.
    have all : ∀ code < 128,
        digitValue? (Char.ofNat code) = writtenDigits.idxOf? (Char.ofNat code).toLower := by
      decide +kernel
    simpa using all character.toNat small
  · have large : 128 ≤ character.toNat := by omega
    rw [digitValue?_eq_none_of_large large, toLower_of_large large, eq_comm,
      List.idxOf?_eq_none_iff]
    intro written
    have all : writtenDigits.all fun digit => digit.toNat < 128 := by decide +kernel
    simp only [List.all_eq_true, decide_eq_true_eq] at all
    exact small (all character written)

theorem digitValue?_eq_some_iff : digitValue? character = some value ↔ Digit character value := by
  rw [digitValue?_eq_idxOf?, Digit]

theorem isDigit_iff : isDigit character ↔ IsDigit character := by
  simp [isDigit, IsDigit, Option.isSome_iff_exists, digitValue?_eq_some_iff]

theorem Digit.lt (digit : Digit character value) : value < 16 := by
  rcases List.idxOf?_eq_some_iff.1 digit with ⟨inside, _⟩
  exact inside

theorem Digit.small (digit : Digit character value) : character.toNat < 128 := by
  by_contra large
  rw [← digitValue?_eq_some_iff, digitValue?_eq_none_of_large (by omega)] at digit
  cases digit

end Digits

/-- The value of a row of digits, in sixteens, after digits of the value `high`. -/
def valueAfter? (high : Nat) : List Char → Option Nat
  | [] => some high
  | character :: rest =>
    (digitValue? character).bind fun digit => valueAfter? (16 * high + digit) rest

/-- A byte from digits in sixteens, of which there is at least one, after an optional plus sign. -/
def byte? (text : List Char) : Option UInt8 :=
  let digits := match text with
    | '+' :: rest => rest
    | _ => text
  if digits = [] then none
  else ((valueAfter? 0 digits).filter (· < 256)).map UInt8.ofNat

theorem byte?_pair {high low : Char} {highValue lowValue : Nat} (highDigit : Digit high highValue)
    (lowDigit : Digit low lowValue) :
    byte? [high, low] = some (UInt8.ofNat (16 * highValue + lowValue)) := by
  have unsigned : high ≠ '+' := by
    rintro rfl
    have none : Hex.digitValue? '+' = none := by decide
    rw [← digitValue?_eq_some_iff, none] at highDigit
    cases highDigit
  have highSmall := highDigit.lt
  have lowSmall := lowDigit.lt
  have fits : 16 * highValue + lowValue < 256 := by omega
  rw [← digitValue?_eq_some_iff] at highDigit lowDigit
  simp [byte?, unsigned, valueAfter?, highDigit, lowDigit, fits]

end Hex

namespace HexDump

/-- A text is a body after any number of marks `0x`, and the body has none in front. -/
def Marked (text body : List Char) : Prop :=
  ∃ count, text = (List.replicate count ['0', 'x']).flatten ++ body ∧ ¬['0', 'x'] <+: body

/-- What is left of a text: it is taken without outer blanks, then without the marks in front, and
then without all blanks, colons and underscores. -/
def Leaves (text : String) (left : List Char) : Prop :=
  ∃ core body, Trims text.toList core ∧ Marked core body ∧
    left = body.filter fun character =>
      ¬(isBlank character ∨ character = ':' ∨ character = '_')

/-- Bytes are the pairs of some digits, each the digit of its higher half first. -/
def Pairs (digits : List Char) (bytes : List UInt8) : Prop :=
  digits.length = 2 * bytes.length ∧ ∀ index byte, bytes[index]? = some byte →
    ∃ high low highValue lowValue,
      digits[2 * index]? = some high ∧ Hex.Digit high highValue ∧
      digits[2 * index + 1]? = some low ∧ Hex.Digit low lowValue ∧
      byte.toNat = 16 * highValue + lowValue

/-- What a text is read as. A character that is no digit comes before a digit without a partner. -/
inductive Reading (text : String) : Except Defect (List UInt8) → Prop where
  | invalidDigit {before after : List Char} {character : Char}
      (leaves : Leaves text (before ++ character :: after))
      (digits : ∀ digit ∈ before, Hex.IsDigit digit) (noDigit : ¬Hex.IsDigit character) :
      Reading text (.error (.invalidDigit character text))
  | oddCount {left : List Char} (leaves : Leaves text left)
      (digits : ∀ digit ∈ left, Hex.IsDigit digit) (odd : left.length % 2 = 1) :
      Reading text (.error (.oddCount text))
  | bytes {left : List Char} {bytes : List UInt8} (leaves : Leaves text left)
      (pairs : Pairs left bytes) : Reading text (.ok bytes)

section Left

variable {text : String} {core body left : List Char}

theorem dropMarks_of_unmarked (unmarked : ¬['0', 'x'] <+: body) : dropMarks body = body := by
  fun_cases dropMarks body with
  | case1 rest => simp at unmarked
  | case2 => rfl

theorem dropMarks_eq_iff : dropMarks core = body ↔ Marked core body := by
  constructor
  · rintro rfl
    fun_induction dropMarks core with
    | case1 rest ih =>
        rcases ih with ⟨count, joined, unmarked⟩
        refine ⟨count + 1, ?_, unmarked⟩
        simpa [List.replicate_succ] using joined
    | case2 core unmarked =>
        refine ⟨0, rfl, ?_⟩
        rintro ⟨rest, rfl⟩
        exact unmarked rest rfl
  · rintro ⟨count, rfl, unmarked⟩
    induction count with
    | zero => exact dropMarks_of_unmarked unmarked
    | succ count ih => simpa [List.replicate_succ, dropMarks] using ih

theorem digitsOf_eq_iff : digitsOf text.toList = left ↔ Leaves text left := by
  have kept : (fun character => !isFiller character) = fun character =>
      decide ¬(isBlank character ∨ character = ':' ∨ character = '_') := by
    funext character
    simp [isFiller, Bool.and_assoc, beq_eq_decide]
  rw [digitsOf, kept]
  constructor
  · rintro rfl
    exact ⟨_, _, trim_eq_iff.1 rfl, dropMarks_eq_iff.1 rfl, rfl⟩
  · rintro ⟨core, body, trimmed, marked, rfl⟩
    rw [trim_eq_iff.2 trimmed, dropMarks_eq_iff.2 marked]

end Left

section Pairs

variable {digits : List Char} {bytes : List UInt8}

theorem pairs_nil_iff : Pairs [] bytes ↔ bytes = [] := by
  constructor
  · rintro ⟨even, _⟩
    cases bytes with
    | nil => rfl
    | cons byte bytes => simp at even
  · rintro rfl
    exact ⟨rfl, by simp⟩

theorem not_pairs_singleton (digit : Char) : ¬Pairs [digit] bytes := by
  rintro ⟨even, _⟩
  simp only [List.length_singleton] at even
  omega

theorem pairs_cons_iff {high low : Char} :
    Pairs (high :: low :: digits) bytes ↔
      ∃ highValue lowValue rest, Hex.Digit high highValue ∧ Hex.Digit low lowValue ∧
        Pairs digits rest ∧ bytes = UInt8.ofNat (16 * highValue + lowValue) :: rest := by
  constructor
  · rintro ⟨even, each⟩
    cases bytes with
    | nil => simp at even
    | cons byte bytes =>
        rcases each 0 byte rfl with
          ⟨_, _, highValue, lowValue, ⟨⟩, highDigit, ⟨⟩, lowDigit, valued⟩
        refine ⟨highValue, lowValue, bytes, highDigit, lowDigit, ⟨?_, ?_⟩, ?_⟩
        · simp only [List.length_cons] at even
          omega
        · intro index byte found
          exact each (index + 1) byte found
        · rw [← valued, UInt8.ofNat_toNat]
  · rintro ⟨highValue, lowValue, rest, highDigit, lowDigit, ⟨even, each⟩, rfl⟩
    refine ⟨?_, ?_⟩
    · simp only [List.length_cons]
      omega
    · intro index byte found
      cases index with
      | zero =>
          cases found
          have highSmall := highDigit.lt
          have lowSmall := lowDigit.lt
          refine ⟨high, low, highValue, lowValue, rfl, highDigit, rfl, lowDigit, ?_⟩
          have fits : 16 * highValue + lowValue < 256 := by omega
          exact UInt8.toNat_ofNat_of_lt' fits
      | succ index => exact each index byte found

theorem pairs?_eq_some_iff : pairs? digits = some bytes ↔ Pairs digits bytes := by
  fun_induction pairs? digits generalizing bytes with
  | case1 => simp [pairs_nil_iff, eq_comm]
  | case2 digit => simp [not_pairs_singleton]
  | case3 high low digits highValue lowValue lowRead highRead ih =>
      rw [pairs_cons_iff, Option.map_eq_some_iff]
      constructor
      · rintro ⟨rest, read, rfl⟩
        exact ⟨highValue, lowValue, rest, Hex.digitValue?_eq_some_iff.1 highRead,
          Hex.digitValue?_eq_some_iff.1 lowRead, ih.1 read, rfl⟩
      · rintro ⟨highValue', lowValue', rest, highDigit, lowDigit, pairs, rfl⟩
        rw [← Hex.digitValue?_eq_some_iff] at highDigit lowDigit
        cases highRead.symm.trans highDigit
        cases lowRead.symm.trans lowDigit
        exact ⟨rest, ih.2 pairs, rfl⟩
  | case4 high low digits unread =>
      simp only [reduceCtorEq, false_iff, pairs_cons_iff]
      rintro ⟨highValue, lowValue, rest, highDigit, lowDigit, _⟩
      rw [← Hex.digitValue?_eq_some_iff] at highDigit lowDigit
      exact unread highValue lowValue highDigit lowDigit

theorem Pairs.isDigit (pairs : Pairs digits bytes) : ∀ digit ∈ digits, Hex.IsDigit digit := by
  intro digit member
  rcases pairs with ⟨even, each⟩
  rcases List.mem_iff_getElem?.1 member with ⟨place, found⟩
  have inside : place < digits.length := (List.getElem?_eq_some_iff.1 found).1
  -- A place is that of the higher or of the lower half of the byte at half of it.
  have paired : place / 2 < bytes.length := by omega
  rcases each (place / 2) _ (List.getElem?_eq_getElem paired) with
    ⟨high, low, highValue, lowValue, atHigh, highDigit, atLow, lowDigit, _⟩
  rcases Nat.mod_two_eq_zero_or_one place with first | second
  · rw [show place = 2 * (place / 2) by omega, atHigh] at found
    cases found
    exact ⟨highValue, highDigit⟩
  · rw [show place = 2 * (place / 2) + 1 by omega, atLow] at found
    cases found
    exact ⟨lowValue, lowDigit⟩

/-- Digits are pairs, unless one of them is left over. -/
theorem exists_pairs_or_odd (all : ∀ digit ∈ digits, Hex.IsDigit digit) :
    (∃ bytes, Pairs digits bytes) ∨ digits.length % 2 = 1 := by
  fun_induction pairs? digits with
  | case1 => exact .inl ⟨[], pairs_nil_iff.2 rfl⟩
  | case2 digit => exact .inr rfl
  | case3 high low digits highValue lowValue lowRead highRead ih =>
      simp only [List.forall_mem_cons] at all
      rcases ih all.2.2 with ⟨bytes, pairs⟩ | odd
      · refine .inl ⟨_, pairs_cons_iff.2 ⟨highValue, lowValue, bytes, ?_, ?_, pairs, rfl⟩⟩
        · exact Hex.digitValue?_eq_some_iff.1 highRead
        · exact Hex.digitValue?_eq_some_iff.1 lowRead
      · refine .inr ?_
        simp only [List.length_cons]
        omega
  | case4 high low digits unread =>
      simp only [List.forall_mem_cons] at all
      rcases all with ⟨⟨highValue, highDigit⟩, ⟨lowValue, lowDigit⟩, _⟩
      rw [← Hex.digitValue?_eq_some_iff] at highDigit lowDigit
      exact absurd lowDigit (unread highValue lowValue highDigit)

end Pairs

section Parse

variable {text : String} {left : List Char}

theorem find?_eq_none_iff : (left.find? fun character => !Hex.isDigit character) = none ↔
    ∀ digit ∈ left, Hex.IsDigit digit := by
  simp [List.find?_eq_none, Hex.isDigit_iff]

theorem find?_eq_some_iff {character : Char} :
    (left.find? fun character => !Hex.isDigit character) = some character ↔
      ¬Hex.IsDigit character ∧ ∃ before after, left = before ++ character :: after ∧
        ∀ digit ∈ before, Hex.IsDigit digit := by
  simp [List.find?_eq_some_iff_append, ← Hex.isDigit_iff]

theorem reading_parse (text : String) : Reading text (parse text) := by
  have leaves : Leaves text (digitsOf text.toList) := digitsOf_eq_iff.1 rfl
  rw [parse]
  generalize digitsOf text.toList = left at leaves
  rcases searched : left.find? fun character => !Hex.isDigit character with _ | character
  · have digits := find?_eq_none_iff.1 searched
    rcases paired : pairs? left with _ | bytes
    · rcases exists_pairs_or_odd digits with ⟨bytes, pairs⟩ | odd
      · rw [pairs?_eq_some_iff.2 pairs] at paired
        cases paired
      · exact .oddCount leaves digits odd
    · exact .bytes leaves (pairs?_eq_some_iff.1 paired)
  · rcases find?_eq_some_iff.1 searched with ⟨noDigit, before, after, rfl, digits⟩
    exact .invalidDigit leaves digits noDigit

theorem parse_of_reading {answer : Except Defect (List UInt8)} (reading : Reading text answer) :
    parse text = answer := by
  cases reading with
  | @invalidDigit before after character leaves digits noDigit =>
      have searched := find?_eq_some_iff.2 ⟨noDigit, before, after, rfl, digits⟩
      simp only [parse, digitsOf_eq_iff.2 leaves, searched]
  | @oddCount left leaves digits odd =>
      have unpaired : pairs? left = none := by
        rw [Option.eq_none_iff_forall_ne_some]
        intro bytes paired
        have even := (pairs?_eq_some_iff.1 paired).1
        omega
      simp only [parse, digitsOf_eq_iff.2 leaves, find?_eq_none_iff.2 digits, unpaired]
  | bytes leaves pairs =>
      simp only [parse, digitsOf_eq_iff.2 leaves, find?_eq_none_iff.2 pairs.isDigit,
        pairs?_eq_some_iff.2 pairs]

/-- Texts are read as the grammar says, and the grammar leaves no text out. -/
theorem parse_eq_iff {answer : Except Defect (List UInt8)} :
    parse text = answer ↔ Reading text answer := by
  constructor
  · rintro rfl
    exact reading_parse text
  · exact parse_of_reading

end Parse

/-- What can be wrong with two bytes of an encoding. -/
inductive PairFault where
  /-- They encode no text. -/
  | noText
  /-- The text is no number, or one that no byte holds. -/
  | noNumber
  deriving DecidableEq

/-- The elements two by two, apart from a possible last one. -/
def inTwos {α : Type} : List α → List (List α)
  | [] => []
  | [last] => [[last]]
  | first :: second :: rest => [first, second] :: inTwos rest

def readTwo (encoded : List UInt8) : Except PairFault UInt8 :=
  match String.fromUTF8? encoded.toByteArray with
  | none => .error .noText
  | some text =>
    match Hex.byte? text.toList with
    | none => .error .noNumber
    | some byte => .ok byte

/-- Reads bytes from the encoding of what is left of a text, two bytes of it at a time. -/
def parseEncoded (text : String) : Except (Defect ⊕ PairFault) (List UInt8) :=
  let digits := digitsOf text.toList
  let encoded := (String.ofList digits).toUTF8.data.toList
  match digits.find? fun character => !Hex.isDigit character with
  | some character => .error (.inl (.invalidDigit character text))
  | none =>
    if encoded.length % 2 = 0 then ((inTwos encoded).mapM readTwo).mapError .inr
    else .error (.inl (.oddCount text))

section Encoded

variable {digits : List Char} {bytes : List UInt8}

theorem encoded_ofList (digits : List Char) :
    (String.ofList digits).toUTF8.data.toList = digits.flatMap String.utf8EncodeChar := by
  simp [String.toUTF8_eq_toByteArray, List.utf8Encode]

theorem utf8Size_of_isDigit {digit : Char} (isDigit : Hex.IsDigit digit) : digit.utf8Size = 1 := by
  rcases isDigit with ⟨value, valued⟩
  rw [Char.utf8Size_eq_one_iff]
  have small := valued.small
  have ascii : digit.toNat ≤ 127 := by omega
  exact ascii

theorem length_encoded (all : ∀ digit ∈ digits, Hex.IsDigit digit) :
    (digits.flatMap String.utf8EncodeChar).length = digits.length := by
  induction digits with
  | nil => rfl
  | cons digit digits ih =>
      simp only [List.forall_mem_cons] at all
      simp [ih all.2, utf8Size_of_isDigit all.1, Nat.add_comm]

theorem fromUTF8?_encoded (text : List Char) :
    String.fromUTF8? (text.flatMap String.utf8EncodeChar).toByteArray =
      some (String.ofList text) := by
  have encoded : (text.flatMap String.utf8EncodeChar).toByteArray =
      (String.ofList text).toByteArray := by
    rw [String.toByteArray_ofList, List.utf8Encode]
  rw [encoded, String.fromUTF8?, dif_pos (String.ofList text).isValidUTF8]
  rfl

theorem readTwo_encoded {high low : Char} {highValue lowValue : Nat}
    (highDigit : Hex.Digit high highValue) (lowDigit : Hex.Digit low lowValue) :
    readTwo ([high, low].flatMap String.utf8EncodeChar) =
      .ok (UInt8.ofNat (16 * highValue + lowValue)) := by
  simp only [readTwo, fromUTF8?_encoded, String.toList_ofList, Hex.byte?_pair highDigit lowDigit]

theorem inTwos_encoded {high low : Char} (highDigit : Hex.IsDigit high)
    (lowDigit : Hex.IsDigit low) :
    inTwos ((high :: low :: digits).flatMap String.utf8EncodeChar) =
      [high, low].flatMap String.utf8EncodeChar ::
        inTwos (digits.flatMap String.utf8EncodeChar) := by
  have highCode := String.utf8EncodeChar_eq_singleton (utf8Size_of_isDigit highDigit)
  have lowCode := String.utf8EncodeChar_eq_singleton (utf8Size_of_isDigit lowDigit)
  simp [highCode, lowCode, inTwos]

/-- Neither decoding nor reading in sixteens fails for the encoding of digits. -/
theorem mapM_readTwo (pairs : Pairs digits bytes) :
    (inTwos (digits.flatMap String.utf8EncodeChar)).mapM readTwo = .ok bytes := by
  induction bytes generalizing digits with
  | nil =>
      have none : digits = [] := List.eq_nil_of_length_eq_zero pairs.1
      subst none
      rfl
  | cons byte bytes ih =>
      rcases digits with _ | ⟨high, _ | ⟨low, digits⟩⟩
      · cases pairs_nil_iff.1 pairs
      · exact absurd pairs (not_pairs_singleton high)
      · rcases pairs_cons_iff.1 pairs with
          ⟨highValue, lowValue, rest, highDigit, lowDigit, restPairs, same⟩
        cases same
        rw [inTwos_encoded ⟨_, highDigit⟩ ⟨_, lowDigit⟩, List.mapM_cons,
          readTwo_encoded highDigit lowDigit, ih restPairs]
        rfl

/-- Reading the encoding two bytes at a time comes to the same as reading characters. -/
theorem parseEncoded_eq (text : String) : parseEncoded text = (parse text).mapError .inl := by
  have reading := reading_parse text
  generalize parse text = answer at reading
  cases reading with
  | @invalidDigit before after character leaves digits noDigit =>
      have searched := find?_eq_some_iff.2 ⟨noDigit, before, after, rfl, digits⟩
      simp only [parseEncoded, digitsOf_eq_iff.2 leaves, searched]
      rfl
  | @oddCount left leaves digits odd =>
      have uneven : ¬(left.flatMap String.utf8EncodeChar).length % 2 = 0 := by
        rw [length_encoded digits]
        omega
      simp only [parseEncoded, digitsOf_eq_iff.2 leaves, find?_eq_none_iff.2 digits,
        encoded_ofList, if_neg uneven]
      rfl
  | @bytes left bytes leaves pairs =>
      have even : (left.flatMap String.utf8EncodeChar).length % 2 = 0 := by
        have paired := pairs.1
        rw [length_encoded pairs.isDigit]
        omega
      simp only [parseEncoded, digitsOf_eq_iff.2 leaves, find?_eq_none_iff.2 pairs.isDigit,
        encoded_ofList, if_pos even, mapM_readTwo pairs]
      rfl

end Encoded

/-- Reading bytes from a text follows its grammar.
1. A text is read as the grammar says, and as nothing else.
2. Taking the encoding of its digits two bytes at a time, decoding these and reading them as a
   number in sixteens gives the same answer, so neither of the two steps ever fails. -/
theorem bytes_follow_grammar (text : String) :
    (∀ answer, parse text = answer ↔ Reading text answer) ∧
    parseEncoded text = (parse text).mapError .inl :=
  ⟨fun _ => parse_eq_iff, parseEncoded_eq text⟩

/-- Marks, blanks and colons between digits of both cases, a digit without a partner, and a letter
that is no digit in front of one. -/
theorem readings_of_marked_texts :
    Reading " 0x0xaB:0 1" (.ok [0xAB, 0x01]) ∧
      Reading "0xab_c" (.error (.oddCount "0xab_c")) ∧
      Reading "a\u00e9b" (.error (.invalidDigit '\u00e9' "a\u00e9b")) ∧
      Defect.message (.invalidDigit '\u00e9' "a\u00e9b") =
        "Invalid hex digit '\u00e9' in 'a\u00e9b'" := by
  refine ⟨?_, ?_, ?_, by decide +kernel⟩
  · exact ((bytes_follow_grammar _).1 _).1 (by decide +kernel)
  · exact ((bytes_follow_grammar _).1 _).1 (by decide +kernel)
  · exact ((bytes_follow_grammar _).1 _).1 (by decide +kernel)

end HexDump

end Pinwire.Text
