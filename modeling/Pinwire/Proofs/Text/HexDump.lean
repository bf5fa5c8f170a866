import Mathlib.Data.List.Forall2
import Pinwire.Proofs.Text.Parts
import Pinwire.Text.HexDump

/-!
# Hex dumps read back

How a dump of some bytes is laid out, said without the functions that write one, and what reading it
gives: the bytes it was written from. Reading drops everything but the digits, and of a dump these
are the digits of its bytes in order, whatever rows they stand in. A dump has nothing in front and
behind that is trimmed, and no mark `0x`, because its second character is a digit.

So the dump of what a text holds is a normal form of the text.
-/

namespace Pinwire.Text

namespace Hex

/-- The digits that bytes are written with, in the order of their values. -/
def writtenDigits : List Char := "0123456789abcdef".toList

/-- Two written digits show a byte, the one for its higher half first. -/
def Shows (byte : UInt8) (group : List Char) : Prop :=
  ∃ high low, group = [high, low] ∧ high ∈ writtenDigits ∧ low ∈ writtenDigits ∧
    16 * writtenDigits.idxOf high + writtenDigits.idxOf low = byte.toNat

theorem digit_mem {value : Nat} (small : value < 16) : digit value ∈ writtenDigits := by
  have all : ∀ value < 16, digit value ∈ writtenDigits := by decide
  exact all value small

theorem idxOf_digit {value : Nat} (small : value < 16) :
    writtenDigits.idxOf (digit value) = value := by
  have all : ∀ value < 16, writtenDigits.idxOf (digit value) = value := by decide
  exact all value small

theorem digitValue?_digit {value : Nat} (small : value < 16) :
    digitValue? (digit value) = some value := by
  have all : ∀ value < 16, digitValue? (digit value) = some value := by decide
  exact all value small

section Bytes

variable (byte : UInt8)

theorem high_lt : byte.toNat / 16 < 16 := by
  have bound := byte.toNat_lt
  omega

theorem low_lt : byte.toNat % 16 < 16 := Nat.mod_lt _ (by decide)

theorem shows_renderByte : Shows byte (renderByte byte) := by
  refine ⟨_, _, rfl, digit_mem (high_lt byte), digit_mem (low_lt byte), ?_⟩
  rw [idxOf_digit (high_lt byte), idxOf_digit (low_lt byte)]
  exact Nat.div_add_mod _ _

theorem mem_writtenDigits_of_mem_renderByte {character : Char}
    (member : character ∈ renderByte byte) : character ∈ writtenDigits := by
  simp only [renderByte, List.mem_cons, List.not_mem_nil, or_false] at member
  rcases member with rfl | rfl
  · exact digit_mem (high_lt byte)
  · exact digit_mem (low_lt byte)

end Bytes

end Hex

namespace HexDump

section Rows

variable {α : Type} {row : List α}

theorem flatten_rows (bytes : List α) : (rows bytes).flatten = bytes := by
  induction bytes using rows.induct with
  | case1 bytes empty =>
      rw [rows, if_pos empty]
      exact (List.isEmpty_iff.1 empty).symm
  | case2 bytes some ih =>
      rw [rows, if_neg some, List.flatten_cons, ih, List.take_append_drop]

theorem length_rows (bytes : List α) : (rows bytes).length = (bytes.length + 15) / 16 := by
  induction bytes using rows.induct with
  | case1 bytes empty =>
      rw [rows, if_pos empty, List.isEmpty_iff.1 empty, List.length_nil, List.length_nil]
  | case2 bytes some ih =>
      have positive : 0 < bytes.length := List.length_pos_iff.2 (by simpa using some)
      rw [rows, if_neg some, List.length_cons, ih, List.length_drop]
      omega

theorem length_of_mem_rows {bytes : List α} (member : row ∈ rows bytes) :
    row ≠ [] ∧ row.length ≤ 16 := by
  induction bytes using rows.induct with
  | case1 bytes empty =>
      rw [rows, if_pos empty] at member
      cases member
  | case2 bytes some ih =>
      rw [rows, if_neg some, List.mem_cons] at member
      rcases member with rfl | member
      · refine ⟨?_, List.length_take_le _ _⟩
        simpa [List.take_eq_nil_iff] using some
      · exact ih member

/-- Only the last row may have less than sixteen bytes. -/
theorem length_of_mem_dropLast_rows {bytes : List α} (member : row ∈ (rows bytes).dropLast) :
    row.length = 16 := by
  induction bytes using rows.induct with
  | case1 bytes empty =>
      rw [rows, if_pos empty] at member
      cases member
  | case2 bytes some ih =>
      rw [rows, if_neg some] at member
      -- A row with a row behind it was taken from more than sixteen bytes.
      by_cases last : rows (bytes.drop 16) = []
      · rw [last] at member
        cases member
      · rw [List.dropLast_cons_of_ne_nil last, List.mem_cons] at member
        rcases member with rfl | member
        · have left : bytes.drop 16 ≠ [] := by
            intro none
            exact last (by rw [none, rows, if_pos List.isEmpty_nil])
          rw [List.length_take]
          have longer := List.length_pos_iff.2 left
          rw [List.length_drop] at longer
          omega
        · exact ih member

end Rows

/-- The layout of a dump: groups of digits that show the bytes one by one, sixteen to a row with a
possibly shorter last one, blanks between the groups of a row and line feeds between the rows. -/
structure Layout (bytes : List UInt8) (groups : List (List (List Char))) (text : List Char) :
    Prop where
  text_eq : text = ['\n'].intercalate (groups.map fun row => [' '].intercalate row)
  shown : List.Forall₂ Hex.Shows bytes groups.flatten
  rowCount : groups.length = (bytes.length + 15) / 16
  full : ∀ row ∈ groups.dropLast, row.length = 16
  filled : ∀ row ∈ groups, row ≠ [] ∧ row.length ≤ 16

/-- The text of a dump, character by character. -/
def characters (bytes : List UInt8) : List Char :=
  joinWith ['\n'] ((rows bytes).map renderRow)

section Written

variable {character : Char}

theorem isFiller_of_mem_writtenDigits (written : character ∈ Hex.writtenDigits) :
    isFiller character = false := by
  have none : Hex.writtenDigits.any isFiller = false := by decide
  exact Bool.eq_false_iff.2 (List.any_eq_false.1 none character written)

theorem isBlank_of_mem_writtenDigits (written : character ∈ Hex.writtenDigits) :
    isBlank character = false := by
  have passed := isFiller_of_mem_writtenDigits written
  simp only [isFiller, Bool.or_eq_false_iff] at passed
  exact passed.1.1

theorem isDigit_of_mem_writtenDigits (written : character ∈ Hex.writtenDigits) :
    Hex.isDigit character = true := by
  have all : Hex.writtenDigits.all Hex.isDigit = true := by decide
  exact List.all_eq_true.1 all character written

end Written

section Dump

variable (bytes : List UInt8)

theorem toList_render : (render bytes).toList = characters bytes :=
  String.toList_ofList

theorem layout_characters :
    Layout bytes ((rows bytes).map (List.map Hex.renderByte)) (characters bytes) where
  text_eq := by
    rw [characters, joinWith_eq_intercalate, List.map_map]
    apply congrArg
    apply List.map_congr_left
    intro row _
    exact joinWith_eq_intercalate _ _
  shown := by
    rw [← List.map_flatten, flatten_rows, List.forall₂_map_right_iff]
    exact List.forall₂_same.2 fun byte _ => Hex.shows_renderByte byte
  rowCount := by
    rw [List.length_map, length_rows]
  full := by
    intro row member
    rw [← List.map_dropLast] at member
    rcases List.mem_map.1 member with ⟨bytes', among, rfl⟩
    rw [List.length_map]
    exact length_of_mem_dropLast_rows among
  filled := by
    intro row member
    rcases List.mem_map.1 member with ⟨bytes', among, rfl⟩
    rw [List.length_map, Ne, List.map_eq_nil_iff]
    exact length_of_mem_rows among

theorem filter_renderByte (byte : UInt8) :
    (Hex.renderByte byte).filter (fun character => !isFiller character) = Hex.renderByte byte := by
  apply List.filter_eq_self.2
  intro character member
  simp [isFiller_of_mem_writtenDigits (Hex.mem_writtenDigits_of_mem_renderByte byte member)]

theorem filter_renderRow (row : List UInt8) :
    (renderRow row).filter (fun character => !isFiller character) =
      row.flatMap Hex.renderByte := by
  have blank : ∀ character ∈ [' '], ¬(!isFiller character) = true :=
    List.forall_mem_singleton.2 (by decide)
  simp only [renderRow, filter_joinWith blank, List.map_map, Function.comp_def, filter_renderByte,
    List.flatMap]

/-- What reading leaves of a dump are the digits of its bytes. -/
theorem filter_characters :
    (characters bytes).filter (fun character => !isFiller character) =
      bytes.flatMap Hex.renderByte := by
  have lineFeed : ∀ character ∈ ['\n'], ¬(!isFiller character) = true :=
    List.forall_mem_singleton.2 (by decide)
  calc (characters bytes).filter (fun character => !isFiller character)
    _ = ((rows bytes).map (List.flatMap Hex.renderByte)).flatten := by
        simp only [characters, filter_joinWith lineFeed, List.map_map, Function.comp_def,
          filter_renderRow]
    _ = (rows bytes).flatten.flatMap Hex.renderByte := by
        rw [List.flatMap_def, List.map_flatten, List.flatten_flatten, List.map_map]
        rfl
    _ = bytes.flatMap Hex.renderByte := by rw [flatten_rows]

theorem characters_nil : characters [] = [] := by
  simp [characters, rows, joinWith]

/-- A dump starts with the digits of the first byte. -/
theorem exists_characters_cons (byte : UInt8) :
    ∃ rest, characters (byte :: bytes) = Hex.renderByte byte ++ rest := by
  rcases exists_joinWith_cons [' '] (Hex.renderByte byte)
    ((bytes.take 15).map Hex.renderByte) with ⟨restOfRow, row⟩
  rcases exists_joinWith_cons ['\n'] (renderRow ((byte :: bytes).take 16))
    ((rows ((byte :: bytes).drop 16)).map renderRow) with ⟨restOfText, text⟩
  refine ⟨restOfRow ++ restOfText, ?_⟩
  rw [characters, rows, if_neg (by simp), List.map_cons, text, List.take_succ_cons, renderRow,
    List.map_cons, row, List.append_assoc]

theorem renderRow_ne_nil {row : List UInt8} (some : row ≠ []) : renderRow row ≠ [] := by
  cases row with
  | nil => exact absurd rfl some
  | cons byte row =>
      rcases exists_joinWith_cons [' '] (Hex.renderByte byte) (row.map Hex.renderByte) with
        ⟨rest, joined⟩
      rw [renderRow, List.map_cons, joined]
      exact List.cons_ne_nil _ _

/-- A dump ends with a digit, and so neither with a blank nor with a line feed. -/
theorem getLast?_characters {character : Char}
    (last : (characters bytes).getLast? = some character) : character ∈ Hex.writtenDigits := by
  have some : rows bytes ≠ [] := by
    intro none
    simp [characters, none, joinWith] at last
  have filledRows : ∀ part ∈ (rows bytes).map renderRow, part ≠ [] := by
    intro part member
    rcases List.mem_map.1 member with ⟨row, among, rfl⟩
    exact renderRow_ne_nil (length_of_mem_rows among).1
  rcases exists_getLast?_joinWith filledRows (by simpa using some) with ⟨part, member, inRow⟩
  rcases List.mem_map.1 member with ⟨row, among, rfl⟩
  have filledGroups : ∀ part ∈ row.map Hex.renderByte, part ≠ [] := by
    intro part member
    rcases List.mem_map.1 member with ⟨byte, _, rfl⟩
    exact List.cons_ne_nil _ _
  rcases exists_getLast?_joinWith filledGroups (by simpa using (length_of_mem_rows among).1) with
    ⟨group, member, inGroup⟩
  rcases List.mem_map.1 member with ⟨byte, _, rfl⟩
  apply Hex.mem_writtenDigits_of_mem_renderByte byte
  apply List.mem_of_getLast?
  rw [← inGroup, ← last, characters, inRow]
  rfl

theorem trim_characters : trim (characters bytes) = characters bytes := by
  apply trim_eq_iff.2
  apply trims_self
  · intro character first
    cases bytes with
    | nil =>
        rw [characters_nil] at first
        cases first
    | cons byte bytes =>
        rcases exists_characters_cons bytes byte with ⟨rest, text⟩
        rw [text] at first
        cases first
        simp [isBlank_of_mem_writtenDigits (Hex.digit_mem (Hex.high_lt byte))]
  · intro character last
    simp [isBlank_of_mem_writtenDigits (getLast?_characters bytes last)]

/-- The second character of a dump is a digit, so a dump does not start with a mark. -/
theorem dropMarks_characters : dropMarks (characters bytes) = characters bytes := by
  cases bytes with
  | nil =>
      rw [characters_nil]
      rfl
  | cons byte bytes =>
      rcases exists_characters_cons bytes byte with ⟨rest, text⟩
      have noMark : Hex.digit (byte.toNat % 16) ≠ 'x' := by
        intro mark
        have written := Hex.digit_mem (Hex.low_lt byte)
        rw [mark] at written
        exact absurd written (by decide)
      rw [text, Hex.renderByte, List.cons_append, List.cons_append, dropMarks]
      intro rest marked
      exact noMark (List.cons.inj (List.cons.inj marked).2).1

theorem digitsOf_characters : digitsOf (characters bytes) = bytes.flatMap Hex.renderByte := by
  rw [digitsOf, trim_characters, dropMarks_characters, filter_characters]

/-- Pairs of digits that bytes are written with are these bytes. -/
theorem pairs?_renderByte : pairs? (bytes.flatMap Hex.renderByte) = some bytes := by
  induction bytes with
  | nil => rfl
  | cons byte bytes ih =>
      have rest : (byte :: bytes).flatMap Hex.renderByte =
          Hex.digit (byte.toNat / 16) :: Hex.digit (byte.toNat % 16) ::
            bytes.flatMap Hex.renderByte := List.flatMap_cons
      simp only [rest, pairs?, Hex.digitValue?_digit (Hex.high_lt byte),
        Hex.digitValue?_digit (Hex.low_lt byte), ih, Option.map_some, Nat.div_add_mod,
        UInt8.ofNat_toNat]

/-- A dump is read as the bytes it was written from. -/
theorem parse_render : parse (render bytes) = .ok bytes := by
  have noOther : (bytes.flatMap Hex.renderByte).find? (fun character => !Hex.isDigit character) =
      none := by
    apply List.find?_eq_none.2
    intro character member
    rcases List.mem_flatMap.1 member with ⟨byte, _, among⟩
    simp [isDigit_of_mem_writtenDigits (Hex.mem_writtenDigits_of_mem_renderByte byte among)]
  simp only [parse, toList_render, digitsOf_characters, noOther, pairs?_renderByte]

end Dump

/-- The dump of the bytes that a text holds, if it holds any. -/
def normalize (text : String) : Except Defect String :=
  (parse text).map render

theorem normalize_eq_ok_iff {text normal : String} :
    normalize text = .ok normal ↔ ∃ bytes, parse text = .ok bytes ∧ render bytes = normal := by
  rw [normalize]
  rcases parse text with defect | bytes
  · exact iff_of_false nofun (by simp)
  · simp [Except.map]

theorem render_injective : Function.Injective render := by
  intro bytes bytes' same
  have read := parse_render bytes
  rw [same, parse_render] at read
  exact (Except.ok.inj read).symm

/-- Dumps and the bytes they show determine each other.
1. The dump of any bytes is laid out in rows of sixteen, does not end with a line feed, and is read
   as these bytes.
2. The dump of what a text holds is a normal form of the text: it is its own normal form.
3. Texts that hold bytes have the same normal form exactly if they hold the same bytes. -/
theorem dumps_are_normal_forms :
    (∀ bytes, (∃ groups, Layout bytes groups (render bytes).toList) ∧
      (render bytes).toList.getLast? ≠ some '\n' ∧ parse (render bytes) = .ok bytes) ∧
    (∀ text normal, normalize text = .ok normal → normalize normal = .ok normal) ∧
    ∀ text text' normal normal', normalize text = .ok normal → normalize text' = .ok normal' →
      (normal = normal' ↔ parse text = parse text') := by
  refine ⟨?_, ?_, ?_⟩
  · intro bytes
    rw [toList_render]
    refine ⟨⟨_, layout_characters bytes⟩, ?_, parse_render bytes⟩
    intro lineFeed
    exact absurd (getLast?_characters bytes lineFeed) (by decide)
  · intro text normal normalized
    rcases normalize_eq_ok_iff.1 normalized with ⟨bytes, _, rfl⟩
    exact normalize_eq_ok_iff.2 ⟨bytes, parse_render bytes, rfl⟩
  · intro text text' normal normal' normalized normalized'
    rcases normalize_eq_ok_iff.1 normalized with ⟨bytes, holds, rfl⟩
    rcases normalize_eq_ok_iff.1 normalized' with ⟨bytes', holds', rfl⟩
    rw [holds, holds', render_injective.eq_iff, Except.ok.injEq]

/-- A text with a mark and colons and one with blanks hold the same bytes, in other rows. -/
theorem normal_forms_of_marked_text :
    normalize "0x0xaB:0 1" = .ok "ab 01" ∧ normalize "ab 01" = .ok "ab 01" ∧
      parse "0x0xaB:0 1" = parse " A_B\n01" := by
  have marked : normalize "0x0xaB:0 1" = .ok "ab 01" := by decide +kernel
  have spread : normalize " A_B\n01" = .ok "ab 01" := by decide +kernel
  rcases dumps_are_normal_forms with ⟨_, stable, decided⟩
  exact ⟨marked, stable _ _ marked, (decided _ _ _ _ marked spread).1 rfl⟩

end HexDump

end Pinwire.Text
