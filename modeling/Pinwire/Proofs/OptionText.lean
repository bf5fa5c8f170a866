import Pinwire.OptionText
import Pinwire.Proofs.Text.Parts

/-!
# Option texts read back

Reading turns a comma between two texts into an append, so what a text says is said by its parts one
by one. A part says nothing or one pair, and which of the two depends on this part alone. Therefore
any pairs that can stand between commas are found again in the order in which they were written,
however they are padded and whatever parts without an equals sign stand among them.
-/

namespace Pinwire.OptionText

/-- A text with blanks around it. -/
def Padded (text core : List Char) : Prop :=
  ∃ lead trail, text = lead ++ core ++ trail ∧
    (∀ character ∈ lead, Text.isBlank character) ∧ ∀ character ∈ trail, Text.isBlank character

/-- A pair that can stand in a text and be found again. -/
structure Carriable (option : String × String) : Prop where
  keyTrimmed : Text.Trims option.1.toList option.1.toList
  keyComma : ',' ∉ option.1.toList
  keyEquals : '=' ∉ option.1.toList
  valueTrimmed : Text.Trims option.2.toList option.2.toList
  valueComma : ',' ∉ option.2.toList

/-- Pairs written as parts of a text: in their order, padded, with other parts among them. -/
inductive Written : List (String × String) → List (List Char) → Prop where
  | nil : Written [] []
  | junk {options : List (String × String)} {part : List Char} {parts : List (List Char)}
      (comma : ',' ∉ part) (equals : '=' ∉ part) (rest : Written options parts) :
      Written options (part :: parts)
  | pair {key value : String} {options : List (String × String)} {before after : List Char}
      {parts : List (List Char)} (keyPadded : Padded before key.toList)
      (valuePadded : Padded after value.toList) (rest : Written options parts) :
      Written ((key, value) :: options) ((before ++ '=' :: after) :: parts)

section Padding

variable {text core : List Char}

theorem padded_refl (text : List Char) : Padded text text :=
  ⟨[], [], by simp, nofun, nofun⟩

theorem trims_of_padded (padded : Padded text core) (trimmed : Text.Trims core core) :
    Text.Trims text core :=
  ⟨padded, trimmed.head, trimmed.last⟩

theorem trims_core (trims : Text.Trims text core) : Text.Trims core core :=
  Text.trims_self trims.head trims.last

theorem not_mem_of_padded (padded : Padded text core) {character : Char}
    (solid : ¬Text.isBlank character) (absent : character ∉ core) : character ∉ text := by
  rcases padded with ⟨lead, trail, rfl, leadBlank, trailBlank⟩
  simp only [List.mem_append, not_or]
  refine ⟨⟨?_, absent⟩, ?_⟩
  · exact fun member => solid (leadBlank character member)
  · exact fun member => solid (trailBlank character member)

theorem not_mem_core (trims : Text.Trims text core) {character : Char} (absent : character ∉ text) :
    character ∉ core := by
  rcases trims.around with ⟨lead, trail, rfl, _, _⟩
  simp only [List.mem_append, not_or] at absent
  exact absent.1.2

end Padding

section Parts

variable {part before after : List Char} {options : List (String × String)}
  {parts : List (List Char)}

theorem pair?_of_unsigned (unsigned : '=' ∉ part) : pair? part = none := by
  simp [pair?, Text.splitFirst_eq_none_iff.2 unsigned]

theorem pair?_of_trims {key value : String} (unsigned : '=' ∉ before)
    (keyTrims : Text.Trims before key.toList) (valueTrims : Text.Trims after value.toList) :
    pair? (before ++ '=' :: after) = some (key, value) := by
  have split : Text.splitFirst '=' (before ++ '=' :: after) = some (before, after) :=
    Text.splitFirst_eq_some_iff.2 ⟨rfl, unsigned⟩
  simp [pair?, split, Text.trim_eq_iff.2 keyTrims, Text.trim_eq_iff.2 valueTrims]

/-- A part says nothing if it has no equals sign, and otherwise what stands around the first. -/
theorem pair?_cases (part : List Char) :
    ('=' ∉ part ∧ pair? part = none) ∨
    ∃ before after key value, part = before ++ '=' :: after ∧ '=' ∉ before ∧
      Text.Trims before key.toList ∧ Text.Trims after value.toList ∧
      pair? part = some (key, value) := by
  rcases found : Text.splitFirst '=' part with _ | ⟨before, after⟩
  · have unsigned := Text.splitFirst_eq_none_iff.1 found
    exact .inl ⟨unsigned, pair?_of_unsigned unsigned⟩
  · rcases Text.splitFirst_eq_some_iff.1 found with ⟨rfl, unsigned⟩
    have keyTrims : Text.Trims before (String.ofList (Text.trim before)).toList := by
      simpa using Text.trim_eq_iff.1 rfl
    have valueTrims : Text.Trims after (String.ofList (Text.trim after)).toList := by
      simpa using Text.trim_eq_iff.1 rfl
    exact .inr ⟨before, after, _, _, rfl, unsigned, keyTrims, valueTrims,
      pair?_of_trims unsigned keyTrims valueTrims⟩

/-- The parts in which pairs are written say these pairs. -/
theorem filterMap_of_written (written : Written options parts)
    (carriable : ∀ option ∈ options, Carriable option) : parts.filterMap pair? = options := by
  induction written with
  | nil => rfl
  | junk comma equals rest ih =>
      rw [List.filterMap_cons_none (pair?_of_unsigned equals)]
      exact ih carriable
  | pair keyPadded valuePadded rest ih =>
      rw [List.forall_mem_cons] at carriable
      rcases carriable with ⟨here, carriable⟩
      have unsigned := not_mem_of_padded keyPadded (by decide) here.keyEquals
      have said := pair?_of_trims unsigned (trims_of_padded keyPadded here.keyTrimmed)
        (trims_of_padded valuePadded here.valueTrimmed)
      rw [List.filterMap_cons_some said, ih carriable]

theorem comma_not_mem_of_written (written : Written options parts)
    (carriable : ∀ option ∈ options, Carriable option) : ∀ part ∈ parts, ',' ∉ part := by
  induction written with
  | nil => simp
  | junk comma equals rest ih =>
      rw [List.forall_mem_cons]
      exact ⟨comma, ih carriable⟩
  | pair keyPadded valuePadded rest ih =>
      rw [List.forall_mem_cons] at carriable ⊢
      rcases carriable with ⟨here, carriable⟩
      refine ⟨?_, ih carriable⟩
      have inKey := not_mem_of_padded keyPadded (by decide) here.keyComma
      have inValue := not_mem_of_padded valuePadded (by decide) here.valueComma
      simp [inKey, inValue]

/-- What parts say is written in them, and can be written in any other text. -/
theorem written_filterMap (commas : ∀ part ∈ parts, ',' ∉ part) :
    (∀ option ∈ parts.filterMap pair?, Carriable option) ∧
      Written (parts.filterMap pair?) parts := by
  induction parts with
  | nil => exact ⟨by simp, .nil⟩
  | cons part parts ih =>
      rw [List.forall_mem_cons] at commas
      rcases commas with ⟨here, commas⟩
      rcases ih commas with ⟨carriable, written⟩
      rcases pair?_cases part with ⟨unsigned, said⟩ |
        ⟨before, after, key, value, rfl, unsigned, keyTrims, valueTrims, said⟩
      · rw [List.filterMap_cons_none said]
        exact ⟨carriable, .junk here unsigned written⟩
      · rw [List.filterMap_cons_some said, List.forall_mem_cons]
        refine ⟨⟨?_, carriable⟩, .pair keyTrims.around valueTrims.around written⟩
        simp only [List.mem_append, List.mem_cons, not_or] at here
        exact ⟨trims_core keyTrims, not_mem_core keyTrims here.1, not_mem_core keyTrims unsigned,
          trims_core valueTrims, not_mem_core valueTrims here.2.2⟩

end Parts

section Texts

variable {options : List (String × String)} {parts : List (List Char)}

theorem parse_append_comma (front back : String) :
    parse (front ++ "," ++ back) = parse front ++ parse back := by
  have joined : (front ++ "," ++ back).toList = front.toList ++ ',' :: back.toList := by simp
  rw [parse, joined, Text.splitAll_append_separator, List.filterMap_append]
  rfl

theorem parse_of_single {part : String} (single : ',' ∉ part.toList) :
    parse part = (pair? part.toList).toList := by
  rw [parse, Text.splitAll_of_not_mem single]
  rcases said : pair? part.toList with _ | pair <;> simp [said]

theorem parse_of_written {text : String} (written : Written options parts)
    (carriable : ∀ option ∈ options, Carriable option)
    (joined : text.toList = [','].intercalate parts) : parse text = options := by
  have commas := comma_not_mem_of_written written carriable
  rcases parts with _ | ⟨part, parts⟩
  · -- Without parts the text is empty, which splitting takes for one empty part.
    cases written
    have empty : text.toList = [] := joined
    simp [parse, empty, Text.splitAll, pair?_of_unsigned]
  · have parted : Text.Parted ',' text.toList (part :: parts) :=
      ⟨joined, commas, List.cons_ne_nil _ _⟩
    rw [parse, Text.splitAll_eq_iff.2 parted]
    exact filterMap_of_written written carriable

theorem written_parse (text : String) :
    (∀ option ∈ parse text, Carriable option) ∧
      ∃ parts, Written (parse text) parts ∧ text.toList = [','].intercalate parts := by
  have parted : Text.Parted ',' text.toList (Text.splitAll ',' text.toList) :=
    Text.splitAll_eq_iff.1 rfl
  rcases written_filterMap parted.absent with ⟨carriable, written⟩
  exact ⟨carriable, _, written, parted.joined⟩

theorem written_plain (options : List (String × String)) :
    Written options (options.map fun option => option.1.toList ++ '=' :: option.2.toList) := by
  induction options with
  | nil => exact .nil
  | cons option options ih => exact .pair (padded_refl _) (padded_refl _) ih

theorem parse_plain (carriable : ∀ option ∈ options, Carriable option) :
    parse (",".intercalate (options.map fun option => option.1 ++ "=" ++ option.2)) = options := by
  apply parse_of_written (written_plain options) carriable
  simp [String.toList_intercalate, Function.comp_def]

/-- Option texts carry options without loss.
1. A comma between two texts puts what they say one after the other.
2. A part without commas says nothing if it has no equals sign, and otherwise one pair: what stands
   before and after the first one, without the blanks around it.
3. A text says exactly the options that are written in it, among all those that can be written.
4. Options that can be written are said by their plain text, which has nothing but them. -/
theorem options_recovered :
    (∀ front back, parse (front ++ "," ++ back) = parse front ++ parse back) ∧
    (∀ part : String, ',' ∉ part.toList →
      ('=' ∉ part.toList ∧ parse part = []) ∨
      ∃ before after key value, part.toList = before ++ '=' :: after ∧ '=' ∉ before ∧
        Text.Trims before key.toList ∧ Text.Trims after value.toList ∧
        parse part = [(key, value)]) ∧
    (∀ text options, parse text = options ↔
      (∀ option ∈ options, Carriable option) ∧
        ∃ parts, Written options parts ∧ text.toList = [','].intercalate parts) ∧
    ∀ options, (∀ option ∈ options, Carriable option) →
      parse (",".intercalate (options.map fun option => option.1 ++ "=" ++ option.2)) =
        options := by
  refine ⟨parse_append_comma, ?_, ?_, ?_⟩
  · intro part single
    rw [parse_of_single single]
    rcases pair?_cases part.toList with ⟨unsigned, said⟩ |
      ⟨before, after, key, value, joined, unsigned, keyTrims, valueTrims, said⟩
    · exact .inl ⟨unsigned, by simp [said]⟩
    · exact .inr ⟨before, after, key, value, joined, unsigned, keyTrims, valueTrims, by simp [said]⟩
  · intro text options
    constructor
    · rintro rfl
      exact written_parse text
    · rintro ⟨carriable, parts, written, joined⟩
      exact parse_of_written written carriable joined
  · intro options carriable
    exact parse_plain carriable

/-- A key given twice, a value with an equals sign and an empty one, in two texts. -/
theorem options_of_padded_text :
    let options := [("dev", "/dev/a=b"), ("in", "4"), ("in", "4"), ("name", "")]
    parse " dev\u3000=/dev/a=b ,junk,,in=4, in\t=4,name= " = options ∧
      parse "dev=/dev/a=b,in=4,in=4,name=" = options := by
  intro options
  have carriable : ∀ option ∈ options, Carriable option := by
    have said : parse "dev=/dev/a=b,in=4,in=4,name=" = options := by decide +kernel
    rw [← said]
    exact (written_parse _).1
  have spaced : Padded " dev\u3000".toList "dev".toList :=
    ⟨[' '], ['\u3000'], by decide +kernel, List.forall_mem_singleton.2 rfl,
      List.forall_mem_singleton.2 rfl⟩
  have valued : Padded "/dev/a=b ".toList "/dev/a=b".toList :=
    ⟨[], [' '], by decide +kernel, nofun, List.forall_mem_singleton.2 rfl⟩
  have tabbed : Padded " in\t".toList "in".toList :=
    ⟨[' '], ['\t'], by decide +kernel, List.forall_mem_singleton.2 rfl,
      List.forall_mem_singleton.2 rfl⟩
  have empty : Padded " ".toList "".toList :=
    ⟨[], [' '], by decide +kernel, nofun, List.forall_mem_singleton.2 rfl⟩
  have written : Written options
      [" dev\u3000".toList ++ '=' :: "/dev/a=b ".toList, "junk".toList, [],
        "in".toList ++ '=' :: "4".toList, " in\t".toList ++ '=' :: "4".toList,
        "name".toList ++ '=' :: " ".toList] :=
    .pair spaced valued (.junk (by decide +kernel) (by decide +kernel) (.junk (by simp) (by simp)
      (.pair (padded_refl _) (padded_refl _) (.pair tabbed (padded_refl _)
        (.pair (padded_refl _) empty .nil)))))
  constructor
  · exact (options_recovered.2.2.1 _ _).2 ⟨carriable, _, written, by decide +kernel⟩
  · have plain := options_recovered.2.2.2 options carriable
    rwa [show ",".intercalate (options.map fun option => option.1 ++ "=" ++ option.2) =
      "dev=/dev/a=b,in=4,in=4,name=" by decide +kernel] at plain

end Texts

end Pinwire.OptionText
