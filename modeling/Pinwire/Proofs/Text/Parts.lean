import Pinwire.Text.Blank
import Pinwire.Text.Split

/-!
# Parts of texts

What is left and right of a separator, and what is left of a text when the blanks around it are
dropped, said without the functions that compute them: a text is put together again from its parts,
and the parts have no separators or outer blanks of their own.
-/

namespace Pinwire.Text

section Split

variable {separator : Char} {text part : List Char}

/-- A text is split at the first of its separators. -/
theorem splitFirst_eq_some_iff {before after : List Char} :
    splitFirst separator text = some (before, after) ↔
      text = before ++ separator :: after ∧ separator ∉ before := by
  induction text generalizing before with
  | nil => simp [splitFirst]
  | cons character text ih =>
      by_cases same : character = separator
      · subst same
        rw [splitFirst, if_pos rfl]
        cases before with
        | nil => simp [eq_comm]
        | cons first before =>
            simp only [Option.some.injEq, Prod.mk.injEq, reduceCtorEq, false_and, false_iff]
            rintro ⟨joined, absent⟩
            simp only [List.cons_append, List.cons.injEq] at joined
            exact absent (List.mem_cons.2 (.inl joined.1))
      · rw [splitFirst, if_neg same, Option.map_eq_some_iff]
        constructor
        · rintro ⟨⟨before', after'⟩, found, parts⟩
          cases parts
          rcases ih.1 found with ⟨rfl, absent⟩
          refine ⟨rfl, ?_⟩
          rw [List.mem_cons, not_or]
          exact ⟨Ne.symm same, absent⟩
        · rintro ⟨joined, absent⟩
          cases before with
          | nil =>
              simp only [List.nil_append, List.cons.injEq] at joined
              exact absurd joined.1 same
          | cons first before =>
              simp only [List.cons_append, List.cons.injEq] at joined
              rcases joined with ⟨rfl, joined⟩
              rw [List.mem_cons, not_or] at absent
              exact ⟨(before, after), ih.2 ⟨joined, absent.2⟩, rfl⟩

theorem splitFirst_eq_none_iff : splitFirst separator text = none ↔ separator ∉ text := by
  induction text with
  | nil => simp [splitFirst]
  | cons character text ih =>
      by_cases same : character = separator
      · simp [splitFirst, same]
      · rw [splitFirst, if_neg same, Option.map_eq_none_iff, ih, List.mem_cons, not_or]
        exact ⟨fun absent => ⟨Ne.symm same, absent⟩, fun absent => absent.2⟩

theorem splitAll_ne_nil (text : List Char) : splitAll separator text ≠ [] := by
  fun_cases splitAll separator text <;> simp

theorem splitAll_of_not_mem (absent : separator ∉ part) : splitAll separator part = [part] := by
  induction part with
  | nil => rfl
  | cons character part ih =>
      rw [List.mem_cons, not_or] at absent
      rw [splitAll, if_neg (Ne.symm absent.1), ih absent.2]

/-- Splitting turns a separator into the end of the parts before it. -/
theorem splitAll_append_separator (text rest : List Char) :
    splitAll separator (text ++ separator :: rest) =
      splitAll separator text ++ splitAll separator rest := by
  induction text with
  | nil => simp [splitAll]
  | cons character text ih =>
      by_cases same : character = separator
      · simp [splitAll, same, ih]
      · rcases parts : splitAll separator text with _ | ⟨part, others⟩
        · exact absurd parts (splitAll_ne_nil text)
        · simp [splitAll, same, ih, parts]

theorem splitAll_append (absent : separator ∉ part) (rest : List Char) :
    splitAll separator (part ++ separator :: rest) = part :: splitAll separator rest := by
  simp [splitAll_append_separator, splitAll_of_not_mem absent]

/-- Parts that are joined by a separator which none of them has are found again. -/
theorem splitAll_joinWith (parts : List (List Char)) (absent : ∀ part ∈ parts, separator ∉ part)
    (some : parts ≠ []) : splitAll separator (joinWith [separator] parts) = parts := by
  induction parts with
  | nil => exact absurd rfl some
  | cons part parts ih =>
      have absentHere : separator ∉ part := absent part List.mem_cons_self
      cases parts with
      | nil => exact splitAll_of_not_mem absentHere
      | cons next parts =>
          rw [joinWith, List.append_assoc, List.singleton_append, splitAll_append absentHere,
            ih (fun other member => absent other (List.mem_cons_of_mem _ member))
              (List.cons_ne_nil _ _)]

end Split

section Joined

variable {separator part : List Char} {parts : List (List Char)}

theorem joinWith_eq_intercalate (separator : List Char) (parts : List (List Char)) :
    joinWith separator parts = separator.intercalate parts := by
  induction parts with
  | nil => rfl
  | cons part parts ih =>
      cases parts with
      | nil => simp [joinWith, List.intercalate]
      | cons next parts =>
          rw [joinWith, ih]
          simp [List.intercalate]

theorem joinWith_splitAll (separator : Char) (text : List Char) :
    joinWith [separator] (splitAll separator text) = text := by
  induction text with
  | nil => rfl
  | cons character text ih =>
      rcases parts : splitAll separator text with _ | ⟨part, others⟩
      · exact absurd parts (splitAll_ne_nil text)
      · rw [parts] at ih
        by_cases same : character = separator
        · simp [splitAll, same, parts, joinWith, ih]
        · cases others <;> simp_all [splitAll, joinWith]

theorem not_mem_of_mem_splitAll {separator : Char} {text part : List Char}
    (member : part ∈ splitAll separator text) : separator ∉ part := by
  induction text generalizing part with
  | nil => simp_all [splitAll]
  | cons character text ih =>
      rcases parts : splitAll separator text with _ | ⟨first, others⟩
      · exact absurd parts (splitAll_ne_nil text)
      · rw [parts] at ih
        by_cases same : character = separator
        · rw [splitAll, if_pos same, parts] at member
          rcases List.mem_cons.1 member with rfl | member
          · exact List.not_mem_nil
          · exact ih member
        · rw [splitAll, if_neg same, parts] at member
          rcases List.mem_cons.1 member with rfl | member
          · have absent := ih List.mem_cons_self
            simp [absent, Ne.symm same]
          · exact ih (List.mem_cons_of_mem _ member)

/-- The parts of a text give it when they are joined by the separator, and have none themselves. -/
structure Parted (separator : Char) (text : List Char) (parts : List (List Char)) : Prop where
  joined : text = [separator].intercalate parts
  absent : ∀ part ∈ parts, separator ∉ part
  some : parts ≠ []

theorem splitAll_eq_iff {separator : Char} {text : List Char} {parts : List (List Char)} :
    splitAll separator text = parts ↔ Parted separator text parts := by
  constructor
  · rintro rfl
    refine ⟨?_, fun _ => not_mem_of_mem_splitAll, splitAll_ne_nil text⟩
    rw [← joinWith_eq_intercalate, joinWith_splitAll]
  · rintro ⟨rfl, absent, some⟩
    rw [← joinWith_eq_intercalate]
    exact splitAll_joinWith parts absent some

/-- A filter that drops the separator leaves what it leaves of the parts. -/
theorem filter_joinWith {p : Char → Bool} (dropped : ∀ character ∈ separator, ¬p character) :
    (joinWith separator parts).filter p = (parts.map (List.filter p)).flatten := by
  induction parts with
  | nil => rfl
  | cons part parts ih =>
      cases parts with
      | nil => simp [joinWith]
      | cons next parts =>
          have gone : separator.filter p = [] := List.filter_eq_nil_iff.2 dropped
          rw [joinWith, List.filter_append, List.filter_append, gone, ih]
          simp

theorem exists_joinWith_cons (separator part : List Char) (parts : List (List Char)) :
    ∃ rest, joinWith separator (part :: parts) = part ++ rest := by
  cases parts with
  | nil => exact ⟨[], (List.append_nil part).symm⟩
  | cons next parts => exact ⟨_, List.append_assoc _ _ _⟩

/-- A joined text ends as its last part does, and so as one of its parts. -/
theorem exists_getLast?_joinWith (filled : ∀ part ∈ parts, part ≠ []) (some : parts ≠ []) :
    ∃ part ∈ parts, (joinWith separator parts).getLast? = part.getLast? := by
  induction parts with
  | nil => exact absurd rfl some
  | cons part parts ih =>
      cases parts with
      | nil => exact ⟨part, List.mem_cons_self, rfl⟩
      | cons next parts =>
          rcases ih (fun part member => filled part (List.mem_cons_of_mem _ member))
            (List.cons_ne_nil _ _) with ⟨last, member, ending⟩
          refine ⟨last, List.mem_cons_of_mem _ member, ?_⟩
          have ended : last.getLast?.isSome := by
            simpa using filled last (List.mem_cons_of_mem _ member)
          rw [joinWith, List.getLast?_append, ending, Option.or_of_isSome ended]

end Joined

/-- A text is a core with blanks around it, and the core has none at either end. -/
structure Trims (text core : List Char) : Prop where
  around : ∃ lead trail, text = lead ++ core ++ trail ∧ (∀ character ∈ lead, isBlank character) ∧
    ∀ character ∈ trail, isBlank character
  head : ∀ character, core.head? = some character → ¬isBlank character
  last : ∀ character, core.getLast? = some character → ¬isBlank character

section Trim

variable {text core : List Char}

/-- A text without blanks at its ends is its own core. -/
theorem trims_self (head : ∀ character, text.head? = some character → ¬isBlank character)
    (last : ∀ character, text.getLast? = some character → ¬isBlank character) :
    Trims text text where
  around := ⟨[], [], (List.append_nil text).symm, nofun, nofun⟩
  head := head
  last := last

theorem trims_of_unblank (unblank : ∀ character ∈ text, ¬isBlank character) : Trims text text := by
  apply trims_self
  · intro character head
    exact unblank character (List.mem_of_head? head)
  · intro character last
    exact unblank character (List.mem_of_getLast? last)

theorem dropWhile_of_head {p : Char → Bool}
    (head : ∀ character, text.head? = some character → ¬p character) : text.dropWhile p = text := by
  cases text with
  | nil => rfl
  | cons first text => exact List.dropWhile_cons_of_neg (head first rfl)

/-- Blanks in front of a text that starts with none are the ones that are dropped. -/
theorem trimStart_append {lead : List Char} (blank : ∀ character ∈ lead, isBlank character)
    (head : ∀ character, text.head? = some character → ¬isBlank character) :
    trimStart (lead ++ text) = text := by
  rw [trimStart, List.dropWhile_append_of_pos blank]
  exact dropWhile_of_head head

theorem trimEnd_append {trail : List Char} (blank : ∀ character ∈ trail, isBlank character)
    (last : ∀ character, text.getLast? = some character → ¬isBlank character) :
    trimEnd (text ++ trail) = text := by
  rw [trimEnd, List.reverse_append, List.dropWhile_append_of_pos, dropWhile_of_head,
    List.reverse_reverse]
  · intro character found
    rw [List.head?_reverse] at found
    exact last character found
  · intro character member
    exact blank character (List.mem_reverse.1 member)

theorem trimStart_decomposition (text : List Char) :
    ∃ lead, text = lead ++ trimStart text ∧ (∀ character ∈ lead, isBlank character) ∧
      ∀ character, (trimStart text).head? = some character → ¬isBlank character := by
  refine ⟨text.takeWhile isBlank, List.takeWhile_append_dropWhile.symm, ?_, ?_⟩
  · intro character member
    exact List.all_eq_true.1 List.all_takeWhile character member
  · intro character found blank
    have := List.head?_dropWhile_not isBlank text
    rw [show (text.dropWhile isBlank).head? = some character from found] at this
    simp [blank] at this

theorem trimEnd_decomposition (text : List Char) :
    ∃ trail, text = trimEnd text ++ trail ∧ (∀ character ∈ trail, isBlank character) ∧
      ∀ character, (trimEnd text).getLast? = some character → ¬isBlank character := by
  rcases trimStart_decomposition text.reverse with ⟨lead, joined, blank, head⟩
  refine ⟨lead.reverse, ?_, ?_, ?_⟩
  · rw [trimEnd, ← trimStart, ← List.reverse_append, ← joined, List.reverse_reverse]
  · intro character member
    exact blank character (List.mem_reverse.1 member)
  · intro character found
    rw [trimEnd, ← trimStart, List.getLast?_reverse] at found
    exact head character found

theorem trim_eq_iff : trim text = core ↔ Trims text core := by
  constructor
  · rintro rfl
    rcases trimStart_decomposition text with ⟨lead, front, leadBlank, head⟩
    rcases trimEnd_decomposition (trimStart text) with ⟨trail, back, trailBlank, last⟩
    refine ⟨⟨lead, trail, ?_, leadBlank, trailBlank⟩, ?_, last⟩
    · rw [trim, List.append_assoc, ← back]
      exact front
    · intro character found
      apply head character
      rw [trim] at found
      rw [back, List.head?_append, found, Option.some_or]
  · rintro ⟨⟨lead, trail, rfl, leadBlank, trailBlank⟩, head, last⟩
    cases core with
    | nil =>
        have blank : ∀ character ∈ lead ++ [] ++ trail, isBlank character := by
          simpa [or_imp, forall_and] using And.intro leadBlank trailBlank
        have started : trimStart (lead ++ [] ++ trail ++ []) = [] := by
          apply trimStart_append blank
          simp
        rw [List.append_nil] at started
        rw [trim, started]
        rfl
    | cons first core =>
        rw [trim, List.append_assoc, trimStart_append leadBlank]
        · exact trimEnd_append trailBlank last
        · intro character found
          exact head character found

end Trim

end Pinwire.Text
