import Mathlib.Data.List.Perm.Basic
import Pinwire.Bench.FixedLines
import Pinwire.Proofs.Line.Order
import Pinwire.Proofs.Text.Numeral
import Pinwire.Proofs.Text.Parts

/-!
# Which items assign states

The grammar of items, said without reading them, and what becomes of a list of items: either each of
them assigns a state to a line of its own, and a bus is driven once, or the first item at fault
decides the error and the bus is not touched.

An item is at fault by itself or because of the items before it. So reading a list is described by
what its sound beginning assigns, and the states that are collected on the way are that, in the
order of lines.
-/

namespace Pinwire

namespace PinState

/-- The words for a state, in small letters. -/
def words : PinState → List String
  | active => ["1", "active", "on"]
  | inactive => ["0", "inactive", "off"]

/-- A text spells a state if it is one of the words for it, but for the case of ASCII letters. -/
def Spelled (text : List Char) (state : PinState) : Prop :=
  String.ofList (text.map Char.toLower) ∈ state.words

theorem ofName?_eq_some_iff {text : List Char} {state : PinState} :
    ofName? (String.ofList text) = some state ↔ Spelled text state := by
  have lowered : (String.ofList text).toLower = String.ofList (text.map Char.toLower) := by
    apply String.toList_injective
    change ((String.ofList text).map Char.toLower).toList = _
    rw [String.toList_map, String.toList_ofList, String.toList_ofList]
  rw [ofName?, lowered, Spelled]
  split <;> cases state <;> simp_all [words]

end PinState

theorem insertEntry_perm {line : LineNumber} {state : PinState}
    {entries : List (LineNumber × PinState)} (absent : line ∉ entries.map (·.1)) :
    (insertEntry line state entries).Perm ((line, state) :: entries) := by
  induction entries with
  | nil => exact List.Perm.refl _
  | cons entry entries ih =>
      rw [List.map_cons, List.mem_cons, not_or] at absent
      rw [insertEntry, if_neg absent.1]
      split
      · exact List.Perm.refl _
      · exact ((ih absent.2).cons entry).trans (List.Perm.swap _ _ _)

namespace LineStates

variable {states states' : LineStates} {line : LineNumber}

/-- There is one way to keep the same states in ascending order of lines. -/
theorem eq_of_perm (same : states.entries.Perm states'.entries) : states = states' := by
  rcases states with ⟨entries, ascending⟩
  rcases states' with ⟨entries', ascending'⟩
  have equal : entries = entries' := eq_of_perm_of_ascending ascending ascending' same
  subst equal
  rfl

theorem nodup_lines (states : LineStates) : states.lines.Nodup := by
  rw [lines, List.Nodup, List.pairwise_map]
  exact states.ascending.imp fun below => UInt32.ne_of_lt below

theorem isSome_get?_iff : (states.get? line).isSome ↔ line ∈ states.lines := by
  simp only [get?, Option.isSome_map, List.find?_isSome, decide_eq_true_eq, lines, List.mem_map]

theorem insert_perm (state : PinState) (absent : line ∉ states.lines) :
    (states.insert line state).entries.Perm ((line, state) :: states.entries) :=
  insertEntry_perm absent

/-- A line may be counted among those that follow or among those that have a state. -/
theorem lines_append_perm (state : PinState) (absent : line ∉ states.lines)
    (rest : List LineNumber) :
    (states.lines ++ line :: rest).Perm ((states.insert line state).lines ++ rest) := by
  have inserted : (states.insert line state).lines.Perm (line :: states.lines) :=
    (insert_perm state absent).map Prod.fst
  exact List.perm_middle.trans (inserted.symm.append_right rest)

end LineStates

namespace Assignment

/-- An item falls into two sides at the first of its equals signs; they are taken without the
blanks around them. -/
def Sides (item : String) (number word : List Char) : Prop :=
  ∃ before after, item.toList = before ++ '=' :: after ∧ '=' ∉ before ∧
    Text.Trims before number ∧ Text.Trims after word

/-- What an item says. The checks of an item are made in this order. -/
inductive Reading (item : String) : Except Defect (LineNumber × PinState) → Prop where
  | unassigned (unsigned : '=' ∉ item.toList) : Reading item (.error (.unassigned item))
  | invalidLine {number word : List Char} (sides : Sides item number word)
      (noNumeral : ∀ line : LineNumber, ¬Text.Numeral number line.toNat) :
      Reading item (.error (.invalidLine item))
  | invalidState {number word : List Char} {line : LineNumber} (sides : Sides item number word)
      (numeral : Text.Numeral number line.toNat)
      (unspelled : ∀ state, ¬PinState.Spelled word state) :
      Reading item (.error (.invalidState (String.ofList word)))
  | assigned {number word : List Char} {line : LineNumber} {state : PinState}
      (sides : Sides item number word) (numeral : Text.Numeral number line.toNat)
      (spelled : PinState.Spelled word state) : Reading item (.ok (line, state))

section Items

variable {item : String} {number word : List Char}

theorem Sides.splitFirst (sides : Sides item number word) :
    ∃ before after, Text.splitFirst '=' item.toList = some (before, after) ∧
      Text.trim before = number ∧ Text.trim after = word := by
  rcases sides with ⟨before, after, joined, absent, left, right⟩
  exact ⟨before, after, Text.splitFirst_eq_some_iff.2 ⟨joined, absent⟩,
    Text.trim_eq_iff.2 left, Text.trim_eq_iff.2 right⟩

theorem sides_of_splitFirst {before after : List Char}
    (found : Text.splitFirst '=' item.toList = some (before, after)) :
    Sides item (Text.trim before) (Text.trim after) := by
  rcases Text.splitFirst_eq_some_iff.1 found with ⟨joined, absent⟩
  exact ⟨before, after, joined, absent, Text.trim_eq_iff.1 rfl, Text.trim_eq_iff.1 rfl⟩

theorem parseItem_of_reading {answer : Except Defect (LineNumber × PinState)}
    (reading : Reading item answer) : parseItem item = answer := by
  cases reading with
  | unassigned unsigned => rw [parseItem, Text.splitFirst_eq_none_iff.2 unsigned]
  | invalidLine sides noNumeral =>
      rcases sides.splitFirst with ⟨before, after, found, rfl, rfl⟩
      simp only [parseItem, found, Text.Decimal.word?_eq_none_iff.2 noNumeral]
  | invalidState sides numeral unspelled =>
      rcases sides.splitFirst with ⟨before, after, found, rfl, rfl⟩
      have unnamed : PinState.ofName? (String.ofList (Text.trim after)) = none := by
        rw [Option.eq_none_iff_forall_ne_some]
        intro state named
        exact unspelled state (PinState.ofName?_eq_some_iff.1 named)
      simp only [parseItem, found, Text.Decimal.word?_eq_some_iff.2 numeral, unnamed]
  | assigned sides numeral spelled =>
      rcases sides.splitFirst with ⟨before, after, found, rfl, rfl⟩
      simp only [parseItem, found, Text.Decimal.word?_eq_some_iff.2 numeral,
        PinState.ofName?_eq_some_iff.2 spelled]

theorem reading_parseItem (item : String) : Reading item (parseItem item) := by
  rcases found : Text.splitFirst '=' item.toList with _ | ⟨before, after⟩
  · simp only [parseItem, found]
    exact .unassigned (Text.splitFirst_eq_none_iff.1 found)
  have sides := sides_of_splitFirst found
  rcases read : Text.Decimal.word? (Text.trim before) with _ | line
  · simp only [parseItem, found, read]
    exact .invalidLine sides (Text.Decimal.word?_eq_none_iff.1 read)
  have numeral := Text.Decimal.word?_eq_some_iff.1 read
  rcases named : PinState.ofName? (String.ofList (Text.trim after)) with _ | state
  · simp only [parseItem, found, read, named]
    refine .invalidState sides numeral ?_
    intro state spelled
    rw [PinState.ofName?_eq_some_iff.2 spelled] at named
    cases named
  · simp only [parseItem, found, read, named]
    exact .assigned sides numeral (PinState.ofName?_eq_some_iff.1 named)

/-- Items are read as the grammar says, and the grammar leaves no item out. -/
theorem parseItem_eq_iff {answer : Except Defect (LineNumber × PinState)} :
    parseItem item = answer ↔ Reading item answer := by
  constructor
  · rintro rfl
    exact reading_parseItem item
  · exact parseItem_of_reading

end Items

/-- Items assign these states, each item one, to lines that are different from each other and from
those that have a state before. -/
structure AssignsAfter (states : LineStates) (items : List String)
    (pairs : List (LineNumber × PinState)) : Prop where
  readings : List.Forall₂ (fun item pair => Reading item (.ok pair)) items pairs
  distinct : (states.lines ++ pairs.map (·.1)).Nodup

/-- An item is at fault: it says nothing that can be assigned, or it names a line that has a state
before or by the items before it, all of which are sound. -/
def OffendsAfter (states : LineStates) (items : List String) (defect : Defect) : Prop :=
  ∃ earlier item later pairs, items = earlier ++ item :: later ∧
    AssignsAfter states earlier pairs ∧
    (Reading item (.error defect) ∨ ∃ line state, Reading item (.ok (line, state)) ∧
      line ∈ states.lines ++ pairs.map (·.1) ∧ defect = .repeated line)

section Lists

variable {states final : LineStates} {item : String} {items : List String} {line : LineNumber}
  {state : PinState} {defect : Defect}

theorem assigns_nil (states : LineStates) : AssignsAfter states [] [] where
  readings := .nil
  distinct := by
    rw [List.map_nil, List.append_nil]
    exact states.nodup_lines

theorem assigns_cons (reading : Reading item (.ok (line, state))) (fresh : line ∉ states.lines)
    {pairs : List (LineNumber × PinState)} :
    AssignsAfter states (item :: items) ((line, state) :: pairs) ↔
      AssignsAfter (states.insert line state) items pairs := by
  have moved := LineStates.lines_append_perm state fresh (pairs.map (·.1))
  constructor
  · rintro ⟨readings, distinct⟩
    exact ⟨(List.forall₂_cons.1 readings).2, moved.nodup_iff.1 distinct⟩
  · rintro ⟨readings, distinct⟩
    exact ⟨.cons reading readings, moved.nodup_iff.2 distinct⟩

/-- What is assigned begins with what the first item assigns. -/
theorem AssignsAfter.cases_cons {pairs : List (LineNumber × PinState)}
    (assigns : AssignsAfter states (item :: items) pairs) :
    ∃ line state rest, pairs = (line, state) :: rest ∧ Reading item (.ok (line, state)) ∧
      line ∉ states.lines ∧ AssignsAfter (states.insert line state) items rest := by
  rcases assigns with ⟨readings, distinct⟩
  cases readings with
  | @cons _ pair _ rest reading readings =>
      rcases pair with ⟨line, state⟩
      have fresh : line ∉ states.lines := by
        intro named
        exact (List.nodup_append.1 distinct).2.2 line named line List.mem_cons_self rfl
      exact ⟨line, state, rest, rfl, reading, fresh,
        (assigns_cons reading fresh).1 ⟨.cons reading readings, distinct⟩⟩

theorem parseAfter_cons_of_error (reading : Reading item (.error defect)) :
    parseAfter states (item :: items) = .error defect := by
  rw [parseAfter, parseItem_of_reading reading]

theorem parseAfter_cons_of_repeated (reading : Reading item (.ok (line, state)))
    (named : line ∈ states.lines) :
    parseAfter states (item :: items) = .error (.repeated line) := by
  simp only [parseAfter, parseItem_of_reading reading, LineStates.isSome_get?_iff.2 named, if_true]

theorem parseAfter_cons_of_fresh (reading : Reading item (.ok (line, state)))
    (fresh : line ∉ states.lines) :
    parseAfter states (item :: items) = parseAfter (states.insert line state) items := by
  simp only [parseAfter, parseItem_of_reading reading, LineStates.isSome_get?_iff, if_neg fresh]

/-- The states that are collected are those before and those that the items assign. -/
theorem parseAfter_of_assigns {pairs : List (LineNumber × PinState)}
    (assigns : AssignsAfter states items pairs) :
    ∃ final, parseAfter states items = .ok final ∧
      final.entries.Perm (states.entries ++ pairs) := by
  induction items generalizing states pairs with
  | nil =>
      cases assigns.readings
      exact ⟨states, rfl, by rw [List.append_nil]⟩
  | cons item items ih =>
      rcases assigns.cases_cons with ⟨line, state, rest, rfl, reading, fresh, assigns⟩
      rcases ih assigns with ⟨final, parsed, same⟩
      refine ⟨final, ?_, ?_⟩
      · rw [parseAfter_cons_of_fresh reading fresh, parsed]
      · exact same.trans (((LineStates.insert_perm state fresh).append_right _).trans
          List.perm_middle.symm)

theorem parseAfter_of_offends (offends : OffendsAfter states items defect) :
    parseAfter states items = .error defect := by
  rcases offends with ⟨earlier, item, later, pairs, rfl, assigns, fault⟩
  -- The sound items before it move into the states one by one, until it comes first.
  induction earlier generalizing states pairs with
  | nil =>
      cases assigns.readings
      rw [List.map_nil, List.append_nil] at fault
      rcases fault with reading | ⟨line, state, reading, named, rfl⟩
      · exact parseAfter_cons_of_error reading
      · exact parseAfter_cons_of_repeated reading named
  | cons first earlier ih =>
      rcases assigns.cases_cons with ⟨line, state, rest, rfl, reading, fresh, assigns⟩
      rw [List.cons_append, parseAfter_cons_of_fresh reading fresh]
      apply ih rest assigns
      have moved := LineStates.lines_append_perm state fresh (rest.map (·.1))
      simpa only [List.map_cons, moved.mem_iff] using fault

/-- An item at fault stays at fault behind a sound one. -/
theorem OffendsAfter.cons (reading : Reading item (.ok (line, state))) (fresh : line ∉ states.lines)
    (offends : OffendsAfter (states.insert line state) items defect) :
    OffendsAfter states (item :: items) defect := by
  rcases offends with ⟨earlier, culprit, later, pairs, rfl, assigns, fault⟩
  have moved := LineStates.lines_append_perm state fresh (pairs.map (·.1))
  refine ⟨item :: earlier, culprit, later, (line, state) :: pairs, rfl, ?_, ?_⟩
  · exact (assigns_cons reading fresh).2 assigns
  · simpa only [List.map_cons, moved.mem_iff] using fault

/-- A list of items is sound as a whole, or it has an item at fault. -/
theorem assigns_or_offends (states : LineStates) (items : List String) :
    (∃ pairs, AssignsAfter states items pairs) ∨ ∃ defect, OffendsAfter states items defect := by
  induction items generalizing states with
  | nil => exact .inl ⟨[], assigns_nil states⟩
  | cons item items ih =>
      -- An item that is at fault ends the search, and so does one whose line has a state.
      obtain ⟨answer, reading⟩ : ∃ answer, Reading item answer := ⟨_, reading_parseItem item⟩
      rcases answer with defect | ⟨line, state⟩
      · exact .inr ⟨defect, [], item, items, [], rfl, assigns_nil states, .inl reading⟩
      by_cases named : line ∈ states.lines
      · have again : line ∈ states.lines ++ [] := List.mem_append_left [] named
        exact .inr ⟨.repeated line, [], item, items, [], rfl, assigns_nil states,
          .inr ⟨line, state, reading, again, rfl⟩⟩
      rcases ih (states.insert line state) with ⟨pairs, assigns⟩ | ⟨defect, offends⟩
      · exact .inl ⟨(line, state) :: pairs, (assigns_cons reading named).2 assigns⟩
      · exact .inr ⟨defect, offends.cons reading named⟩

theorem assigns_iff_not_offends :
    (∃ pairs, AssignsAfter states items pairs) ↔ ¬∃ defect, OffendsAfter states items defect := by
  constructor
  · rintro ⟨pairs, assigns⟩ ⟨defect, offends⟩
    rcases parseAfter_of_assigns assigns with ⟨final, parsed, _⟩
    rw [parseAfter_of_offends offends] at parsed
    cases parsed
  · intro sound
    exact (assigns_or_offends states items).resolve_right sound

/-- Items in another order assign the same states in another order. -/
theorem AssignsAfter.of_perm {items' : List String} {pairs : List (LineNumber × PinState)}
    (assigns : AssignsAfter states items pairs) (permuted : items'.Perm items) :
    ∃ pairs', pairs'.Perm pairs ∧ AssignsAfter states items' pairs' := by
  rcases List.perm_comp_forall₂ permuted assigns.readings with ⟨pairs', readings, same⟩
  refine ⟨pairs', same, readings, ?_⟩
  have lines : (states.lines ++ pairs'.map (·.1)).Perm (states.lines ++ pairs.map (·.1)) :=
    (same.map _).append_left _
  exact lines.nodup_iff.2 assigns.distinct

/-- Sound items make the same states in every order. -/
theorem parse_of_assigns {pairs : List (LineNumber × PinState)}
    (assigns : AssignsAfter .empty items pairs) :
    ∃ states, states.entries.Perm pairs ∧
      ∀ items', items'.Perm items → parse items' = .ok states := by
  rcases parseAfter_of_assigns assigns with ⟨states, _, entries⟩
  refine ⟨states, entries, ?_⟩
  intro items' permuted
  rcases assigns.of_perm permuted with ⟨pairs', same, assigns'⟩
  rcases parseAfter_of_assigns assigns' with ⟨states', parsed, entries'⟩
  have equal : states' = states :=
    LineStates.eq_of_perm (entries'.trans (same.trans entries.symm))
  rw [parse, parsed, equal]

end Lists

end Assignment

namespace LineBus

variable {σ ε : Type} {items : List String}

theorem assign_of_parse {states : LineStates} (bus : LineBus σ ε)
    (parsed : Assignment.parse items = .ok states) :
    bus.assign items = (do
      .record .debug commandSource s!"gpio: setting {renderStates states}"
      .mapError .bus (bus.set states)) := by
  rw [assign, parsed, Program.ofExcept_mapError_ok_bind]

theorem assign_of_defect {defect : Assignment.Defect} (bus : LineBus σ ε)
    (unparsed : Assignment.parse items = .error defect) :
    bus.assign items = .fail (.assignment defect) := by
  rw [assign, unparsed]
  exact Program.ofExcept_error_bind _ _

/-- Assignments are made all at once or not at all.
1. Making a transcript of the calls changes neither answer nor bus nor journal.
2. Items that each assign a state to a line of its own drive the bus once, with these states and
   no other ones, and do the same in any other order.
3. Otherwise the first item at fault decides the error, and the bus is not asked for anything.
4. No list of items is of both kinds, and none is of neither. -/
theorem assign_all_or_nothing (bus : LineBus σ ε) (items : List String) (world : σ) :
    let outcome := (bus.transcribed.assign items).run (world, [])
    (bus.assign items).run world = outcome.view Prod.fst id ∧
    (∀ pairs, Assignment.AssignsAfter .empty items pairs →
      ∃ states, states.entries.Perm pairs ∧
        (let driven := (bus.set states).run world
        outcome = ⟨driven.answer.mapError .bus, (driven.state, [.set states]),
          ⟨.debug, commandSource, s!"gpio: setting {renderStates states}"⟩ :: driven.journal⟩) ∧
        ∀ items', items'.Perm items → bus.assign items' = bus.assign items) ∧
    (∀ defect, Assignment.OffendsAfter .empty items defect →
      outcome = ⟨.error (.assignment defect), (world, []), []⟩) ∧
    ((∃ pairs, Assignment.AssignsAfter .empty items pairs) ↔
      ¬∃ defect, Assignment.OffendsAfter .empty items defect) := by
  intro outcome
  refine ⟨?_, ?_, ?_, Assignment.assigns_iff_not_offends⟩
  · exact mirrors_assign bus.mirrors_transcribed items (world, [])
  · intro pairs assigns
    rcases Assignment.parse_of_assigns assigns with ⟨states, entries, parsed⟩
    refine ⟨states, entries, ?_, ?_⟩
    · simp only [outcome]
      rw [assign_of_parse bus.transcribed (parsed items (List.Perm.refl items)),
        Program.run_record_bind, Program.run_mapError, run_set_transcribed]
      rfl
    · intro items' permuted
      rw [assign_of_parse bus (parsed items' permuted),
        assign_of_parse bus (parsed items (List.Perm.refl items))]
  · intro defect offends
    have unparsed : Assignment.parse items = .error defect :=
      Assignment.parseAfter_of_offends offends
    simp only [outcome]
    rw [assign_of_defect bus.transcribed unparsed]
    rfl

/-- Two lines in padded items, and one line under two numerals before an item without a state. -/
theorem assign_of_padded_items :
    let bus := Bench.fixedLines []
    let items := ["017=on", " +4 = Off"]
    let twice := ["017=on", "+17=0", "4"]
    bus.assign items.reverse = bus.assign items ∧
      (∃ states : LineStates, states.entries = [(4, .inactive), (17, .active)] ∧
        ((bus.transcribed.assign items).run ([], [])).state = ([.set states], [.set states])) ∧
      (bus.transcribed.assign twice).run ([], []) =
        ⟨.error (.assignment (.repeated 17)), ([], []), []⟩ := by
  intro bus items twice
  have high : Assignment.Reading "017=on" (.ok (17, .active)) :=
    Assignment.parseItem_eq_iff.1 (by decide +kernel)
  have low : Assignment.Reading " +4 = Off" (.ok (4, .inactive)) :=
    Assignment.parseItem_eq_iff.1 (by decide +kernel)
  have again : Assignment.Reading "+17=0" (.ok (17, .inactive)) :=
    Assignment.parseItem_eq_iff.1 (by decide +kernel)
  have assigns : Assignment.AssignsAfter .empty items [(17, .active), (4, .inactive)] :=
    ⟨.cons high (.cons low .nil), by decide⟩
  have offends : Assignment.OffendsAfter .empty twice (.repeated 17) :=
    ⟨["017=on"], "+17=0", ["4"], [(17, .active)], rfl, ⟨.cons high .nil, by decide⟩,
      .inr ⟨17, .inactive, again, by decide, rfl⟩⟩
  rcases (assign_all_or_nothing bus items []).2.1 _ assigns with ⟨states, entries, ran, same⟩
  refine ⟨same items.reverse (List.reverse_perm items), ⟨states, ?_, ?_⟩, ?_⟩
  · exact eq_of_perm_of_ascending states.ascending (by decide) (entries.trans (by decide))
  · rw [ran]
    rfl
  · exact (assign_all_or_nothing bus twice []).2.2.1 _ offends

end LineBus

end Pinwire
