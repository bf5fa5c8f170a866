import Mathlib.Data.Nat.Find
import Pinwire.Proofs.Assignment

/-!
# Printed states read back

The rows that show the states of lines are items that assign these states to the lines again. A row
falls apart at its only equals sign into the numeral that the line is printed as and a word for the
state, neither of which has blanks or line feeds. So rows for different lines restore what was read,
and rows of which two show the same line are refused.
-/

namespace Pinwire

namespace Text

/-- The rows of a text: what its line feeds end. -/
def endedRows (text : String) : List String :=
  (splitAll '\n' text.toList).dropLast.map String.ofList

/-- Rows without line feeds are found again in the text that ends each of them with one. -/
theorem splitAll_endedRows (rows : List String) (unbroken : ∀ row ∈ rows, '\n' ∉ row.toList) :
    splitAll '\n' (String.join (rows.map (· ++ "\n"))).toList = rows.map String.toList ++ [[]] := by
  induction rows with
  | nil => rfl
  | cons row rows ih =>
      have here := unbroken row List.mem_cons_self
      have joined : (String.join ((row :: rows).map (· ++ "\n"))).toList =
          row.toList ++ '\n' :: (String.join (rows.map (· ++ "\n"))).toList := by
        simp [String.toList_join]
      rw [joined, splitAll_append here, ih fun row member =>
        unbroken row (List.mem_cons_of_mem _ member)]
      rfl

theorem endedRows_join (rows : List String) (unbroken : ∀ row ∈ rows, '\n' ∉ row.toList) :
    endedRows (String.join (rows.map (· ++ "\n"))) = rows := by
  rw [endedRows, splitAll_endedRows rows unbroken, List.dropLast_concat, List.map_map]
  simp [Function.comp_def]

theorem not_isBlank_of_isDigit {character : Char} (digit : character.isDigit) :
    ¬isBlank character := by
  simp only [Char.isDigit, Bool.and_eq_true, decide_eq_true_eq, ge_iff_le, UInt32.le_iff_toNat_le]
    at digit
  have lowest : 48 ≤ character.toNat := digit.1
  have highest : character.toNat ≤ 57 := digit.2
  simp only [isBlank, Bool.or_eq_true, Bool.and_eq_true, decide_eq_true_eq, beq_iff_eq]
  omega

end Text

theorem FirstRepeat.exists_of_not_nodup {lines : List LineNumber} (repeated : ¬lines.Nodup) :
    ∃ place line, FirstRepeat lines place line := by
  classical
  have some : ∃ place line, lines[place]? = some line ∧ line ∈ lines.take place := by
    simp only [List.nodup_iff_getElem?_ne_getElem?, not_forall, Classical.not_not] at repeated
    rcases repeated with ⟨earlier, later, before, within, same⟩
    refine ⟨later, lines[later], List.getElem?_eq_getElem within, ?_⟩
    apply List.mem_of_getElem? (i := earlier)
    rw [List.getElem?_take_of_lt before, same]
    exact List.getElem?_eq_getElem within
  rcases Nat.find_spec some with ⟨line, here, before⟩
  refine ⟨Nat.find some, line, here, before, ?_⟩
  intro earlier less other there named
  exact Nat.find_min some less ⟨other, there, named⟩

namespace Assignment

/-- The item that assigns a state to a line, in its shortest form. -/
def item (line : LineNumber) (state : PinState) : String :=
  s!"{line}={state.name}"

section Item

variable (line : LineNumber) (state : PinState)

theorem toList_item :
    (item line state).toList = (toString line).toList ++ '=' :: state.name.toList := by
  rw [item, String.toList_append, String.toList_append, List.append_assoc]
  rfl

/-- Neither the numeral nor the word for the state is broken by a line feed. -/
theorem lineFeed_not_mem_item : '\n' ∉ (item line state).toList := by
  rw [toList_item, List.mem_append, List.mem_cons]
  rintro (inLine | equals | inState)
  · exact absurd inLine ((Text.Numeral.ofWord line).not_mem (by decide) (by decide))
  · exact absurd equals (by decide)
  · cases state with
    | inactive => exact absurd inState (by decide)
    | active => exact absurd inState (by decide)

theorem trims_line : Text.Trims (toString line).toList (toString line).toList := by
  apply Text.trims_of_unblank
  intro character member
  rcases (Text.Numeral.ofWord line).isDigit_of_mem member with digit | rfl
  · exact Text.not_isBlank_of_isDigit digit
  · decide

theorem trims_name : Text.Trims state.name.toList state.name.toList := by
  apply Text.trims_of_unblank
  have none : state.name.toList.any Text.isBlank = false := by
    cases state with
    | inactive => decide
    | active => decide
  exact List.any_eq_false.1 none

theorem spelled_name : PinState.Spelled state.name.toList state := by
  unfold PinState.Spelled
  cases state with
  | inactive => decide
  | active => decide

/-- The item for a line and a state says that the line is assigned the state. -/
theorem reading_item : Reading (item line state) (.ok (line, state)) := by
  have numeral := Text.Numeral.ofWord line
  have unbroken : '=' ∉ (toString line).toList := numeral.not_mem (by decide) (by decide)
  apply Reading.assigned _ numeral (spelled_name state)
  exact ⟨_, _, toList_item line state, unbroken, trims_line line, trims_name state⟩

end Item

section Items

variable {lines : List LineNumber} {states : List PinState}

theorem readings_items (lines : List LineNumber) (states : List PinState) :
    List.Forall₂ (fun item pair => Reading item (.ok pair)) (List.zipWith item lines states)
      (lines.zip states) := by
  induction lines generalizing states with
  | nil => exact .nil
  | cons line lines ih =>
      cases states with
      | nil => exact .nil
      | cons state states => exact .cons (reading_item line state) (ih states)

/-- Items for different lines assign each of them its state. -/
theorem assigns_items (even : states.length = lines.length) (distinct : lines.Nodup) :
    AssignsAfter .empty (List.zipWith item lines states) (lines.zip states) where
  readings := readings_items lines states
  distinct := by
    have named : (lines.zip states).map (·.1) = lines := List.map_fst_zip (Nat.le_of_eq even.symm)
    rw [named]
    exact distinct

/-- An item for a line that an earlier item is for as well is at fault. -/
theorem offends_items {place : Nat} {line : LineNumber} (even : states.length = lines.length)
    (again : FirstRepeat lines place line) :
    OffendsAfter .empty (List.zipWith item lines states) (.repeated line) := by
  have inside : place < lines.length := (List.getElem?_eq_some_iff.1 again.here).1
  have named : lines[place] = line := (List.getElem?_eq_some_iff.1 again.here).2
  have size : (List.zipWith item lines states).length = lines.length := by
    simp [List.length_zipWith, even]
  have sound : AssignsAfter .empty (List.zipWith item (lines.take place) (states.take place))
      ((lines.take place).zip (states.take place)) := by
    apply assigns_items
    · simp [even]
    · exact again.nodup_take
  have culprit : (List.zipWith item lines states)[place] = item line states[place] := by
    simp [named]
  refine ⟨_, item line states[place], (List.zipWith item lines states).drop (place + 1), _, ?_,
    sound, .inr ⟨line, states[place], reading_item line _, ?_, rfl⟩⟩
  · rw [← List.take_zipWith, ← culprit, List.getElem_cons_drop, List.take_append_drop]
  · have before : ((lines.take place).zip (states.take place)).map (·.1) = lines.take place :=
      List.map_fst_zip (by simp [even])
    rw [before]
    exact again.before

end Items

end Assignment

namespace LineBus

variable {σ ε : Type} {bus : LineBus σ ε} {lines : List LineNumber} {states : List PinState}

theorem stateRow_eq (line : LineNumber) (state : PinState) :
    stateRow line state = Assignment.item line state ++ "\n" := by
  have printed : String.ofList (Text.Decimal.render line.toNat) = toString line := by
    rw [Text.Decimal.render_eq_toDigits, ← Nat.toString_eq_ofList_toDigits]
    rfl
  rw [stateRow, printed, Assignment.item]
  rfl

/-- What is printed of lines are the items that assign them the states that were read. -/
theorem run_printStates {world reached : σ} {journal : List Record}
    (answered : (bus.get lines).run world = ⟨.ok states, reached, journal⟩) :
    (bus.printStates lines).run world =
      ⟨.ok (String.join ((List.zipWith Assignment.item lines states).map (· ++ "\n"))), reached,
        journal⟩ := by
  have read : (Program.mapError CommandError.bus (bus.get lines)).run world =
      ⟨.ok states, reached, journal⟩ := by
    rw [Program.run_mapError, answered]
    rfl
  have rows : List.zipWith stateRow lines states =
      (List.zipWith Assignment.item lines states).map (· ++ "\n") := by
    have each : stateRow = fun line state => Assignment.item line state ++ "\n" :=
      funext₂ stateRow_eq
    rw [List.map_zipWith, each]
  rw [printStates, Program.run_bind_of_ok read, Program.run_pure, rows, List.append_nil]

/-- Printed states restore themselves. If a bus answers with one state for each of some lines:
1. What is printed are rows, one for each line and in the order of the lines, each of them the
   number of the line and the word for its state with an equals sign between them.
2. If no line was asked for twice, the rows are read as the states that were answered, each for its
   line, and on any bus they are assigned by driving the lines once with just these.
3. Otherwise the rows are refused, because of the first line that was asked for again, and no bus is
   touched. -/
theorem printed_states_restore (bus : LineBus σ ε) (lines : List LineNumber) (world : σ)
    {states : List PinState} {reached : σ} {journal : List Record}
    (answered : (bus.get lines).run world = ⟨.ok states, reached, journal⟩)
    (even : states.length = lines.length) :
    ∃ text, (bus.printStates lines).run world = ⟨.ok text, reached, journal⟩ ∧
      (let rows := Text.endedRows text
      text = String.join (rows.map (· ++ "\n")) ∧ rows.length = lines.length ∧
      rows = List.zipWith (fun line state => s!"{line}={state.name}") lines states ∧
      (lines.Nodup → ∃ read : LineStates, read.entries.Perm (lines.zip states) ∧
        Assignment.parse rows = .ok read ∧ ∀ {τ ε' : Type} (other : LineBus τ ε'),
          other.assign rows = (do
            .record .debug commandSource s!"gpio: setting {renderStates read}"
            .mapError .bus (other.set read))) ∧
      (¬lines.Nodup → ∃ place line, FirstRepeat lines place line ∧
        Assignment.parse rows = .error (.repeated line) ∧ ∀ {τ ε' : Type} (other : LineBus τ ε'),
          other.assign rows = .fail (.assignment (.repeated line)))) := by
  refine ⟨_, run_printStates answered, ?_⟩
  have unbroken : ∀ row ∈ List.zipWith Assignment.item lines states, '\n' ∉ row.toList := by
    intro row member
    rw [← List.map_uncurry_zip_eq_zipWith] at member
    rcases List.mem_map.1 member with ⟨⟨line, state⟩, _, rfl⟩
    exact Assignment.lineFeed_not_mem_item line state
  rw [Text.endedRows_join _ unbroken]
  refine ⟨rfl, by simp [even], rfl, ?_, ?_⟩
  · intro distinct
    rcases Assignment.parse_of_assigns (Assignment.assigns_items even distinct) with
      ⟨read, entries, parsed⟩
    have parsed := parsed _ (List.Perm.refl _)
    exact ⟨read, entries, parsed, fun other => assign_of_parse other parsed⟩
  · intro repeated
    rcases FirstRepeat.exists_of_not_nodup repeated with ⟨place, line, again⟩
    have unparsed := Assignment.parseAfter_of_offends (Assignment.offends_items even again)
    exact ⟨place, line, again, unparsed, fun other => assign_of_defect other unparsed⟩

/-- Two lines in descending order, which are restored, and one line twice, which is refused. -/
theorem restoring_of_two_lines :
    let bus := Bench.fixedLines [.active, .inactive]
    let printed (text : String) (lines : List LineNumber) :=
      ((bus.printStates lines).run []).answer = .ok text
    printed "17=active\n4=inactive\n" [17, 4] ∧
      (∃ read : LineStates, read.entries = [(4, .inactive), (17, .active)] ∧
        Assignment.parse ["17=active", "4=inactive"] = .ok read) ∧
      printed "17=active\n17=inactive\n" [17, 17] ∧
      bus.assign ["17=active", "17=inactive"] = .fail (.assignment (.repeated 17)) := by
  intro bus printed
  have apart : printed "17=active\n4=inactive\n" [17, 4] := by decide +kernel
  have twice : printed "17=active\n17=inactive\n" [17, 17] := by decide +kernel
  refine ⟨apart, ?_, twice, ?_⟩
  · rcases printed_states_restore bus [17, 4] [] rfl rfl with
      ⟨text, ran, _, _, rows, restored, _⟩
    rcases restored (by decide) with ⟨read, entries, parsed, _⟩
    rw [rows] at parsed
    refine ⟨read, ?_, parsed⟩
    exact eq_of_perm_of_ascending read.ascending (by decide) (entries.trans (by decide))
  · rcases printed_states_restore bus [17, 17] [] rfl rfl with
      ⟨text, ran, _, _, rows, _, refused⟩
    rcases refused (by decide) with ⟨place, line, again, _, refused⟩
    have named : line = 17 := by
      have among := List.mem_of_getElem? again.here
      simpa using among
    rw [← named, ← refused bus, rows]
    rfl

end LineBus

end Pinwire
