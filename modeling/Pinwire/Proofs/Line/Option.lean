import Pinwire.Line.Settings
import Pinwire.Proofs.OptionRules
import Pinwire.Proofs.Text.Numeral
import Pinwire.Proofs.Text.Parts

/-!
# Options that add lines

The grammar of an option that adds a line, said without the functions that read it. Its number
comes before everything else, and the first flag that its direction does not admit comes next.
Otherwise polarity and first state are each given by the last flag for it, wherever flags of the
other kind stand.

The flags for states are a choice of the words for states. So a reader that looked each of them up
among those words, and could fail to find it there, would do the same and never fail in this way.
-/

namespace Pinwire.LineOption

/-- The polarity that a flag asks for. -/
def polarity? : String → Option Polarity
  | "low" => some .activeLow
  | "high" => some .activeHigh
  | _ => none

/-- The words that a driven line can have as flags for its first state. -/
def stateFlags : List String := ["active", "inactive", "1", "0"]

/-- The first state that a flag asks for. -/
def state? : String → Option PinState
  | "active" | "1" => some .active
  | "inactive" | "0" => some .inactive
  | _ => none

/-- A flag that a line of a direction can have. -/
def Admitted (direction : Direction) (flag : String) : Prop :=
  flag ∈ ["low", "high"] ∨ direction = .output ∧ flag ∈ stateFlags

/-- The configuration that flags describe: of each kind, the last one counts. -/
def described (direction : Direction) (flags : List String) : LineConfig where
  direction := direction
  polarity := (flags.filterMap polarity?).getLast?.getD .activeHigh
  initial := (flags.filterMap state?).getLast?.getD .inactive

/-- An option falls into a number and flags at its colons. -/
def Divided (value : String) (number : List Char) (flags : List String) : Prop :=
  Text.Parted ':' value.toList (number :: flags.map String.toList)

/-- What an option is read as. Its number is looked at before its flags. -/
inductive Reading (key value : String) (direction : Direction) :
    Except LineError (LineNumber × LineConfig) → Prop where
  | invalidNumber {number : List Char} {flags : List String}
      (divided : Divided value number flags)
      (noNumeral : ∀ line : LineNumber, ¬Text.Numeral number line.toNat) :
      Reading key value direction (.error (.invalidParameter s!"Invalid {key} value: {value}"))
  | unknownFlag {number : List Char} {before after : List String} {flag : String}
      {line : LineNumber} (divided : Divided value number (before ++ flag :: after))
      (numeral : Text.Numeral number line.toNat)
      (admitted : ∀ earlier ∈ before, Admitted direction earlier)
      (unknown : ¬Admitted direction flag) :
      Reading key value direction
        (.error (.invalidParameter s!"Unknown flag '{flag}' in {key}={value}"))
  | line {number : List Char} {flags : List String} {line : LineNumber}
      (divided : Divided value number flags) (numeral : Text.Numeral number line.toNat)
      (admitted : ∀ flag ∈ flags, Admitted direction flag) :
      Reading key value direction (.ok (line, described direction flags))

/-- Applies a flag as `applyFlag?` does, but looks its state up among the words for states. A word
that is not found there makes the value of the option invalid. -/
def applyNamed (key value : String) (direction : Direction) (config : LineConfig) (flag : String) :
    Except LineError LineConfig :=
  if flag = "low" then .ok config.activeLow
  else if flag = "high" then .ok config.activeHigh
  else if direction = .output ∧ flag ∈ stateFlags then
    match PinState.ofName? flag with
    | some state => .ok { config with initial := state }
    | none => .error (.invalidValue key value)
  else .error (.invalidParameter s!"Unknown flag '{flag}' in {key}={value}")

/-- Reads an option as `parse` does, with states looked up. -/
def parseNamed (key value : String) (direction : Direction) :
    Except LineError (LineNumber × LineConfig) :=
  match (Text.splitAll ':' value.toList).map String.ofList with
  | [] => .error (.invalidValue key value)
  | number :: flags =>
    match Text.Decimal.word? number.toList with
    | none => .error (.invalidValue key value)
    | some line =>
      (flags.foldlM (applyNamed key value direction) (start direction)).map fun config =>
        (line, config)

/-- The configuration after a flag that may ask for a polarity and for a first state. -/
def updated (config : LineConfig) (flag : String) : LineConfig where
  direction := config.direction
  polarity := (polarity? flag).getD config.polarity
  initial := (state? flag).getD config.initial

section Flags

variable {key value flag : String} {direction : Direction} {config : LineConfig}
  {flags : List String}

theorem applyFlag?_of_admitted (admitted : Admitted direction flag) (config : LineConfig) :
    applyFlag? direction config flag = some (updated config flag) := by
  rcases admitted with polarity | ⟨rfl, state⟩
  · simp only [List.mem_cons, List.not_mem_nil, or_false] at polarity
    rcases polarity with rfl | rfl <;> rfl
  · simp only [stateFlags, List.mem_cons, List.not_mem_nil, or_false] at state
    rcases state with rfl | rfl | rfl | rfl <;> rfl

theorem applyFlag?_of_unknown (unknown : ¬Admitted direction flag) (config : LineConfig) :
    applyFlag? direction config flag = none := by
  simp only [Admitted, stateFlags, List.mem_cons, List.not_mem_nil, or_false, not_or,
    not_and] at unknown
  unfold applyFlag?
  split <;> simp_all

/-- Every flag for a state is one of the words for it. -/
theorem ofName?_of_stateFlag (member : flag ∈ stateFlags) :
    ∃ state, PinState.ofName? flag = some state ∧ state? flag = some state := by
  simp only [stateFlags, List.mem_cons, List.not_mem_nil, or_false] at member
  rcases member with rfl | rfl | rfl | rfl
  · exact ⟨.active, by decide +kernel, rfl⟩
  · exact ⟨.inactive, by decide +kernel, rfl⟩
  · exact ⟨.active, by decide +kernel, rfl⟩
  · exact ⟨.inactive, by decide +kernel, rfl⟩

theorem applyNamed_of_admitted (admitted : Admitted direction flag) (config : LineConfig) :
    applyNamed key value direction config flag = .ok (updated config flag) := by
  rcases admitted with polarity | ⟨rfl, state⟩
  · simp only [List.mem_cons, List.not_mem_nil, or_false] at polarity
    rcases polarity with rfl | rfl <;> rfl
  · rcases ofName?_of_stateFlag state with ⟨state', named, asked⟩
    have other : polarity? flag = none ∧ flag ≠ "low" ∧ flag ≠ "high" := by
      simp only [stateFlags, List.mem_cons, List.not_mem_nil, or_false] at state
      rcases state with rfl | rfl | rfl | rfl <;> decide
    simp [applyNamed, updated, other, state, named, asked]

theorem applyNamed_of_unknown (unknown : ¬Admitted direction flag) (config : LineConfig) :
    applyNamed key value direction config flag =
      .error (.invalidParameter s!"Unknown flag '{flag}' in {key}={value}") := by
  simp only [Admitted, List.mem_cons, List.not_mem_nil, or_false, not_or] at unknown
  simp [applyNamed, unknown]

theorem applyFlags_of_admitted (admitted : ∀ flag ∈ flags, Admitted direction flag)
    (config : LineConfig) :
    applyFlags key value direction config (flags.map String.toList) =
      .ok (flags.foldl updated config) := by
  induction flags generalizing config with
  | nil => rfl
  | cons flag flags ih =>
      rw [List.forall_mem_cons] at admitted
      simp [applyFlags, applyFlag?_of_admitted admitted.1, ih admitted.2]

theorem applyFlags_of_unknown {before after : List String}
    (admitted : ∀ earlier ∈ before, Admitted direction earlier)
    (unknown : ¬Admitted direction flag) (config : LineConfig) :
    applyFlags key value direction config ((before ++ flag :: after).map String.toList) =
      .error (.invalidParameter s!"Unknown flag '{flag}' in {key}={value}") := by
  induction before generalizing config with
  | nil => simp [applyFlags, applyFlag?_of_unknown unknown]
  | cons earlier before ih =>
      rw [List.forall_mem_cons] at admitted
      simpa [applyFlags, applyFlag?_of_admitted admitted.1] using ih admitted.2 _

theorem applyFlags_eq_foldlM (config : LineConfig) :
    applyFlags key value direction config (flags.map String.toList) =
      flags.foldlM (applyNamed key value direction) config := by
  induction flags generalizing config with
  | nil => rfl
  | cons flag flags ih =>
      rw [List.foldlM_cons]
      by_cases admitted : Admitted direction flag
      · rw [applyNamed_of_admitted admitted]
        simp only [List.map_cons, applyFlags, String.ofList_toList,
          applyFlag?_of_admitted admitted]
        exact ih (updated config flag)
      · rw [applyNamed_of_unknown admitted]
        simp only [List.map_cons, applyFlags, String.ofList_toList,
          applyFlag?_of_unknown admitted]
        rfl

theorem getLast?_filterMap_cons {β : Type} (asks : String → Option β) (default : β) :
    ((flag :: flags).filterMap asks).getLast?.getD default =
      (flags.filterMap asks).getLast?.getD ((asks flag).getD default) := by
  rcases here : asks flag with _ | value
  · simp [List.filterMap_cons_none here]
  · rcases later : (flags.filterMap asks).getLast? with _ | last
    · simp [List.filterMap_cons_some here, List.getLast?_cons, later]
    · simp [List.filterMap_cons_some here, List.getLast?_cons, later]

theorem foldl_updated (config : LineConfig) :
    flags.foldl updated config =
      ⟨config.direction, (flags.filterMap polarity?).getLast?.getD config.polarity,
        (flags.filterMap state?).getLast?.getD config.initial⟩ := by
  induction flags generalizing config with
  | nil => rfl
  | cons flag flags ih =>
      rw [List.foldl_cons, ih, getLast?_filterMap_cons, getLast?_filterMap_cons]
      rfl

theorem foldl_updated_start :
    flags.foldl updated (start direction) = described direction flags := by
  rw [foldl_updated]
  cases direction <;> rfl

end Flags

section Parse

variable {key value : String} {direction : Direction}

theorem exists_divided (value : String) : ∃ number flags, Divided value number flags := by
  have parted : Text.Parted ':' value.toList (Text.splitAll ':' value.toList) :=
    Text.splitAll_eq_iff.1 rfl
  rcases split : Text.splitAll ':' value.toList with _ | ⟨number, parts⟩
  · exact absurd split (Text.splitAll_ne_nil _)
  · refine ⟨number, parts.map String.ofList, ?_⟩
    rw [split] at parted
    simpa [Divided, Function.comp_def] using parted

theorem parse_of_reading {answer : Except LineError (LineNumber × LineConfig)}
    (reading : Reading key value direction answer) : parse key value direction = answer := by
  cases reading with
  | invalidNumber divided noNumeral =>
      simp only [parse, Text.splitAll_eq_iff.2 divided, Text.Decimal.word?_eq_none_iff.2 noNumeral]
      rfl
  | unknownFlag divided numeral admitted unknown =>
      simp only [parse, Text.splitAll_eq_iff.2 divided, Text.Decimal.word?_eq_some_iff.2 numeral,
        applyFlags_of_unknown admitted unknown]
      rfl
  | line divided numeral admitted =>
      simp only [parse, Text.splitAll_eq_iff.2 divided, Text.Decimal.word?_eq_some_iff.2 numeral,
        applyFlags_of_admitted admitted, foldl_updated_start]
      rfl

theorem exists_reading (key value : String) (direction : Direction) :
    ∃ answer, Reading key value direction answer := by
  rcases exists_divided value with ⟨number, flags, divided⟩
  rcases read : Text.Decimal.word? number with _ | line
  · exact ⟨_, .invalidNumber divided (Text.Decimal.word?_eq_none_iff.1 read)⟩
  have numeral := Text.Decimal.word?_eq_some_iff.1 read
  rcases forall_or_exists_first (Admitted direction) flags with admitted |
    ⟨before, flag, after, rfl, admitted, unknown⟩
  · exact ⟨_, .line divided numeral admitted⟩
  · exact ⟨_, .unknownFlag divided numeral admitted unknown⟩

/-- Options are read as the grammar says, and the grammar leaves no option out. -/
theorem parse_eq_iff {answer : Except LineError (LineNumber × LineConfig)} :
    parse key value direction = answer ↔ Reading key value direction answer := by
  constructor
  · rintro rfl
    rcases exists_reading key value direction with ⟨answer, reading⟩
    rwa [parse_of_reading reading]
  · exact parse_of_reading

theorem parseNamed_eq (key value : String) (direction : Direction) :
    parseNamed key value direction = parse key value direction := by
  rcases exists_divided value with ⟨number, flags, divided⟩
  have split := Text.splitAll_eq_iff.2 divided
  rcases read : Text.Decimal.word? number with _ | line
  · simp [parseNamed, parse, split, read]
  · simp [parseNamed, parse, split, read, applyFlags_eq_foldlM, Function.comp_def]

/-- A line that is read has no flags for a first state. -/
theorem initial_described_input {flags : List String}
    (admitted : ∀ flag ∈ flags, Admitted .input flag) :
    (described .input flags).initial = .inactive := by
  have none : flags.filterMap state? = [] := by
    rw [List.filterMap_eq_nil_iff]
    intro flag member
    rcases admitted flag member with polarity | ⟨driven, _⟩
    · simp only [List.mem_cons, List.not_mem_nil, or_false] at polarity
      rcases polarity with rfl | rfl <;> rfl
    · cases driven
  simp [described, none]

/-- Reading an option that adds a line follows its grammar.
1. An option is read as the grammar says, and as nothing else.
2. A line that is read starts inactive.
3. Looking the states of flags up among the words for states gives the same answer.
4. None of these look-ups fails. -/
theorem line_option_follows_grammar (key value : String) (direction : Direction) :
    (∀ answer, parse key value direction = answer ↔ Reading key value direction answer) ∧
    (∀ line config, parse key value .input = .ok (line, config) → config.initial = .inactive) ∧
    parseNamed key value direction = parse key value direction ∧
    ∀ flag ∈ stateFlags, ∃ state, PinState.ofName? flag = some state := by
  refine ⟨fun _ => parse_eq_iff, ?_, parseNamed_eq key value direction, ?_⟩
  · intro line config parsed
    cases parse_eq_iff.1 parsed with
    | line divided numeral admitted => exact initial_described_input admitted
  · intro flag member
    rcases ofName?_of_stateFlag member with ⟨state, named, _⟩
    exact ⟨state, named⟩

/-- Flags of both kinds in any order, an empty flag after the last colon, and a blank in front. -/
theorem readings_of_line_options :
    Reading "out" "+017:low:1:high:0:active" .output (.ok (17, .output .active)) ∧
      Reading "in" "17:low:" .input
        (.error (.invalidParameter "Unknown flag '' in in=17:low:")) ∧
      Reading "in" " 4:active" .input
        (.error (.invalidParameter "Invalid in value:  4:active")) := by
  refine ⟨?_, ?_, ?_⟩
  · exact ((line_option_follows_grammar _ _ _).1 _).1 rfl
  · exact ((line_option_follows_grammar _ _ _).1 _).1 rfl
  · exact ((line_option_follows_grammar _ _ _).1 _).1 rfl

end Parse

end Pinwire.LineOption
