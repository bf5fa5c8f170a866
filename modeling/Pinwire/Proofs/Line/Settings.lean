import Mathlib.Data.List.Basic
import Mathlib.Logic.Relation
import Pinwire.Line.Settings
import Pinwire.Proofs.OptionRules
import Pinwire.Proofs.Text.Numeral

/-!
# Settings of a line bus by options

Which options of a line bus are at fault, and what the others come to. Device, consumer and chip
number are given by the last option with their key, whereas every option for a line adds one. So
nothing depends on where an option stands among those with other keys, apart from the order of the
lines.
-/

namespace Pinwire

namespace LineSettings

/-- The direction of the line that an option adds, if its key is for lines. -/
def addedDirection? : String → Option Direction
  | "out" => some .output
  | "in" => some .input
  | _ => none

theorem addedDirection?_eq_some_iff {key : String} {direction : Direction} :
    addedDirection? key = some direction ↔
      key = "out" ∧ direction = .output ∨ key = "in" ∧ direction = .input := by
  unfold addedDirection?
  split <;> simp_all [eq_comm]

theorem mem_of_adds {key : String} {direction : Direction}
    (adds : addedDirection? key = some direction) : key ∈ ["out", "in"] := by
  rcases addedDirection?_eq_some_iff.1 adds with ⟨rfl, _⟩ | ⟨rfl, _⟩
  · exact List.mem_cons_self
  · exact List.mem_cons_of_mem _ List.mem_cons_self

/-- The line that an option adds. -/
def addedLine? (option : String × String) : Option (LineNumber × LineConfig) :=
  (addedDirection? option.1).bind fun direction =>
    (LineOption.parse option.1 option.2 direction).toOption

/-- An option is at fault, and rejected with an error. -/
inductive Fault : String × String → LineError → Prop where
  | chip {text : String} (noWord : ∀ number : UInt32, ¬Text.Numeral text.toList number.toNat) :
      Fault ("gpiochip", text) (.invalidParameter s!"Invalid gpiochip value: {text}")
  | line {key text : String} {direction : Direction} {error : LineError}
      (adds : addedDirection? key = some direction)
      (rejected : LineOption.parse key text direction = .error error) : Fault (key, text) error

theorem Fault.key_mem {option : String × String} {error : LineError} (fault : Fault option error) :
    option.1 ∈ ["gpiochip", "out", "in"] := by
  cases fault with
  | chip noWord => simp
  | line adds rejected => exact List.mem_cons_of_mem _ (mem_of_adds adds)

/-- What a sound option changes. -/
inductive Change : String × String → (Draft → Draft) → Prop where
  | device {text : String} :
      Change ("dev", text) fun draft => { draft with settings.device := text }
  | chip {text : String} {number : UInt32} (numeral : Text.Numeral text.toList number.toNat) :
      Change ("gpiochip", text) fun draft => { draft with chip := some number }
  | consumer {text : String} :
      Change ("consumer", text) fun draft => { draft with settings.consumer := text }
  | line {key text : String} {direction : Direction} {line : LineNumber × LineConfig}
      (adds : addedDirection? key = some direction)
      (parsed : LineOption.parse key text direction = .ok line) :
      Change (key, text) fun draft => draft.addLine line

def rules : OptionRules LineError Draft where
  keys := ["dev", "gpiochip", "consumer", "out", "in"]
  note option :=
    ⟨.warn, "linbus_linux_gpio::config", s!"linux_gpio: Unknown option: {option.1}={option.2}"⟩
  Fault := Fault
  Change := Change

/-- A draft has what the last options say of device, consumer and chip, and the lines of all. -/
structure Describes (options : List (String × String)) (draft : Draft) : Prop where
  device : draft.settings.device = (lastValue? "dev" options).getD ""
  consumer : draft.settings.consumer = (lastValue? "consumer" options).getD "linbus"
  chip : Given "gpiochip"
    (fun text chip => ∃ number : UInt32, Text.Numeral text.toList number.toNat ∧
      chip = some number)
    options none draft.chip
  lines : draft.settings.lines = options.filterMap addedLine?

/-- What a draft comes to: a chip can be named by device or by number, but not by both. -/
inductive Settled (draft : Draft) : Except LineError LineSettings → Prop where
  | device (named : draft.settings.device ≠ "") (unnumbered : draft.chip = none) :
      Settled draft (.ok draft.settings)
  | chip {number : UInt32} (unnamed : draft.settings.device = "")
      (numbered : draft.chip = some number) :
      Settled draft (.ok { draft.settings with device := s!"/dev/gpiochip{number}" })
  | neither (unnamed : draft.settings.device = "") (unnumbered : draft.chip = none) :
      Settled draft (.error .chipUnnamed)
  | both {number : UInt32} (named : draft.settings.device ≠ "")
      (numbered : draft.chip = some number) :
      Settled draft (.error (.invalidParameter "Only one of 'dev' or 'gpiochip' can be specified"))

/-- One option without a meaning less, or an option moved past one with a different key, as long as
they are not both for lines. -/
inductive Rearranged : List (String × String) → List (String × String) → Prop where
  | drop {before after : List (String × String)} {option : String × String}
      (meaningless : option.1 ∉ rules.keys) :
      Rearranged (before ++ option :: after) (before ++ after)
  | move {before after : List (String × String)} {first second : String × String}
      (different : first.1 ≠ second.1)
      (linesInOrder : first.1 ∉ ["out", "in"] ∨ second.1 ∉ ["out", "in"]) :
      Rearranged (before ++ first :: second :: after) (before ++ second :: first :: after)

theorem addedLine?_of_not_mem {option : String × String} (other : option.1 ∉ ["out", "in"]) :
    addedLine? option = none := by
  have none : addedDirection? option.1 = none := by
    rw [Option.eq_none_iff_forall_ne_some]
    intro direction adds
    exact other (mem_of_adds adds)
  rw [addedLine?, none, Option.bind_none]

theorem addedLine?_of_meaningless {option : String × String}
    (meaningless : option.1 ∉ rules.keys) : addedLine? option = none := by
  apply addedLine?_of_not_mem
  intro member
  have known : ["out", "in"] ⊆ rules.keys := by decide
  exact meaningless (known member)

section Rules

variable {σ : Type} {option : String × String}

theorem apply_of_unknown (unknown : option.1 ∉ rules.keys) (draft : Draft) :
    draft.apply option.1 option.2 = (do
      .record (rules.note option).level (rules.note option).source (rules.note option).text
      pure draft : Program σ LineError Draft) := by
  rcases option with ⟨key, text⟩
  simp only [rules, List.mem_cons, List.not_mem_nil, or_false, not_or] at unknown
  rcases unknown with ⟨dev, gpiochip, consumer, output, input⟩
  simp only [Draft.apply]
  rfl

theorem apply_of_adds {key text : String} {direction : Direction}
    (adds : addedDirection? key = some direction) (draft : Draft) :
    draft.apply key text =
      (draft.addLine <$> .ofExcept (LineOption.parse key text direction) : Program σ _ _) := by
  rcases addedDirection?_eq_some_iff.1 adds with ⟨rfl, rfl⟩ | ⟨rfl, rfl⟩
  · rfl
  · rfl

theorem apply_of_fault {error : LineError} (fault : Fault option error) (draft : Draft) :
    draft.apply option.1 option.2 = (.fail error : Program σ LineError Draft) := by
  cases fault with
  | chip noWord =>
      simp only [Draft.apply, Text.Decimal.word?_eq_none_iff.2 noWord]
      rfl
  | line adds rejected =>
      rw [apply_of_adds adds, rejected]
      rfl

/-- A sound option whose key has a meaning changes the draft, whatever it is. -/
theorem exists_change (meaningful : option.1 ∈ rules.keys) (sound : ∀ error, ¬Fault option error) :
    ∃ change, Change option change ∧ ∀ draft : Draft,
      draft.apply option.1 option.2 = (pure (change draft) : Program σ _ _) := by
  have addsLine : ∀ direction, addedDirection? option.1 = some direction →
      ∃ change, Change option change ∧ ∀ draft : Draft,
        draft.apply option.1 option.2 = (pure (change draft) : Program σ _ _) := by
    intro direction adds
    rcases parsed : LineOption.parse option.1 option.2 direction with error | line
    · exact absurd (.line adds parsed) (sound error)
    · refine ⟨_, .line adds parsed, fun draft => ?_⟩
      rw [apply_of_adds adds, parsed]
      rfl
  rcases option with ⟨key, text⟩
  simp only [rules, List.mem_cons, List.not_mem_nil, or_false] at meaningful
  rcases meaningful with rfl | rfl | rfl | rfl | rfl
  · exact ⟨_, .device, fun draft => rfl⟩
  · rcases read : Text.Decimal.word? text.toList with _ | number
    · exact absurd (.chip (Text.Decimal.word?_eq_none_iff.1 read)) (sound _)
    · refine ⟨_, .chip (Text.Decimal.word?_eq_some_iff.1 read), fun draft => ?_⟩
      simp only [Draft.apply, read]
  · exact ⟨_, .consumer, fun draft => rfl⟩
  · exact addsLine .output rfl
  · exact addsLine .input rfl

theorem governs_apply :
    rules.Governs fun draft option => (draft.apply option.1 option.2 : Program σ _ _) where
  unknown := apply_of_unknown
  fault := apply_of_fault
  known := exists_change

theorem applyAll_eq_foldlM (draft : Draft) (options : List (String × String)) :
    (draft.applyAll options : Program σ LineError Draft) =
      options.foldlM (fun draft option => draft.apply option.1 option.2) draft := by
  induction options generalizing draft with
  | nil => rfl
  | cons option options ih =>
      rw [Draft.applyAll, List.foldlM_cons]
      exact congrArg _ (funext ih)

end Rules

section Described

variable {options options' : List (String × String)} {draft draft' : Draft}

theorem Change.lines {option : String × String} {change : Draft → Draft}
    (changed : Change option change) (draft : Draft) :
    (change draft).settings.lines = draft.settings.lines ++ (addedLine? option).toList := by
  cases changed with
  | device => simp [addedLine?_of_not_mem]
  | chip numeral => simp [addedLine?_of_not_mem]
  | consumer => simp [addedLine?_of_not_mem]
  | line adds parsed =>
      simp only [addedLine?, adds, Option.bind_some, parsed]
      rfl

theorem lines_of_changes (changes : rules.Changes options draft draft') :
    draft'.settings.lines = draft.settings.lines ++ options.filterMap addedLine? := by
  induction changes with
  | nil draft => simp
  | @unknown option options draft draft' meaningless rest ih =>
      rw [ih, List.filterMap_cons_none (addedLine?_of_meaningless meaningless)]
  | @known option options draft draft' change meaningful changed rest ih =>
      rw [ih, Change.lines changed, List.append_assoc]
      rcases added : addedLine? option with _ | line
      · rw [List.filterMap_cons_none added]
        rfl
      · rw [List.filterMap_cons_some added]
        rfl

/-- Each part of a draft but the lines is set by the options with one key and kept by all others. -/
theorem describes_of_changes (changes : rules.Changes options .empty draft) :
    Describes options draft where
  device := by
    apply given_eq_iff.1
    apply changes.given (fun draft => draft.settings.device) (by decide)
    intro option change changed draft
    cases changed with
    | line adds parsed =>
        rw [if_neg (ne_of_mem_of_not_mem (mem_of_adds adds) (by decide))]
        rfl
    | _ => simp
  consumer := by
    apply given_eq_iff.1
    apply changes.given (fun draft => draft.settings.consumer) (by decide)
    intro option change changed draft
    cases changed with
    | line adds parsed =>
        rw [if_neg (ne_of_mem_of_not_mem (mem_of_adds adds) (by decide))]
        rfl
    | _ => simp
  chip := by
    apply changes.given Draft.chip (by decide)
    intro option change changed draft
    cases changed with
    | chip numeral =>
        rw [if_pos rfl]
        exact ⟨_, numeral, rfl⟩
    | line adds parsed =>
        rw [if_neg (ne_of_mem_of_not_mem (mem_of_adds adds) (by decide))]
        rfl
    | _ => simp
  lines := lines_of_changes changes

theorem Describes.unique (described : Describes options draft)
    (described' : Describes options draft') : draft = draft' := by
  rcases draft with ⟨⟨device, consumer, lines⟩, chip⟩
  rcases draft' with ⟨⟨device', consumer', lines'⟩, chip'⟩
  have sameDevice : device = device' := described.device.trans described'.device.symm
  have sameConsumer : consumer = consumer' := described.consumer.trans described'.consumer.symm
  have sameLines : lines = lines' := described.lines.trans described'.lines.symm
  have sameChip : chip = chip' := by
    apply described.chip.unique _ described'.chip
    rintro text chip chip' ⟨number, numeral, rfl⟩ ⟨number', numeral', rfl⟩
    rw [UInt32.toNat_inj.1 (numeral.unique numeral')]
  subst sameDevice sameConsumer sameLines sameChip
  rfl

theorem settled_settle (draft : Draft) : Settled draft draft.settle := by
  rcases draft with ⟨settings, _ | number⟩
  · by_cases unnamed : settings.device = ""
    · simp only [Draft.settle, if_pos unnamed]
      exact .neither unnamed rfl
    · simp only [Draft.settle, if_neg unnamed]
      exact .device unnamed rfl
  · by_cases unnamed : settings.device = ""
    · simp only [Draft.settle, if_pos unnamed]
      exact .chip unnamed rfl
    · simp only [Draft.settle, if_neg unnamed]
      exact .both unnamed rfl

end Described

section Rearranging

variable {options options' : List (String × String)} {draft : Draft}

theorem Rearranged.lastValue? (rearranged : Rearranged options options') {key : String}
    (meaningful : key ∈ rules.keys) :
    lastValue? key options = Pinwire.lastValue? key options' := by
  cases rearranged with
  | @drop before after option meaningless =>
      have other : option.1 ≠ key := fun same => meaningless (same ▸ meaningful)
      simp only [lastValue?_append, lastValue?_cons, if_neg other, Option.or_none]
  | @move before after first second different linesInOrder =>
      simp only [lastValue?_append, lastValue?_cons]
      by_cases same : first.1 = key
      · have other : second.1 ≠ key := fun same' => different (same.trans same'.symm)
        simp only [if_neg other, Option.or_none]
      · simp only [if_neg same, Option.or_none]

theorem Rearranged.addedLines (rearranged : Rearranged options options') :
    options.filterMap addedLine? = options'.filterMap addedLine? := by
  cases rearranged with
  | @drop before after option meaningless =>
      rw [List.filterMap_append, List.filterMap_append,
        List.filterMap_cons_none (addedLine?_of_meaningless meaningless)]
  | @move before after first second different linesInOrder =>
      rw [List.filterMap_append, List.filterMap_append]
      rcases linesInOrder with other | other
      · simp only [List.filterMap_cons, addedLine?_of_not_mem other]
      · simp only [List.filterMap_cons, addedLine?_of_not_mem other]

theorem Rearranged.sound (rearranged : Rearranged options options')
    (sound : rules.Sound options) : rules.Sound options' := by
  intro option member
  apply sound option
  cases rearranged with
  | drop meaningless =>
      rw [List.mem_append, List.mem_cons]
      rcases List.mem_append.1 member with inBefore | inAfter
      · exact .inl inBefore
      · exact .inr (.inr inAfter)
  | move different linesInOrder =>
      exact ((List.Perm.swap _ _ _).append_left _).mem_iff.1 member

theorem Describes.of_rearranged (rearranged : Rearranged options options')
    (described : Describes options' draft) : Describes options draft where
  device := by rw [described.device, rearranged.lastValue? (by decide)]
  consumer := by rw [described.consumer, rearranged.lastValue? (by decide)]
  chip := described.chip.congr (rearranged.lastValue? (by decide)).symm
  lines := by rw [described.lines, rearranged.addedLines]

end Rearranging

section Runs

variable {σ : Type} {options options' before : List (String × String)}

theorem run_ofOptions_of_firstFault {error : LineError}
    (first : rules.FirstFault options before error) (world : σ) :
    (ofOptions options).run world = ⟨.error error, world, rules.notes before⟩ := by
  have ran := governs_apply.run_of_firstFault first Draft.empty world
  rw [← applyAll_eq_foldlM] at ran
  rw [ofOptions, Program.run_bind_of_error ran]

theorem run_ofOptions_of_sound (sound : rules.Sound options) (world : σ) :
    ∃ draft, Describes options draft ∧
      (ofOptions options).run world = ⟨draft.settle, world, rules.notes options⟩ := by
  rcases governs_apply.run_of_sound sound Draft.empty world with ⟨draft, changes, ran⟩
  refine ⟨draft, describes_of_changes changes, ?_⟩
  rw [← applyAll_eq_foldlM] at ran
  rw [ofOptions, Program.run_bind_of_ok ran]
  simp [Program.run, Program.ofExcept]

theorem sound_of_answer {settings : LineSettings} {world : σ}
    (answered : ((ofOptions options).run world).answer = .ok settings) : rules.Sound options := by
  rcases rules.sound_or_firstFault options with sound | ⟨before, error, first⟩
  · exact sound
  · rw [run_ofOptions_of_firstFault first] at answered
    cases answered

/-- One rearrangement of options that are accepted leads to the same settings. -/
theorem answer_of_rearranged {settings : LineSettings} {world : σ}
    (rearranged : Rearranged options options')
    (answered : ((ofOptions options).run world).answer = .ok settings) :
    ((ofOptions options').run world).answer = .ok settings := by
  have sound := sound_of_answer answered
  rcases run_ofOptions_of_sound sound world with ⟨draft, described, ran⟩
  rcases run_ofOptions_of_sound (rearranged.sound sound) world with ⟨draft', described', ran'⟩
  have same : draft = draft' := described.unique (described'.of_rearranged rearranged)
  rw [ran] at answered
  rw [ran', ← same]
  exact answered

/-- What options make of the settings of a line bus.
1. If some options are at fault, the first of them decides the error, and only what comes before it
   is noted.
2. Otherwise the last options decide device, consumer and chip number, all options for lines add
   theirs in order, and what these come to is the answer. Options without a meaning are noted and
   nothing more.
3. Options are of the first kind exactly if they are not of the second.
4. Options that are accepted lead to the same settings without those that have no meaning, and in
   any order that keeps options with one key, and those for lines, in their order. -/
theorem configured_by_last_options (options : List (String × String)) (world : σ) :
    let outcome := (ofOptions options).run world
    (∀ before error, rules.FirstFault options before error →
      outcome = ⟨.error error, world, rules.notes before⟩) ∧
    (rules.Sound options → ∃ draft answer, Describes options draft ∧ Settled draft answer ∧
      outcome = ⟨answer, world, rules.notes options⟩) ∧
    (¬rules.Sound options ↔ ∃ before error, rules.FirstFault options before error) ∧
    ∀ settings options', outcome.answer = .ok settings →
      Relation.ReflTransGen Rearranged options options' →
      ((ofOptions options').run world).answer = .ok settings := by
  intro outcome
  refine ⟨?_, ?_, OptionRules.not_sound_iff, ?_⟩
  · intro before error first
    exact run_ofOptions_of_firstFault first world
  · intro sound
    rcases run_ofOptions_of_sound sound world with ⟨draft, described, ran⟩
    exact ⟨draft, draft.settle, described, settled_settle draft, ran⟩
  · intro settings options' answered rearranged
    induction rearranged with
    | refl => exact answered
    | tail _ step ih => exact answer_of_rearranged step ih

/-- An empty device defers to the last chip number, also when it is moved forward, and a flag that
is at fault hides what comes after it. -/
theorem configured_by_chip_number :
    let options := [("dev", "/dev/gpiochip7"), ("out", "17:low:active"), ("pin", "4"),
      ("gpiochip", "2"), ("in", "+04"), ("dev", ""), ("gpiochip", "1")]
    let moved := [("dev", "/dev/gpiochip7"), ("out", "17:low:active"), ("dev", ""),
      ("gpiochip", "2"), ("in", "+04"), ("gpiochip", "1")]
    let settings : LineSettings := ⟨"/dev/gpiochip1", "linbus",
      [(17, (LineConfig.output .active).activeLow), (4, .input)]⟩
    ((ofOptions options).run ()).answer = .ok settings ∧
      ((ofOptions moved).run ()).answer = .ok settings ∧
      (ofOptions [("pin", "4"), ("in", "3:active"), ("gpiochip", "x"), ("pin", "5")]).run () =
        ⟨.error (.invalidParameter "Unknown flag 'active' in in=3:active"), (),
          [⟨.warn, "linbus_linux_gpio::config", "linux_gpio: Unknown option: pin=4"⟩]⟩ := by
  intro options moved settings
  have answered : ((ofOptions options).run ()).answer = .ok settings := by decide +kernel
  refine ⟨answered, ?_, ?_⟩
  · apply (configured_by_last_options options ()).2.2.2 settings moved answered
    have dropped : Rearranged options [("dev", "/dev/gpiochip7"), ("out", "17:low:active"),
        ("gpiochip", "2"), ("in", "+04"), ("dev", ""), ("gpiochip", "1")] :=
      @Rearranged.drop (options.take 2) (options.drop 3) ("pin", "4") (by decide)
    have pastLine : Rearranged _ [("dev", "/dev/gpiochip7"), ("out", "17:low:active"),
        ("gpiochip", "2"), ("dev", ""), ("in", "+04"), ("gpiochip", "1")] :=
      @Rearranged.move (moved.take 2 ++ [("gpiochip", "2")]) [("gpiochip", "1")] ("in", "+04")
        ("dev", "") (by decide) (by decide)
    have pastChip : Rearranged _ moved :=
      @Rearranged.move (moved.take 2) (moved.drop 4) ("gpiochip", "2") ("dev", "") (by decide)
        (by decide)
    exact .tail (.tail (.single dropped) pastLine) pastChip
  · apply (configured_by_last_options _ ()).1 [("pin", "4")]
    refine ⟨("in", "3:active"), [("gpiochip", "x"), ("pin", "5")], rfl, ?_, .line rfl ?_⟩
    · intro option member error fault
      rw [List.mem_singleton.1 member] at fault
      exact absurd fault.key_mem (by decide)
    · decide +kernel

end Runs

end LineSettings

end Pinwire
