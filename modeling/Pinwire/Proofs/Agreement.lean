import Pinwire.BusFile
import Pinwire.Proofs.Program
import Pinwire.Proofs.Text.Numeral
import Pinwire.Proofs.Text.Parts

/-!
# Sections of a bus file as options

What a section of a bus file says of a bus can be said with options as well. This file writes the
options down and shows that reading them leads to the settings of the section, or to the complaint
that the section leads to. A line takes one option, which is printed from a number and some flags
and read back from them; the lines before it are the ones that a draft has when it is read.
-/

namespace Pinwire

namespace LineEntry

/-- The flags of a line in options. A line that is read has no first state to speak of. -/
def flags (entry : LineEntry) : List String :=
  (if entry.activeLow then ["low"] else []) ++
    if entry.direction = .output ∧ entry.initial = .active then ["active"] else []

/-- The number and the flags of a line, with colons between them. -/
def spelling (entry : LineEntry) : List Char :=
  Text.joinWith [':'] ((toString entry.line :: entry.flags).map String.toList)

def optionKey (entry : LineEntry) : String :=
  match entry.direction with
  | .output => "out"
  | .input => "in"

/-- The option that adds a line as it is described. -/
def option (entry : LineEntry) : String × String :=
  (entry.optionKey, String.ofList entry.spelling)

variable (entry : LineEntry)

theorem colon_not_mem_flags {flag : String} (member : flag ∈ entry.flags) : ':' ∉ flag.toList := by
  have known : flag = "low" ∨ flag = "active" := by
    rw [flags, List.mem_append] at member
    rcases member with member | member
    · split at member
      · exact .inl (List.mem_singleton.1 member)
      · cases member
    · split at member
      · exact .inr (List.mem_singleton.1 member)
      · cases member
  rcases known with rfl | rfl
  · decide
  · decide

theorem splitAll_spelling :
    Text.splitAll ':' entry.spelling =
      (toString entry.line).toList :: entry.flags.map String.toList := by
  apply Text.splitAll_joinWith
  · intro part member colon
    rcases List.mem_cons.1 member with rfl | member
    · exact absurd colon ((Text.Numeral.ofWord entry.line).not_mem (by decide) (by decide))
    · rcases List.mem_map.1 member with ⟨flag, named, rfl⟩
      exact entry.colon_not_mem_flags named colon
  · exact List.cons_ne_nil _ _

/-- The flags of a line turn the configuration that its key starts with into its own. -/
theorem applyFlags_flags (key value : String) :
    LineOption.applyFlags key value entry.direction (LineOption.start entry.direction)
      (entry.flags.map String.toList) = .ok entry.config := by
  -- The two directions, the two first states and the two polarities.
  rcases entry with ⟨line, _ | _, _ | _, _ | _⟩ <;>
    simp [flags, config, LineOption.applyFlags, LineOption.applyFlag?, LineOption.start,
      LineConfig.output, LineConfig.input, LineConfig.activeLow]

theorem parse_spelling (key : String) :
    LineOption.parse key (String.ofList entry.spelling) entry.direction =
      .ok (entry.line, entry.config) := by
  simp only [LineOption.parse, String.toList_ofList, entry.splitAll_spelling,
    Text.Decimal.word?_eq_some_iff.2 (Text.Numeral.ofWord entry.line), entry.applyFlags_flags]
  rfl

end LineEntry

/-- The options that describe the same line bus. -/
def LineSection.options (part : LineSection) : List (String × String) :=
  ("dev", part.device) :: ("consumer", part.consumer.getD LineSettings.defaultConsumer) ::
    part.lines.map LineEntry.option

namespace LineSettings

variable {σ : Type}

theorem Draft.apply_optionKey (draft : Draft) (entry : LineEntry) (value : String) :
    draft.apply entry.optionKey value =
      (draft.addLine <$> .ofExcept (LineOption.parse entry.optionKey value entry.direction) :
        Program σ _ _) := by
  rcases entry with ⟨line, _ | _, initial, activeLow⟩
  · rfl
  · rfl

theorem Draft.apply_option (draft : Draft) (entry : LineEntry) :
    draft.apply entry.option.1 entry.option.2 =
      (pure (draft.addLine (entry.line, entry.config)) : Program σ _ _) := by
  rw [LineEntry.option, draft.apply_optionKey, entry.parse_spelling]
  rfl

/-- The options of lines add the lines to those that there are, in the same order. -/
theorem Draft.applyAll_options (draft : Draft) (entries : List LineEntry) :
    draft.applyAll (entries.map LineEntry.option) =
      (pure { draft with
        settings.lines :=
          draft.settings.lines ++ entries.map (fun entry => (entry.line, entry.config)) } :
        Program σ _ _) := by
  induction entries generalizing draft with
  | nil => simp only [List.map_nil, List.append_nil, Draft.applyAll]
  | cons entry entries ih =>
      rw [List.map_cons, Draft.applyAll, draft.apply_option, pure_bind, ih]
      simp only [Draft.addLine, List.map_cons, List.append_assoc, List.singleton_append]

theorem ofOptions_options {part : LineSection} (named : part.device ≠ "") :
    ofOptions part.options =
      (pure
        { device := part.device
          consumer := part.consumer.getD defaultConsumer
          lines := part.lines.map fun entry => (entry.line, entry.config) } :
        Program σ LineError LineSettings) := by
  simp only [ofOptions, LineSection.options, Draft.applyAll, Draft.apply, pure_bind,
    Draft.applyAll_options, Draft.settle, Draft.empty, unset, List.nil_append, if_neg named]
  rfl

end LineSettings

namespace SpiSettings

/-- A word for a position of a switch. -/
def switchWord : Bool → String
  | true => "yes"
  | false => "no"

theorem switch?_switchWord (position : Bool) : switch? (switchWord position) = some position := by
  cases position with
  | true => decide +kernel
  | false => decide +kernel

theorem speedOfKilohertz?_toString {speedHz : UInt32} (whole : speedHz.toNat % 1000 = 0) :
    speedOfKilohertz? (toString (speedHz.toNat / 1000)) = some speedHz := by
  have exact : speedHz.toNat / 1000 * 1000 = speedHz.toNat :=
    Nat.div_mul_cancel (Nat.dvd_of_mod_eq_zero whole)
  have bound : speedHz.toNat ≤ Bounds.unsigned32 := Nat.le_of_lt_succ speedHz.toNat_lt
  have small : speedHz.toNat / 1000 ≤ Bounds.unsigned32 :=
    Nat.le_trans (Nat.div_le_self _ _) bound
  have read := Text.Decimal.unsigned?_eq_some_iff.2
    ⟨Text.Numeral.toString (speedHz.toNat / 1000), small⟩
  rw [speedOfKilohertz?, read, Option.bind_some, exact, if_pos bound, UInt32.ofNat_toNat]

theorem byte?_toString (byte : UInt8) : Text.Decimal.byte? (toString byte).toList = some byte :=
  Text.Decimal.byte?_eq_some_iff.2 (Text.Numeral.toString byte.toNat)

end SpiSettings

/-- The options that describe the same SPI bus. -/
def SpiSection.options (part : SpiSection) : List (String × String) :=
  [("dev", part.device), ("spispeed", toString (part.speedHz.toNat / 1000)),
    ("mode", toString part.mode), ("lsb", SpiSettings.switchWord part.lsbFirst),
    ("3wire", SpiSettings.switchWord part.halfDuplex)]

namespace SpiSettings

variable {σ : Type} {part : SpiSection}

theorem ofOptions_options {clock : ClockMode} (named : part.device ≠ "")
    (whole : part.speedHz.toNat % 1000 = 0) (known : ClockMode.ofNumber? part.mode = some clock) :
    ofOptions part.options =
      (pure
        { device := part.device
          speedHz := part.speedHz
          mode := ⟨clock, if part.lsbFirst then .lsbFirst else .msbFirst,
            if part.halfDuplex then .half else .full⟩ } : Program σ SpiError SpiSettings) := by
  simp only [ofOptions, SpiSection.options, applyAll, apply, pure_bind,
    speedOfKilohertz?_toString whole, byte?_toString, known, switch?_switchWord, settle,
    if_neg named]
  rfl

theorem ofOptions_options_of_unknown (whole : part.speedHz.toNat % 1000 = 0)
    (unknown : ClockMode.ofNumber? part.mode = none) :
    ofOptions part.options =
      (.fail (.invalidParameter (ClockMode.invalidMessage part.mode)) :
        Program σ SpiError SpiSettings) := by
  simp only [ofOptions, SpiSection.options, applyAll, apply, pure_bind,
    speedOfKilohertz?_toString whole, byte?_toString, unknown]
  rfl

end SpiSettings

/-- A section of a bus file and the options that describe the same bus come to the same thing.
1. Every section on lines that names a device is the settings that its options are read as.
2. A section on SPI that names a device, and a speed in whole kilohertz, is the settings that its
   options are read as if it names one of the four clock modes.
3. If it names no clock mode, its options are rejected with the words that it is rejected with.
Reading the options does not depend on the surroundings, changes nothing and notes nothing. -/
theorem sections_agree_with_options :
    (∀ (file : BusFile) (part : LineSection), file.lines = some part → part.device ≠ "" →
      ∃ settings, file.lineSettings = some settings ∧
        ∀ {σ : Type}, LineSettings.ofOptions part.options =
          (pure settings : Program σ LineError LineSettings)) ∧
    ∀ (file : BusFile) (part : SpiSection), file.spi = some part → part.device ≠ "" →
      part.speedHz.toNat % 1000 = 0 →
      (part.mode ≤ 3 ∧ ∃ settings, file.spiSettings = .ok (some settings) ∧
        ∀ {σ : Type}, SpiSettings.ofOptions part.options =
          (pure settings : Program σ SpiError SpiSettings)) ∨
      (3 < part.mode ∧ ∃ reason, reason = s!"SPI mode {part.mode} (must be 0-3)" ∧
        file.spiSettings = .error (.invalid reason) ∧
        ∀ {σ : Type}, SpiSettings.ofOptions part.options =
          (.fail (.invalidParameter reason) : Program σ SpiError SpiSettings)) := by
  constructor
  · intro file part described named
    refine ⟨_, ?_, fun {σ} => LineSettings.ofOptions_options named⟩
    rw [BusFile.lineSettings, described, Option.map_some]
  · intro file part described named whole
    by_cases beyond : 3 < part.mode
    · have unknown : ClockMode.ofNumber? part.mode = none := if_pos beyond
      refine .inr ⟨beyond, _, rfl, ?_, fun {σ} =>
        SpiSettings.ofOptions_options_of_unknown whole unknown⟩
      simp only [BusFile.spiSettings, described, BusFile.settingsOfSection, unknown]
      rfl
    · have known : ClockMode.ofNumber? part.mode = some (.ofByte part.mode) := if_neg beyond
      refine .inl ⟨UInt8.not_lt.1 beyond, _, ?_, fun {σ} =>
        SpiSettings.ofOptions_options named whole known⟩
      simp only [BusFile.spiSettings, described, BusFile.settingsOfSection, known]
      rfl

/-- A file with an output and an input in its first section and an impossible clock mode in its
second, and one whose second section is possible. -/
theorem sample_sections_agree_with_options :
    let lines : LineSection := ⟨"/dev/gpiochip0", none,
      [⟨17, .output, .active, true⟩, ⟨4, .input, .active, false⟩]⟩
    let spi (mode : UInt8) : SpiSection := ⟨"/dev/spidev0.0", 500000, mode, true, false⟩
    lines.options = [("dev", "/dev/gpiochip0"), ("consumer", "linbus"), ("out", "17:low:active"),
        ("in", "4")] ∧
      (spi 3).options = [("dev", "/dev/spidev0.0"), ("spispeed", "500"), ("mode", "3"),
        ("lsb", "yes"), ("3wire", "no")] ∧
      ((LineSettings.ofOptions lines.options).run ()).answer = .ok ⟨"/dev/gpiochip0", "linbus",
        [(17, (LineConfig.output .active).activeLow), (4, .input)]⟩ ∧
      ((SpiSettings.ofOptions (spi 3).options).run ()).answer =
        .ok ⟨"/dev/spidev0.0", 500000, ⟨.mode3, .lsbFirst, .full⟩⟩ ∧
      ((SpiSettings.ofOptions (spi 4).options).run ()).answer =
        .error (.invalidParameter "SPI mode 4 (must be 0-3)") := by
  intro lines spi
  rcases sections_agree_with_options with ⟨linesAgree, spiAgree⟩
  refine ⟨by decide +kernel, by decide +kernel, ?_, ?_, ?_⟩
  · rcases linesAgree ⟨some lines, none⟩ lines rfl (by decide) with ⟨settings, described, read⟩
    cases described
    rw [read]
    rfl
  · rcases spiAgree ⟨none, some (spi 3)⟩ (spi 3) rfl (by decide) (by decide) with
      ⟨_, settings, described, read⟩ | ⟨beyond, _⟩
    · cases described
      rw [read]
      exact congrArg Except.ok (by decide)
    · exact absurd beyond (by decide)
  · rcases spiAgree ⟨none, some (spi 4)⟩ (spi 4) rfl (by decide) (by decide) with
      ⟨known, _⟩ | ⟨_, reason, same, _, read⟩
    · exact absurd known (by decide)
    · have text : reason = "SPI mode 4 (must be 0-3)" := by
        rw [same]
        decide +kernel
      rw [read, text]
      rfl

end Pinwire
