import Pinwire.Buses
import Pinwire.Proofs.Line.Programs
import Pinwire.Proofs.Spi.Observed

/-!
# Descriptions of buses

What a bus file and a text of options say of a bus, apart from opening it. Reading options needs no
surroundings, so a description can be settled before anything is opened, and one that is rejected
leaves everything as it is.

Options win over a file, but the two kinds of bus differ in what they make of a file that they do
not need: for a line bus it is not looked at, whereas its section on an SPI bus has to make sense.
-/

namespace Pinwire

namespace SpiSettings

variable {σ : Type}

theorem bare_apply (settings : SpiSettings) (key value : String) :
    Program.Bare (settings.apply key value : Program σ _ _) (settings.apply key value) := by
  unfold apply
  split
  · exact Program.bare_pure _
  · split
    · exact Program.bare_pure _
    · exact Program.bare_fail _
  · split
    · exact Program.bare_fail _
    · split
      · exact Program.bare_pure _
      · exact Program.bare_fail _
  · split
    · exact Program.bare_pure _
    · exact Program.bare_fail _
  · split
    · exact Program.bare_pure _
    · exact Program.bare_fail _
  · exact Program.bare_bind (Program.bare_record _ _ _) fun _ => Program.bare_pure _

theorem bare_applyAll (settings : SpiSettings) (options : List (String × String)) :
    Program.Bare (settings.applyAll options : Program σ _ _) (settings.applyAll options) := by
  induction options generalizing settings with
  | nil => exact Program.bare_pure _
  | cons option options ih => exact Program.bare_bind (settings.bare_apply _ _) ih

theorem bare_ofOptions (options : List (String × String)) :
    Program.Bare (ofOptions options : Program σ _ _) (ofOptions options) :=
  Program.bare_bind (unset.bare_applyAll options) fun _ => Program.bare_ofExcept _

/-- What options say of an SPI bus. -/
def reading (options : List (String × String)) : Outcome Unit SpiError SpiSettings :=
  (ofOptions options).run ()

theorem refuses_ofOptions {options : List (String × String)} {error : SpiError}
    (rejected : (reading options).answer = .error error) :
    (ofOptions options : Program σ _ _).Refuses error (reading options).journal :=
  Program.refuses_of_bare (bare_ofOptions options) rejected

theorem run_ofOptions_of_ok {options : List (String × String)} {settings : SpiSettings}
    (read : (reading options).answer = .ok settings) (state : σ) :
    (ofOptions options).run state = ⟨.ok settings, state, (reading options).journal⟩ := by
  rw [bare_ofOptions options state, ← read]
  rfl

end SpiSettings

namespace LineSettings

/-- What options say of a line bus. -/
def reading (options : List (String × String)) : Outcome Unit LineError LineSettings :=
  (ofOptions options).run ()

theorem refuses_ofOptions {σ : Type} {options : List (String × String)} {error : LineError}
    (rejected : (reading options).answer = .error error) :
    (ofOptions options : Program σ _ _).Refuses error (reading options).journal :=
  Program.refuses_of_bare
    (Program.bare_of_mirrors (keeps_ofOptions options) (mirrors_ofOptions options)) rejected

end LineSettings

namespace LineRequest

/-- The settings of the line bus that a bus file and a text of options describe. -/
def described (file : Option BusFile) (options : Option String) : Except Failure LineSettings :=
  match options, file.bind BusFile.lineSettings with
  | some text, _ => (LineSettings.reading (OptionText.parse text)).answer.mapError .line
  | none, some settings => .ok settings
  | none, none => .error .lineBusUndescribed

section Descriptions

variable {σ Chip Request : Type} {file : Option BusFile} {options : Option String}

/-- A description that is rejected is rejected alike by all backends, and none is asked anything. -/
theorem refuses_ofDescription {failure : Failure}
    (rejected : described file options = .error failure) :
    ∃ journal, ∀ {σ Chip Request : Type} (backend : LineBackend σ Chip Request) (memory : Memory),
      (ofDescription backend memory file options).Refuses failure journal := by
  rcases options with _ | text
  · rcases fromFile : file.bind BusFile.lineSettings with _ | settings
    · simp only [described, fromFile] at rejected
      cases rejected
      refine ⟨[], fun backend memory => ?_⟩
      simp only [ofDescription, fromFile]
      exact Program.refuses_fail _
    · simp only [described, fromFile] at rejected
      cases rejected
  · refine ⟨(LineSettings.reading (OptionText.parse text)).journal, fun backend memory => ?_⟩
    rcases read : (LineSettings.reading (OptionText.parse text)).answer with error | settings
    · simp only [described, read] at rejected
      cases rejected
      exact Program.refuses_mapError _ (Program.refuses_bind (LineSettings.refuses_ofOptions read))
    · simp only [described, read] at rejected
      cases rejected

end Descriptions

end LineRequest

namespace SpiBus

/-- The settings of the SPI bus that a bus file and a text of options describe. -/
def described (file : Option BusFile) (options : Option String) : Except Failure SpiSettings := do
  let fromFile ← (settingsOfFile file).mapError .busFile
  match options, fromFile with
  | some text, _ => (SpiSettings.reading (OptionText.parse text)).answer.mapError .spi
  | none, some settings => .ok settings
  | none, none => .error .spiBusUndescribed

section Descriptions

variable {file : Option BusFile} {options : Option String}

/-- Options together with a file that makes sense: the bus is the one that the options describe. -/
theorem ofDescription_of_options {σ : Type} (host : SpiHost σ) (text : String)
    {fromFile : Option SpiSettings} (sound : settingsOfFile file = .ok fromFile) :
    ofDescription host file (some text) =
      .mapError .spi (ofOptions host (OptionText.parse text)) := by
  rw [ofDescription, sound]
  rfl

theorem refuses_ofDescription_of_unsound {σ : Type} (host : SpiHost σ) {error : BusFileError}
    (unsound : settingsOfFile file = .error error) :
    (ofDescription host file options).Refuses (.busFile error) [] := by
  rw [ofDescription, unsound]
  exact Program.refuses_fail _

/-- A description that is rejected is rejected alike on all hosts, and none is asked anything. -/
theorem refuses_ofDescription {failure : Failure}
    (rejected : described file options = .error failure) :
    ∃ journal, ∀ {σ : Type} (host : SpiHost σ),
      (ofDescription host file options).Refuses failure journal := by
  rcases sound : settingsOfFile file with error | fromFile
  · simp only [described, sound] at rejected
    cases rejected
    exact ⟨[], fun host => refuses_ofDescription_of_unsound host sound⟩
  rcases options with _ | text
  · rcases fromFile with _ | settings
    · simp only [described, sound] at rejected
      cases rejected
      refine ⟨[], fun host => ?_⟩
      rw [ofDescription, sound]
      exact Program.refuses_fail _
    · simp only [described, sound] at rejected
      cases rejected
  · refine ⟨(SpiSettings.reading (OptionText.parse text)).journal, fun host => ?_⟩
    rcases read : (SpiSettings.reading (OptionText.parse text)).answer with error | settings
    · simp only [described, sound, read] at rejected
      cases rejected
      rw [ofDescription_of_options host text sound]
      exact Program.refuses_mapError _ (Program.refuses_bind (SpiSettings.refuses_ofOptions read))
    · simp only [described, sound, read] at rejected
      cases rejected

/-- A description that is settled is opened like its settings, apart from what is noted of the
options. -/
theorem run_ofDescription_of_settled {settings : SpiSettings}
    (settled : described file options = .ok settings) :
    ∃ noted, ∀ {σ : Type} (host : SpiHost σ) (process : SpiProcess σ),
      (ofDescription host file options).run process =
        let opened := (setup host settings).run process
        ⟨opened.answer.mapError .spi, opened.state, noted ++ opened.journal⟩ := by
  rcases sound : settingsOfFile file with error | fromFile
  · simp only [described, sound] at settled
    cases settled
  rcases options with _ | text
  · rcases fromFile with _ | fileSettings
    · simp only [described, sound] at settled
      cases settled
    · simp only [described, sound] at settled
      cases settled
      refine ⟨[], fun host process => ?_⟩
      rw [ofDescription, sound]
      rfl
  · refine ⟨(SpiSettings.reading (OptionText.parse text)).journal, fun host process => ?_⟩
    rcases read : (SpiSettings.reading (OptionText.parse text)).answer with error | settings'
    · simp only [described, sound, read] at settled
      cases settled
    · simp only [described, sound, read] at settled
      cases settled
      rw [ofDescription_of_options host text sound, Program.run_mapError, ofOptions,
        Program.run_bind_of_ok (SpiSettings.run_ofOptions_of_ok read process)]

end Descriptions

/-- The section on an SPI bus, if there is a file with one, names one of the four clock modes. -/
def Sound (file : Option BusFile) : Prop :=
  ∀ part, file.bind BusFile.spi = some part → part.mode ≤ 3

theorem sound_iff (file : Option BusFile) :
    Sound file ↔ ∃ fromFile, settingsOfFile file = .ok fromFile := by
  rcases file with _ | ⟨lines, _ | part⟩
  · exact ⟨fun _ => ⟨none, rfl⟩, fun _ => nofun⟩
  · exact ⟨fun _ => ⟨none, rfl⟩, fun _ => nofun⟩
  · simp only [Sound, settingsOfFile, BusFile.spiSettings, BusFile.settingsOfSection,
      ClockMode.ofNumber?, Option.bind_some, Option.some.injEq, forall_eq']
    by_cases known : part.mode ≤ 3
    · rw [if_neg (UInt8.not_lt.2 known)]
      exact ⟨fun _ => ⟨_, rfl⟩, fun _ => known⟩
    · rw [if_pos (UInt8.not_le.1 known)]
      exact ⟨fun sound => absurd sound known, nofun⟩

section Options

variable {σ : Type} (host : SpiHost σ) (text : String) {file : Option BusFile}

theorem ofDescription_of_sound (sound : Sound file) :
    ofDescription host file (some text) =
      .mapError .spi (ofOptions host (OptionText.parse text)) := by
  rcases (sound_iff file).1 sound with ⟨fromFile, converted⟩
  exact ofDescription_of_options host text converted

theorem refuses_ofDescription_of_not_sound (unsound : ¬Sound file) :
    ∃ error, (ofDescription host file (some text)).Refuses (.busFile error) [] := by
  rcases converted : settingsOfFile file with error | fromFile
  · exact ⟨error, refuses_ofDescription_of_unsound host converted⟩
  · exact absurd ((sound_iff file).2 ⟨fromFile, converted⟩) unsound

/-- Options alone never lead to an error of a bus file. -/
theorem ofOptions_ne_busFile (process : SpiProcess σ) (error : BusFileError) :
    ((Program.mapError Failure.spi (ofOptions host (OptionText.parse text))).run process).answer ≠
      .error (.busFile error) := by
  rw [Program.run_mapError]
  rcases (ofOptions host (OptionText.parse text)).run process with ⟨other | bus, reached, journal⟩
  · rintro ⟨⟩
  · rintro ⟨⟩

end Options

end SpiBus

/-- What two bus files change when there are options as well. For a line bus they change nothing.
For an SPI bus they change nothing as long as their sections make sense; a file whose section does
not is an error whatever the options say, before anything is asked of the host, and no file whose
section does leads to it. -/
theorem options_win_over_sound_files (text : String) (file other : Option BusFile) :
    (∀ {σ Chip Request : Type} (backend : LineBackend σ Chip Request) (memory : Memory),
      LineRequest.ofDescription backend memory file (some text) =
        LineRequest.ofDescription backend memory other (some text)) ∧
    ∀ {σ : Type} (host : SpiHost σ) (process : SpiProcess σ),
      let opening (file : Option BusFile) :=
        (SpiBus.ofDescription host file (some text)).run process
      (SpiBus.Sound file ∧ opening file = opening other ↔ SpiBus.Sound file ∧ SpiBus.Sound other) ∧
      (SpiBus.Sound file ∨ ∃ error, opening file = ⟨.error (.busFile error), process, []⟩) := by
  refine ⟨fun backend memory => rfl, fun host process => ?_⟩
  intro opening
  have refused {file : Option BusFile} (unsound : ¬SpiBus.Sound file) :
      ∃ error, opening file = ⟨.error (.busFile error), process, []⟩ := by
    rcases SpiBus.refuses_ofDescription_of_not_sound host text unsound with ⟨error, refuses⟩
    exact ⟨error, refuses process⟩
  have alone {file : Option BusFile} (sound : SpiBus.Sound file) : opening file =
      (Program.mapError .spi (SpiBus.ofOptions host (OptionText.parse text))).run process := by
    simp only [opening, SpiBus.ofDescription_of_sound host text sound]
  constructor
  · constructor
    · rintro ⟨sound, same⟩
      -- If the other file did not make sense, options alone would lead to the error of a file.
      refine ⟨sound, Classical.byContradiction fun unsound => ?_⟩
      rcases refused unsound with ⟨error, refused⟩
      rw [alone sound, refused] at same
      exact SpiBus.ofOptions_ne_busFile host text process error (congrArg Outcome.answer same)
    · rintro ⟨sound, soundOther⟩
      exact ⟨sound, (alone sound).trans (alone soundOther).symm⟩
  · by_cases sound : SpiBus.Sound file
    · exact .inl sound
    · exact .inr (refused sound)

/-- A section with the clock mode nine, and options that name another node and no mode. -/
theorem unsound_file_wins_over_options :
    let file : BusFile :=
      ⟨none, some ⟨"/dev/spidev0.1", SpiSettings.defaultSpeedHz, 9, false, false⟩⟩
    let opening (file : Option BusFile) :=
      (SpiBus.ofDescription SpiHost.quiet file (some "dev=/dev/spidev0.0")).run (.unresolved, ())
    BusFile.parse? "[spi]\ndevice = \"/dev/spidev0.1\"\nmode = 9\n" = some file ∧
      (opening (some file)).answer = .error (.busFile (.invalid "SPI mode 9 (must be 0-3)")) ∧
      (opening none).answer = .ok ⟨⟨3, 4096⟩, false⟩ ∧
      opening (some file) ≠ opening none := by
  intro file opening
  have refused : (opening (some file)).answer =
      .error (.busFile (.invalid "SPI mode 9 (must be 0-3)")) := by decide +kernel
  have alone : (opening none).answer = .ok ⟨⟨3, 4096⟩, false⟩ := by decide +kernel
  refine ⟨by decide +kernel, refused, alone, fun same => ?_⟩
  rw [same, alone] at refused
  cases refused

end Pinwire
