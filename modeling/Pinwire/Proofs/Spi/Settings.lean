import Mathlib.Data.List.Basic
import Pinwire.Proofs.OptionRules
import Pinwire.Proofs.Text.Numeral
import Pinwire.Spi.Settings

/-!
# Settings of an SPI device by options

Which options of an SPI bus are at fault, and what the others come to: every part of the settings is
given by the last option with its key, or has its default. A speed is a number of kilohertz that
leaves room for the thousandfold, so it is never wrapped round on the way to hertz.
-/

namespace Pinwire

namespace SpiSettings

/-- The words for the positions of a switch, in small letters. -/
def switchWords : Bool → List String
  | true => ["1", "yes", "true", "on"]
  | false => ["0", "no", "false", "off"]

/-- A text is one of the words for a position of a switch, but for the case of ASCII letters. -/
def Switched (text : String) (position : Bool) : Prop :=
  String.ofList (text.toList.map Char.toLower) ∈ switchWords position

/-- An option is at fault, and rejected with an error. -/
inductive Fault : String × String → SpiError → Prop where
  | speed {text : String}
      (beyond : ∀ kilohertz ≤ 4294967, ¬Text.Numeral text.toList kilohertz) :
      Fault ("spispeed", text) (.invalidParameter s!"Invalid spispeed value: {text}")
  | number {text : String} (noByte : ∀ number : UInt8, ¬Text.Numeral text.toList number.toNat) :
      Fault ("mode", text) (.invalidParameter s!"Invalid mode value: {text}")
  | mode {text : String} {number : UInt8} (numeral : Text.Numeral text.toList number.toNat)
      (beyond : 3 < number) :
      Fault ("mode", text) (.invalidParameter s!"SPI mode {number} (must be 0-3)")
  | switch {key text : String} (switch : key = "lsb" ∨ key = "3wire")
      (unnamed : ∀ position, ¬Switched text position) :
      Fault (key, text) (.invalidParameter s!"Invalid {key} value: {text}")

theorem Fault.key_mem {option : String × String} {error : SpiError} (fault : Fault option error) :
    option.1 ∈ ["spispeed", "mode", "lsb", "3wire"] := by
  cases fault with
  | speed beyond => simp
  | number noByte => simp
  | mode numeral beyond => simp
  | switch switch unnamed => rcases switch with rfl | rfl <;> simp

/-- What a sound option changes. -/
inductive Change : String × String → (SpiSettings → SpiSettings) → Prop where
  | device {text : String} : Change ("dev", text) fun settings => { settings with device := text }
  | speed {text : String} {speedHz : UInt32} {kilohertz : Nat}
      (numeral : Text.Numeral text.toList kilohertz) (whole : speedHz.toNat = 1000 * kilohertz) :
      Change ("spispeed", text) fun settings => { settings with speedHz }
  | clock {text : String} {clock : ClockMode}
      (numeral : Text.Numeral text.toList clock.number.toNat) :
      Change ("mode", text) fun settings => { settings with mode.clock := clock }
  | bitOrder {text : String} {position : Bool} (switched : Switched text position) :
      Change ("lsb", text) fun settings =>
        { settings with mode.bitOrder := if position then .lsbFirst else .msbFirst }
  | duplex {text : String} {position : Bool} (switched : Switched text position) :
      Change ("3wire", text) fun settings =>
        { settings with mode.duplex := if position then .half else .full }

def rules : OptionRules SpiError SpiSettings where
  keys := ["dev", "spispeed", "mode", "lsb", "3wire"]
  note option :=
    ⟨.warn, "linbus_linux_spi::device", s!"linux_spi: Unknown option: {option.1}={option.2}"⟩
  Fault := Fault
  Change := Change

/-- Settings are what the last options say of each of their parts. -/
structure Describes (options : List (String × String)) (settings : SpiSettings) : Prop where
  device : settings.device = (lastValue? "dev" options).getD ""
  speed : Given "spispeed"
    (fun text speedHz => ∃ kilohertz, Text.Numeral text.toList kilohertz ∧
      speedHz.toNat = 1000 * kilohertz)
    options (2000000 : UInt32) settings.speedHz
  clock : Given "mode" (fun text clock => Text.Numeral text.toList clock.number.toNat) options
    ClockMode.mode0 settings.mode.clock
  bitOrder : Given "lsb"
    (fun text order => ∃ position, Switched text position ∧
      order = if position then .lsbFirst else .msbFirst)
    options BitOrder.msbFirst settings.mode.bitOrder
  duplex : Given "3wire"
    (fun text duplex => ∃ position, Switched text position ∧
      duplex = if position then .half else .full)
    options Duplex.full settings.mode.duplex

section Values

variable {text : String}

theorem switch?_eq_some_iff {position : Bool} :
    switch? text = some position ↔ Switched text position := by
  have lowered : text.toLower = String.ofList (text.toList.map Char.toLower) := by
    apply String.toList_injective
    change (text.map Char.toLower).toList = _
    rw [String.toList_map, String.toList_ofList]
  rw [switch?, lowered, Switched]
  split <;> cases position <;> simp_all [switchWords]

theorem switch?_eq_none_iff :
    switch? text = none ↔ ∀ position, ¬Switched text position := by
  simp only [Option.eq_none_iff_forall_ne_some, ne_eq, switch?_eq_some_iff]

theorem Switched.unique {position position' : Bool} (switched : Switched text position)
    (switched' : Switched text position') : position = position' := by
  have read := switch?_eq_some_iff.2 switched
  rw [switch?_eq_some_iff.2 switched'] at read
  exact (Option.some.inj read).symm

theorem speedOfKilohertz?_eq_some_iff {speedHz : UInt32} :
    speedOfKilohertz? text = some speedHz ↔
      ∃ kilohertz, Text.Numeral text.toList kilohertz ∧ speedHz.toNat = 1000 * kilohertz := by
  have bound : speedHz.toNat ≤ Bounds.unsigned32 := Nat.le_of_lt_succ speedHz.toNat_lt
  simp only [speedOfKilohertz?, Option.bind_eq_some_iff, Text.Decimal.unsigned?_eq_some_iff,
    Option.ite_none_right_eq_some, Option.some.injEq]
  constructor
  · rintro ⟨kilohertz, ⟨numeral, _⟩, room, rfl⟩
    refine ⟨kilohertz, numeral, ?_⟩
    rw [UInt32.toNat_ofNat_of_lt' (Nat.lt_succ_of_le room), Nat.mul_comm]
  · rintro ⟨kilohertz, numeral, whole⟩
    refine ⟨kilohertz, ⟨numeral, by omega⟩, by omega, ?_⟩
    rw [Nat.mul_comm, ← whole, UInt32.ofNat_toNat]

theorem speedOfKilohertz?_eq_none_iff :
    speedOfKilohertz? text = none ↔ ∀ kilohertz ≤ 4294967, ¬Text.Numeral text.toList kilohertz := by
  simp only [Option.eq_none_iff_forall_ne_some, ne_eq, speedOfKilohertz?_eq_some_iff, not_exists,
    not_and]
  constructor
  · intro unread kilohertz small numeral
    apply unread (UInt32.ofNat (1000 * kilohertz)) kilohertz numeral
    apply UInt32.toNat_ofNat_of_lt'
    simp only [UInt32.size]
    omega
  · intro beyond speedHz kilohertz numeral whole
    have bound := speedHz.toNat_lt
    exact beyond kilohertz (by omega) numeral

theorem number_of_ofNumber? {number : UInt8} {clock : ClockMode}
    (known : ClockMode.ofNumber? number = some clock) : clock.number = number := by
  unfold ClockMode.ofNumber? at known
  split at known
  · cases known
  · have four : number = 0 ∨ number = 1 ∨ number = 2 ∨ number = 3 := by grind
    rcases four with rfl | rfl | rfl | rfl <;> cases known <;> rfl

end Values

section Rules

variable {σ : Type}

theorem apply_of_unknown {option : String × String} (unknown : option.1 ∉ rules.keys)
    (settings : SpiSettings) :
    settings.apply option.1 option.2 = (do
      .record (rules.note option).level (rules.note option).source (rules.note option).text
      pure settings : Program σ SpiError SpiSettings) := by
  rcases option with ⟨key, text⟩
  simp only [rules, List.mem_cons, List.not_mem_nil, or_false, not_or] at unknown
  rcases unknown with ⟨dev, spispeed, mode, lsb, shared⟩
  simp only [apply]
  rfl

theorem apply_of_fault {option : String × String} {error : SpiError} (fault : Fault option error)
    (settings : SpiSettings) :
    settings.apply option.1 option.2 = (.fail error : Program σ SpiError SpiSettings) := by
  cases fault with
  | speed beyond =>
      simp only [apply, speedOfKilohertz?_eq_none_iff.2 beyond]
      rfl
  | number noByte =>
      simp only [apply, Text.Decimal.byte?_eq_none_iff.2 noByte]
      rfl
  | @mode text number numeral beyond =>
      have unknown : ClockMode.ofNumber? number = none := if_pos beyond
      simp only [apply, Text.Decimal.byte?_eq_some_iff.2 numeral, unknown]
      rfl
  | switch switch unnamed =>
      rcases switch with rfl | rfl
      · simp only [apply, switch?_eq_none_iff.2 unnamed]
        rfl
      · simp only [apply, switch?_eq_none_iff.2 unnamed]
        rfl

/-- A sound option whose key has a meaning changes the settings, whatever they are. -/
theorem exists_change {option : String × String} (meaningful : option.1 ∈ rules.keys)
    (sound : ∀ error, ¬Fault option error) :
    ∃ change, Change option change ∧ ∀ settings : SpiSettings,
      settings.apply option.1 option.2 = (pure (change settings) : Program σ _ _) := by
  rcases option with ⟨key, text⟩
  simp only [rules, List.mem_cons, List.not_mem_nil, or_false] at meaningful
  rcases meaningful with rfl | rfl | rfl | rfl | rfl
  · exact ⟨_, .device, fun settings => rfl⟩
  · rcases read : speedOfKilohertz? text with _ | speedHz
    · exact absurd (.speed (speedOfKilohertz?_eq_none_iff.1 read)) (sound _)
    · rcases speedOfKilohertz?_eq_some_iff.1 read with ⟨kilohertz, numeral, whole⟩
      refine ⟨_, .speed numeral whole, fun settings => ?_⟩
      simp only [apply, read]
  · rcases read : Text.Decimal.byte? text.toList with _ | number
    · exact absurd (.number (Text.Decimal.byte?_eq_none_iff.1 read)) (sound _)
    · have numeral := Text.Decimal.byte?_eq_some_iff.1 read
      by_cases beyond : 3 < number
      · exact absurd (.mode numeral beyond) (sound _)
      · have known : ClockMode.ofNumber? number = some (.ofByte number) := if_neg beyond
        rw [← number_of_ofNumber? known] at numeral
        refine ⟨_, .clock numeral, fun settings => ?_⟩
        simp only [apply, read, known]
  · rcases read : switch? text with _ | position
    · exact absurd (.switch (.inl rfl) (switch?_eq_none_iff.1 read)) (sound _)
    · refine ⟨_, .bitOrder (switch?_eq_some_iff.1 read), fun settings => ?_⟩
      simp only [apply, read]
  · rcases read : switch? text with _ | position
    · exact absurd (.switch (.inr rfl) (switch?_eq_none_iff.1 read)) (sound _)
    · refine ⟨_, .duplex (switch?_eq_some_iff.1 read), fun settings => ?_⟩
      simp only [apply, read]

theorem governs_apply :
    rules.Governs fun settings option => (settings.apply option.1 option.2 : Program σ _ _) where
  unknown := apply_of_unknown
  fault := apply_of_fault
  known := exists_change

theorem applyAll_eq_foldlM (settings : SpiSettings) (options : List (String × String)) :
    (settings.applyAll options : Program σ SpiError SpiSettings) =
      options.foldlM (fun settings option => settings.apply option.1 option.2) settings := by
  induction options generalizing settings with
  | nil => rfl
  | cons option options ih =>
      rw [applyAll, List.foldlM_cons]
      exact congrArg _ (funext ih)

end Rules

section Described

variable {options options' : List (String × String)} {settings settings' : SpiSettings}

/-- Each part of the settings is set by the options with one key and kept by all others. -/
theorem describes_of_changes (changes : rules.Changes options unset settings) :
    Describes options settings where
  device := by
    apply given_eq_iff.1
    apply changes.given device (by decide)
    intro option change changed settings
    cases changed <;> simp
  speed := by
    apply changes.given speedHz (by decide)
    intro option change changed settings
    cases changed with
    | speed numeral whole =>
        rw [if_pos rfl]
        exact ⟨_, numeral, whole⟩
    | _ => simp
  clock := by
    apply changes.given (fun settings => settings.mode.clock) (by decide)
    intro option change changed settings
    cases changed with
    | clock numeral => simpa using numeral
    | _ => simp
  bitOrder := by
    apply changes.given (fun settings => settings.mode.bitOrder) (by decide)
    intro option change changed settings
    cases changed with
    | bitOrder switched =>
        rw [if_pos rfl]
        exact ⟨_, switched, rfl⟩
    | _ => simp
  duplex := by
    apply changes.given (fun settings => settings.mode.duplex) (by decide)
    intro option change changed settings
    cases changed with
    | duplex switched =>
        rw [if_pos rfl]
        exact ⟨_, switched, rfl⟩
    | _ => simp

theorem Describes.unique (described : Describes options settings)
    (described' : Describes options settings') : settings = settings' := by
  rcases settings with ⟨device, speedHz, clock, bitOrder, duplex⟩
  rcases settings' with ⟨device', speedHz', clock', bitOrder', duplex'⟩
  have sameDevice : device = device' := described.device.trans described'.device.symm
  have sameSpeed : speedHz = speedHz' := by
    apply described.speed.unique _ described'.speed
    rintro text speedHz speedHz' ⟨kilohertz, numeral, whole⟩ ⟨kilohertz', numeral', whole'⟩
    have same := numeral.unique numeral'
    apply UInt32.toNat_inj.1
    omega
  have sameClock : clock = clock' := by
    apply described.clock.unique _ described'.clock
    intro text clock clock' numeral numeral'
    have same := numeral.unique numeral'
    cases clock <;> cases clock' <;> first | rfl | exact absurd same (by decide)
  have sameOrder : bitOrder = bitOrder' := by
    apply described.bitOrder.unique _ described'.bitOrder
    rintro text order order' ⟨position, switched, rfl⟩ ⟨position', switched', rfl⟩
    rw [switched.unique switched']
  have sameDuplex : duplex = duplex' := by
    apply described.duplex.unique _ described'.duplex
    rintro text duplex duplex' ⟨position, switched, rfl⟩ ⟨position', switched', rfl⟩
    rw [switched.unique switched']
  subst sameDevice sameSpeed sameClock sameOrder sameDuplex
  rfl

theorem Describes.congr (same : ∀ key, lastValue? key options = lastValue? key options')
    (described : Describes options settings) : Describes options' settings where
  device := by rw [described.device, same]
  speed := described.speed.congr (same _)
  clock := described.clock.congr (same _)
  bitOrder := described.bitOrder.congr (same _)
  duplex := described.duplex.congr (same _)

/-- A described speed is a whole number of kilohertz that fits a word after the multiplication. -/
theorem Describes.speed_bounds (described : Describes options settings) :
    1000 ∣ settings.speedHz.toNat ∧ settings.speedHz.toNat ≤ 4294967000 := by
  have bound := settings.speedHz.toNat_lt
  have speed := described.speed
  rcases found : lastValue? "spispeed" options with _ | text
  · simp only [Given, found] at speed
    rw [speed]
    decide
  · simp only [Given, found] at speed
    rcases speed with ⟨kilohertz, _, whole⟩
    exact ⟨⟨kilohertz, whole⟩, by omega⟩

end Described

section Settled

variable {σ : Type} {options before : List (String × String)}

theorem run_ofOptions_of_firstFault {error : SpiError}
    (first : rules.FirstFault options before error) (world : σ) :
    (ofOptions options).run world = ⟨.error error, world, rules.notes before⟩ := by
  have ran := governs_apply.run_of_firstFault first unset world
  rw [← applyAll_eq_foldlM] at ran
  rw [ofOptions, Program.run_bind_of_error ran]

theorem run_ofOptions_of_sound (sound : rules.Sound options) (world : σ) :
    ∃ settings, Describes options settings ∧ (ofOptions options).run world =
      ⟨if (lastValue? "dev" options).getD "" = "" then .error .deviceUnnamed else .ok settings,
        world, rules.notes options⟩ := by
  rcases governs_apply.run_of_sound sound unset world with ⟨settings, changes, ran⟩
  have described := describes_of_changes changes
  refine ⟨settings, described, ?_⟩
  rw [← applyAll_eq_foldlM] at ran
  rw [ofOptions, Program.run_bind_of_ok ran, ← described.device, settle]
  split <;> simp [Program.run, Program.ofExcept]

/-- An option that a later one with the same key overrides makes no difference. -/
theorem answer_ofOptions_of_overridden {option : String × String}
    {after : List (String × String)} (sound : ∀ error, ¬Fault option error)
    (overridden : option.1 ∈ after.map (·.1)) (world : σ) :
    ((ofOptions (before ++ option :: after)).run world).answer =
      ((ofOptions (before ++ after)).run world).answer := by
  have same : ∀ key, lastValue? key (before ++ option :: after) =
      lastValue? key (before ++ after) := by
    intro key
    rw [lastValue?_append, lastValue?_append, lastValue?_cons]
    by_cases own : option.1 = key
    · rcases Option.isSome_iff_exists.1 (isSome_lastValue?_iff.2 (own ▸ overridden)) with
        ⟨text, found⟩
      rw [found, Option.some_or]
    · rw [if_neg own, Option.or_none]
  rcases rules.sound_or_firstFault (before ++ after) with all | ⟨earlier, error, first⟩
  · have all' : rules.Sound (before ++ option :: after) := by
      rcases OptionRules.sound_append_iff.1 all with ⟨soundBefore, soundAfter⟩
      apply OptionRules.sound_append_iff.2
      exact ⟨soundBefore, OptionRules.sound_cons_iff.2 ⟨sound, soundAfter⟩⟩
    rcases run_ofOptions_of_sound all world with ⟨settings, described, ran⟩
    rcases run_ofOptions_of_sound all' world with ⟨settings', described', ran'⟩
    rw [ran, ran', same, (described'.congr same).unique described]
  · rcases first.insert sound with ⟨earlier', first'⟩
    rw [run_ofOptions_of_firstFault first, run_ofOptions_of_firstFault first']

/-- What options make of the settings of an SPI bus.
1. If some options are at fault, the first of them decides the error, and only what comes before it
   is noted.
2. Otherwise the last option of each key decides its part of the settings, and the answer are these
   settings unless no device is named. Options without a meaning are noted and nothing more.
3. Options are of the first kind exactly if they are not of the second.
4. An answer comes from sound options only, even where a later option overrides another, and has a
   speed that is a multiple of 1000 and at most 4294967000.
5. A sound option that a later one with its key overrides does not make any difference. -/
theorem settled_by_last_options (options : List (String × String)) (world : σ) :
    let outcome := (ofOptions options).run world
    (∀ before error, rules.FirstFault options before error →
      outcome = ⟨.error error, world, rules.notes before⟩) ∧
    (rules.Sound options → ∃ settings, Describes options settings ∧
      outcome =
        ⟨if (lastValue? "dev" options).getD "" = "" then .error .deviceUnnamed else .ok settings,
          world, rules.notes options⟩) ∧
    (¬rules.Sound options ↔ ∃ before error, rules.FirstFault options before error) ∧
    (∀ settings, outcome.answer = .ok settings → rules.Sound options ∧
      1000 ∣ settings.speedHz.toNat ∧ settings.speedHz.toNat ≤ 4294967000) ∧
    ∀ before option after, options = before ++ option :: after →
      (∀ error, ¬Fault option error) → option.1 ∈ after.map (·.1) →
      outcome.answer = ((ofOptions (before ++ after)).run world).answer := by
  intro outcome
  refine ⟨?_, ?_, OptionRules.not_sound_iff, ?_, ?_⟩
  · intro before error first
    exact run_ofOptions_of_firstFault first world
  · intro sound
    exact run_ofOptions_of_sound sound world
  · intro settings answered
    rcases rules.sound_or_firstFault options with sound | ⟨before, error, first⟩
    · rcases run_ofOptions_of_sound sound world with ⟨settings', described, ran⟩
      simp only [outcome, ran] at answered
      split at answered
      · cases answered
      · cases answered
        exact ⟨sound, described.speed_bounds⟩
    · simp only [outcome, run_ofOptions_of_firstFault first] at answered
      cases answered
  · rintro before option after rfl sound overridden
    exact answer_ofOptions_of_overridden sound overridden world

/-- The greatest speed with two modes and an unknown key, and a switch that is at fault although a
later option resets it and no device is named. -/
theorem settled_by_two_modes :
    let options (mode : String) := [("mode", "1"), ("dev", "/dev/spidev0.0"), ("speed", "9"),
      ("spispeed", "+04294967"), ("mode", mode), ("lsb", "YES")]
    let settings : SpiSettings := ⟨"/dev/spidev0.0", 4294967000, ⟨.mode3, .lsbFirst, .full⟩⟩
    ((ofOptions (options "3")).run ()).answer = .ok settings ∧ 1000 ∣ settings.speedHz.toNat ∧
      ((ofOptions (options "3").tail).run ()).answer = .ok settings ∧
      (ofOptions [("dev", ""), ("spi", "x"), ("3wire", "maybe"), ("3wire", "no")]).run () =
        ⟨.error (.invalidParameter "Invalid 3wire value: maybe"), (),
          [⟨.warn, "linbus_linux_spi::device", "linux_spi: Unknown option: spi=x"⟩]⟩ := by
  intro options settings
  have answered : ((ofOptions (options "3")).run ()).answer = .ok settings := by decide +kernel
  rcases settled_by_last_options (options "3") () with ⟨_, _, _, accepted, overridden⟩
  have sound := (accepted settings answered).1
  refine ⟨answered, (accepted settings answered).2.1, ?_, ?_⟩
  · rw [← answered]
    exact (overridden [] ("mode", "1") (options "3").tail rfl (sound _ List.mem_cons_self)
      (by decide)).symm
  · apply (settled_by_last_options _ ()).1 [("dev", ""), ("spi", "x")]
    refine ⟨("3wire", "maybe"), [("3wire", "no")], rfl, ?_, .switch (.inr rfl) ?_⟩
    · intro option member error fault
      simp only [List.mem_cons, List.not_mem_nil, or_false] at member
      rcases member with rfl | rfl
      · exact absurd fault.key_mem (by decide)
      · exact absurd fault.key_mem (by decide)
    · unfold Switched
      decide

end Settled

end SpiSettings

end Pinwire
