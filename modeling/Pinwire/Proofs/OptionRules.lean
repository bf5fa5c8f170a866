import Mathlib.Logic.Basic
import Pinwire.Proofs.Program

/-!
# Rules for options

The settings of a bus are read from its options one by one. An option whose key has no meaning is
noted in the journal, one that is at fault ends the reading, and any other changes what was read so
far in a way that does not depend on it. So the first option at fault decides the error, only what
comes before it is noted, and a field that options with one key set is the one that the last of them
sets.
-/

namespace Pinwire

/-- A property holds for all elements, or there is a first one for which it does not. -/
theorem forall_or_exists_first {α : Type} (p : α → Prop) (elements : List α) :
    (∀ element ∈ elements, p element) ∨
      ∃ before culprit after, elements = before ++ culprit :: after ∧
        (∀ earlier ∈ before, p earlier) ∧ ¬p culprit := by
  classical
  rcases found : elements.find? fun element => decide ¬p element with _ | culprit
  · left
    simpa using found
  · right
    rcases List.find?_eq_some_iff_append.1 found with ⟨fails, before, after, joined, earlier⟩
    exact ⟨before, culprit, after, joined, by simpa using earlier, by simpa using fails⟩

/-- The text of the last option with a key, if there is one. -/
def lastValue? (key : String) (options : List (String × String)) : Option String :=
  (options.reverse.find? fun option => option.1 = key).map (·.2)

section LastValue

variable {key : String} {options options' : List (String × String)}

theorem lastValue?_append (key : String) (earlier later : List (String × String)) :
    lastValue? key (earlier ++ later) = (lastValue? key later).or (lastValue? key earlier) := by
  simp only [lastValue?, List.reverse_append, List.find?_append, Option.map_or]

theorem lastValue?_cons (option : String × String) (options : List (String × String)) :
    lastValue? key (option :: options) =
      (lastValue? key options).or (if option.1 = key then some option.2 else none) := by
  have single : lastValue? key [option] = if option.1 = key then some option.2 else none := by
    by_cases same : option.1 = key <;> simp [lastValue?, same]
  rw [← single, ← lastValue?_append, List.singleton_append]

theorem isSome_lastValue?_iff : (lastValue? key options).isSome ↔ key ∈ options.map (·.1) := by
  simp only [lastValue?, Option.isSome_map, List.find?_isSome, List.mem_reverse, decide_eq_true_eq,
    List.mem_map]

end LastValue

/-- A value is the one that the last option with a key spells; without such an option it is the
default one. -/
def Given {β : Type} (key : String) (spells : String → β → Prop) (options : List (String × String))
    (default value : β) : Prop :=
  match lastValue? key options with
  | none => value = default
  | some text => spells text value

section Given

variable {β : Type} {key : String} {spells : String → β → Prop}
  {options options' : List (String × String)} {default value value' : β}

theorem Given.unique (functional : ∀ text value value', spells text value → spells text value' →
    value = value') (given : Given key spells options default value)
    (given' : Given key spells options default value') : value = value' := by
  rcases found : lastValue? key options with _ | text
  · simp only [Given, found] at given given'
    exact given.trans given'.symm
  · simp only [Given, found] at given given'
    exact functional text value value' given given'

theorem Given.congr (same : lastValue? key options = lastValue? key options')
    (given : Given key spells options default value) : Given key spells options' default value := by
  rw [Given, ← same]
  exact given

theorem given_eq_iff {default value : String} :
    Given key (fun text value => value = text) options default value ↔
      value = (lastValue? key options).getD default := by
  rcases found : lastValue? key options with _ | text <;> simp [Given, found]

end Given

/-- Rules for options: which keys have a meaning, what is noted of the others, which options are at
fault and what the sound ones change. -/
structure OptionRules (ε α : Type) where
  keys : List String
  note : String × String → Record
  Fault : String × String → ε → Prop
  Change : String × String → (α → α) → Prop

namespace OptionRules

variable {σ ε α β : Type} (rules : OptionRules ε α)

def Sound (options : List (String × String)) : Prop :=
  ∀ option ∈ options, ∀ error, ¬rules.Fault option error

/-- The first option at fault, the sound ones before it and the error that it is rejected with. -/
def FirstFault (options before : List (String × String)) (error : ε) : Prop :=
  ∃ option after, options = before ++ option :: after ∧ rules.Sound before ∧
    rules.Fault option error

/-- What is noted of options, in their order. -/
def notes (options : List (String × String)) : List Record :=
  (options.filter fun option => option.1 ∉ rules.keys).map rules.note

/-- What sound options make of a value one after another. -/
inductive Changes : List (String × String) → α → α → Prop where
  | nil (value : α) : Changes [] value value
  | unknown {option : String × String} {options : List (String × String)} {value final : α}
      (meaningless : option.1 ∉ rules.keys) (rest : Changes options value final) :
      Changes (option :: options) value final
  | known {option : String × String} {options : List (String × String)} {value final : α}
      {change : α → α} (meaningful : option.1 ∈ rules.keys) (changes : rules.Change option change)
      (rest : Changes options (change value) final) : Changes (option :: options) value final

/-- A step that follows the rules. -/
structure Governs (apply : α → String × String → Program σ ε α) : Prop where
  unknown : ∀ {option}, option.1 ∉ rules.keys → ∀ value, apply value option = do
    .record (rules.note option).level (rules.note option).source (rules.note option).text
    pure value
  fault : ∀ {option error}, rules.Fault option error → ∀ value, apply value option = .fail error
  known : ∀ {option}, option.1 ∈ rules.keys → (∀ error, ¬rules.Fault option error) →
    ∃ change, rules.Change option change ∧ ∀ value, apply value option = pure (change value)

section Kinds

variable {rules} {options before : List (String × String)} {option : String × String} {error : ε}

theorem sound_cons_iff : rules.Sound (option :: options) ↔
    (∀ error, ¬rules.Fault option error) ∧ rules.Sound options := by
  simp only [Sound, List.forall_mem_cons]

theorem sound_append_iff {later : List (String × String)} :
    rules.Sound (options ++ later) ↔ rules.Sound options ∧ rules.Sound later := by
  simp only [Sound, List.forall_mem_append]

/-- Options are sound as a whole, or there is a first one at fault. -/
theorem sound_or_firstFault (options : List (String × String)) :
    rules.Sound options ∨ ∃ before error, rules.FirstFault options before error := by
  rcases forall_or_exists_first (fun option => ∀ error, ¬rules.Fault option error) options with
    sound | ⟨before, option, after, joined, sound, faulty⟩
  · exact .inl sound
  · simp only [not_forall, not_not] at faulty
    rcases faulty with ⟨error, fault⟩
    exact .inr ⟨before, error, option, after, joined, sound, fault⟩

theorem not_sound_iff :
    ¬rules.Sound options ↔ ∃ before error, rules.FirstFault options before error := by
  constructor
  · exact (sound_or_firstFault options).resolve_left
  · rintro ⟨before, error, option, after, rfl, _, fault⟩ sound
    exact sound option (by simp) error fault

theorem FirstFault.cons (here : ∀ error, ¬rules.Fault option error)
    (first : rules.FirstFault options before error) :
    rules.FirstFault (option :: options) (option :: before) error := by
  rcases first with ⟨culprit, after, rfl, sound, fault⟩
  exact ⟨culprit, after, rfl, sound_cons_iff.2 ⟨here, sound⟩, fault⟩

/-- A sound option more does not change which one is the first at fault. -/
theorem FirstFault.insert (here : ∀ error, ¬rules.Fault option error)
    {earlier later : List (String × String)}
    (first : rules.FirstFault (earlier ++ later) before error) :
    ∃ before', rules.FirstFault (earlier ++ option :: later) before' error := by
  induction earlier generalizing before with
  | nil => exact ⟨option :: before, first.cons here⟩
  | cons other earlier ih =>
      rcases first with ⟨culprit, after, same, sound, fault⟩
      cases before with
      | nil =>
          rcases List.cons.inj same with ⟨rfl, _⟩
          exact ⟨[], other, earlier ++ option :: later, rfl, nofun, fault⟩
      | cons _ before =>
          rcases List.cons.inj same with ⟨rfl, rest⟩
          rcases sound_cons_iff.1 sound with ⟨otherSound, sound⟩
          rcases ih ⟨culprit, after, rest, sound, fault⟩ with ⟨before', first⟩
          exact ⟨other :: before', first.cons otherSound⟩

theorem notes_cons (option : String × String) (options : List (String × String)) :
    rules.notes (option :: options) =
      (if option.1 ∈ rules.keys then [] else [rules.note option]) ++ rules.notes options := by
  by_cases meaningful : option.1 ∈ rules.keys <;> simp [notes, meaningful]

end Kinds

section Runs

variable {rules} {apply : α → String × String → Program σ ε α}
  {options before : List (String × String)} {error : ε}

/-- Sound options are all read, and those without a meaning are noted. -/
theorem Governs.run_of_sound (governs : rules.Governs apply) (sound : rules.Sound options)
    (value : α) (world : σ) :
    ∃ final, rules.Changes options value final ∧
      (options.foldlM apply value).run world = ⟨.ok final, world, rules.notes options⟩ := by
  induction options generalizing value with
  | nil => exact ⟨value, .nil value, rfl⟩
  | cons option options ih =>
      rcases sound_cons_iff.1 sound with ⟨here, sound⟩
      by_cases meaningful : option.1 ∈ rules.keys
      · rcases governs.known meaningful here with ⟨change, changes, applied⟩
        rcases ih sound (change value) with ⟨final, rest, ran⟩
        refine ⟨final, .known meaningful changes rest, ?_⟩
        rw [List.foldlM_cons, applied, pure_bind, ran, notes_cons, if_pos meaningful,
          List.nil_append]
      · rcases ih sound value with ⟨final, rest, ran⟩
        refine ⟨final, .unknown meaningful rest, ?_⟩
        rw [List.foldlM_cons, governs.unknown meaningful, bind_assoc, Program.run_record_bind,
          pure_bind, ran, notes_cons, if_neg meaningful]
        rfl

/-- The first option at fault decides the error, and what is noted are options before it. -/
theorem Governs.run_of_firstFault (governs : rules.Governs apply)
    (first : rules.FirstFault options before error) (value : α) (world : σ) :
    (options.foldlM apply value).run world = ⟨.error error, world, rules.notes before⟩ := by
  rcases first with ⟨option, after, rfl, sound, fault⟩
  rcases governs.run_of_sound sound value world with ⟨reached, _, ran⟩
  rw [List.foldlM_append, Program.run_bind_of_ok ran, List.foldlM_cons, governs.fault fault]
  simp [Program.run_bind_of_error (Program.refuses_fail error world)]

/-- A field that the options with one key set, and no others, is given by the last of them. -/
theorem Changes.given {key : String} {spells : String → β → Prop} {value final : α}
    (changes : rules.Changes options value final) (field : α → β)
    (meaningful : key ∈ rules.keys)
    (sets : ∀ {option change}, rules.Change option change → ∀ value,
      if option.1 = key then spells option.2 (field (change value))
      else field (change value) = field value) :
    Given key spells options (field value) (field final) := by
  induction changes with
  | nil value => rfl
  | @unknown option options value final meaningless rest ih =>
      have other : option.1 ≠ key := fun same => meaningless (same ▸ meaningful)
      simp only [Given, lastValue?_cons, if_neg other, Option.or_none]
      exact ih
  | @known option options value final change _ changes rest ih =>
      have here := sets changes value
      rcases found : lastValue? key options with _ | text
      · -- No later option has the key, so this one decides if it has it.
        simp only [Given, found] at ih
        rw [← ih] at here
        by_cases same : option.1 = key
        · simpa [Given, lastValue?_cons, found, same] using here
        · simpa [Given, lastValue?_cons, found, same] using here
      · simp only [Given, found] at ih
        simpa only [Given, lastValue?_cons, found, Option.some_or] using ih

end Runs

end OptionRules

end Pinwire
