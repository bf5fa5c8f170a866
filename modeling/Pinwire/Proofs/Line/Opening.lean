import Mathlib.Data.List.Nodup
import Pinwire.Bench.MemoryChip
import Pinwire.Proofs.Line.Programs

/-!
# Opening lines

All that opening some lines of a chip can come to, with the calls that are made of the backend. The
checks come first and in a fixed order, and as long as one of them speaks against it the backend is
not asked anything. After that the chip is opened, and whatever fails then gives it back.

Whether a line repeats is found by going through the lines and remembering those seen. That the line
at fault is the first one that was named before is the invariant of this search.
-/

namespace Pinwire

/-- A call that was made of a backend. -/
inductive BackendCall (Chip Request : Type) where
  | openChip (path : String)
  | requestLines (chip : Chip) (consumer : String) (settings : List (LineNumber × LineConfig))
  | readLines (request : Request) (lines : List LineNumber) (slots : List Slot)
  | writeLines (request : Request) (lines : List LineNumber) (slots : List Slot)
  | releaseRequest (request : Request)
  | releaseChip (chip : Chip)
  deriving Repr, DecidableEq

/-- A world together with the calls that were made in it, in order. -/
structure Transcribed (σ Chip Request : Type) where
  world : σ
  calls : List (BackendCall Chip Request)

namespace LineBackend

variable {σ Chip Request : Type}

/-- The same backend, with a transcript of the calls that are made of it. -/
def transcribed (backend : LineBackend σ Chip Request) :
    LineBackend (Transcribed σ Chip Request) Chip Request where
  openChip path state :=
    let (answer, world) := backend.openChip path state.world
    (answer, ⟨world, state.calls ++ [.openChip path]⟩)
  requestLines chip consumer settings state :=
    let (answer, world) := backend.requestLines chip consumer settings state.world
    (answer, ⟨world, state.calls ++ [.requestLines chip consumer settings]⟩)
  readLines request lines slots state :=
    let (answer, world) := backend.readLines request lines slots state.world
    (answer, ⟨world, state.calls ++ [.readLines request lines slots]⟩)
  writeLines request lines slots state :=
    let (answer, world) := backend.writeLines request lines slots state.world
    (answer, ⟨world, state.calls ++ [.writeLines request lines slots]⟩)
  releaseRequest request state :=
    ⟨backend.releaseRequest request state.world, state.calls ++ [.releaseRequest request]⟩
  releaseChip chip state :=
    ⟨backend.releaseChip chip state.world, state.calls ++ [.releaseChip chip]⟩

section Transcribed

variable {backend : LineBackend σ Chip Request} {state : Transcribed σ Chip Request} {reached : σ}

end Transcribed

end LineBackend

/-- The line at a place is named before it, and this is the first place of which that is so. -/
structure FirstRepeat (lines : List LineNumber) (place : Nat) (line : LineNumber) : Prop where
  here : lines[place]? = some line
  before : line ∈ lines.take place
  first : ∀ earlier < place, ∀ other, lines[earlier]? = some other → other ∉ lines.take earlier

namespace FirstRepeat

variable {lines : List LineNumber} {place : Nat} {line : LineNumber}

theorem unique {place' : Nat} {line' : LineNumber} (repeated : FirstRepeat lines place line)
    (repeated' : FirstRepeat lines place' line') : line = line' := by
  rcases Nat.lt_trichotomy place place' with earlier | same | later
  · exact absurd repeated.before (repeated'.first place earlier line repeated.here)
  · subst same
    exact Option.some.inj (repeated.here.symm.trans repeated'.here)
  · exact absurd repeated'.before (repeated.first place' later line' repeated'.here)

/-- Up to the first place where a line repeats, no line does. -/
theorem nodup_take (repeated : FirstRepeat lines place line) : (lines.take place).Nodup := by
  rw [List.nodup_iff_getElem?_ne_getElem?]
  intro earlier later before within same
  have inside : later < place := by
    rw [List.length_take] at within
    omega
  rw [List.getElem?_take_of_lt (by omega), List.getElem?_take_of_lt inside] at same
  rcases found : lines[later]? with _ | other
  · rw [List.length_take] at within
    rw [List.getElem?_eq_none_iff] at found
    omega
  · apply repeated.first later inside other found
    rw [found] at same
    apply List.mem_of_getElem? (i := earlier)
    rw [List.getElem?_take_of_lt before]
    exact same

/-- The line is among the lines up to the place, and once more at it. -/
theorem two_le_count (repeated : FirstRepeat lines place line) : 2 ≤ lines.count line := by
  have after : line ∈ lines.drop place := by
    apply List.mem_of_getElem? (i := 0)
    rw [List.getElem?_drop]
    exact repeated.here
  have split := congrArg (List.count line) (List.take_append_drop place lines)
  rw [List.count_append] at split
  have := List.count_pos_iff.2 repeated.before
  have := List.count_pos_iff.2 after
  omega

theorem not_nodup (repeated : FirstRepeat lines place line) : ¬lines.Nodup := by
  intro distinct
  have once := List.nodup_iff_count_le_one.1 distinct line
  have twice := repeated.two_le_count
  omega

end FirstRepeat

namespace LineRequest

variable {σ Chip Request : Type}

section Settings

variable {memory : Memory} {seen lines : List LineNumber} {configs : List LineConfig}
  {pairs settings : List (LineNumber × LineConfig)} {error : LineError}

theorem settingsAfter_eq_ok (paired : settingsAfter seen pairs = .ok settings) :
    settings = pairs ∧ (pairs.map (·.1)).Nodup ∧ ∀ line ∈ pairs.map (·.1), line ∉ seen := by
  induction pairs generalizing seen settings with
  | nil =>
      cases paired
      simp
  | cons entry pairs ih =>
      rcases entry with ⟨line, config⟩
      by_cases repeated : line ∈ seen
      · simp [settingsAfter, repeated] at paired
      · simp only [settingsAfter, if_neg repeated] at paired
        rcases rest : settingsAfter (line :: seen) pairs with error | others
        · rw [rest] at paired
          cases paired
        · rw [rest] at paired
          cases paired
          rcases ih rest with ⟨rfl, once, fresh⟩
          refine ⟨rfl, ?_, ?_⟩
          · rw [List.map_cons, List.nodup_cons]
            refine ⟨?_, once⟩
            intro again
            exact fresh line again List.mem_cons_self
          · intro other member
            rw [List.map_cons, List.mem_cons] at member
            rcases member with rfl | member
            · exact repeated
            · intro seenBefore
              exact fresh other member (List.mem_cons_of_mem _ seenBefore)

theorem settings_eq_ok (paired : LineRequest.settings memory lines configs = .ok pairs) :
    pairs = lines.zip configs ∧ (pairs.map (·.1)).Nodup := by
  rw [LineRequest.settings] at paired
  rcases reserved : memory.reserve lines.length 8 with cause | ⟨⟩
  · rw [reserved] at paired
    cases paired
  · rw [reserved] at paired
    rcases settingsAfter_eq_ok paired with ⟨rfl, once, _⟩
    exact ⟨rfl, once⟩

section Recorded

variable (even : lines.length = configs.length) (recorded : memory.reserve lines.length 8 = .ok ())

include even recorded

end Recorded

end Settings

section Checks

variable (backend : LineBackend σ Chip Request) {memory : Memory} (device consumer : String)
  {lines : List LineNumber} {configs : List LineConfig}

/-- The error for a list of configurations that is not as long as that of the lines. -/
def uneven (lines : List LineNumber) (configs : List LineConfig) : LineError :=
  .argumentMismatch
    ⟨"GPIO pin and configuration arrays lengths differ", lines.length, configs.length⟩

section Even

variable (even : lines.length = configs.length)

include even

end Even

end Checks

section Outcomes

variable (backend : LineBackend σ Chip Request) (memory : Memory) (device consumer : String)

/-- What is noted before a chip is opened. -/
def openingRecord (count : Nat) : Record :=
  ⟨.debug, source, s!"linux_gpio: Opening {device} for {count} line(s)"⟩

/-- What is noted once lines have been taken. -/
def takenRecord (lines : List LineNumber) : Record :=
  ⟨.info, source,
    s!"linux_gpio: Requested lines {renderLines lines} on {device} as '{consumer}'"⟩

/-- What taking lines of a chip comes to, with the calls that are made. The chip is opened once, and
its lines are requested at most once. -/
inductive Taking (settings : List (LineNumber × LineConfig)) (world : σ) :
    Outcome (Transcribed σ Chip Request) LineError (LineRequest Chip Request) → Prop where
  | chipRefused {fault : Fault} {reached : σ}
      (failed : backend.openChip device world = (.error fault, reached)) :
      Taking settings world
        ⟨.error (.chipOpenFailed device fault), ⟨reached, [.openChip device]⟩,
          [openingRecord device settings.length]⟩
  | slotsRefused {chip : Chip} {opened : σ} {cause : AllocationError}
      (granted : backend.openChip device world = (.ok chip, opened))
      (refused : memory.reserve settings.length 1 = .error cause) :
      Taking settings world
        ⟨.error (.outOfMemory cause),
          ⟨backend.releaseChip chip opened, [.openChip device, .releaseChip chip]⟩,
          [openingRecord device settings.length]⟩
  | linesRefused {chip : Chip} {opened reached : σ} {fault : Fault}
      (granted : backend.openChip device world = (.ok chip, opened))
      (staged : memory.reserve settings.length 1 = .ok ())
      (failed : backend.requestLines chip consumer settings opened = (.error fault, reached)) :
      Taking settings world
        ⟨.error (.lineRequestFailed device fault),
          ⟨backend.releaseChip chip reached,
            [.openChip device, .requestLines chip consumer settings, .releaseChip chip]⟩,
          [openingRecord device settings.length]⟩
  | taken {chip : Chip} {request : Request} {opened reached : σ}
      (granted : backend.openChip device world = (.ok chip, opened))
      (staged : memory.reserve settings.length 1 = .ok ())
      (requested : backend.requestLines chip consumer settings opened = (.ok request, reached)) :
      Taking settings world
        ⟨.ok ⟨request, chip, List.replicate settings.length none⟩,
          ⟨reached, [.openChip device, .requestLines chip consumer settings]⟩,
          [openingRecord device settings.length, takenRecord device consumer (settings.map (·.1))]⟩

/-- What opening lines comes to, with the calls that are made. As long as a check speaks against it
there are none, and each check is made only if those before it pass. -/
inductive Acquisition (lines : List LineNumber) (configs : List LineConfig) (world : σ) :
    Outcome (Transcribed σ Chip Request) LineError (LineRequest Chip Request) → Prop where
  | uneven (differ : lines.length ≠ configs.length) :
      Acquisition lines configs world ⟨.error (uneven lines configs), ⟨world, []⟩, []⟩
  | unrecorded {cause : AllocationError} (even : lines.length = configs.length)
      (refused : memory.reserve lines.length 8 = .error cause) :
      Acquisition lines configs world ⟨.error (.outOfMemory cause), ⟨world, []⟩, []⟩
  | repeated {place : Nat} {line : LineNumber} (even : lines.length = configs.length)
      (recorded : memory.reserve lines.length 8 = .ok ())
      (again : FirstRepeat lines place line) :
      Acquisition lines configs world ⟨.error (.lineRepeated line), ⟨world, []⟩, []⟩
  | distinct {outcome : Outcome (Transcribed σ Chip Request) LineError (LineRequest Chip Request)}
      (even : lines.length = configs.length)
      (recorded : memory.reserve lines.length 8 = .ok ()) (once : lines.Nodup)
      (taking : Taking backend memory device consumer (lines.zip configs) world outcome) :
      Acquisition lines configs world outcome

variable {backend memory device consumer}
  {outcome : Outcome (Transcribed σ Chip Request) LineError (LineRequest Chip Request)} {world : σ}

section Taking

variable {settings : List (LineNumber × LineConfig)}

theorem Taking.lineCount {request : LineRequest Chip Request}
    (taking : Taking backend memory device consumer settings world outcome)
    (opened : outcome.answer = .ok request) : request.lineCount = settings.length := by
  cases taking with
  | chipRefused failed => cases opened
  | slotsRefused granted refused => cases opened
  | linesRefused granted staged failed => cases opened
  | taken granted staged requested =>
      cases opened
      exact List.length_replicate

end Taking

section Acquisition

variable {lines : List LineNumber} {configs : List LineConfig}

section Even

variable (acquisition : Acquisition backend memory device consumer lines configs world outcome)
  (even : lines.length = configs.length)

include acquisition even

theorem Acquisition.taking (recorded : memory.reserve lines.length 8 = .ok ())
    (once : lines.Nodup) :
    Taking backend memory device consumer (lines.zip configs) world outcome := by
  cases acquisition with
  | uneven differ => exact absurd even differ
  | unrecorded _ refused =>
      rw [recorded] at refused
      cases refused
  | repeated _ _ again => exact absurd once again.not_nodup
  | distinct _ _ _ taking => exact taking

end Even

theorem Acquisition.lineCount {request : LineRequest Chip Request}
    (acquisition : Acquisition backend memory device consumer lines configs world outcome)
    (opened : outcome.answer = .ok request) : request.lineCount = lines.length := by
  cases acquisition with
  | uneven differ => cases opened
  | unrecorded even refused => cases opened
  | repeated even recorded again => cases opened
  | distinct even recorded once taking =>
      rw [taking.lineCount opened, List.length_zip, even, Nat.min_self]

end Acquisition

end Outcomes

end LineRequest

end Pinwire
