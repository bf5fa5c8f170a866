import Pinwire.Proofs.Program
import Pinwire.Proofs.Spi.BufferSize

/-!
# The life of a chunk limit

A limit is asked for and resolved any number of times, each time with another reader. Readers that
fail, and texts that are no usable size, leave no trace in it: the first usable size settles it for
good, whenever that comes, and from then on no reader is asked any more.

Readers are counted beside the world that they act on, which changes nothing of what they do.
-/

namespace Pinwire

namespace ChunkLimit

variable {σ ε : Type}

/-- The journal record of a size that was read. -/
def sizeRecord (size : Nat) : Record where
  level := .debug
  source := source
  text := s!"linux_spi: Max kernel buffer size: {size} bytes"

section Runs

variable {reader : Program σ SpiError String} {world reached : σ} {text : String} {size : Nat}
  {error : SpiError} {journal : List Record}

theorem run_readSize_of_unread (failed : reader.run world = ⟨.error error, reached, journal⟩) :
    (readSize reader).run world = ⟨.error error, reached, journal⟩ :=
  Program.run_bind_of_error failed

theorem run_readSize_of_invalid (said : reader.run world = ⟨.ok text, reached, journal⟩)
    (refused : parse text = .error error) :
    (readSize reader).run world = ⟨.error error, reached, journal⟩ := by
  rw [readSize, Program.run_bind_of_ok said, refused, Program.ofExcept_error_bind]
  simp only [Program.run, Program.fail, List.append_nil]

theorem run_readSize_of_valid (said : reader.run world = ⟨.ok text, reached, journal⟩)
    (read : parse text = .ok size) :
    (readSize reader).run world = ⟨.ok size, reached, journal ++ [sizeRecord size]⟩ := by
  rw [readSize, Program.run_bind_of_ok said, read, Program.ofExcept_ok_bind]
  rfl

theorem run_resolve_of_known (reader : Program σ SpiError String) (size : Nat) (world : σ) :
    (resolve reader).run (⟨some size⟩, world) = ⟨.ok size, (⟨some size⟩, world), []⟩ :=
  rfl

theorem run_resolve_of_error (failed : (readSize reader).run world =
      ⟨.error error, reached, journal⟩) :
    (resolve reader).run (.unresolved, world) =
      ⟨.error error, (.unresolved, reached), journal⟩ := by
  have ran : (Program.within (·.2) (fun start world => (start.1, world)) (readSize reader)).run
      ((.unresolved, world) : ChunkLimit × σ) =
      ⟨.error error, (.unresolved, reached), journal⟩ := by
    rw [Program.run_within, failed]
  simp only [resolve, Program.run_current_bind]
  exact Program.run_bind_of_error ran

theorem run_resolve_of_ok (read : (readSize reader).run world = ⟨.ok size, reached, journal⟩) :
    (resolve reader).run (.unresolved, world) = ⟨.ok size, (⟨some size⟩, reached), journal⟩ := by
  have ran : (Program.within (·.2) (fun start world => (start.1, world)) (readSize reader)).run
      ((.unresolved, world) : ChunkLimit × σ) = ⟨.ok size, (.unresolved, reached), journal⟩ := by
    rw [Program.run_within, read]
  simp only [resolve, Program.run_current_bind]
  refine (Program.run_bind_of_ok ran).trans ?_
  simp only [Program.run_change_bind, Program.run_pure, List.append_nil]

end Runs

section Surroundings

variable {τ κ : Type}

theorem keeps_resolve {part : σ → κ} {reader : Program σ SpiError String}
    (kept : Program.Keeps part reader) :
    Program.Keeps (fun process : ChunkLimit × σ => part process.2) (resolve reader) := by
  refine Program.keeps_bind Program.keeps_current ?_
  rintro ⟨⟨_ | size⟩, world⟩
  · have keptSize : Program.Keeps part (readSize reader) :=
      Program.keeps_bind kept fun _ => Program.keeps_bind (Program.keeps_ofExcept _) fun _ =>
        Program.keeps_bind (Program.keeps_record _ _ _) fun _ => Program.keeps_pure _
    exact Program.keeps_bind (Program.keeps_within (fun _ => rfl) (fun _ _ => rfl) keptSize)
      fun _ => Program.keeps_bind (Program.keeps_change fun _ => rfl) fun _ =>
      Program.keeps_pure _
  · exact Program.keeps_pure _

theorem mirrors_resolve {look : τ → σ} {detailed : Program τ SpiError String}
    {plain : Program σ SpiError String} (same : Program.Mirrors look id detailed plain) :
    Program.Mirrors (fun process : ChunkLimit × τ => (process.1, look process.2)) id
      (resolve detailed) (resolve plain) := by
  refine Program.mirrors_bind Program.mirrors_current ?_
  rintro ⟨⟨_ | size⟩, world⟩
  · have sameSize : Program.Mirrors look id (readSize detailed) (readSize plain) :=
      Program.mirrors_bind same fun _ => Program.mirrors_bind (Program.mirrors_ofExcept _) fun _ =>
        Program.mirrors_bind (Program.mirrors_record _ _ _) fun _ => Program.mirrors_pure rfl
    exact Program.mirrors_bind (Program.mirrors_within (fun _ => rfl) (fun _ _ => rfl) sameSize)
      fun _ => Program.mirrors_bind (Program.mirrors_change fun _ => rfl) fun _ =>
      Program.mirrors_pure rfl
  · exact Program.mirrors_pure rfl

end Surroundings

/-- A use of a limit: asking what is known of it, or resolving it with a reader. -/
inductive Use (σ : Type) where
  | get
  | resolve (reader : Program σ SpiError String)

/-- A world, and how many times a reader was asked in it. -/
structure Counted (σ : Type) where
  world : σ
  reads : Nat

/-- The same reader, counted. -/
def counting (reader : Program σ SpiError String) : Program (Counted σ) SpiError String := do
  .change fun counted => { counted with reads := counted.reads + 1 }
  .within (·.world) (fun counted world => { counted with world }) reader

namespace Use

/-- Answers with the size, if it is known in the end. -/
def perform : Use σ → Program (ChunkLimit × σ) SpiError (Option Nat)
  | get => (fun process => process.1.resolved) <$> .current
  | resolve reader => some <$> ChunkLimit.resolve reader

def counted : Use σ → Use (Counted σ)
  | get => get
  | resolve reader => resolve (counting reader)

/-- How many of some uses resolve the limit. -/
def resolves (uses : List (Use σ)) : Nat :=
  uses.countP fun
    | get => false
    | resolve _ => true

def performAll (uses : List (Use σ)) :
    Program (ChunkLimit × σ) ε (List (Except SpiError (Option Nat))) :=
  .attemptAll (uses.map perform)

end Use

/-- Uses that leave a limit unresolved, from one world to another: what each of them answers, and
what their readers note. -/
inductive Fruitless :
    List (Use σ) → σ → List (Except SpiError (Option Nat)) → σ → List Record → Prop where
  | nothing (world : σ) : Fruitless [] world [] world []
  | get {uses : List (Use σ)} {world reached : σ} {answers : List (Except SpiError (Option Nat))}
      {journal : List Record} (rest : Fruitless uses world answers reached journal) :
      Fruitless (.get :: uses) world (.ok none :: answers) reached journal
  /-- A reader fails, and its error is the answer. -/
  | unread {uses : List (Use σ)} {reader : Program σ SpiError String} {world between reached : σ}
      {error : SpiError} {answers : List (Except SpiError (Option Nat))}
      {noted journal : List Record} (failed : reader.run world = ⟨.error error, between, noted⟩)
      (rest : Fruitless uses between answers reached journal) :
      Fruitless (.resolve reader :: uses) world (.error error :: answers) reached (noted ++ journal)
  /-- A reader's text is no usable size, and the answer says so of this text. -/
  | invalid {uses : List (Use σ)} {reader : Program σ SpiError String} {world between reached : σ}
      {text : String} {answers : List (Except SpiError (Option Nat))} {noted journal : List Record}
      (said : reader.run world = ⟨.ok text, between, noted⟩)
      (unusable : ∀ size, parse text ≠ .ok size)
      (rest : Fruitless uses between answers reached journal) :
      Fruitless (.resolve reader :: uses) world
        (.error (.bufferSizeInvalid (String.ofList (Text.trim text.toList))) :: answers) reached
        (noted ++ journal)

/-- What some uses come to of a limit that is not resolved at first, in a world in which readers may
have been counted before. -/
inductive Course (uses : List (Use σ)) (start : Counted σ) :
    Outcome (ChunkLimit × Counted σ) ε (List (Except SpiError (Option Nat))) → Prop where
  /-- Every reader is asked, and none of them gives a usable size. -/
  | unresolved {answers : List (Except SpiError (Option Nat))} {reached : σ} {journal : List Record}
      (fruitless : Fruitless uses start.world answers reached journal) :
      Course uses start
        ⟨.ok answers, (.unresolved, ⟨reached, start.reads + Use.resolves uses⟩), journal⟩
  /-- The first reader that gives a usable size is the last one that is asked. The size is noted
  then, and it is the answer to this use and to all later ones. -/
  | resolved {earlier later : List (Use σ)} {reader : Program σ SpiError String}
      {answers : List (Except SpiError (Option Nat))} {between reached : σ} {text : String}
      {size : Nat} {journal noted : List Record}
      (parts : uses = earlier ++ .resolve reader :: later)
      (fruitless : Fruitless earlier start.world answers between journal)
      (said : reader.run between = ⟨.ok text, reached, noted⟩) (usable : parse text = .ok size)
      (positive : 0 < size) (fits : size ≤ Bounds.signed32) :
      Course uses start
        ⟨.ok (answers ++ .ok (some size) :: later.map fun _ => .ok (some size)),
          (⟨some size⟩, ⟨reached, start.reads + Use.resolves earlier + 1⟩),
          journal ++ noted ++ [sizeRecord size]⟩

namespace Course

variable {uses : List (Use σ)} {start : Counted σ}
  {outcome : Outcome (ChunkLimit × Counted σ) ε (List (Except SpiError (Option Nat)))}

theorem get (rest : Course uses start outcome) :
    Course (.get :: uses) start
      ⟨outcome.answer.map (.ok none :: ·), outcome.state, outcome.journal⟩ := by
  cases rest with
  | unresolved fruitless => exact .unresolved fruitless.get
  | resolved parts fruitless said usable positive fits =>
      subst parts
      exact .resolved (List.cons_append ..).symm fruitless.get said usable positive fits

/-- A resolution that leaves the limit unresolved comes before the rest, with its own answer. -/
theorem resolve {reader : Program σ SpiError String} {between : σ} {error : SpiError}
    {noted : List Record}
    (failed : ∀ {uses answers reached journal},
      Fruitless uses between answers reached journal →
        Fruitless (.resolve reader :: uses) start.world (.error error :: answers) reached
          (noted ++ journal))
    (rest : Course uses ⟨between, start.reads + 1⟩ outcome) :
    Course (.resolve reader :: uses) start
      ⟨outcome.answer.map (.error error :: ·), outcome.state, noted ++ outcome.journal⟩ := by
  have resolves_cons (uses : List (Use σ)) :
      Use.resolves (.resolve reader :: uses) = Use.resolves uses + 1 :=
    List.countP_cons_of_pos rfl
  cases rest with
  | unresolved fruitless =>
      have reads : start.reads + 1 + Use.resolves uses =
          start.reads + Use.resolves (.resolve reader :: uses) := by
        rw [resolves_cons]
        omega
      simp only [reads]
      exact .unresolved (failed fruitless)
  | @resolved earlier later _ _ _ _ _ _ journal noted' parts fruitless said usable positive fits =>
      subst parts
      have reads : start.reads + 1 + Use.resolves earlier + 1 =
          start.reads + Use.resolves (.resolve reader :: earlier) + 1 := by
        rw [resolves_cons]
        omega
      simp only [reads, ← List.append_assoc]
      exact .resolved (List.cons_append ..).symm (failed fruitless) said usable positive fits

end Course

section Lives

theorem run_counting (reader : Program σ SpiError String) (counted : Counted σ) :
    (counting reader).run counted =
      let outcome := reader.run counted.world
      ⟨outcome.answer, ⟨outcome.state, counted.reads + 1⟩, outcome.journal⟩ :=
  rfl

theorem run_readSize_counting (reader : Program σ SpiError String) (counted : Counted σ) :
    (readSize (counting reader)).run counted =
      let outcome := (readSize reader).run counted.world
      ⟨outcome.answer, ⟨outcome.state, counted.reads + 1⟩, outcome.journal⟩ := by
  have asked := run_counting reader counted
  rcases said : reader.run counted.world with ⟨error | text, reached, noted⟩
  · rw [said] at asked
    rw [run_readSize_of_unread asked, run_readSize_of_unread said]
  · rw [said] at asked
    rcases read : parse text with error | size
    · rw [run_readSize_of_invalid asked read, run_readSize_of_invalid said read]
    · rw [run_readSize_of_valid asked read, run_readSize_of_valid said read]

/-- A limit that is known answers every use with its size, and nothing else happens. -/
theorem run_performAll_of_known (uses : List (Use σ)) (size : Nat) (world : σ) :
    (Use.performAll uses : Program _ ε _).run (⟨some size⟩, world) =
      ⟨.ok (uses.map fun _ => .ok (some size)), (⟨some size⟩, world), []⟩ := by
  induction uses with
  | nil => rfl
  | cons use uses ih =>
      have performed : use.perform.run (⟨some size⟩, world) =
          ⟨.ok (some size), (⟨some size⟩, world), []⟩ := by
        cases use with
        | get => rfl
        | resolve reader =>
            rw [Use.perform, Program.run_map, run_resolve_of_known]
            rfl
      rw [Use.performAll] at ih ⊢
      simp only [List.map_cons, Program.run_attemptAll_cons, performed, ih]
      rfl

section Resolution

variable {reader : Program σ SpiError String} {counted : Counted σ} {reached : σ}
  {noted : List Record}

theorem run_performAll_of_error {error : SpiError} (uses : List (Use σ))
    (failed : (readSize reader).run counted.world = ⟨.error error, reached, noted⟩) :
    (Use.performAll ((Use.resolve reader :: uses).map Use.counted) : Program _ ε _).run
        (.unresolved, counted) =
      let rest := (Use.performAll (uses.map Use.counted) : Program _ ε _).run
        (.unresolved, ⟨reached, counted.reads + 1⟩)
      ⟨rest.answer.map (.error error :: ·), rest.state, noted ++ rest.journal⟩ := by
  have read := run_readSize_counting reader counted
  rw [failed] at read
  have performed : ((Use.resolve reader).counted.perform).run (.unresolved, counted) =
      ⟨.error error, (.unresolved, ⟨reached, counted.reads + 1⟩), noted⟩ := by
    rw [Use.counted, Use.perform, Program.run_map, run_resolve_of_error read]
    rfl
  simp only [Use.performAll, List.map_cons, Program.run_attemptAll_cons, performed]

theorem run_performAll_of_ok {size : Nat} (uses : List (Use σ))
    (read : (readSize reader).run counted.world = ⟨.ok size, reached, noted⟩) :
    (Use.performAll ((Use.resolve reader :: uses).map Use.counted) : Program _ ε _).run
        (.unresolved, counted) =
      ⟨.ok (.ok (some size) :: uses.map fun _ => .ok (some size)),
        (⟨some size⟩, ⟨reached, counted.reads + 1⟩), noted⟩ := by
  have readCounting := run_readSize_counting reader counted
  rw [read] at readCounting
  have performed : ((Use.resolve reader).counted.perform).run (.unresolved, counted) =
      ⟨.ok (some size), (⟨some size⟩, ⟨reached, counted.reads + 1⟩), noted⟩ := by
    rw [Use.counted, Use.perform, Program.run_map, run_resolve_of_ok readCounting]
    rfl
  have known := run_performAll_of_known (ε := ε) (uses.map Use.counted) size
    (⟨reached, counted.reads + 1⟩ : Counted σ)
  rw [Use.performAll] at known ⊢
  simp only [List.map_cons, Program.run_attemptAll_cons, performed, known, List.append_nil]
  rw [List.map_map]
  rfl

end Resolution

theorem run_performAll_of_get (uses : List (Use σ)) (counted : Counted σ) :
    (Use.performAll ((Use.get :: uses).map Use.counted) : Program _ ε _).run
        (.unresolved, counted) =
      let rest := (Use.performAll (uses.map Use.counted) : Program _ ε _).run (.unresolved, counted)
      ⟨rest.answer.map (.ok none :: ·), rest.state, rest.journal⟩ := by
  simp only [Use.performAll, List.map_cons, Program.run_attemptAll_cons]
  rfl

theorem course_performAll (uses : List (Use σ)) (start : Counted σ) :
    Course uses start ((Use.performAll (uses.map Use.counted) : Program _ ε _).run
      (.unresolved, start)) := by
  -- The limit is unresolved before each use: the first usable size ends the induction, as what
  -- comes after it is answered by the limit alone.
  induction uses generalizing start with
  | nil => exact .unresolved (.nothing start.world)
  | cons use uses ih =>
      cases use with
      | get =>
          rw [run_performAll_of_get]
          exact (ih start).get
      | resolve reader =>
          rcases said : reader.run start.world with ⟨error | text, between, noted⟩
          · rw [run_performAll_of_error uses (run_readSize_of_unread said)]
            exact (ih ⟨between, start.reads + 1⟩).resolve fun rest => .unread said rest
          rcases read : parse text with error | size
          · rw [run_performAll_of_error uses (run_readSize_of_invalid said read),
              parse_eq_error read]
            have unusable : ∀ size, parse text ≠ .ok size := by simp [read]
            exact (ih ⟨between, start.reads + 1⟩).resolve fun rest => .invalid said unusable rest
          · rw [run_performAll_of_ok uses (run_readSize_of_valid said read)]
            have bounds := parse_bounds read
            exact .resolved rfl (.nothing start.world) said read bounds.1 bounds.2

end Lives

/-- The first usable size settles a limit for good, whatever the readers do.
1. Counting the readers changes neither answers nor limit nor world nor journal.
2. As long as no reader gives a usable size the limit stays unresolved, every reader is asked, and a
   resolution answers with the error of its own reader or of its own text. The first usable size
   lies between one and the largest signed 32-bit number. It is noted in the journal, this once; it
   is the answer to this and every later use, and no reader is asked after it.

As the uses are arbitrary, this holds at every moment of a longer life. -/
theorem settled_by_first_usable_size (uses : List (Use σ)) (world : σ) :
    let outcome := (Use.performAll (uses.map Use.counted) : Program _ ε _).run
      (.unresolved, ⟨world, 0⟩)
    (Use.performAll uses).run (.unresolved, world) =
        outcome.view (fun process => (process.1, process.2.world)) id ∧
      Course uses ⟨world, 0⟩ outcome := by
  intro outcome
  have mirrorsPerform (use : Use σ) :
      Program.Mirrors (fun process : ChunkLimit × Counted σ => (process.1, process.2.world)) id
        use.counted.perform use.perform := by
    cases use with
    | get => exact Program.mirrors_map Program.mirrors_current fun _ => rfl
    | resolve reader =>
        have mirrorsReader : Program.Mirrors Counted.world id (counting reader) reader :=
          fun counted => by
            rw [run_counting, Outcome.view, Except.map_id]
            rfl
        exact Program.mirrors_map (mirrors_resolve mirrorsReader) fun _ => rfl
  refine ⟨?_, course_performAll uses ⟨world, 0⟩⟩
  simp only [outcome, Use.performAll, List.map_map]
  exact Program.mirrors_attemptAll mirrorsPerform uses (.unresolved, ⟨world, 0⟩)

end ChunkLimit

end Pinwire
