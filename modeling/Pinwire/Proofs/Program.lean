import Pinwire.Program

/-!
# Reasoning about programs

Properties of programs that are proved part by part, following the way a program is put together. A
program keeps a part of its state if no run changes it. A program over a detailed state mirrors one
over a plainer state if its runs look like those of the other once the details are left out; in
particular, keeping the details does not change what the program does. Where the plainer state
cannot be computed from the detailed one, two programs can still agree along a relation of their
states.
-/

namespace Pinwire

variable {σ σ' τ τ' ε ε' α α' β β' κ : Type}

namespace Outcome

/-- An outcome with the details of its state and answer left out. -/
def view (look : τ → σ) (read : α → β) (outcome : Outcome τ ε α) : Outcome σ ε β :=
  ⟨outcome.answer.map read, look outcome.state, outcome.journal⟩

theorem answer_view_id (look : τ → σ) (outcome : Outcome τ ε α) :
    (outcome.view look id).answer = outcome.answer :=
  congrFun Except.map_id outcome.answer

end Outcome

namespace Program

theorem ofExcept_ok_bind (value : α) (next : α → Program σ ε β) :
    (ofExcept (.ok value) >>= next) = next value :=
  rfl

theorem ofExcept_mapError_ok_bind (wrap : ε → ε') (value : α) (next : α → Program σ ε' β) :
    (ofExcept ((Except.ok value).mapError wrap) >>= next) = next value :=
  rfl

theorem ofExcept_error_bind (error : ε) (next : α → Program σ ε β) :
    (ofExcept (.error error) >>= next) = fail error :=
  rfl

section Runs

variable {program : Program σ ε α} {start reached : σ} {journal : List Record}

theorem run_current_bind (next : σ → Program σ ε α) (state : σ) :
    (current >>= next).run state = (next state).run state :=
  rfl

theorem run_record_bind (level : Level) (source text : String) (next : Unit → Program σ ε α)
    (state : σ) :
    (record level source text >>= next).run state =
      let outcome := (next ()).run state
      ⟨outcome.answer, outcome.state, ⟨level, source, text⟩ :: outcome.journal⟩ :=
  rfl

theorem run_change_bind (f : σ → σ) (next : Unit → Program σ ε α) (state : σ) :
    (change f >>= next).run state = (next ()).run (f state) :=
  rfl

theorem run_map (f : α → β) (state : σ) :
    (f <$> program).run state =
      let outcome := program.run state
      ⟨outcome.answer.map f, outcome.state, outcome.journal⟩ := by
  rcases outcome : program.run state with ⟨error | value, reached, journal⟩
  · rw [← bind_pure_comp, run_bind_of_error outcome]
    rfl
  · rw [← bind_pure_comp, run_bind_of_ok outcome]
    simp only [run_pure, List.append_nil]
    rfl

theorem state_map (f : α → β) (state : σ) :
    ((f <$> program).run state).state = (program.run state).state := by
  rw [run_map]

theorem run_within (part : τ → σ) (replace : τ → σ → τ) (state : τ) :
    (within part replace program).run state =
      let outcome := program.run (part state)
      ⟨outcome.answer, replace state outcome.state, outcome.journal⟩ :=
  rfl

theorem run_mapError (wrap : ε → ε') (program : Program σ ε α) (state : σ) :
    (mapError wrap program).run state =
      let outcome := program.run state
      ⟨outcome.answer.mapError wrap, outcome.state, outcome.journal⟩ :=
  rfl

theorem mapError_bind (wrap : ε → ε') (first : Program σ ε α) (next : α → Program σ ε β) :
    mapError wrap (first >>= next) =
      mapError wrap first >>= fun value => mapError wrap (next value) := by
  funext state
  rcases outcome : first state with ⟨error | value, reached, journal⟩
  · simp only [mapError, bind, andThen, outcome]
    rfl
  · simp only [mapError, bind, andThen, outcome]
    rfl

theorem map_mapError (wrap : ε → ε') (f : α → β) (program : Program σ ε α) :
    f <$> mapError wrap program = mapError wrap (f <$> program) := by
  rw [← bind_pure_comp, ← bind_pure_comp, mapError_bind]
  rfl

theorem run_attempt (program : Program σ ε α) (state : σ) :
    (attempt program : Program σ ε' (Except ε α)).run state =
      ⟨.ok (program.run state).answer, (program.run state).state, (program.run state).journal⟩ :=
  rfl

theorem run_act_of_ok {action : σ → Except ε' α × σ} (wrap : ε' → ε) {value : α}
    (acted : action start = (.ok value, reached)) :
    (act wrap action).run start = ⟨.ok value, reached, []⟩ := by
  simp only [run, act, acted]
  rfl

theorem run_act_of_error {action : σ → Except ε' α × σ} (wrap : ε' → ε) {error : ε'}
    (failed : action start = (.error error, reached)) :
    (act wrap action).run start = ⟨.error (wrap error), reached, []⟩ := by
  simp only [run, act, failed]
  rfl

theorem run_act_bind_of_ok {action : σ → Except ε' α × σ} {wrap : ε' → ε} {value : α}
    (acted : action start = (.ok value, reached)) (next : α → Program σ ε β) :
    (act wrap action >>= next).run start = (next value).run reached :=
  run_bind_of_ok (run_act_of_ok wrap acted)

theorem run_act_bind_of_error {action : σ → Except ε' α × σ} {wrap : ε' → ε} {error : ε'}
    (failed : action start = (.error error, reached)) (next : α → Program σ ε β) :
    (act wrap action >>= next).run start = ⟨.error (wrap error), reached, []⟩ :=
  run_bind_of_error (run_act_of_error wrap failed)

theorem run_undoing_of_ok {undo : σ → σ} {value : α}
    (answered : program.run start = ⟨.ok value, reached, journal⟩) :
    (undoing undo program).run start = ⟨.ok value, reached, journal⟩ := by
  simp only [run, undoing] at answered ⊢
  rw [answered]

theorem run_undoing_of_error {undo : σ → σ} {error : ε}
    (failed : program.run start = ⟨.error error, reached, journal⟩) :
    (undoing undo program).run start = ⟨.error error, undo reached, journal⟩ := by
  simp only [run, undoing] at failed ⊢
  rw [failed]

end Runs

/-- A program keeps a part of its state if no run changes that part. -/
def Keeps (part : σ → κ) (program : Program σ ε α) : Prop :=
  ∀ state, part (program.run state).state = part state

section Keeps

variable {part : σ → κ}

theorem keeps_pure (answer : α) : Keeps part (pure answer : Program σ ε α) :=
  fun _ => rfl

theorem keeps_fail (error : ε) : Keeps part (fail error : Program σ ε α) :=
  fun _ => rfl

theorem keeps_ofExcept (answer : Except ε α) : Keeps part (ofExcept answer : Program σ ε α) :=
  fun _ => rfl

theorem keeps_record (level : Level) (source text : String) :
    Keeps part (record level source text : Program σ ε Unit) :=
  fun _ => rfl

theorem keeps_current : Keeps part (current : Program σ ε σ) :=
  fun _ => rfl

theorem keeps_change {f : σ → σ} (kept : ∀ state, part (f state) = part state) :
    Keeps part (change f : Program σ ε Unit) :=
  kept

theorem keeps_act {action : σ → Except ε' α × σ} (wrap : ε' → ε)
    (kept : ∀ state, part (action state).2 = part state) : Keeps part (act wrap action) :=
  kept

theorem keeps_mapError {program : Program σ ε α} (wrap : ε → ε') (kept : Keeps part program) :
    Keeps part (mapError wrap program) :=
  kept

theorem keeps_within {outer : τ → κ} {within' : τ → σ} {replace : τ → σ → τ}
    {program : Program σ ε α} (looked : ∀ state, part (within' state) = outer state)
    (replaced : ∀ state inner, outer (replace state inner) = part inner)
    (kept : Keeps part program) : Keeps outer (within within' replace program) := by
  intro state
  exact (replaced state _).trans ((kept (within' state)).trans (looked state))

/-- A sequence keeps what each of its parts keeps. -/
theorem keeps_bind {first : Program σ ε α} {next : α → Program σ ε β}
    (firstKeeps : Keeps part first) (nextKeeps : ∀ value, Keeps part (next value)) :
    Keeps part (first >>= next) := by
  intro state
  have firstKept := firstKeeps state
  rcases outcome : first.run state with ⟨error | value, reached, journal⟩
  · rw [run_bind_of_error outcome]
    rwa [outcome] at firstKept
  · rw [run_bind_of_ok outcome]
    rw [outcome] at firstKept
    exact (nextKeeps value reached).trans firstKept

theorem keeps_map {program : Program σ ε α} (f : α → β) (kept : Keeps part program) :
    Keeps part (f <$> program) :=
  keeps_bind kept fun value => keeps_pure (f value)

end Keeps

/-- A program refuses to run if it fails everywhere in the same way, without changing anything. -/
def Refuses (error : ε) (journal : List Record) (program : Program σ ε α) : Prop :=
  ∀ state, program.run state = ⟨.error error, state, journal⟩

section Refuses

variable {error : ε} {journal : List Record}

theorem refuses_fail (error : ε) : Refuses error [] (fail error : Program σ ε α) :=
  fun _ => rfl

theorem refuses_ofExcept {answer : Except ε α} (failed : answer = .error error) :
    Refuses error [] (ofExcept answer : Program σ ε α) := by
  subst failed
  exact refuses_fail error

theorem refuses_mapError {program : Program σ ε α} (wrap : ε → ε')
    (refused : Refuses error journal program) :
    Refuses (wrap error) journal (mapError wrap program) := by
  intro state
  rw [run_mapError, refused state]
  rfl

theorem refuses_within {part : τ → σ} {replace : τ → σ → τ} {program : Program σ ε α}
    (replaced : ∀ state, replace state (part state) = state)
    (refused : Refuses error journal program) :
    Refuses error journal (within part replace program) := by
  intro state
  rw [run_within, refused (part state)]
  simp only [replaced]

theorem refuses_bind {first : Program σ ε α} {next : α → Program σ ε β}
    (refused : Refuses error journal first) : Refuses error journal (first >>= next) :=
  fun state => run_bind_of_error (refused state)

end Refuses

/-- A program mirrors a plainer one if each of its runs, with the details of state and answer left
out, is a run of the plainer one. -/
def Mirrors (look : τ → σ) (read : α → β) (detailed : Program τ ε α) (plain : Program σ ε β) :
    Prop :=
  ∀ state, plain.run (look state) = (detailed.run state).view look read

section Mirrors

variable {look : τ → σ} {read : α → β}

theorem mirrors_pure {detailed : α} {plain : β} (same : read detailed = plain) :
    Mirrors look read (pure detailed : Program τ ε α) (pure plain) := by
  subst same
  exact fun _ => rfl

theorem mirrors_fail (error : ε) :
    Mirrors look read (fail error : Program τ ε α) (fail error) :=
  fun _ => rfl

theorem mirrors_ofExcept (answer : Except ε α) :
    Mirrors look id (ofExcept answer : Program τ ε α) (ofExcept answer) := by
  intro state
  cases answer with
  | error error => rfl
  | ok value => rfl

theorem mirrors_record (level : Level) (source text : String) :
    Mirrors look id (record level source text : Program τ ε Unit) (record level source text) :=
  fun _ => rfl

theorem mirrors_current : Mirrors look look (current : Program τ ε τ) current :=
  fun _ => rfl

theorem mirrors_change {detailed : τ → τ} {plain : σ → σ}
    (same : ∀ state, plain (look state) = look (detailed state)) :
    Mirrors look id (change detailed : Program τ ε Unit) (change plain) := by
  intro state
  simp only [run, change, Outcome.view, same]
  rfl

theorem mirrors_act {detailed : τ → Except ε' α × τ} {plain : σ → Except ε' β × σ}
    (wrap : ε' → ε)
    (same : ∀ state, plain (look state) =
      ((detailed state).1.map read, look (detailed state).2)) :
    Mirrors look read (act wrap detailed) (act wrap plain) := by
  intro state
  simp only [run, act, same, Outcome.view]
  rcases (detailed state).1 with error | value <;> rfl

theorem mirrors_act_of_same {detailed : τ → Except ε' α × τ} {plain : σ → Except ε' α × σ}
    (wrap : ε' → ε)
    (same : ∀ state, plain (look state) = ((detailed state).1, look (detailed state).2)) :
    Mirrors look id (act wrap detailed) (act wrap plain) := by
  apply mirrors_act
  intro state
  rw [Except.map_id]
  exact same state

theorem mirrors_mapError {detailed : Program τ ε α} {plain : Program σ ε β} (wrap : ε → ε')
    (same : Mirrors look read detailed plain) :
    Mirrors look read (mapError wrap detailed) (mapError wrap plain) := by
  intro state
  have ran := same state
  simp only [run, mapError, Outcome.view] at ran ⊢
  rw [ran]
  rcases (detailed state).answer with error | value <;> rfl

theorem mirrors_attempt {detailed : Program τ ε α} {plain : Program σ ε α}
    (same : Mirrors look id detailed plain) :
    Mirrors look id (attempt detailed : Program τ ε' (Except ε α)) (attempt plain) := by
  intro state
  have ran := same state
  simp only [run, attempt, Outcome.view, Except.map_id, id_eq] at ran ⊢
  rw [ran]

/-- A sequence mirrors another if its parts mirror those of the other one by one. -/
theorem mirrors_bind {read' : α' → β'} {first : Program τ ε α} {next : α → Program τ ε α'}
    {plainFirst : Program σ ε β} {plainNext : β → Program σ ε β'}
    (firstMirrors : Mirrors look read first plainFirst)
    (nextMirrors : ∀ value, Mirrors look read' (next value) (plainNext (read value))) :
    Mirrors look read' (first >>= next) (plainFirst >>= plainNext) := by
  intro state
  have ran := firstMirrors state
  rcases outcome : first.run state with ⟨error | value, reached, journal⟩
  · rw [outcome] at ran
    rw [run_bind_of_error outcome, run_bind_of_error ran]
    rfl
  · rw [outcome] at ran
    rw [run_bind_of_ok outcome, run_bind_of_ok ran]
    simp only [Outcome.view, nextMirrors value reached]

theorem mirrors_map {read' : α' → β'} {detailed : Program τ ε α} {plain : Program σ ε β}
    {f : α → α'} {g : β → β'} (same : Mirrors look read detailed plain)
    (agree : ∀ value, read' (f value) = g (read value)) :
    Mirrors look read' (f <$> detailed) (g <$> plain) :=
  mirrors_bind same fun value => mirrors_pure (agree value)

theorem mirrors_undoing {detailed : Program τ ε α} {plain : Program σ ε β} {undo : τ → τ}
    {plainUndo : σ → σ} (undone : ∀ state, plainUndo (look state) = look (undo state))
    (same : Mirrors look read detailed plain) :
    Mirrors look read (undoing undo detailed) (undoing plainUndo plain) := by
  intro state
  have ran := same state
  rcases outcome : detailed.run state with ⟨error | value, reached, journal⟩ <;>
    simp only [run, undoing, Outcome.view] at ran outcome ⊢ <;>
    simp only [ran, outcome, undone] <;> rfl

/-- Running programs on parts of larger states: they mirror each other if their parts do and are
looked at and put back alike. -/
theorem mirrors_within {look' : τ' → σ'} {detailed : Program τ ε α} {plain : Program σ ε β}
    {part : τ' → τ} {replace : τ' → τ → τ'} {plainPart : σ' → σ} {plainReplace : σ' → σ → σ'}
    (partSame : ∀ state, plainPart (look' state) = look (part state))
    (replaceSame : ∀ state inner,
      plainReplace (look' state) (look inner) = look' (replace state inner))
    (same : Mirrors look read detailed plain) :
    Mirrors look' read (within part replace detailed) (within plainPart plainReplace plain) := by
  intro state
  have ran := same (part state)
  simp only [run, within, Outcome.view, partSame] at ran ⊢
  simp only [ran, replaceSame]

end Mirrors

/-- A program does not depend on its surroundings if it does everywhere what it does alone and
changes nothing. -/
def Bare (program : Program σ ε α) (alone : Program Unit ε α) : Prop :=
  ∀ state, program.run state = ⟨(alone.run ()).answer, state, (alone.run ()).journal⟩

section Bare

theorem bare_pure (answer : α) : Bare (pure answer : Program σ ε α) (pure answer) :=
  fun _ => rfl

theorem bare_fail (error : ε) : Bare (fail error : Program σ ε α) (fail error) :=
  fun _ => rfl

theorem bare_ofExcept (answer : Except ε α) :
    Bare (ofExcept answer : Program σ ε α) (ofExcept answer) :=
  fun _ => rfl

theorem bare_record (level : Level) (source text : String) :
    Bare (record level source text : Program σ ε Unit) (record level source text) :=
  fun _ => rfl

theorem bare_bind {first : Program σ ε α} {next : α → Program σ ε β} {firstAlone : Program Unit ε α}
    {nextAlone : α → Program Unit ε β} (firstBare : Bare first firstAlone)
    (nextBare : ∀ value, Bare (next value) (nextAlone value)) :
    Bare (first >>= next) (firstAlone >>= nextAlone) := by
  intro state
  have ran := firstBare state
  rcases outcome : firstAlone.run () with ⟨error | value, ⟨⟩, journal⟩
  · rw [outcome] at ran
    rw [run_bind_of_error ran, run_bind_of_error outcome]
  · rw [outcome] at ran
    rw [run_bind_of_ok ran, run_bind_of_ok outcome, nextBare value state]

theorem bare_of_mirrors {program : Program σ ε α} {alone : Program Unit ε α}
    (kept : Keeps id program) (same : Mirrors (fun _ => ()) id program alone) :
    Bare program alone := by
  intro state
  have ran := same state
  rcases outcome : program.run state with ⟨answer, reached, journal⟩
  have unchanged : reached = state := by
    have unchanged := kept state
    rwa [outcome] at unchanged
  rw [outcome, Outcome.view, Except.map_id] at ran
  rw [ran, unchanged]
  rfl

theorem refuses_of_bare {program : Program σ ε α} {alone : Program Unit ε α} {error : ε}
    (bare : Bare program alone) (failed : (alone.run ()).answer = .error error) :
    Refuses error (alone.run ()).journal program := by
  intro state
  rw [bare state, failed]

end Bare

section Answers

variable {first : Program σ ε α} {next : α → Program σ ε β} {start : σ}

theorem answer_bind_eq_ok {value : β} :
    ((first >>= next).run start).answer = .ok value ↔
      ∃ middle, (first.run start).answer = .ok middle ∧
        ((next middle).run (first.run start).state).answer = .ok value := by
  rcases outcome : first.run start with ⟨error | middle, reached, journal⟩
  · rw [run_bind_of_error outcome]
    simp
  · rw [run_bind_of_ok outcome]
    simp

theorem answer_map_eq_ok {f : α → β} {value : β} :
    ((f <$> first).run start).answer = .ok value ↔
      ∃ middle, (first.run start).answer = .ok middle ∧ f middle = value := by
  rw [← bind_pure_comp, answer_bind_eq_ok]
  simp [run_pure]

theorem answer_mapError_eq_ok {wrap : ε → ε'} {value : α} :
    ((mapError wrap first).run start).answer = .ok value ↔
      (first.run start).answer = .ok value := by
  change (first.run start).answer.mapError wrap = .ok value ↔ _
  rcases (first.run start).answer with error | answer
  · exact iff_of_false nofun nofun
  · change Except.ok answer = Except.ok value ↔ _
    simp only [Except.ok.injEq]

theorem answer_undoing (undo : σ → σ) :
    ((undoing undo first).run start).answer = (first.run start).answer := by
  rcases outcome : first.run start with ⟨error | value, reached, journal⟩
  · rw [run_undoing_of_error outcome]
  · rw [run_undoing_of_ok outcome]

theorem run_bind_eq_ok {value : β} {reached : σ} {journal : List Record} :
    (first >>= next).run start = ⟨.ok value, reached, journal⟩ ↔
      ∃ middle between noted noted', first.run start = ⟨.ok middle, between, noted⟩ ∧
        (next middle).run between = ⟨.ok value, reached, noted'⟩ ∧ journal = noted ++ noted' := by
  rcases outcome : first.run start with ⟨error | middle, between, noted⟩
  · rw [run_bind_of_error outcome]
    simp
  · rw [run_bind_of_ok outcome]
    rcases rest : (next middle).run between with ⟨answer, final, noted'⟩
    constructor
    · intro ran
      cases ran
      exact ⟨middle, between, noted, noted', rfl, rest, rfl⟩
    · rintro ⟨_, _, _, _, same, ran, rfl⟩
      cases same
      rw [rest] at ran
      cases ran
      rfl

theorem run_act_eq_ok {wrap : ε' → ε} {action : σ → Except ε' α × σ} {value : α} {reached : σ}
    {journal : List Record} :
    (act wrap action).run start = ⟨.ok value, reached, journal⟩ ↔
      action start = (.ok value, reached) ∧ journal = [] := by
  rcases acted : action start with ⟨fault | answer, final⟩
  · rw [run_act_of_error wrap acted]
    simp
  · rw [run_act_of_ok wrap acted]
    simp [and_assoc, eq_comm]

theorem run_undoing_eq_ok {undo : σ → σ} {value : α} {reached : σ} {journal : List Record} :
    (undoing undo first).run start = ⟨.ok value, reached, journal⟩ ↔
      first.run start = ⟨.ok value, reached, journal⟩ := by
  rcases outcome : first.run start with ⟨error | answer, final, noted⟩
  · rw [run_undoing_of_error outcome]
    simp
  · rw [run_undoing_of_ok outcome]

end Answers

/-- Carries out programs in order. One that fails does not keep the others from being carried
out. -/
def attemptAll : List (Program σ ε α) → Program σ ε' (List (Except ε α))
  | [] => pure []
  | program :: programs => do
    let answer ← program.attempt
    let answers ← attemptAll programs
    pure (answer :: answers)

theorem run_attemptAll_cons (program : Program σ ε α) (programs : List (Program σ ε α))
    (state : σ) :
    (attemptAll (program :: programs) : Program σ ε' _).run state =
      let first := program.run state
      let rest := (attemptAll programs : Program σ ε' _).run first.state
      ⟨rest.answer.map (first.answer :: ·), rest.state, first.journal ++ rest.journal⟩ := by
  rw [attemptAll, run_bind_of_ok (run_attempt program state)]
  rcases outcome : (attemptAll programs : Program σ ε' _).run (program.run state).state with
    ⟨error | answers, reached, journal⟩
  · rw [run_bind_of_error outcome]
    simp only [outcome]
    rfl
  · rw [run_bind_of_ok outcome]
    simp only [outcome, run_pure, List.append_nil]
    rfl

/-- Two programs agree along a relation of their states if from related states they answer alike,
make the same records and reach related states. -/
def Agrees (related : τ → σ → Prop) (first : Program τ ε α) (second : Program σ ε α) : Prop :=
  ∀ state state', related state state' →
    (first.run state).answer = (second.run state').answer ∧
      related (first.run state).state (second.run state').state ∧
      (first.run state).journal = (second.run state').journal

section Agrees

variable {related : τ → σ → Prop} {first : Program τ ε α} {second : Program σ ε α}

theorem agrees_map (f : α → β) (agree : Agrees related first second) :
    Agrees related (f <$> first) (f <$> second) := by
  intro state state' there
  rcases agree state state' there with ⟨answered, reached, noted⟩
  rcases outcome : first.run state with ⟨error | value, after, journal⟩ <;>
    rcases outcome' : second.run state' with ⟨error' | value', after', journal'⟩ <;>
    rw [outcome, outcome'] at answered reached noted <;>
    simp only [Except.ok.injEq, Except.error.injEq, reduceCtorEq] at answered
  · rw [← bind_pure_comp, ← bind_pure_comp, run_bind_of_error outcome, run_bind_of_error outcome']
    exact ⟨congrArg Except.error answered, reached, noted⟩
  · rw [← bind_pure_comp, ← bind_pure_comp, run_bind_of_ok outcome, run_bind_of_ok outcome']
    simp only [run_pure, List.append_nil]
    exact ⟨congrArg (Except.ok ∘ f) answered, reached, noted⟩

/-- Programs that agree one by one agree as a whole. -/
theorem agrees_attemptAll {ι : Type} {firsts : ι → Program τ ε α} {seconds : ι → Program σ ε α}
    (each : ∀ item, Agrees related (firsts item) (seconds item)) (items : List ι) :
    Agrees related (attemptAll (items.map firsts) : Program τ ε' _)
      (attemptAll (items.map seconds)) := by
  induction items with
  | nil =>
      intro state state' there
      exact ⟨rfl, there, rfl⟩
  | cons item items ih =>
      intro state state' there
      rcases each item state state' there with ⟨answered, reached, noted⟩
      rcases ih _ _ reached with ⟨answeredRest, reachedRest, notedRest⟩
      simp only [List.map_cons, run_attemptAll_cons]
      rw [answered, answeredRest, noted, notedRest]
      exact ⟨rfl, reachedRest, rfl⟩

end Agrees

theorem mirrors_attemptAll {ι : Type} {look : τ → σ} {detailed : ι → Program τ ε α}
    {plain : ι → Program σ ε α} (each : ∀ item, Mirrors look id (detailed item) (plain item))
    (items : List ι) :
    Mirrors look id (attemptAll (items.map detailed) : Program τ ε' _)
      (attemptAll (items.map plain)) := by
  induction items with
  | nil => exact mirrors_pure rfl
  | cons item items ih =>
      exact mirrors_bind (mirrors_attempt (each item)) fun _ =>
        mirrors_bind ih fun _ => mirrors_pure rfl

end Program

end Pinwire
