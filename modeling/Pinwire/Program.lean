import Pinwire.Journal

/-!
# Programs over a state

A program is run from a state of its surroundings and ends with an answer or an error, a new state
and the journal records it made on the way. A failing program keeps both the state it reached and
its records: what was done before a failure stays done.
-/

namespace Pinwire

/-- What one run of a program leaves behind. -/
structure Outcome (σ ε α : Type) where
  answer : Except ε α
  state : σ
  journal : List Record

/-- A program over the state `σ` that answers with `α` or fails with `ε`. -/
def Program (σ ε α : Type) : Type :=
  σ → Outcome σ ε α

namespace Program

variable {σ τ ε ε' α β : Type}

def run (program : Program σ ε α) (state : σ) : Outcome σ ε α :=
  program state

def done (answer : α) : Program σ ε α := fun state =>
  ⟨.ok answer, state, []⟩

def fail (error : ε) : Program σ ε α := fun state =>
  ⟨.error error, state, []⟩

/-- Runs a program and, if it answers, the one that its answer selects. -/
def andThen (first : Program σ ε α) (next : α → Program σ ε β) : Program σ ε β := fun state =>
  let ⟨answer, reached, journal⟩ := first state
  match answer with
  | .error error => ⟨.error error, reached, journal⟩
  | .ok value =>
    let final := next value reached
    ⟨final.answer, final.state, journal ++ final.journal⟩

instance : Monad (Program σ ε) where
  pure := done
  bind := andThen

theorem run_pure (answer : α) (state : σ) :
    (pure answer : Program σ ε α).run state = ⟨.ok answer, state, []⟩ := rfl

/-- Running a program after one that answers: the second starts where the first ended, and its
records follow those of the first. -/
theorem run_bind_of_ok {first : Program σ ε α} {next : α → Program σ ε β} {start reached : σ}
    {value : α} {journal : List Record}
    (answered : first.run start = ⟨.ok value, reached, journal⟩) :
    (first >>= next).run start =
      { (next value).run reached with
        journal := journal ++ ((next value).run reached).journal } := by
  simp only [run, bind, andThen] at answered ⊢
  rw [answered]

/-- Running a program after one that fails: the second does not run. -/
theorem run_bind_of_error {first : Program σ ε α} {next : α → Program σ ε β} {start reached : σ}
    {error : ε} {journal : List Record}
    (failed : first.run start = ⟨.error error, reached, journal⟩) :
    (first >>= next).run start = ⟨.error error, reached, journal⟩ := by
  simp only [run, bind, andThen] at failed ⊢
  rw [failed]

instance : LawfulMonad (Program σ ε) := by
  refine LawfulMonad.mk' _ (fun program => ?_) (fun value next => ?_) (fun first second third => ?_)
  · funext start
    rcases outcome : program start with ⟨_ | _, _, _⟩ <;>
      simp [Functor.map, andThen, done, outcome]
  · funext start
    simp [pure, done, bind, andThen]
  · funext start
    simp only [bind, andThen]
    rcases outcome : first start with ⟨_ | value, reached, _⟩
    · rfl
    · rcases inner : second value reached with ⟨_ | _, _, _⟩ <;> simp [inner]

def ofExcept (answer : Except ε α) : Program σ ε α := fun state =>
  ⟨answer, state, []⟩

def record (level : Level) (source text : String) : Program σ ε Unit := fun state =>
  ⟨.ok (), state, [⟨level, source, text⟩]⟩

/-- Acts on the state; the error of a failed action is put in context by `wrap`. -/
def act (wrap : ε' → ε) (action : σ → Except ε' α × σ) : Program σ ε α := fun state =>
  let (answer, reached) := action state
  ⟨answer.mapError wrap, reached, []⟩

def change (f : σ → σ) : Program σ ε Unit := fun state =>
  ⟨.ok (), f state, []⟩

def current : Program σ ε σ := fun state =>
  ⟨.ok state, state, []⟩

/-- The same program with every error put in context. -/
def mapError (wrap : ε → ε') (program : Program σ ε α) : Program σ ε' α := fun state =>
  let ⟨answer, reached, journal⟩ := program state
  ⟨answer.mapError wrap, reached, journal⟩

/-- The same program with its success or failure as the answer. -/
def attempt (program : Program σ ε α) : Program σ ε' (Except ε α) := fun state =>
  let ⟨answer, reached, journal⟩ := program state
  ⟨.ok answer, reached, journal⟩

/-- Runs a program on a part of a larger state. -/
def within (part : τ → σ) (replace : τ → σ → τ) (program : Program σ ε α) : Program τ ε α :=
  fun state =>
    let ⟨answer, reached, journal⟩ := program (part state)
    ⟨answer, replace state reached, journal⟩

/-- The same program, except that a failure is followed by `undo` on the state it reached. -/
def undoing (undo : σ → σ) (program : Program σ ε α) : Program σ ε α := fun state =>
  let ⟨answer, reached, journal⟩ := program state
  match answer with
  | .ok value => ⟨.ok value, reached, journal⟩
  | .error error => ⟨.error error, undo reached, journal⟩

end Program

end Pinwire
