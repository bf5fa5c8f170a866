import Pinwire.Line.Session
import Pinwire.Proofs.Line.Ledger
import Pinwire.Proofs.Line.Programs

/-!
# Keeping a ledger

Any backend can be made to keep a ledger: the same calls reach the same world, and beside them the
ledger is written and chips and requests carry their numbers. This file shows that nothing that a
session does depends on the ledger, so that what is shown of sessions with a ledger holds of those
without one.
-/

namespace Pinwire

/-- A value under the number that it was handed out with. -/
structure Numbered (α : Type) where
  value : α
  number : Nat
  deriving Repr, DecidableEq

/-- A world together with the ledger of its backend. -/
structure Accounted (σ : Type) where
  world : σ
  ledger : Ledger

/-- A request whose lines and chip carry their numbers. -/
abbrev NumberedRequest (Chip Request : Type) :=
  LineRequest (Numbered Chip) (Numbered Request)

/-- A session over a backend that keeps a ledger. -/
abbrev AccountedSession (σ Chip Request : Type) :=
  LineSession (Accounted σ) (Numbered Chip) (Numbered Request)

namespace LineBackend

variable {σ Chip Request : Type}

/-- The same backend, keeping a ledger. -/
def accounted (backend : LineBackend σ Chip Request) :
    LineBackend (Accounted σ) (Numbered Chip) (Numbered Request) where
  openChip path accounted :=
    match backend.openChip path accounted.world with
    | (.ok chip, world) =>
        let number := accounted.ledger.next .chip
        (.ok ⟨chip, number⟩, ⟨world, accounted.ledger ++ [.granted .chip number]⟩)
    | (.error fault, world) => (.error fault, ⟨world, accounted.ledger ++ [.refused .chip fault]⟩)
  requestLines chip consumer settings accounted :=
    match backend.requestLines chip.value consumer settings accounted.world with
    | (.ok request, world) =>
        let number := accounted.ledger.next .lines
        (.ok ⟨request, number⟩, ⟨world, accounted.ledger ++ [.granted .lines number]⟩)
    | (.error fault, world) => (.error fault, ⟨world, accounted.ledger ++ [.refused .lines fault]⟩)
  readLines request lines slots accounted :=
    let (answer, world) := backend.readLines request.value lines slots accounted.world
    (answer, { accounted with world })
  writeLines request lines slots accounted :=
    let (answer, world) := backend.writeLines request.value lines slots accounted.world
    (answer, { accounted with world })
  releaseRequest request accounted :=
    ⟨backend.releaseRequest request.value accounted.world,
      accounted.ledger ++ [.released .lines request.number]⟩
  releaseChip chip accounted :=
    ⟨backend.releaseChip chip.value accounted.world,
      accounted.ledger ++ [.released .chip chip.number]⟩

theorem opensLike_accounted (backend : LineBackend σ Chip Request) :
    LineBackend.OpensLike Accounted.world Numbered.value Numbered.value backend.accounted
      backend where
  openChip path state := by
    simp only [accounted]
    rcases backend.openChip path state.world with ⟨fault | chip, world⟩ <;> rfl
  requestLines chip consumer settings state := by
    simp only [accounted]
    rcases backend.requestLines chip.value consumer settings state.world with
      ⟨fault | request, world⟩ <;> rfl
  releaseChip _ _ := rfl

end LineBackend

namespace LineRequest

variable {σ Chip Request : Type}

/-- A request without its numbers. -/
def plain (request : NumberedRequest Chip Request) : LineRequest Chip Request :=
  ⟨request.request.value, request.chip.value, request.slots⟩

/-- The numbers of a request. -/
def held (request : NumberedRequest Chip Request) : Held :=
  ⟨request.chip.number, request.request.number⟩

def plainState (state : NumberedRequest Chip Request × Accounted σ) :
    LineRequest Chip Request × σ :=
  (state.1.plain, state.2.world)

section Mirrors

variable (backend : LineBackend σ Chip Request) (memory : Memory)

theorem mirrors_acquire (device consumer : String) (lines : List LineNumber)
    (configs : List LineConfig) :
    Program.Mirrors Accounted.world plain
      (acquire backend.accounted memory device consumer lines configs)
      (acquire backend memory device consumer lines configs) :=
  mirrors_acquire_of_opensLike backend.opensLike_accounted memory device consumer lines configs

theorem mirrors_setup (settings : LineSettings) :
    Program.Mirrors Accounted.world plain (setup backend.accounted memory settings)
      (setup backend memory settings) :=
  mirrors_acquire _ _ _ _ _ _

theorem mirrors_ofOptions (options : List (String × String)) :
    Program.Mirrors Accounted.world plain (ofOptions backend.accounted memory options)
      (ofOptions backend memory options) :=
  Program.mirrors_bind (LineSettings.mirrors_ofOptions options) fun settings =>
    mirrors_setup backend memory settings

theorem mirrors_ofDescription (file : Option BusFile) (options : Option String) :
    Program.Mirrors Accounted.world plain (ofDescription backend.accounted memory file options)
      (ofDescription backend memory file options) := by
  unfold ofDescription
  split
  · exact Program.mirrors_mapError _ (mirrors_ofOptions backend memory _)
  · exact Program.mirrors_mapError _ (mirrors_setup backend memory _)
  · exact Program.mirrors_fail _

theorem stageRead_plain (lines : List LineNumber)
    (state : NumberedRequest Chip Request × Accounted σ) :
    stageRead backend lines (plainState state) =
      ((stageRead backend.accounted lines state).1.map id,
        plainState (stageRead backend.accounted lines state).2) := by
  simp only [stageRead, plainState, plain, LineBackend.accounted, Except.map_id, id_eq]

theorem stageWrite_plain (lines : List LineNumber) (values : List PinState)
    (state : NumberedRequest Chip Request × Accounted σ) :
    stageWrite backend lines values (plainState state) =
      ((stageWrite backend.accounted lines values state).1.map id,
        plainState (stageWrite backend.accounted lines values state).2) := by
  simp only [stageWrite, plainState, plain, LineBackend.accounted, Except.map_id, id_eq]

theorem mirrors_get (lines : List LineNumber) :
    Program.Mirrors plainState id (get backend.accounted memory lines)
      (get backend memory lines) :=
  mirrors_get_of_stageRead (fun _ => rfl) (stageRead_plain backend lines)

theorem mirrors_set (lines : List LineNumber) (values : List PinState) :
    Program.Mirrors plainState id (set backend.accounted lines values)
      (set backend lines values) :=
  mirrors_set_of_stageWrite (fun _ => rfl) (stageWrite_plain backend lines values)

theorem mirrors_close {ε : Type} (request : NumberedRequest Chip Request) :
    Program.Mirrors Accounted.world id (request.close backend.accounted : Program _ ε Unit)
      (request.plain.close backend) :=
  Program.mirrors_bind (Program.mirrors_record _ _ _) fun _ => Program.mirrors_change fun _ => rfl

theorem mirrors_bus :
    LineBus.Mirrors plainState (bus backend.accounted memory) (bus backend memory) where
  get := mirrors_get backend memory
  set states := mirrors_set backend states.lines states.values
  mismatch := rfl

end Mirrors

end LineRequest

namespace LineSession

variable {σ Chip Request : Type}

/-- A session without its numbers and ledger. -/
def plain (session : AccountedSession σ Chip Request) :
    LineSession σ Chip Request :=
  ⟨session.handles.mapValues LineRequest.plain, session.world.world⟩

/-- Carries out steps in order, each on its handle. A step that fails does not keep the others from
being carried out. -/
def carryOut {ε : Type} (backend : LineBackend σ Chip Request) (memory : Memory)
    (steps : List (Nat × LineStep)) :
    Program (LineSession σ Chip Request) ε (List (Except StepError Reply)) :=
  .attemptAll (steps.map fun (number, step) => LineSession.step backend memory number step)

section Mirrors

variable (backend : LineBackend σ Chip Request) (memory : Memory) (number : Nat)

theorem dropHandle_plain
    (session : AccountedSession σ Chip Request) :
    dropHandle backend number session.plain =
      (dropHandle backend.accounted number session).plain := by
  simp only [dropHandle, plain, Handles.find?_mapValues]
  rcases session.handles.find? number with _ | request
  · rfl
  · simp only [Option.map_some, Handles.erase_mapValues]
    rfl

theorem mirrors_openAs
    {detailed : Program (Accounted σ) Failure (NumberedRequest Chip Request)}
    {opening : Program σ Failure (LineRequest Chip Request)}
    (same : Program.Mirrors Accounted.world LineRequest.plain detailed opening) :
    Program.Mirrors plain id (openAs backend.accounted number detailed)
      (openAs backend number opening) := by
  refine Program.mirrors_bind (Program.mirrors_change (dropHandle_plain backend number)) fun _ =>
    Program.mirrors_bind (Program.mirrors_within (fun _ => rfl) (fun _ _ => rfl)
      (Program.mirrors_mapError _ same)) fun request =>
    Program.mirrors_bind (Program.mirrors_change fun session => ?_) fun _ =>
    Program.mirrors_pure rfl
  simp only [plain, Handles.insert_mapValues]

theorem mirrors_onRequest {α : Type}
    {detailed : Program (NumberedRequest Chip Request × Accounted σ) Failure α}
    {program : Program (LineRequest Chip Request × σ) Failure α}
    (same : Program.Mirrors LineRequest.plainState id detailed program) :
    Program.Mirrors plain id (onRequest number detailed) (onRequest number program) := by
  refine Program.mirrors_bind Program.mirrors_current fun session => ?_
  simp only [plain, Handles.find?_mapValues]
  rcases session.handles.find? number with _ | request
  · exact Program.mirrors_fail _
  · refine Program.mirrors_within (fun _ => rfl) (fun session inner => ?_)
      (Program.mirrors_mapError _ same)
    simp only [plain, LineRequest.plainState, Handles.insert_mapValues]

theorem mirrors_step (step : LineStep) :
    Program.Mirrors plain id (LineSession.step backend.accounted memory number step)
      (LineSession.step backend memory number step) := by
  cases step with
  | acquire device consumer lines configs =>
      exact mirrors_openAs _ _
        (Program.mirrors_mapError _ (LineRequest.mirrors_acquire _ _ _ _ _ _))
  | setup settings =>
      exact mirrors_openAs _ _ (Program.mirrors_mapError _ (LineRequest.mirrors_setup _ _ _))
  | setupOptions options =>
      exact mirrors_openAs _ _ (Program.mirrors_mapError _ (LineRequest.mirrors_ofOptions _ _ _))
  | setupDescription file options =>
      exact mirrors_openAs _ _ (Program.mirrors_bind (Program.mirrors_ofExcept _) fun _ =>
        LineRequest.mirrors_ofDescription _ _ _ _)
  | drive lines states =>
      exact Program.mirrors_map (mirrors_onRequest _
        (Program.mirrors_mapError _ (LineRequest.mirrors_set _ _ _))) fun _ => rfl
  | countLines =>
      exact mirrors_onRequest _ (Program.mirrors_map Program.mirrors_current fun _ => rfl)
  | call call =>
      exact mirrors_onRequest _
        (Program.mirrors_mapError _ (LineBus.mirrors_perform (LineRequest.mirrors_bus _ _) call))
  | close =>
      refine Program.mirrors_bind Program.mirrors_current fun session => ?_
      simp only [plain, Handles.find?_mapValues]
      rcases session.handles.find? number with _ | request
      · exact Program.mirrors_fail _
      · refine Program.mirrors_bind (Program.mirrors_within (fun _ => rfl) (fun session inner => ?_)
          (LineRequest.mirrors_close backend request)) fun _ => Program.mirrors_pure rfl
        simp only [plain, Handles.erase_mapValues]
  | drop =>
      refine Program.mirrors_bind Program.mirrors_current fun session => ?_
      simp only [plain, Handles.find?_mapValues]
      rcases session.handles.find? number with _ | request
      · exact Program.mirrors_fail _
      · exact Program.mirrors_bind (Program.mirrors_change (dropHandle_plain backend number))
          fun _ => Program.mirrors_pure rfl

/-- A session with a ledger mirrors the session without it. -/
theorem mirrors_carryOut {ε : Type} (steps : List (Nat × LineStep)) :
    Program.Mirrors plain id (carryOut backend.accounted memory steps : Program _ ε _)
      (carryOut backend memory steps) := by
  unfold carryOut
  exact Program.mirrors_attemptAll (fun entry => mirrors_step backend memory entry.1 entry.2) steps

end Mirrors

end LineSession

end Pinwire
