import Pinwire.Call
import Pinwire.Proofs.Program

/-!
# Programs around line buses

Every call on a line bus comes down to reading and driving lines. So whatever these two keep, every
call keeps, and if they mirror those of another bus, so does every call. Reading the settings of a
bus from options has nothing to do with the state of the surroundings at all.
-/

namespace Pinwire

namespace LineBus

variable {σ τ ε κ : Type}

/-- A bus keeps a part of its state if reading and driving lines do. -/
structure Keeps (part : σ → κ) (bus : LineBus σ ε) : Prop where
  get : ∀ lines, Program.Keeps part (bus.get lines)
  set : ∀ states, Program.Keeps part (bus.set states)

/-- A bus mirrors a plainer one if reading and driving lines do. -/
structure Mirrors (look : τ → σ) (detailed : LineBus τ ε) (plain : LineBus σ ε) : Prop where
  get : ∀ lines, Program.Mirrors look id (detailed.get lines) (plain.get lines)
  set : ∀ states, Program.Mirrors look id (detailed.set states) (plain.set states)
  mismatch : detailed.mismatch = plain.mismatch

section Keeps

variable {part : σ → κ} {bus : LineBus σ ε}

theorem keeps_getOne (kept : ∀ lines, Program.Keeps part (bus.get lines)) (line : LineNumber) :
    Program.Keeps part (bus.getOne line) := by
  refine Program.keeps_bind (kept _) fun states => ?_
  split
  · exact Program.keeps_pure _
  · exact Program.keeps_fail _

theorem keeps_printStates (kept : ∀ lines, Program.Keeps part (bus.get lines))
    (lines : List LineNumber) : Program.Keeps part (bus.printStates lines) :=
  Program.keeps_bind (Program.keeps_mapError _ (kept _)) fun _ => Program.keeps_pure _

theorem keeps_assign (kept : Keeps part bus) (items : List String) :
    Program.Keeps part (bus.assign items) :=
  Program.keeps_bind (Program.keeps_ofExcept _) fun _ =>
    Program.keeps_bind (Program.keeps_record _ _ _) fun _ =>
    Program.keeps_mapError _ (kept.set _)

/-- Every call keeps what reading and driving lines keep. -/
theorem keeps_perform (kept : Keeps part bus) (call : LineCall) :
    Program.Keeps part (call.perform bus) := by
  cases call with
  | get lines => exact Program.keeps_map _ (Program.keeps_mapError _ (kept.get lines))
  | set states => exact Program.keeps_map _ (Program.keeps_mapError _ (kept.set states))
  | getOne line => exact Program.keeps_map _ (Program.keeps_mapError _ (keeps_getOne kept.get line))
  | setOne line state => exact Program.keeps_map _ (Program.keeps_mapError _ (kept.set _))
  | printStates lines => exact Program.keeps_map _ (keeps_printStates kept.get lines)
  | assign items => exact Program.keeps_map _ (keeps_assign kept items)

end Keeps

section Mirrors

variable {look : τ → σ} {detailed : LineBus τ ε} {plain : LineBus σ ε}

theorem mirrors_getOne (same : Mirrors look detailed plain) (line : LineNumber) :
    Program.Mirrors look id (detailed.getOne line) (plain.getOne line) := by
  refine Program.mirrors_bind (same.get _) fun states => ?_
  rw [same.mismatch]
  rcases states with _ | ⟨state, _ | ⟨second, rest⟩⟩
  · exact Program.mirrors_fail _
  · exact Program.mirrors_pure rfl
  · exact Program.mirrors_fail _

theorem mirrors_printStates (same : Mirrors look detailed plain) (lines : List LineNumber) :
    Program.Mirrors look id (detailed.printStates lines) (plain.printStates lines) :=
  Program.mirrors_bind (Program.mirrors_mapError _ (same.get _)) fun _ => Program.mirrors_pure rfl

theorem mirrors_assign (same : Mirrors look detailed plain) (items : List String) :
    Program.Mirrors look id (detailed.assign items) (plain.assign items) :=
  Program.mirrors_bind (Program.mirrors_ofExcept _) fun _ =>
    Program.mirrors_bind (Program.mirrors_record _ _ _) fun _ =>
    Program.mirrors_mapError _ (same.set _)

/-- Every call mirrors that on the plainer bus. -/
theorem mirrors_perform (same : Mirrors look detailed plain) (call : LineCall) :
    Program.Mirrors look id (call.perform detailed) (call.perform plain) := by
  cases call with
  | get lines =>
      exact Program.mirrors_map (Program.mirrors_mapError _ (same.get lines)) fun _ => rfl
  | set states =>
      exact Program.mirrors_map (Program.mirrors_mapError _ (same.set states)) fun _ => rfl
  | getOne line =>
      exact Program.mirrors_map (Program.mirrors_mapError _ (mirrors_getOne same line)) fun _ => rfl
  | setOne line state =>
      exact Program.mirrors_map (Program.mirrors_mapError _ (same.set _)) fun _ => rfl
  | printStates lines =>
      exact Program.mirrors_map (mirrors_printStates same lines) fun _ => rfl
  | assign items =>
      exact Program.mirrors_map (mirrors_assign same items) fun _ => rfl

end Mirrors

section Transcribed

variable (bus : LineBus σ ε)

/-- The same bus, with a transcript of the readings and drivings that it is asked for. -/
def transcribed : LineBus (σ × List LineCall) ε where
  get lines := do
    .change fun (state, calls) => (state, calls ++ [.get lines])
    .within Prod.fst (fun outer inner => (inner, outer.2)) (bus.get lines)
  set states := do
    .change fun (state, calls) => (state, calls ++ [.set states])
    .within Prod.fst (fun outer inner => (inner, outer.2)) (bus.set states)
  mismatch := bus.mismatch

theorem mirrors_transcribed : Mirrors Prod.fst bus.transcribed bus where
  get _ := fun state => by
    rw [transcribed, Program.run_change_bind, Program.run_within, Outcome.view, Except.map_id]
    rfl
  set _ := fun state => by
    rw [transcribed, Program.run_change_bind, Program.run_within, Outcome.view, Except.map_id]
    rfl
  mismatch := rfl

theorem run_set_transcribed (states : LineStates) (state : σ) (calls : List LineCall) :
    (bus.transcribed.set states).run (state, calls) =
      let outcome := (bus.set states).run state
      ⟨outcome.answer, (outcome.state, calls ++ [.set states]), outcome.journal⟩ :=
  rfl

end Transcribed

end LineBus

namespace LineRequest

variable {σ τ κ Chip Chip' Request Request' : Type} {detailed : LineBackend τ Chip' Request'}
  {backend : LineBackend σ Chip Request} {memory : Memory}
  {part : LineRequest Chip Request × σ → κ}
  {look : LineRequest Chip' Request' × τ → LineRequest Chip Request × σ}

/-- Reading lines keeps what reading them into the buffer keeps. -/
theorem keeps_get_of_stageRead {lines : List LineNumber}
    (staged : ∀ state, part (stageRead backend lines state).2 = part state) :
    Program.Keeps part (get backend memory lines) := by
  refine Program.keeps_bind Program.keeps_current fun _ =>
    Program.keeps_bind (Program.keeps_ofExcept _) fun _ =>
    Program.keeps_bind (Program.keeps_act _ staged) fun window => ?_
  split
  · exact Program.keeps_fail _
  · exact Program.keeps_bind (Program.keeps_ofExcept _) fun _ => Program.keeps_pure _

/-- Reading lines mirrors that of a plainer request with as many lines if reading them into the
buffer does. -/
theorem mirrors_get_of_stageRead {lines : List LineNumber}
    (sameCount : ∀ state, (look state).1.lineCount = state.1.lineCount)
    (staged : ∀ state, stageRead backend lines (look state) =
      ((stageRead detailed lines state).1.map id, look (stageRead detailed lines state).2)) :
    Program.Mirrors look id (get detailed memory lines) (get backend memory lines) := by
  refine Program.mirrors_bind Program.mirrors_current fun state => ?_
  have sameCheck : (look state).1.checkCount lines = state.1.checkCount lines := by
    simp only [checkCount, sameCount]
  simp only [sameCheck]
  refine Program.mirrors_bind (Program.mirrors_ofExcept _) fun _ =>
    Program.mirrors_bind (Program.mirrors_act _ staged) fun window => ?_
  simp only [id_eq]
  split
  · exact Program.mirrors_fail _
  · exact Program.mirrors_bind (Program.mirrors_ofExcept _) fun _ => Program.mirrors_pure rfl

/-- Driving lines mirrors that of a plainer request with as many lines if driving them from the
buffer does. -/
theorem mirrors_set_of_stageWrite {lines : List LineNumber} {values : List PinState}
    (sameCount : ∀ state, (look state).1.lineCount = state.1.lineCount)
    (staged : ∀ state, stageWrite backend lines values (look state) =
      ((stageWrite detailed lines values state).1.map id,
        look (stageWrite detailed lines values state).2)) :
    Program.Mirrors look id (set detailed lines values) (set backend lines values) := by
  refine Program.mirrors_bind Program.mirrors_current fun state => ?_
  have sameCheck : (look state).1.checkCount lines = state.1.checkCount lines := by
    simp only [checkCount, sameCount]
  simp only [sameCheck]
  exact Program.mirrors_bind (Program.mirrors_ofExcept _) fun _ =>
    Program.mirrors_bind (Program.mirrors_ofExcept _) fun _ => Program.mirrors_act _ staged

end LineRequest

/-- A backend opens like a plainer one if its calls for chips and lines are those of the plainer one
with the details of worlds, chips and requests left out. -/
structure LineBackend.OpensLike {σ τ Chip Chip' Request Request' : Type} (look : τ → σ)
    (lookChip : Chip' → Chip) (lookRequest : Request' → Request)
    (detailed : LineBackend τ Chip' Request') (backend : LineBackend σ Chip Request) : Prop where
  openChip : ∀ path state, backend.openChip path (look state) =
    ((detailed.openChip path state).1.map lookChip, look (detailed.openChip path state).2)
  requestLines : ∀ chip consumer settings state,
    backend.requestLines (lookChip chip) consumer settings (look state) =
      ((detailed.requestLines chip consumer settings state).1.map lookRequest,
        look (detailed.requestLines chip consumer settings state).2)
  releaseChip : ∀ chip state,
    backend.releaseChip (lookChip chip) (look state) = look (detailed.releaseChip chip state)

namespace LineRequest

section Opening

variable {σ τ Chip Chip' Request Request' : Type} {look : τ → σ} {lookChip : Chip' → Chip}
  {lookRequest : Request' → Request} {detailed : LineBackend τ Chip' Request'}
  {backend : LineBackend σ Chip Request}

/-- A request without the details of its lines and chip. -/
def lookAt (lookChip : Chip' → Chip) (lookRequest : Request' → Request)
    (request : LineRequest Chip' Request') : LineRequest Chip Request :=
  ⟨lookRequest request.request, lookChip request.chip, request.slots⟩

variable (same : LineBackend.OpensLike look lookChip lookRequest detailed backend)
  (memory : Memory)

include same

theorem mirrors_takeLines_of_opensLike (device consumer : String) (lines : List LineNumber)
    (settings : List (LineNumber × LineConfig)) (chip : Chip') :
    Program.Mirrors look (lookAt lookChip lookRequest)
      (takeLines detailed memory device consumer lines settings chip)
      (takeLines backend memory device consumer lines settings (lookChip chip)) :=
  Program.mirrors_bind (Program.mirrors_ofExcept _) fun _ =>
    Program.mirrors_bind (Program.mirrors_act _ (same.requestLines chip consumer settings))
    fun _ => Program.mirrors_bind (Program.mirrors_record _ _ _) fun _ => Program.mirrors_pure rfl

theorem mirrors_acquire_of_opensLike (device consumer : String) (lines : List LineNumber)
    (configs : List LineConfig) :
    Program.Mirrors look (lookAt lookChip lookRequest)
      (acquire detailed memory device consumer lines configs)
      (acquire backend memory device consumer lines configs) :=
  Program.mirrors_bind (Program.mirrors_ofExcept _) fun _ =>
    Program.mirrors_bind (Program.mirrors_ofExcept _) fun _ =>
    Program.mirrors_bind (Program.mirrors_record _ _ _) fun _ =>
    Program.mirrors_bind (Program.mirrors_act _ (same.openChip device)) fun chip =>
      Program.mirrors_undoing (same.releaseChip chip)
        (mirrors_takeLines_of_opensLike same memory device consumer lines _ chip)

end Opening

end LineRequest

namespace LineSettings

variable {σ τ κ : Type}

section Keeps

variable {part : σ → κ}

theorem Draft.keeps_apply (draft : Draft) (key value : String) :
    Program.Keeps part (draft.apply key value) := by
  unfold Draft.apply
  split
  · exact Program.keeps_pure _
  · split
    · exact Program.keeps_pure _
    · exact Program.keeps_fail _
  · exact Program.keeps_pure _
  · exact Program.keeps_map _ (Program.keeps_ofExcept _)
  · exact Program.keeps_map _ (Program.keeps_ofExcept _)
  · exact Program.keeps_bind (Program.keeps_record _ _ _) fun _ => Program.keeps_pure _

theorem Draft.keeps_applyAll (draft : Draft) (options : List (String × String)) :
    Program.Keeps part (draft.applyAll options) := by
  induction options generalizing draft with
  | nil => exact Program.keeps_pure _
  | cons option options ih => exact Program.keeps_bind (draft.keeps_apply _ _) ih

theorem keeps_ofOptions (options : List (String × String)) :
    Program.Keeps part (ofOptions options) :=
  Program.keeps_bind (Draft.empty.keeps_applyAll options) fun _ => Program.keeps_ofExcept _

end Keeps

section Mirrors

variable {look : τ → σ}

theorem Draft.mirrors_apply (draft : Draft) (key value : String) :
    Program.Mirrors look id (draft.apply key value) (draft.apply key value) := by
  unfold Draft.apply
  split
  · exact Program.mirrors_pure rfl
  · split
    · exact Program.mirrors_pure rfl
    · exact Program.mirrors_fail _
  · exact Program.mirrors_pure rfl
  · exact Program.mirrors_map (Program.mirrors_ofExcept _) fun _ => rfl
  · exact Program.mirrors_map (Program.mirrors_ofExcept _) fun _ => rfl
  · exact Program.mirrors_bind (Program.mirrors_record _ _ _) fun _ => Program.mirrors_pure rfl

theorem Draft.mirrors_applyAll (draft : Draft) (options : List (String × String)) :
    Program.Mirrors look id (draft.applyAll options) (draft.applyAll options) := by
  induction options generalizing draft with
  | nil => exact Program.mirrors_pure rfl
  | cons option options ih => exact Program.mirrors_bind (draft.mirrors_apply _ _) ih

theorem mirrors_ofOptions (options : List (String × String)) :
    Program.Mirrors look id (ofOptions options) (ofOptions options) :=
  Program.mirrors_bind (Draft.empty.mirrors_applyAll options) fun _ => Program.mirrors_ofExcept _

end Mirrors

end LineSettings

end Pinwire
