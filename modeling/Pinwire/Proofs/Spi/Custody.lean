import Pinwire.Proofs.Spi.Steps

/-!
# Descriptors that a session holds

A descriptor passes from the host to the device that is opened on it, stays with its handle while
the device is used, and is closed when the handle is given up or the opening fails half way. If the
host hands out fresh descriptors, it follows that those that are open are the ones that are held,
after any number of steps.
-/

namespace Pinwire

namespace SpiHost

variable {σ : Type}

/-- How an operating system keeps descriptors, of which `opened` tells those that are open in a
world. An opening that is granted adds a fresh positive descriptor; a closing takes the descriptor
away, even if it reports an error; no other call opens or closes anything. -/
structure Tracks (host : SpiHost σ) (opened : σ → Set Int) : Prop where
  granted : ∀ {path : String} {world reached : σ} {descriptor : Int},
    host.openNode path world = (.ok descriptor, reached) →
      0 < descriptor ∧ descriptor ∉ opened world ∧
        opened reached = insert descriptor (opened world)
  refused : ∀ {path : String} {world reached : σ} {fault : Fault},
    host.openNode path world = (.error fault, reached) → opened reached = opened world
  close : ∀ descriptor world,
    opened (host.close descriptor world).2 = opened world \ {descriptor}
  readBufferSize : ∀ world, opened (host.readBufferSize world).2 = opened world
  setMode : ∀ descriptor word world, opened (host.setMode descriptor word world).2 = opened world
  setSpeed : ∀ descriptor speed world,
    opened (host.setSpeed descriptor speed world).2 = opened world
  setWordSize : ∀ descriptor size world,
    opened (host.setWordSize descriptor size world).2 = opened world
  message : ∀ descriptor parts world,
    opened (host.message descriptor parts world).2 = opened world

namespace Tracks

variable {host : SpiHost σ} {opened : σ → Set Int}

theorem of_keeps {α : Type} {call : σ → Except Fault α × σ} {world reached : σ}
    {answer : Except Fault α} (keeps : ∀ world, opened (call world).2 = opened world)
    (answered : call world = (answer, reached)) : opened reached = opened world := by
  rw [← keeps world, answered]

theorem limited (tracks : host.Tracks opened) {process reached : SpiProcess σ}
    {answer : Except SpiError Nat} (limited : SpiDevice.Limited host process answer reached) :
    opened reached.2 = opened process.2 := by
  cases limited with
  | known size world => rfl
  | unread failed => exact of_keeps tracks.readBufferSize failed
  | invalid said refused => exact of_keeps tracks.readBufferSize said
  | read said usable => exact of_keeps tracks.readBufferSize said

theorem configured (tracks : host.Tracks opened) {settings : SpiSettings} {descriptor : Int}
    {world reached : σ} {answer : Except SpiError Unit}
    (configured : SpiDevice.Configured host settings descriptor world answer reached) :
    opened reached = opened world := by
  have setMode {answer : Except Fault Unit} {reached : σ}
      (answered : host.setMode descriptor settings.mode.kernelWord world = (answer, reached)) :
      opened reached = opened world := of_keeps (tracks.setMode _ _) answered
  cases configured with
  | modeRefused failed => exact setMode failed
  | speedRefused modeSet failed =>
      exact (of_keeps (tracks.setSpeed _ _) failed).trans (setMode modeSet)
  | wordSizeRefused modeSet speedSet failed =>
      exact (of_keeps (tracks.setWordSize _ _) failed).trans
        ((of_keeps (tracks.setSpeed _ _) speedSet).trans (setMode modeSet))
  | taken modeSet speedSet sizeSet =>
      exact (of_keeps (tracks.setWordSize _ _) sizeSet).trans
        ((of_keeps (tracks.setSpeed _ _) speedSet).trans (setMode modeSet))

theorem messaged (tracks : host.Tracks opened) {descriptor : Int} {world reached : σ}
    (messaged : host.Messaged descriptor world reached) : opened reached = opened world := by
  induction messaged with
  | nothing world => rfl
  | message parts rest ih => exact ih.trans (tracks.message _ _ _)

/-- An opening that fails leaves nothing open that was not, whichever call failed. -/
theorem opening_failed (tracks : host.Tracks opened) {settings : SpiSettings}
    {process reached : SpiProcess σ} {error : SpiError}
    (opening : SpiDevice.Opening host settings process (.error error) reached) :
    opened reached.2 = opened process.2 := by
  cases opening with
  | unnamed nameless => rfl
  | unlimited named limited => exact tracks.limited limited
  | unopened named limited failed => exact (tracks.refused failed).trans (tracks.limited limited)
  | refused named limited granted configured =>
      rcases tracks.granted granted with ⟨_, fresh, added⟩
      rw [tracks.close, tracks.configured configured, added, Set.insert_sdiff_self_of_notMem fresh]
      exact tracks.limited limited

theorem opening_opened (tracks : host.Tracks opened) {settings : SpiSettings}
    {process reached : SpiProcess σ} {device : SpiDevice}
    (opening : SpiDevice.Opening host settings process (.ok device) reached) :
    0 < device.descriptor ∧ device.descriptor ∉ opened process.2 ∧
      opened reached.2 = insert device.descriptor (opened process.2) := by
  cases opening with
  | opened named limited granted configured =>
      have granted := tracks.granted granted
      rw [← tracks.configured configured, tracks.limited limited] at granted
      exact granted

end Tracks

end SpiHost

namespace SpiSession

variable {σ : Type}

/-- What is true of a session after any steps, if the descriptors in `before` were open at its
start: they still are, and so are those of the devices that it holds, each of them held once. -/
structure Holds (opened : σ → Set Int) (before : Set Int) (session : SpiSession σ) : Prop where
  ordered : session.handles.Ordered
  positive : ∀ descriptor ∈ session.descriptors, 0 < descriptor
  apart : ∀ descriptor ∈ session.descriptors, descriptor ∉ before
  nodup : session.descriptors.Nodup
  opened_eq : opened session.process.2 = before ∪ {descriptor | descriptor ∈ session.descriptors}

section Invariant

variable {host : SpiHost σ} {opened : σ → Set Int} {before : Set Int} {session : SpiSession σ}
  {number : Nat}

theorem holds_start (opened : σ → Set Int) (process : SpiProcess σ) :
    Holds opened (opened process.2) (start process) where
  ordered := List.Pairwise.nil
  positive := nofun
  apart := nofun
  nodup := List.nodup_nil
  opened_eq := by simp [descriptors, start]

theorem perm_descriptors {holding : SpiHolding} (ordered : session.handles.Ordered)
    (found : session.handles.find? number = some holding) (process : SpiProcess σ) :
    session.descriptors.Perm
      (holding.toDevice.descriptor :: descriptors ⟨session.handles.erase number, process⟩) :=
  (Handles.perm_of_find? ordered found).map _

/-- Sessions with the same handles hold the same descriptors. -/
theorem Holds.of_same_handles (holds : Holds opened before session) {process : SpiProcess σ}
    (kept : opened process.2 = opened session.process.2) :
    Holds opened before { session with process } where
  ordered := holds.ordered
  positive := holds.positive
  apart := holds.apart
  nodup := holds.nodup
  opened_eq := kept.trans holds.opened_eq

theorem Holds.release (holds : Holds opened before session) (tracks : host.Tracks opened)
    {holding : SpiHolding} (found : session.handles.find? number = some holding)
    (limit : ChunkLimit) :
    Holds opened before ⟨session.handles.erase number,
      (limit, (host.close holding.toDevice.descriptor session.process.2).2)⟩ := by
  have perm := perm_descriptors holds.ordered found
    (limit, (host.close holding.toDevice.descriptor session.process.2).2)
  have nodup := List.nodup_cons.1 (perm.nodup_iff.1 holds.nodup)
  refine ⟨Handles.ordered_erase holds.ordered number, fun descriptor member => ?_,
    fun descriptor member => ?_, nodup.2, ?_⟩
  · exact holds.positive descriptor (perm.mem_iff.2 (List.mem_cons_of_mem _ member))
  · exact holds.apart descriptor (perm.mem_iff.2 (List.mem_cons_of_mem _ member))
  · -- Closing takes one descriptor from the open ones. It is held by no other handle and was not
    -- open at the start, so nothing else that should be open goes with it.
    have apart := holds.apart _ (mem_descriptors found)
    rw [tracks.close, holds.opened_eq]
    ext descriptor
    simp only [Set.mem_sdiff, Set.mem_union, Set.mem_ofPred_eq, Set.mem_singleton_iff, perm.mem_iff,
      List.mem_cons]
    constructor
    · rintro ⟨earlier | rfl | held, other⟩
      · exact .inl earlier
      · exact absurd rfl other
      · exact .inr held
    · rintro (earlier | held)
      · exact ⟨.inl earlier, fun same => apart (same ▸ earlier)⟩
      · exact ⟨.inr (.inr held), fun same => nodup.1 (same ▸ held)⟩

theorem Holds.dropHandle (holds : Holds opened before session) (tracks : host.Tracks opened)
    (number : Nat) : Holds opened before (session.dropHandle host number) := by
  rcases found : session.handles.find? number with _ | holding
  · rw [dropHandle_of_absent host found]
    exact holds
  · rw [dropHandle_of_found host found]
    exact holds.release tracks found _

theorem find?_dropHandle (host : SpiHost σ) (number : Nat) (session : SpiSession σ) :
    (session.dropHandle host number).handles.find? number = none := by
  rcases found : session.handles.find? number with _ | holding
  · rw [dropHandle_of_absent host found]
    exact found
  · rw [dropHandle_of_found host found]
    exact Handles.find?_erase _ _

theorem Holds.grant (holds : Holds opened before session)
    (absent : session.handles.find? number = none) {holding : SpiHolding} {process : SpiProcess σ}
    (positive : 0 < holding.toDevice.descriptor)
    (fresh : holding.toDevice.descriptor ∉ opened session.process.2)
    (added : opened process.2 = insert holding.toDevice.descriptor (opened session.process.2)) :
    Holds opened before ⟨session.handles.insert number holding, process⟩ := by
  have perm : (descriptors ⟨session.handles.insert number holding, process⟩).Perm
      (holding.toDevice.descriptor :: session.descriptors) := by
    have inserted := (Handles.insert_perm session.handles number holding).map
      fun entry => entry.2.toDevice.descriptor
    rwa [Handles.erase_of_absent absent] at inserted
  rw [holds.opened_eq, Set.mem_union, Set.mem_ofPred_eq, not_or] at fresh
  refine ⟨Handles.ordered_insert holds.ordered number holding, fun descriptor member => ?_,
    fun descriptor member => ?_, perm.nodup_iff.2 (List.nodup_cons.2 ⟨fresh.2, holds.nodup⟩), ?_⟩
  · rcases List.mem_cons.1 (perm.mem_iff.1 member) with rfl | member
    · exact positive
    · exact holds.positive descriptor member
  · rcases List.mem_cons.1 (perm.mem_iff.1 member) with rfl | member
    · exact fresh.1
    · exact holds.apart descriptor member
  · rw [added, holds.opened_eq]
    ext descriptor
    simp only [Set.mem_insert_iff, Set.mem_union, Set.mem_ofPred_eq, perm.mem_iff, List.mem_cons]
    exact or_left_comm

/-- Whatever a step does, the open descriptors are those that are held. -/
theorem Holds.transition (holds : Holds opened before session) (tracks : host.Tracks opened)
    {step : SpiStep} {answer : Except StepError Reply} {reached : SpiSession σ}
    (changed : Transition host number session step answer reached) :
    Holds opened before reached := by
  have dropped := holds.dropHandle tracks number
  cases changed with
  | unopened opens opening =>
      cases opening with
      | rejected rejected => exact dropped
      | failed settled opening => exact dropped.of_same_handles (tracks.opening_failed opening)
  | opened opens opening =>
      cases opening with
      | opened settled opening =>
          rcases tracks.opening_opened opening with ⟨positive, fresh, added⟩
          exact dropped.grant (find?_dropHandle host number session) positive fresh added
  | limited limited => exact holds.of_same_handles (tracks.limited limited)
  | known found => exact holds
  | called found messaged => exact holds.of_same_handles (tracks.messaged messaged)
  | closed found closing =>
      have released := holds.release tracks found session.process.1
      rwa [closing] at released
  | dropped found => exact holds.release tracks found session.process.1
  | absent needs absent => exact holds

theorem Holds.carryOut {ε : Type} (holds : Holds opened before session)
    (tracks : host.Tracks opened) (memory : Memory) (steps : List (Nat × SpiStep)) :
    Holds opened before
      ((carryOut host memory steps : Program _ ε _).run session).state := by
  induction steps generalizing session with
  | nil => exact holds
  | cons entry steps ih =>
      rw [SpiSession.carryOut, List.map_cons, Program.run_attemptAll_cons]
      exact ih (holds.transition tracks
        (transition_step host memory entry.1 session holds.positive entry.2))

/-- Giving up the handles one after the other closes their descriptors. -/
theorem opened_finish (tracks : host.Tracks opened) (session : SpiSession σ) :
    opened (finish host session) =
      opened session.process.2 \ {descriptor | descriptor ∈ session.descriptors} := by
  rcases session with ⟨handles, limit, world⟩
  induction handles generalizing world with
  | nil => simp [finish, descriptors]
  | cons entry handles ih =>
      have rest := ih (entry.2.toDevice.drop host world)
      simp only [finish, descriptors, List.foldl_cons, List.map_cons] at rest ⊢
      rw [rest, SpiDevice.drop, tracks.close, Set.sdiff_sdiff]
      congr 1
      ext descriptor
      simp only [Set.mem_union, Set.mem_singleton_iff, Set.mem_ofPred_eq, List.mem_cons]

theorem Holds.opened_finish (holds : Holds opened before session) (tracks : host.Tracks opened) :
    opened (finish host session) = before := by
  rw [SpiSession.opened_finish tracks, holds.opened_eq, Set.union_sdiff_cancel_right]
  rintro descriptor ⟨earlier, held⟩
  exact holds.apart descriptor held earlier

end Invariant

section Effects

variable {host : SpiHost σ} {opened : σ → Set Int} {number : Nat} {session reached : SpiSession σ}
  {step : SpiStep} {answer : Except StepError Reply}

/-- An opening that fails under an empty handle leaves handles and open descriptors as they are. -/
theorem Transition.of_failed_opening (tracks : host.Tracks opened)
    (changed : Transition host number session step answer reached)
    (opens : step.described?.isSome) (empty : session.handles.find? number = none)
    {failure : StepError} (failed : answer = .error failure) :
    reached.handles = session.handles ∧ opened reached.process.2 = opened session.process.2 := by
  cases changed with
  | unopened opens' opening =>
      rw [dropHandle_of_absent host empty] at opening ⊢
      cases opening with
      | rejected rejected => exact ⟨rfl, rfl⟩
      | failed settled opening => exact ⟨rfl, tracks.opening_failed opening⟩
  | opened opens' opening => cases failed
  | absent needs absent => exact ⟨rfl, rfl⟩
  | limited | known | called | closed | dropped => cases opens

/-- A call leaves handles and open descriptors as they are, be it carried out or not. -/
theorem Transition.of_call (tracks : host.Tracks opened) {call : SpiCall}
    (changed : Transition host number session (.call call) answer reached) :
    reached.handles = session.handles ∧ opened reached.process.2 = opened session.process.2 := by
  cases changed with
  | called found messaged => exact ⟨rfl, tracks.messaged messaged⟩
  | absent needs absent => exact ⟨rfl, rfl⟩
  | unopened opens | opened opens => cases opens

end Effects

/-- Descriptors are never leaked on a host that hands out fresh positive ones and whose closings
take them away whatever they report. After any steps on any handles:
1. What is open is what was open at the start and, beside it, what the handles hold, each once.
2. The next step makes the calls of its transition and no others.
3. An opening that fails on an empty handle leaves handles and descriptors as they were. A device
   without a name is refused without a call, and one whose limit cannot be had after the one reading
   that tells so.
4. A call on a handle leaves it as it is, whether it fails or not. A closing is one call on the
   descriptor of the handle, and the handle is gone even if it reports an error.
5. After everything has been given up at the end, what is open is what was open at the start. -/
theorem descriptors_never_leak {ε : Type} {host : SpiHost σ} {opened : σ → Set Int}
    (tracks : host.Tracks opened) (memory : Memory) (steps : List (Nat × SpiStep))
    (process : SpiProcess σ) :
    let session := ((carryOut host memory steps : Program _ ε _).run (start process)).state
    let next (number : Nat) (step : SpiStep) :=
      (SpiSession.step host memory number step).run session
    (opened session.process.2 =
        opened process.2 ∪ {descriptor | descriptor ∈ session.descriptors} ∧
      session.descriptors.Nodup ∧
      ∀ descriptor ∈ session.descriptors, 0 < descriptor ∧ descriptor ∉ opened process.2) ∧
    (∀ number step, Transition host number session step (next number step).answer
      (next number step).state) ∧
    (∀ number, session.handles.find? number = none →
      (∀ step failure, step.described?.isSome → (next number step).answer = .error failure →
        (next number step).state.handles = session.handles ∧
          opened (next number step).state.process.2 = opened session.process.2) ∧
      ∀ step settings, step.described? = some (.ok settings) →
        (settings.device = "" → (next number step).state = session) ∧
        (settings.device ≠ "" → session.process.1 = .unresolved →
          (∀ text size, (host.readBufferSize session.process.2).1 = .ok text →
            ChunkLimit.parse text ≠ .ok size) →
          (next number step).state = { session with
            process := (.unresolved, (host.readBufferSize session.process.2).2) })) ∧
    (∀ number holding, session.handles.find? number = some holding →
      (∀ call, (next number (.call call)).state.handles = session.handles ∧
        opened (next number (.call call)).state.process.2 = opened session.process.2) ∧
      let closing := host.close holding.toDevice.descriptor session.process.2
      (next number .close).answer =
          ((closing.1.mapError fun fault => .failed (.spi (.closeFailed fault))).map
            fun _ => .nothing) ∧
        (next number .close).state =
          ⟨session.handles.erase number, (session.process.1, closing.2)⟩) ∧
    opened (finish host session) = opened process.2 := by
  intro session next
  have holds : Holds opened (opened process.2) session :=
    (holds_start opened process).carryOut tracks memory steps
  have changed (number : Nat) (step : SpiStep) : Transition host number session step
      (next number step).answer (next number step).state :=
    transition_step host memory number session holds.positive step
  refine ⟨⟨holds.opened_eq, holds.nodup, fun descriptor held =>
    ⟨holds.positive descriptor held, holds.apart descriptor held⟩⟩, changed,
    fun number empty => ⟨fun step failure opens failed => ?_, fun step settings opens =>
      ⟨fun nameless => ?_, fun named unknown unreadable => ?_⟩⟩,
    fun number holding found => ⟨fun call => ?_, ?_⟩, holds.opened_finish tracks⟩
  · exact (changed number step).of_failed_opening tracks opens empty failed
  · exact ((changed number step).of_unnamed opens nameless empty).2
  · exact ((changed number step).of_unreadable opens named empty unknown unreadable).2
  · exact (changed number (.call call)).of_call tracks
  · exact (changed number .close).of_close found

end SpiSession

namespace SpiHost

/-- A host whose world is the list of its open descriptors. It refuses a speed of zero, carries out
no message, and reports an error whenever it closes a descriptor. -/
def table : SpiHost (List Int) where
  readBufferSize descriptors := (.ok "4096\n", descriptors)
  openNode _ descriptors :=
    let descriptor := descriptors.foldr max 2 + 1
    (.ok descriptor, descriptor :: descriptors)
  setMode _ _ descriptors := (.ok (), descriptors)
  setSpeed _ speed descriptors :=
    (if speed = 0 then .error "Invalid argument" else .ok (), descriptors)
  setWordSize _ _ descriptors := (.ok (), descriptors)
  message _ _ descriptors := (.error "Input/output error", descriptors)
  close descriptor descriptors :=
    (.error "Input/output error", descriptors.filter fun other => other ≠ descriptor)

theorem bounds_foldr_max (descriptors : List Int) :
    2 ≤ descriptors.foldr max 2 ∧
      ∀ descriptor ∈ descriptors, descriptor ≤ descriptors.foldr max 2 := by
  induction descriptors with
  | nil => exact ⟨le_refl _, nofun⟩
  | cons first descriptors ih =>
      rw [List.foldr_cons]
      refine ⟨le_max_of_le_right ih.1, fun descriptor member => ?_⟩
      rcases List.mem_cons.1 member with rfl | member
      · exact le_max_left _ _
      · exact le_max_of_le_right (ih.2 descriptor member)

theorem tracks_table : table.Tracks fun descriptors => {descriptor | descriptor ∈ descriptors} where
  granted {path world reached descriptor} answered := by
    have bounds := bounds_foldr_max world
    cases answered
    refine ⟨by omega, fun member => ?_, ?_⟩
    · have := bounds.2 _ member
      omega
    · ext other
      simp
  refused {path world reached fault} failed := by cases failed
  close descriptor world := by
    ext other
    simp [table]
  readBufferSize world := rfl
  setMode descriptor word world := rfl
  setSpeed descriptor speed world := rfl
  setWordSize descriptor size world := rfl
  message descriptor parts world := rfl

end SpiHost

namespace SpiSession

/-- One device is held. A bus whose speed is refused is closed again, and so is the device when it
is given up, although the closing reports an error. -/
theorem descriptors_of_table :
    let held := SpiStep.acquire ⟨"/dev/spidev0.0", 1000000, .ofClock .mode0⟩
    let refused := SpiStep.setup ⟨"/dev/spidev0.1", 0, .ofClock .mode0⟩
    let session := ((carryOut SpiHost.table .addressSpace [(0, held)] :
      Program _ StepError _).run (start (.unresolved, []))).state
    let next (number : Nat) (step : SpiStep) :=
      (SpiSession.step SpiHost.table .addressSpace number step).run session
    session.handles = [(0, .device ⟨3, 4096⟩)] ∧ session.process.2 = [3] ∧
      (next 1 refused).answer =
        .error (.failed (.spi (.speedRefused "/dev/spidev0.1" 0 "Invalid argument"))) ∧
      {descriptor | descriptor ∈ (next 1 refused).state.process.2} =
        {descriptor | descriptor ∈ session.process.2} ∧
      (next 0 .close).answer = .error (.failed (.spi (.closeFailed "Input/output error"))) ∧
      (next 0 .close).state.handles = [] := by
  intro held refused session next
  have handles : session.handles = [(0, .device ⟨3, 4096⟩)] := by decide +kernel
  have empty : session.handles.find? 1 = none := by decide +kernel
  have found : session.handles.find? 0 = some (.device ⟨3, 4096⟩) := by decide +kernel
  have failed : (next 1 refused).answer =
      .error (.failed (.spi (.speedRefused "/dev/spidev0.1" 0 "Invalid argument"))) := by
    decide +kernel
  rcases descriptors_never_leak (ε := StepError) SpiHost.tracks_table .addressSpace [(0, held)]
    (.unresolved, []) with ⟨_, _, onEmpty, onHeld, _⟩
  have unchanged := (onEmpty 1 empty).1 refused _ rfl failed
  have closed := (onHeld 0 _ found).2
  refine ⟨handles, by decide +kernel, failed, unchanged.2, closed.1, ?_⟩
  rw [closed.2]
  decide +kernel

end SpiSession

end Pinwire
