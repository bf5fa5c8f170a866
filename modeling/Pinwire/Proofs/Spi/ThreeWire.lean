import Pinwire.Proofs.Spi.Attempts
import Pinwire.Proofs.Spi.Observed

/-!
# Both directions on one wire

On a bus whose directions share a wire, nothing is ever transmitted and received at once. Three
things have to go together for this: the mode word that the node is given, the check that the bus
makes before each transaction, and the parts that a transaction is split into.

The mode word and the check both come from the settings. A transaction that passes the check has one
leg only, so every part of every message that it issues is about that leg.
-/

namespace Pinwire

/-- The two directions of a transfer. -/
inductive Leg where
  | transmit
  | receive
  deriving Repr, DecidableEq

/-- A part of a message that is about one direction and not about the other. -/
def Descriptor.UsesOnly (part : Descriptor) : Leg → Prop
  | .transmit => part.transmit.isSome ∧ part.receiveOffset = none
  | .receive => part.transmit = none ∧ part.receiveOffset.isSome

/-- The bit of a mode word that says that both directions share a wire. -/
def SharesWire (word : UInt32) : Prop :=
  "THREE_WIRE" ∈ kernelModeFlags.namesIn word.toBitVec
  deriving Decidable

theorem sharesWire_kernelWord (mode : SpiMode) :
    SharesWire mode.kernelWord ↔ mode.isHalfDuplex = true := by
  rcases mode with ⟨clock, order, duplex⟩
  cases clock <;> cases order <;> cases duplex <;> decide

namespace SpiDevice

theorem describe_usesOnly {output : List UInt8} {inLength budget : Nat} (positive : 0 < budget)
    (oneWay : ¬(0 < output.length ∧ 0 < inLength)) :
    ∃ leg, ∀ chunks ∈ Cursor.schedule output.length inLength budget, ∀ chunk ∈ chunks,
      (describe output chunk).UsesOnly leg := by
  have served : ∀ chunks ∈ Cursor.schedule output.length inLength budget, ∀ chunk ∈ chunks,
      ∃ span : Span, span.start < max output.length inLength ∧
        chunk = span.chunk output.length inLength := by
    intro chunks member chunk chunkMember
    rcases Cursor.stretch_of_mem_schedule _ _ positive member with ⟨start, stop, _, _, inside, rfl⟩
    rcases List.mem_map.1 chunkMember with ⟨span, spanMember, rfl⟩
    have spanBounds := Span.bounds_of_mem_cutAt spanMember
    exact ⟨span, by omega, rfl⟩
  -- One of the legs is empty, so whatever a chunk serves is of the other.
  by_cases nothing : inLength = 0
  · refine ⟨.transmit, ?_⟩
    intro chunks member chunk chunkMember
    rcases served chunks member chunk chunkMember with ⟨span, running, rfl⟩
    have transmits : span.start < output.length := by omega
    simp [Descriptor.UsesOnly, describe, Span.chunk, transmits, nothing]
  · refine ⟨.receive, ?_⟩
    intro chunks member chunk chunkMember
    rcases served chunks member chunk chunkMember with ⟨span, running, rfl⟩
    have receives : span.start < inLength := by omega
    have silent : ¬span.start < output.length := by omega
    simp [Descriptor.UsesOnly, describe, Span.chunk, receives, silent]

end SpiDevice

/-- A transfer that fails was refused a buffer or a message. -/
theorem error_of_transfer {σ : Type} {memory : Memory} {sink : MessageSink σ}
    {output : Option (List UInt8)} {inLength budget : Nat} {state : σ} {error : SpiError}
    (failed : ((transfer memory sink output inLength budget).run state).answer = .error error) :
    (∃ cause, error = .outOfMemory cause) ∨ ∃ fault, error = .transferFailed fault := by
  rcases reserved : memory.reserve inLength 1 with cause | ⟨⟩
  · rw [transfer_of_refused _ _ _ _ _ reserved] at failed
    cases failed
    exact .inl ⟨cause, rfl⟩
  · rw [transfer_of_granted _ _ _ _ _ reserved] at failed
    rcases Transfer.ending_sendAll sink (output.getD [])
      (Cursor.schedule (output.getD []).length inLength (max budget 1)) (List.replicate inLength 0)
      state [] with ⟨attempts, _, _, ending⟩
    have mirrored := Transfer.mirrors_sendAll sink (output.getD [])
      (Cursor.schedule (output.getD []).length inLength (max budget 1)) (List.replicate inLength 0)
      ⟨state, []⟩
    rw [mirrored, Outcome.answer_view_id] at failed
    rw [failed] at ending
    rcases ending.cases with ⟨fault, _, _, same, _⟩ | ⟨_, impossible, _⟩
    · cases same
      exact .inr ⟨fault, rfl⟩
    · cases impossible

namespace SpiBus

variable {σ : Type} {host : SpiHost σ} {memory : Memory} {bus : SpiBus}
  {transaction : SpiTransaction}

theorem perform_of_conflict (shared : bus.halfDuplex = true) (bothWays : transaction.BothWays) :
    transaction.perform (bus.link host memory) =
      .fail (.halfDuplexConflict transaction.outLength transaction.inLength) := by
  have refused : checkHalfDuplex bus.halfDuplex transaction.outLength transaction.inLength =
      .error (.halfDuplexConflict transaction.outLength transaction.inLength) :=
    if_pos ⟨shared, bothWays⟩
  change (Program.ofExcept (checkHalfDuplex bus.halfDuplex transaction.outLength
    transaction.inLength) >>= _) = _
  rw [refused]
  exact Program.ofExcept_error_bind _ _

theorem perform_of_admitted (admitted : ¬(bus.halfDuplex = true ∧ transaction.BothWays)) :
    transaction.perform (bus.link host memory) =
      bus.device.transfer host memory transaction.output transaction.inLength
        transaction.chunked := by
  have passed : checkHalfDuplex bus.halfDuplex transaction.outLength transaction.inLength =
      .ok () :=
    if_neg admitted
  change (Program.ofExcept (checkHalfDuplex bus.halfDuplex transaction.outLength
    transaction.inLength) >>= _) = _
  rw [passed]
  exact Program.ofExcept_ok_bind _ _

/-- A bus with a wire for each direction never refuses a transaction for its directions. -/
theorem perform_ne_conflict (apart : bus.halfDuplex = false) (call : SpiCall) (state : σ)
    (outLength inLength : Nat) :
    ((call.perform (bus.link host memory)).run state).answer ≠
      .error (.bus (.halfDuplexConflict outLength inLength)) := by
  intro refused
  rcases SpiCall.bus_error_of_perform refused with ⟨transaction, _, failed⟩
  rw [perform_of_admitted (by simp [apart])] at failed
  rcases error_of_transfer failed with ⟨cause, impossible⟩ | ⟨fault, impossible⟩
  · cases impossible
  · cases impossible

end SpiBus

namespace SpiBus

variable {σ ε : Type}

/-- What holds of the messages of one call on a bus: they are for its device, and if both directions
share a wire, they are all about one of them. -/
def OneWay (bus : SpiBus) (messages : List KernelMessage) : Prop :=
  (∀ message ∈ messages, message.descriptor = bus.device.descriptor) ∧
    (bus.halfDuplex = true →
      ∃ leg, ∀ message ∈ messages, ∀ part ∈ message.parts, part.UsesOnly leg)

theorem oneWay_nil (bus : SpiBus) : bus.OneWay [] :=
  ⟨nofun, fun _ => ⟨.transmit, nofun⟩⟩

theorem issues_perform (host : SpiHost σ) (memory : Memory) (bus : SpiBus) (call : SpiCall) :
    (call.perform (bus.link host.observed memory)).Issues bus.OneWay := by
  intro observed
  rcases asked : call.transaction? with defect | transaction
  · rw [SpiCall.run_perform_of_malformed asked]
    exact ⟨[], (List.append_nil _).symm, oneWay_nil bus⟩
  rw [SpiCall.state_perform asked]
  by_cases conflict : bus.halfDuplex = true ∧ transaction.BothWays
  · rw [perform_of_conflict conflict.1 conflict.2]
    exact ⟨[], (List.append_nil _).symm, oneWay_nil bus⟩
  · rw [perform_of_admitted conflict]
    rcases SpiDevice.messages_transfer host memory bus.device transaction.output
      transaction.inLength transaction.chunked observed with ⟨sent, first, _, issued, _⟩
    refine ⟨_, issued, ?_, ?_⟩
    · intro message member
      rcases List.mem_map.1 member with ⟨chunks, _, rfl⟩
      rfl
    · intro shared
      have oneWay : ¬(0 < (transaction.output.getD []).length ∧ 0 < transaction.inLength) := by
        intro bothWays
        exact conflict ⟨shared, bothWays⟩
      have oneLeg : ∃ leg, ∀ chunks ∈ sent, ∀ chunk ∈ chunks,
          (SpiDevice.describe (transaction.output.getD []) chunk).UsesOnly leg := by
        rcases SpiDevice.describe_usesOnly (Nat.lt_of_lt_of_le Nat.one_pos (Nat.le_max_right _ _))
          oneWay with ⟨leg, uses⟩
        exact ⟨leg, fun chunks member => uses chunks (first.subset member)⟩
      rcases oneLeg with ⟨leg, uses⟩
      refine ⟨leg, ?_⟩
      intro message member part partMember
      rcases List.mem_map.1 member with ⟨chunks, chunksMember, rfl⟩
      rcases List.mem_map.1 partMember with ⟨chunk, chunkMember, rfl⟩
      exact uses chunks chunksMember chunk chunkMember

theorem mirrors_perform_observed (host : SpiHost σ) (memory : Memory) (bus : SpiBus)
    (call : SpiCall) :
    Program.Mirrors Observed.world id (call.perform (bus.link host.observed memory))
      (call.perform (bus.link host memory)) := by
  apply SpiCall.mirrors_perform
  intro transaction
  exact Program.mirrors_bind (Program.mirrors_ofExcept _) fun _ =>
    SpiDevice.mirrors_transfer_observed host memory bus.device _ _ _

theorem setup_opened {host : SpiHost σ} {settings : SpiSettings}
    {process : SpiProcess (Observed σ)} {bus : SpiBus}
    (opened : ((setup host.observed settings).run process).answer = .ok bus) :
    ((setup host.observed settings).run process).state.2.modes =
        process.2.modes ++ [(bus.device.descriptor, settings.mode.kernelWord)] ∧
      bus.halfDuplex = settings.mode.isHalfDuplex := by
  rcases ran : (setup host.observed settings).run process with ⟨answer, reached, journal⟩
  rw [ran] at opened
  cases opened
  simp only [setup, Program.run_bind_eq_ok] at ran
  rcases ran with ⟨device, _, _, _, acquired, same, _⟩
  cases same
  exact ⟨SpiDevice.modes_acquire host acquired, rfl⟩

/-- A call that is refused for its directions leaves everything to the later calls as it was. -/
theorem run_attemptAll_of_conflict {host : SpiHost σ} {memory : Memory} {bus : SpiBus}
    {call : SpiCall} {transaction : SpiTransaction} (shared : bus.halfDuplex = true)
    (asked : call.transaction? = .ok transaction) (bothWays : transaction.BothWays)
    (later : List SpiCall) (state : σ) :
    let performAll (calls : List SpiCall) : Program σ ε _ :=
      Program.attemptAll (calls.map (SpiCall.perform (bus.link host memory)))
    (performAll (call :: later)).run state =
      let rest := (performAll later).run state
      ⟨rest.answer.map (.error (.bus (.halfDuplexConflict transaction.outLength
        transaction.inLength)) :: ·), rest.state, rest.journal⟩ := by
  have refused : (transaction.perform (bus.link host memory)).run state =
      ⟨.error (.halfDuplexConflict transaction.outLength transaction.inLength), state, []⟩ := by
    rw [perform_of_conflict shared bothWays]
    rfl
  intro performAll
  simp only [performAll, List.map_cons, Program.run_attemptAll_cons,
    SpiCall.run_perform_of_error asked refused, List.nil_append]

/-- The two directions of a bus never meet on a shared wire, whatever is asked of the bus.
1. Observing what the host is given changes neither answers nor worlds nor journal.
2. The node was given one mode word when the bus was set up, and the messages of each call are for
   this node.
3. If the mode word says that both directions share a wire, the messages of each call are all about
   one direction.
4. A transaction in both directions is then refused before anything is asked of the host, and later
   calls go on as if it had not been made.
5. All other calls are then as on a bus with a wire for each direction.
6. If the mode word does not say so, nothing is ever refused for its directions. -/
theorem directions_never_meet (host : SpiHost σ) (memory : Memory) (settings : SpiSettings)
    {process : SpiProcess (Observed σ)} {bus : SpiBus}
    (opened : ((setup host.observed settings).run process).answer = .ok bus)
    (calls : List SpiCall) (observed : Observed σ) :
    let reached := ((setup host.observed settings).run process).state
    let perform (bus : SpiBus) (call : SpiCall) := call.perform (bus.link host.observed memory)
    let performAll (calls : List SpiCall) : Program (Observed σ) ε _ :=
      Program.attemptAll (calls.map (perform bus))
    let groups := Observed.issued (calls.map (perform bus)) observed
    (setup host settings).run process.unobserved =
        ((setup host.observed settings).run process).view SpiProcess.unobserved id ∧
    (Program.attemptAll (calls.map (SpiCall.perform (bus.link host memory)))).run observed.world =
        ((performAll calls).run observed).view Observed.world id ∧
    ∃ word, reached.2.modes = process.2.modes ++ [(bus.device.descriptor, word)] ∧
      ((performAll calls).run observed).state.messages = observed.messages ++ groups.flatten ∧
      (∀ group ∈ groups, ∀ message ∈ group, message.descriptor = bus.device.descriptor) ∧
      (SharesWire word →
        (∀ group ∈ groups, ∃ leg, ∀ message ∈ group, ∀ part ∈ message.parts,
          part.UsesOnly leg) ∧
        (∀ call transaction, call.transaction? = .ok transaction → transaction.BothWays →
          ∀ later state,
            (performAll (call :: later)).run state =
              let rest := (performAll later).run state
              ⟨rest.answer.map (.error (.bus (.halfDuplexConflict transaction.outLength
                transaction.inLength)) :: ·), rest.state, rest.journal⟩) ∧
        ∀ call, (∀ transaction, call.transaction? = .ok transaction → ¬transaction.BothWays) →
          perform bus call = perform { bus with halfDuplex := false } call) ∧
      (¬SharesWire word → ∀ call state outLength inLength,
        ((perform bus call).run state).answer ≠
          .error (.bus (.halfDuplexConflict outLength inLength))) := by
  intro reached perform performAll groups
  rcases setup_opened opened with ⟨modes, sameDuplex⟩
  have shares : SharesWire settings.mode.kernelWord ↔ bus.halfDuplex = true := by
    rw [sharesWire_kernelWord, sameDuplex]
  have issues : ∀ program ∈ calls.map (perform bus), program.Issues bus.OneWay := by
    intro program member
    rcases List.mem_map.1 member with ⟨call, _, rfl⟩
    exact issues_perform host memory bus call
  rcases Program.issues_attemptAll issues observed with ⟨issued, oneWay⟩
  refine ⟨mirrors_setup_observed host settings process,
    Program.mirrors_attemptAll (mirrors_perform_observed host memory bus) calls observed,
    settings.mode.kernelWord, modes, issued, fun group member => (oneWay group member).1, ?_, ?_⟩
  · intro shared
    refine ⟨fun group member => (oneWay group member).2 (shares.1 shared), ?_, ?_⟩
    · intro call transaction asked bothWays later state
      exact run_attemptAll_of_conflict (shares.1 shared) asked bothWays later state
    · intro call oneLeg
      apply SpiCall.perform_congr
      intro transaction asked
      rw [perform_of_admitted fun conflict => oneLeg transaction asked conflict.2,
        perform_of_admitted (by simp)]
  · intro apart call state outLength inLength
    have halfDuplex : bus.halfDuplex = false := Bool.eq_false_iff.2 fun shared =>
      apart (shares.2 shared)
    exact perform_ne_conflict halfDuplex call state outLength inLength

/-- A bus with a shared wire refuses to transmit one byte while it receives two, and goes on to
transmit a byte. -/
theorem directions_of_shared_wire :
    let settings : SpiSettings := ⟨"/dev/spidev0.0", 500000, ⟨.mode0, .msbFirst, .half⟩⟩
    let process : SpiProcess (Observed Unit) := (.unresolved, ⟨(), [], [], []⟩)
    let opening := (setup SpiHost.quiet.observed settings).run process
    let bus : SpiBus := ⟨⟨3, 4096⟩, true⟩
    let calls : List SpiCall := [.transaction (some [1]) 2 false, .writeByte 0x55]
    let performAll (calls : List SpiCall) : Program (Observed Unit) SpiError _ :=
      Program.attemptAll
        (calls.map (SpiCall.perform (bus.link SpiHost.quiet.observed .addressSpace)))
    let groups := Observed.issued
      (calls.map (SpiCall.perform (bus.link SpiHost.quiet.observed .addressSpace))) opening.state.2
    opening.answer = .ok bus ∧ opening.state.2.modes = [(3, 0x14)] ∧ SharesWire 0x14 ∧
      ((performAll calls).run opening.state.2).state.messages = groups.flatten ∧
      (∀ group ∈ groups, ∃ leg, ∀ message ∈ group, ∀ part ∈ message.parts, part.UsesOnly leg) ∧
      ((performAll calls).run opening.state.2).answer =
        ((performAll [.writeByte 0x55]).run opening.state.2).answer.map
          (.error (.bus (.halfDuplexConflict 1 2)) :: ·) := by
  intro settings process opening bus calls performAll groups
  have opened : opening.answer = .ok bus := by decide +kernel
  have modes : opening.state.2.modes = [(3, 0x14)] := by decide +kernel
  have nothing : opening.state.2.messages = [] := by decide +kernel
  have shares : SharesWire 0x14 := by decide
  rcases directions_never_meet (ε := SpiError) SpiHost.quiet .addressSpace settings opened calls
    opening.state.2 with ⟨_, _, word, given, issued, _, shared, _⟩
  have word_eq : word = 0x14 := by
    have both := modes.symm.trans given
    simpa [process, bus, eq_comm] using both
  subst word_eq
  rcases shared shares with ⟨legs, refused, _⟩
  have later := refused (.transaction (some [1]) 2 false) ⟨some [1], 2, false⟩ rfl (by decide)
    [.writeByte 0x55] opening.state.2
  rw [nothing, List.nil_append] at issued
  exact ⟨opened, modes, shares, issued, legs, congrArg Outcome.answer later⟩

end SpiBus

end Pinwire
