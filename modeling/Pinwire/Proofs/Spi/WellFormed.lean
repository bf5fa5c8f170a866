import Pinwire.Proofs.Spi.Checked
import Pinwire.Proofs.Spi.Received

/-!
# Well-formed messages

What the kernel is given can be relied on: a message has one part or two, none of them empty or too
long for its length field, all together within the limit of the driver or the reach of a length
field, and each within the buffers that it is about. The messages are those of the schedule of the
transfer, with a part for every chunk of them.

The bounds come from three sides. The limit lies in the range that is admitted when it is read, the
budget of a message bounds the sum of its parts, and a part never goes past the end of a leg.
-/

namespace Pinwire

namespace ChunkLimit

variable {σ : Type}

/-- What a process can know of the limit: nothing at first, and then what comes of resolving it. -/
inductive Reached : ChunkLimit → Prop where
  | unresolved : Reached .unresolved
  | resolve {σ : Type} {limit : ChunkLimit} (reached : Reached limit)
      (reader : Program σ SpiError String) (world : σ) :
      Reached ((ChunkLimit.resolve reader).run (limit, world)).state.1

theorem readSize_bounds {reader : Program σ SpiError String} {world : σ} {size : Nat}
    (read : ((readSize reader).run world).answer = .ok size) :
    0 < size ∧ size ≤ Bounds.signed32 := by
  simp only [readSize, Program.answer_bind_eq_ok] at read
  rcases read with ⟨text, _, size', parsed, _, _, same⟩
  cases same
  exact parse_bounds parsed

/-- Resolving a limit answers with a size between the bounds and only ever keeps such a size. -/
theorem resolve_bounds {limit : ChunkLimit} (reader : Program σ SpiError String) (world : σ)
    (bounded : ∀ size, limit.resolved = some size → 0 < size ∧ size ≤ Bounds.signed32) :
    let outcome := (resolve reader).run (limit, world)
    (∀ size, outcome.answer = .ok size → 0 < size ∧ size ≤ Bounds.signed32) ∧
      ∀ size, outcome.state.1.resolved = some size → 0 < size ∧ size ≤ Bounds.signed32 := by
  intro outcome
  rcases limit with ⟨_ | known⟩
  · rcases read : (readSize reader).run world with ⟨error | size, reached, journal⟩
    · rw [show outcome = _ from run_resolve_of_error read]
      exact ⟨nofun, nofun⟩
    · rw [show outcome = _ from run_resolve_of_ok read]
      have sizeBounds : 0 < size ∧ size ≤ Bounds.signed32 := readSize_bounds (by rw [read])
      constructor
      · intro size' same
        cases same
        exact sizeBounds
      · intro size' same
        cases same
        exact sizeBounds
  · constructor
    · intro size same
      cases same
      exact bounded known rfl
    · exact bounded

theorem Reached.bounds {limit : ChunkLimit} (reached : limit.Reached) :
    ∀ size, limit.resolved = some size → 0 < size ∧ size ≤ Bounds.signed32 := by
  induction reached with
  | unresolved => exact nofun
  | resolve reached reader world ih => exact (resolve_bounds reader world ih).2

end ChunkLimit

theorem Cursor.length_schedule_of_fits {transmitLength receiveLength budget : Nat}
    (some_ticks : 1 ≤ max transmitLength receiveLength)
    (few_ticks : max transmitLength receiveLength ≤ budget) :
    (schedule transmitLength receiveLength budget).length = 1 := by
  have positive : 0 < budget := by omega
  have atMostOne : max transmitLength receiveLength ⌈/⌉ budget ≤ 1 := by
    rw [ceilDiv_le_iff_le_mul positive]
    omega
  have atLeastOne : ¬max transmitLength receiveLength ⌈/⌉ budget ≤ 0 := by
    rw [ceilDiv_le_iff_le_mul positive]
    omega
  rw [schedule, List.length_map, List.length_range]
  omega

namespace Span

/-- A chunk of a transfer stays within the legs that it serves. -/
theorem chunk_inside {transmitLength receiveLength : Nat} {span : Span}
    (uncut : span.stop ≤ min transmitLength receiveLength ∨
      min transmitLength receiveLength ≤ span.start)
    (nonempty : span.start < span.stop) (within : span.stop ≤ max transmitLength receiveLength) :
    let chunk := chunk transmitLength receiveLength span
    (∀ offset, chunk.transmitOffset = some offset → offset + chunk.length ≤ transmitLength) ∧
      ∀ offset, chunk.receiveOffset = some offset → offset + chunk.length ≤ receiveLength := by
  simp only [chunk]
  constructor
  · intro offset served
    split at served
    · cases served
      omega
    · cases served
  · intro offset served
    split at served
    · cases served
      omega
    · cases served

end Span

/-- A part of a message that stands for a chunk of a transfer: nothing of the chunk is lost, and
what it transmits and where it receives lie inside the buffers. -/
structure Descriptor.StandsFor (output : List UInt8) (inLength : Nat) (part : Descriptor)
    (chunk : Chunk) : Prop where
  nonempty : 1 ≤ chunk.length
  fits : chunk.length ≤ Bounds.unsigned32
  /-- The length of the chunk survives in the length field. -/
  length : part.length.toNat = chunk.length
  transmit : part.transmit =
    chunk.transmitOffset.map fun offset => Transfer.window offset chunk.length output
  transmitInside : ∀ offset, chunk.transmitOffset = some offset →
    offset + chunk.length ≤ output.length
  receiveOffset : part.receiveOffset = chunk.receiveOffset
  receiveInside : ∀ offset, part.receiveOffset = some offset →
    offset + part.length.toNat ≤ inLength

namespace SpiDevice

/-- A message that stands for a batch of chunks and can be handed to the kernel. -/
structure WellFormed (output : List UInt8) (inLength limit : Nat) (chunks : List Chunk)
    (message : KernelMessage) : Prop where
  few : message.parts.length = 1 ∨ message.parts.length = 2
  /-- Every chunk of the batch has a part, in order, and there are no other parts. -/
  complete : List.Forall₂ (Descriptor.StandsFor output inLength) message.parts chunks
  within : (message.parts.map fun part => part.length.toNat).sum ≤ limit

theorem standsFor_describe {output : List UInt8} {inLength : Nat} {span : Span}
    (uncut : span.stop ≤ min output.length inLength ∨ min output.length inLength ≤ span.start)
    (nonempty : span.start < span.stop) (within : span.stop ≤ max output.length inLength)
    (fits : span.stop - span.start ≤ Bounds.unsigned32) :
    let chunk := span.chunk output.length inLength
    (describe output chunk).StandsFor output inLength chunk := by
  intro chunk
  have inside := Span.chunk_inside uncut nonempty within
  have length_eq : (describe output chunk).length.toNat = chunk.length :=
    length_describe output fits
  exact ⟨Nat.sub_pos_of_lt nonempty, fits, length_eq, rfl, inside.1, rfl,
    fun offset served => length_eq ▸ inside.2 offset served⟩

theorem wellFormed_schedule {output : List UInt8} {inLength budget : Nat} {chunks : List Chunk}
    (descriptor : Int) (positive : 0 < budget) (fits : budget ≤ Bounds.unsigned32)
    (member : chunks ∈ Cursor.schedule output.length inLength budget) :
    WellFormed output inLength budget chunks (kernelMessage descriptor output chunks) := by
  rcases Cursor.stretch_of_mem_schedule _ _ positive member with
    ⟨start, stop, nonempty, short, inside, rfl⟩
  have stands : ∀ chunk ∈ (Span.cutAt (min output.length inLength) start stop).map
      (Span.chunk output.length inLength),
      (describe output chunk).StandsFor output inLength chunk := by
    intro chunk chunkMember
    rcases List.mem_map.1 chunkMember with ⟨span, spanMember, rfl⟩
    have spanBounds := Span.bounds_of_mem_cutAt spanMember
    -- No span goes across the end of the shorter leg, so it does not leave a leg that it starts in.
    exact standsFor_describe (Span.uncut_of_mem_cutAt spanMember) spanBounds.2.1 (by omega)
      (by omega)
  constructor
  case few =>
    rw [kernelMessage, List.length_map, List.length_map]
    exact Span.length_cutAt nonempty
  case complete => exact List.forall₂_map_left_iff.2 (List.forall₂_same.2 stands)
  case within =>
    have lengths := List.map_congr_left fun chunk chunkMember =>
      (stands chunk chunkMember).length
    rw [kernelMessage, List.map_map]
    refine Nat.le_trans (Nat.le_of_eq ((congrArg List.sum lengths).trans
      (Span.sum_length_cutAt _ _ _ _ _))) ?_
    omega

/-- Every message that a device issues is well formed, and putting it together stays within the
words of the machine.
1. Observing what the host is given changes neither answer nor world nor journal.
2. The messages are for the first batches of the schedule of the transfer. Each has a part for every
   chunk of its batch and is well formed within the limit of the device, or within the reach of a
   length field if the transfer is not split.
3. Once the receive buffer is provided, no transfer with something to do is without a message.
4. If the transfer answers, no batch is left out, and the receive buffer has, part by part, what was
   brought back for the ranges of the parts.
5. A transfer that is not split and whose ticks fit a length field is one message.
6. Wherever the transfer has got to, no difference or sum that leads to the next message leaves the
   range of a word. -/
theorem messages_are_well_formed {σ τ : Type} (host : SpiHost σ) (memory : Memory)
    (device : SpiDevice) {known : ChunkLimit} (reached : known.Reached)
    {reader : Program τ SpiError String} {surroundings : τ}
    (resolved : ((ChunkLimit.resolve reader).run (known, surroundings)).answer =
      .ok device.chunkLimit)
    (output : Option (List UInt8)) (inLength : Nat) (chunked : Bool)
    (outWord : (output.getD []).length ≤ Bounds.unsigned64)
    (inWord : inLength ≤ Bounds.unsigned64) (world : σ) :
    let bytes := output.getD []
    let limit := if chunked then device.chunkLimit else Bounds.unsigned32
    let schedule := Cursor.schedule bytes.length inLength limit
    let outcome :=
      (device.transfer host.observed memory output inLength chunked).run ⟨world, [], [], []⟩
    (device.transfer host memory output inLength chunked).run world =
      outcome.view Observed.world id ∧
    (∃ groups, groups <+: schedule ∧
      outcome.state.messages = groups.map (kernelMessage device.descriptor bytes) ∧
      (∀ chunks ∈ groups, WellFormed bytes inLength limit chunks
        (kernelMessage device.descriptor bytes chunks)) ∧
      (memory.reserve inLength 1 = .ok () → schedule ≠ [] → groups ≠ []) ∧
      (∀ received, outcome.answer = .ok received → groups = schedule ∧
        received = (List.zipWith KernelMessage.filled outcome.state.messages
          outcome.state.replies).flatten) ∧
      (chunked = false → memory.reserve inLength 1 = .ok () → 1 ≤ max bytes.length inLength →
        max bytes.length inLength ≤ Bounds.unsigned32 → groups.length = 1)) ∧
    ∀ count,
      let cursor := (Cursor.start bytes.length inLength).after (fun _ => limit) count
      cursor.isDone? = some cursor.isDone ∧
        cursor.nextMessage? limit = some (cursor.nextMessage limit) := by
  intro bytes limit schedule outcome
  have sizeBounds := (ChunkLimit.resolve_bounds reader surroundings reached.bounds).1 _ resolved
  have positive : 0 < limit := by
    simp only [limit]
    split
    · exact sizeBounds.1
    · decide
  have fits : limit ≤ Bounds.unsigned32 := by
    simp only [limit]
    split
    · exact Nat.le_trans sizeBounds.2 (by decide)
    · exact Nat.le_refl _
  have budget_eq : max (device.budget chunked) 1 = limit := Nat.max_eq_left positive
  rcases messages_transfer host memory device output inLength chunked ⟨world, [], [], []⟩ with
    ⟨sent, first, issues, issued, stored⟩
  rw [budget_eq] at first issues stored
  refine ⟨mirrors_transfer_observed host memory device output inLength chunked ⟨world, [], [], []⟩,
    ⟨sent, first, issued, ?_, issues, ?_, ?_⟩, ?_⟩
  · intro chunks member
    exact wellFormed_schedule device.descriptor positive fits (first.subset member)
  · intro received answered
    rcases stored received answered with ⟨rfl, replies, noted, filled⟩
    refine ⟨rfl, ?_⟩
    rw [issued, noted]
    exact filled.received_eq device.descriptor positive fits
  · intro whole granted some_ticks few_ticks
    have limit_eq : limit = Bounds.unsigned32 := by
      simp only [limit, whole, Bool.false_eq_true, if_false]
    have single : schedule.length = 1 :=
      Cursor.length_schedule_of_fits some_ticks (limit_eq ▸ few_ticks)
    have some_messages : schedule ≠ [] := List.ne_nil_of_length_pos (by omega)
    have some_sent := List.length_pos_iff.2 (issues granted some_messages)
    have few_sent : sent.length ≤ schedule.length := first.length_le
    omega
  · intro count
    have inRange :=
      Cursor.inRange_after (Cursor.inRange_start outWord inWord) (fun _ => limit) count
    exact ⟨Cursor.isDone?_eq inRange, Cursor.nextMessage?_eq inRange limit⟩

/-- Six bytes out and three bytes in, on a device whose limit is four bytes: the messages of the
schedule if the transfer is split, and one message if it is not. -/
theorem messages_of_six_and_three :
    let device : SpiDevice := ⟨3, 4⟩
    let reader : Program Unit SpiError String := pure "4\n"
    let output : List UInt8 := [1, 2, 3, 4, 5, 6]
    let outcome (chunked : Bool) :=
      (device.transfer SpiHost.quiet.observed .addressSpace (some output) 3 chunked).run
        ⟨(), [], [], []⟩
    ((ChunkLimit.resolve reader).run (.unresolved, ())).answer = .ok device.chunkLimit ∧
      (outcome true).answer = .ok [0, 0, 0] ∧
      (outcome true).state.messages =
        (Cursor.schedule 6 3 4).map (kernelMessage 3 output) ∧
      (∀ chunks ∈ Cursor.schedule 6 3 4, WellFormed output 3 4 chunks
        (kernelMessage 3 output chunks)) ∧
      ∃ chunks, [chunks] <+: Cursor.schedule 6 3 Bounds.unsigned32 ∧
        (outcome false).state.messages = [kernelMessage 3 output chunks] ∧
        WellFormed output 3 Bounds.unsigned32 chunks (kernelMessage 3 output chunks) := by
  intro device reader output outcome
  have resolved : ((ChunkLimit.resolve reader).run (.unresolved, ())).answer =
      .ok device.chunkLimit := by
    decide +kernel
  have answered : (outcome true).answer = .ok [0, 0, 0] := by decide +kernel
  have wellFormed :=
    messages_are_well_formed SpiHost.quiet .addressSpace device .unresolved resolved (some output) 3
  rcases wellFormed true (by decide) (by decide) () with
    ⟨_, ⟨groups, _, issued, formed, _, complete, _⟩, _⟩
  rcases wellFormed false (by decide) (by decide) () with
    ⟨_, ⟨whole, first, issuedWhole, formedWhole, _, _, one⟩, _⟩
  rcases complete _ answered with ⟨rfl, _⟩
  rcases List.length_eq_one_iff.1 (one rfl rfl (by decide) (by decide)) with ⟨chunks, rfl⟩
  exact ⟨resolved, answered, issued, formed, chunks, first, issuedWhole,
    formedWhole chunks List.mem_cons_self⟩

end SpiDevice

end Pinwire
