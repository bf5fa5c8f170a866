import Pinwire.Proofs.Spi.Observed

/-!
# What a transfer receives

The bytes that a transfer answers with are what its messages brought back, one part after the other:
every part that receives has a place of its own in the receive buffer, and the places follow each
other without a gap.

The invariant is the shape of the receive buffer: the bytes up to the tick that the transfer has got
to, and zeros after them.
-/

namespace Pinwire

/-- What a part of a message brings into the receive buffer: as many bytes of the reply as the part
is long, and zeros where the reply ends early. -/
def Descriptor.filled (part : Descriptor) (reply : List UInt8) : List UInt8 :=
  if part.receiveOffset.isSome then reply.takeD part.length.toNat 0 else []

/-- What a message brings into the receive buffer, part by part. A part without a reply has an empty
one. -/
def KernelMessage.filled (message : KernelMessage) (replies : List (List UInt8)) : List UInt8 :=
  (List.zipWith Descriptor.filled message.parts (replies.takeD message.parts.length [])).flatten

namespace Transfer

/-- Bytes that are stored where the zeros of a buffer begin take the place of as many zeros. -/
theorem store_zeros (front reply rest : List UInt8) (count : Nat) :
    store front.length (reply.take count) (front ++ (List.replicate count 0 ++ rest)) =
      front ++ (reply.takeD count 0 ++ rest) := by
  induction front with
  | nil =>
      induction count generalizing reply with
      | zero => simp [store]
      | succ count ih =>
          cases reply with
          | nil => simp [store, List.replicate_succ]
          | cons byte reply => exact congrArg (byte :: ·) (ih reply)
  | cons byte front ih =>
      rcases taken : reply.take count with _ | ⟨first, others⟩
      · rw [taken] at ih
        simpa [store] using ih
      · rw [taken] at ih
        exact congrArg (byte :: ·) ih

end Transfer

/-- A receive buffer that has got bytes up to a tick, with zeros after them. -/
structure FilledUpTo (inLength time : Nat) (bytes buffer : List UInt8) : Prop where
  length : bytes.length = min time inLength
  zeros : buffer = bytes ++ List.replicate (inLength - time) 0

namespace FilledUpTo

variable {inLength time : Nat} {bytes buffer output : List UInt8}

theorem start (inLength : Nat) : FilledUpTo inLength 0 [] (List.replicate inLength 0) :=
  ⟨(Nat.zero_min _).symm, rfl⟩

theorem buffer_eq (filled : FilledUpTo inLength time bytes buffer) (done : inLength ≤ time) :
    buffer = bytes := by
  rw [filled.zeros, Nat.sub_eq_zero_of_le done]
  exact List.append_nil _

theorem storeReply (span : Span) (filled : FilledUpTo inLength span.start bytes buffer)
    (uncut : span.stop ≤ min output.length inLength ∨ min output.length inLength ≤ span.start)
    (nonempty : span.start < span.stop) (within : span.stop ≤ max output.length inLength)
    (fits : span.stop - span.start ≤ Bounds.unsigned32) (reply : List UInt8) :
    let part := SpiDevice.describe output (span.chunk output.length inLength)
    FilledUpTo inLength span.stop (bytes ++ part.filled reply)
      (SpiDevice.storeReply part reply buffer) := by
  intro part
  have length_part : part.length.toNat = span.stop - span.start :=
    SpiDevice.length_describe output fits
  have bytesLength := filled.length
  by_cases receives : span.start < inLength
  · have place : part.receiveOffset = some bytes.length := by
      rw [bytesLength, Nat.min_eq_left (Nat.le_of_lt receives)]
      exact if_pos receives
    have room : inLength - span.start = span.stop - span.start + (inLength - span.stop) := by omega
    constructor
    · rw [List.length_append, bytesLength, Descriptor.filled, place, length_part]
      simp only [Option.isSome_some, if_true, List.takeD_length]
      omega
    · simp only [SpiDevice.storeReply, Descriptor.filled, place, Option.isSome_some, if_true,
        length_part]
      rw [filled.zeros, room, ← List.replicate_append_replicate, List.append_assoc]
      exact Transfer.store_zeros bytes reply _ _
  · -- The receive leg is over, so the part has no place in the buffer.
    have noPlace : part.receiveOffset = none := if_neg receives
    constructor
    · rw [Descriptor.filled, noPlace]
      simp only [Option.isSome_none, Bool.false_eq_true, if_false, List.append_nil]
      omega
    · simp only [SpiDevice.storeReply, Descriptor.filled, noPlace, Option.isSome_none,
        Bool.false_eq_true, if_false, List.append_nil]
      rw [filled.zeros, Nat.sub_eq_zero_of_le (by omega), Nat.sub_eq_zero_of_le (by omega)]

/-- The replies to a message fill the buffer up to where its stretch ends. -/
theorem storeReplies {start stop : Nat} (filled : FilledUpTo inLength start bytes buffer)
    (ordered : start ≤ stop) (within : stop ≤ max output.length inLength)
    (fits : stop - start ≤ Bounds.unsigned32) (descriptor : Int) (replies : List (List UInt8)) :
    let chunks := (Span.cutAt (min output.length inLength) start stop).map
      (Span.chunk output.length inLength)
    FilledUpTo inLength stop
      (bytes ++ (SpiDevice.kernelMessage descriptor output chunks).filled replies)
      (SpiDevice.storeReplies (chunks.map (SpiDevice.describe output)) replies buffer) := by
  intro chunks
  by_cases empty : stop ≤ start
  · have same : start = stop := by omega
    subst same
    simpa [chunks, Span.cutAt_of_le empty, SpiDevice.kernelMessage, KernelMessage.filled,
      SpiDevice.storeReplies] using filled
  by_cases inside : start < min output.length inLength ∧ min output.length inLength < stop
  · have first := storeReply ⟨start, min output.length inLength⟩ filled (.inl (Nat.le_refl _))
      inside.1 (by dsimp only; omega) (by dsimp only; omega) (replies.headD [])
    have second := storeReply ⟨min output.length inLength, stop⟩ first (.inr (Nat.le_refl _))
      inside.2 within (by dsimp only; omega) (replies.tail.headD [])
    simpa [chunks, Span.cutAt_of_inside inside, SpiDevice.kernelMessage, KernelMessage.filled,
      SpiDevice.storeReplies] using second
  · have only := storeReply ⟨start, stop⟩ filled (by dsimp only; omega) (by dsimp only; omega)
      within fits (replies.headD [])
    simpa [chunks, Span.cutAt_of_outside (by omega) inside, SpiDevice.kernelMessage,
      KernelMessage.filled, SpiDevice.storeReplies] using only

end FilledUpTo

namespace SpiDevice

variable {output : List UInt8} {inLength budget : Nat}

/-- From where some messages have led, the replies to further messages fill the buffer up to where
these lead. -/
theorem Stored.filledUpTo (descriptor : Int) (fits : budget ≤ Bounds.unsigned32) (left count : Nat)
    {replies : List (List (List UInt8))} {bytes input received : List UInt8} :
    let messages := (List.range' count left).map
      ((Cursor.start output.length inLength).messageAt fun _ => budget)
    let time := Cursor.timeAfter (max output.length inLength) fun _ => budget
    Stored output messages replies input received →
    FilledUpTo inLength (time count) bytes input →
    FilledUpTo inLength (time (count + left))
      (bytes ++ (List.zipWith KernelMessage.filled (messages.map (kernelMessage descriptor output))
        replies).flatten) received := by
  induction left generalizing count replies bytes input with
  | zero =>
      intro messages time stored filled
      simp only [messages, List.range'_zero, List.map_nil] at stored
      cases stored
      simpa [messages] using filled
  | succ left ih =>
      intro messages time stored filled
      simp only [messages, time, List.range'_succ, List.map_cons] at stored filled ⊢
      cases stored with
      | @message _ _ reply replies _ _ rest =>
          have next := filled.storeReplies (Cursor.timeAfter_le_succ _ _ count)
            (Cursor.timeAfter_le_total _ _ _) (by simp only [Cursor.timeAfter]; omega) descriptor
            reply
          rw [← Cursor.messageAt_start] at next
          have later := ih (count + 1) rest next
          rw [List.append_assoc, Nat.succ_add_eq_add_succ] at later
          exact later

/-- Once the schedule is through, the receive buffer has what the messages brought back. -/
theorem Stored.received_eq (descriptor : Int) (positive : 0 < budget)
    (fits : budget ≤ Bounds.unsigned32) {replies : List (List (List UInt8))}
    {received : List UInt8}
    (stored : Stored output (Cursor.schedule output.length inLength budget) replies
      (List.replicate inLength 0) received) :
    received = (List.zipWith KernelMessage.filled ((Cursor.schedule output.length inLength
      budget).map (kernelMessage descriptor output)) replies).flatten := by
  rw [Cursor.schedule, List.range_eq_range'] at stored ⊢
  have filled := Stored.filledUpTo descriptor fits _ 0 stored (FilledUpTo.start inLength)
  apply filled.buffer_eq
  have whole := (ceilDiv_le_iff_le_mul positive).1
    (Nat.le_refl (max output.length inLength ⌈/⌉ budget))
  rw [Cursor.timeAfter_const, Nat.zero_add]
  omega

end SpiDevice

end Pinwire
