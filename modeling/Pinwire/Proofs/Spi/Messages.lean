import Pinwire.Proofs.Program
import Pinwire.Proofs.Spi.Schedule
import Pinwire.Spi.Transfer

/-!
# Transfers as messages in order

A transfer loops over a cursor until it is done. This file unrolls the loop: it carries out the
messages of the schedule one after the other, and there is nothing else to it once the receive
buffer has been provided.
-/

namespace Pinwire

namespace Memory

theorem reserve_of_exceeded (memory : Memory) {count width : Nat}
    (exceeded : largestBuffer < count * width) :
    memory.reserve count width = .error .capacityExceeded := by
  rw [reserve, if_neg (Nat.ne_of_gt (Nat.zero_lt_of_lt exceeded)), if_pos exceeded]

end Memory

namespace Transfer

variable {σ : Type}

/-- Carries out messages in order, from one receive buffer to the next. -/
def sendAll (sink : MessageSink σ) (output : List UInt8) :
    List (List Chunk) → List UInt8 → Program σ SpiError (List UInt8)
  | [], input => pure input
  | chunks :: messages, input => do
    noteMessage chunks
    let input ← sendMessage sink output chunks input
    sendAll sink output messages input

/-- The journal record of a message: how many chunks it has and how long they are. -/
def messageRecord (chunks : List Chunk) : Record where
  level := .trace
  source := source
  text :=
    let lengths := Text.bracketed (fun chunk : Chunk => Text.Decimal.render chunk.length) chunks
    s!"linux_spi: message with {chunks.length} chunk(s): {String.ofList lengths}"

section Steps

variable {sink : MessageSink σ} {output input received : List UInt8} {chunks : List Chunk}
  {messages : List (List Chunk)} {state reached : σ} {fault : Fault}

/-- A message that the sink carries out is noted, and the other messages follow. -/
theorem run_sendAll_of_ok
    (carried : sink.message chunks output input state = ((.ok (), received), reached)) :
    (sendAll sink output (chunks :: messages) input).run state =
      let rest := (sendAll sink output messages received).run reached
      { rest with journal := messageRecord chunks :: rest.journal } := by
  have noted : (noteMessage chunks : Program σ SpiError Unit).run state =
      ⟨.ok (), state, [messageRecord chunks]⟩ := rfl
  have sent : (sendMessage sink output chunks input).run state = ⟨.ok received, reached, []⟩ := by
    simp only [sendMessage, Program.run, Program.act, carried]
    rfl
  rw [sendAll, Program.run_bind_of_ok noted, Program.run_bind_of_ok sent]
  rfl

/-- A message that the sink refuses is noted, and it is the last one. -/
theorem run_sendAll_of_error
    (refused : sink.message chunks output input state = ((.error fault, received), reached)) :
    (sendAll sink output (chunks :: messages) input).run state =
      ⟨.error (.transferFailed fault), reached, [messageRecord chunks]⟩ := by
  have noted : (noteMessage chunks : Program σ SpiError Unit).run state =
      ⟨.ok (), state, [messageRecord chunks]⟩ := rfl
  have sent : (sendMessage sink output chunks input).run state =
      ⟨.error (.transferFailed fault), reached, []⟩ := by
    simp only [sendMessage, Program.run, Program.act, refused]
    rfl
  rw [sendAll, Program.run_bind_of_ok noted, Program.run_bind_of_error sent]
  rfl

end Steps

/-- The loop from a cursor on which `count` messages have been spent carries out the messages that
are left, in order. -/
theorem carryOut_after (sink : MessageSink σ) (output : List UInt8) {budget : Nat}
    (positive : 0 < budget) (transmitLength receiveLength left count : Nat) (input : List UInt8)
    (total : count + left = max transmitLength receiveLength ⌈/⌉ budget) :
    carryOut sink output budget positive
        ((Cursor.start transmitLength receiveLength).after (fun _ => budget) count) input =
      sendAll sink output
        ((List.range' count left).map
          ((Cursor.start transmitLength receiveLength).messageAt fun _ => budget)) input := by
  have done_iff := Cursor.isDone_after_iff transmitLength receiveLength positive count
  induction left generalizing count input with
  | zero =>
      have done := done_iff.2 (by omega)
      rw [carryOut, if_neg (by rw [done]; exact Bool.noConfusion)]
      rfl
  | succ left ih =>
      have notDone := Bool.eq_false_iff.2 fun done => absurd (done_iff.1 done) (by omega)
      rw [carryOut, if_pos notDone]
      simp only [List.range'_succ, List.map_cons, sendAll]
      congr 1
      funext _
      congr 1
      funext received
      exact ih (count + 1) received (by omega) (Cursor.isDone_after_iff _ _ positive _)

theorem carryOut_start (sink : MessageSink σ) (output : List UInt8) {budget : Nat}
    (positive : 0 < budget) (transmitLength receiveLength : Nat) (input : List UInt8) :
    carryOut sink output budget positive (Cursor.start transmitLength receiveLength) input =
      sendAll sink output (Cursor.schedule transmitLength receiveLength budget) input := by
  rw [Cursor.schedule, List.range_eq_range']
  exact carryOut_after sink output positive transmitLength receiveLength _ 0 input
    (Nat.zero_add _)

end Transfer

section Transfer

variable {σ : Type} (memory : Memory) (sink : MessageSink σ) (output : Option (List UInt8))
  (inLength budget : Nat)

/-- A transfer whose receive buffer is provided carries out its schedule, be it empty or not. -/
theorem transfer_of_granted (granted : memory.reserve inLength 1 = .ok ()) :
    transfer memory sink output inLength budget =
      Transfer.sendAll sink (output.getD [])
        (Cursor.schedule (output.getD []).length inLength (max budget 1))
        (List.replicate inLength 0) := by
  unfold transfer
  by_cases nothing : (output.getD []).isEmpty ∧ inLength = 0
  · rcases nothing with ⟨noOutput, rfl⟩
    rw [List.isEmpty_iff] at noOutput
    have noMessages : Cursor.schedule 0 0 (max budget 1) = [] := by simp [Cursor.schedule]
    simp only [noOutput, List.isEmpty_nil, decide_true, Bool.and_self, if_true, List.length_nil,
      noMessages]
    rfl
  · rw [if_neg (by simpa using nothing)]
    simp only [Memory.allocate, granted]
    exact (Program.ofExcept_ok_bind _ _).trans (Transfer.carryOut_start _ _ _ _ _ _)

theorem transfer_of_refused {cause : AllocationError}
    (refused : memory.reserve inLength 1 = .error cause) :
    transfer memory sink output inLength budget = .fail (.outOfMemory cause) := by
  unfold transfer
  by_cases nothing : (output.getD []).isEmpty ∧ inLength = 0
  · rcases nothing with ⟨_, rfl⟩
    simp [Memory.reserve] at refused
  · rw [if_neg (by simpa using nothing)]
    simp only [Memory.allocate, refused]
    exact Program.ofExcept_error_bind _ _

end Transfer

end Pinwire
