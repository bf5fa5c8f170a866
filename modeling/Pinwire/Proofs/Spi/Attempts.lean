import Pinwire.Bench.Loopback
import Pinwire.Proofs.Program
import Pinwire.Proofs.Spi.Messages

/-!
# Attempted messages

A sink may refuse any message, depending on all that went before. This file shows which messages a
transfer asks of such a sink: those of its schedule, in order, until one of them fails or none is
left. The failing message is asked for once, its fault is the answer of the transfer, and what was
received before it is gone.

The messages are observed through a sink that keeps account of what it is asked for and otherwise
does what the sink behind it does.
-/

namespace Pinwire

/-- A message that was asked of a sink, and what the sink answered. -/
structure Attempt where
  chunks : List Chunk
  answer : Except Fault Unit

/-- The state of a sink together with the messages that were asked of it. -/
structure Attempted (σ : Type) where
  state : σ
  attempts : List Attempt

namespace MessageSink

variable {σ : Type}

/-- The same sink, with an account of the messages that it is asked for. -/
def accounted (sink : MessageSink σ) : MessageSink (Attempted σ) where
  message chunks output input attempted :=
    let ((answer, input), state) := sink.message chunks output input attempted.state
    ((answer, input), ⟨state, attempted.attempts ++ [⟨chunks, answer⟩]⟩)
  keepsLength chunks output input attempted :=
    sink.keepsLength chunks output input attempted.state

theorem message_accounted {sink : MessageSink σ} {chunks : List Chunk}
    {output input received : List UInt8} {state reached : σ} {answer : Except Fault Unit}
    (answered : sink.message chunks output input state = ((answer, received), reached))
    (attempts : List Attempt) :
    sink.accounted.message chunks output input ⟨state, attempts⟩ =
      ((answer, received), ⟨reached, attempts ++ [⟨chunks, answer⟩]⟩) := by
  simp only [accounted, answered]

end MessageSink

namespace Transfer

variable {σ : Type}

/-- What comes of messages that are asked for in order, with a receive buffer of some length: the
attempts that are made and the answer in the end. -/
inductive Ending (length : Nat) :
    List (List Chunk) → List Attempt → Except SpiError (List UInt8) → Prop where
  | complete {received : List UInt8} (fits : received.length = length) :
      Ending length [] [] (.ok received)
  /-- The first message fails, and the others are not asked for. -/
  | failed (chunks : List Chunk) (messages : List (List Chunk)) (fault : Fault) :
      Ending length (chunks :: messages) [⟨chunks, .error fault⟩] (.error (.transferFailed fault))
  /-- The first message is carried out, and the others follow. -/
  | carriedOut (chunks : List Chunk) {messages : List (List Chunk)} {attempts : List Attempt}
      {answer : Except SpiError (List UInt8)} (rest : Ending length messages attempts answer) :
      Ending length (chunks :: messages) (⟨chunks, .ok ()⟩ :: attempts) answer

namespace Ending

variable {length : Nat} {messages : List (List Chunk)} {attempts : List Attempt}
  {answer : Except SpiError (List UInt8)}

theorem isPrefix (ending : Ending length messages attempts answer) :
    attempts.map Attempt.chunks <+: messages := by
  induction ending with
  | complete fits => exact List.nil_prefix
  | failed chunks messages fault => exact List.cons_prefix_cons.2 ⟨rfl, List.nil_prefix⟩
  | carriedOut chunks rest ih => exact List.cons_prefix_cons.2 ⟨rfl, ih⟩

/-- Either the last attempt fails, and its fault is the answer, or there is an attempt for each
message, and the receive buffer is the answer. -/
theorem cases (ending : Ending length messages attempts answer) :
    (∃ fault last earlier, answer = .error (.transferFailed fault) ∧
      attempts = earlier ++ [⟨last, .error fault⟩] ∧
      ∀ attempt ∈ earlier, attempt.answer = .ok ()) ∨
    ∃ received, answer = .ok received ∧ received.length = length ∧
      attempts.map Attempt.chunks = messages ∧ ∀ attempt ∈ attempts, attempt.answer = .ok () := by
  induction ending with
  | @complete received fits =>
      right
      exact ⟨received, rfl, fits, rfl, by simp⟩
  | failed chunks messages fault =>
      left
      exact ⟨fault, chunks, [], rfl, rfl, by simp⟩
  | carriedOut chunks rest ih =>
      rcases ih with ⟨fault, last, earlier, failed, made, carried⟩ |
        ⟨received, ok, fits, made, carried⟩
      · left
        refine ⟨fault, last, ⟨chunks, .ok ()⟩ :: earlier, failed, by rw [made]; rfl, ?_⟩
        simpa using carried
      · right
        refine ⟨received, ok, fits, by rw [← made]; rfl, ?_⟩
        simpa using carried

end Ending

/-- Messages that are asked for in order come to an ending, and each attempt is noted in the
journal. -/
theorem ending_sendAll (sink : MessageSink σ) (output : List UInt8) (messages : List (List Chunk))
    (input : List UInt8) (state : σ) (before : List Attempt) :
    let outcome := (sendAll sink.accounted output messages input).run ⟨state, before⟩
    ∃ attempts, outcome.state.attempts = before ++ attempts ∧
      outcome.journal = attempts.map (fun attempt => messageRecord attempt.chunks) ∧
      Ending input.length messages attempts outcome.answer := by
  induction messages generalizing input state before with
  | nil => exact ⟨[], (List.append_nil _).symm, rfl, .complete rfl⟩
  | cons chunks messages ih =>
      have fits := sink.keepsLength chunks output input state
      rcases answered : sink.message chunks output input state with
        ⟨⟨fault | ⟨⟩, received⟩, reached⟩
      · rw [run_sendAll_of_error (MessageSink.message_accounted answered before)]
        exact ⟨[⟨chunks, .error fault⟩], rfl, rfl, .failed chunks messages fault⟩
      · rw [run_sendAll_of_ok (MessageSink.message_accounted answered before)]
        rcases ih received reached (before ++ [⟨chunks, .ok ()⟩]) with
          ⟨attempts, made, noted, ending⟩
        rw [answered] at fits
        rw [show received.length = input.length from fits] at ending
        refine ⟨⟨chunks, .ok ()⟩ :: attempts, ?_, congrArg (messageRecord chunks :: ·) noted,
          .carriedOut chunks ending⟩
        rw [made, List.append_assoc]
        rfl

theorem mirrors_sendAll (sink : MessageSink σ) (output : List UInt8)
    (messages : List (List Chunk)) (input : List UInt8) :
    Program.Mirrors Attempted.state id (sendAll sink.accounted output messages input)
      (sendAll sink output messages input) := by
  induction messages generalizing input with
  | nil => exact Program.mirrors_pure rfl
  | cons chunks messages ih =>
      refine Program.mirrors_bind (Program.mirrors_record _ _ _) fun _ =>
        Program.mirrors_bind (Program.mirrors_act _ fun ⟨state, before⟩ => ?_) ih
      rcases answered : sink.message chunks output input state with
        ⟨⟨fault | ⟨⟩, received⟩, reached⟩ <;>
        rw [MessageSink.message_accounted answered before] <;> rfl

end Transfer

section Transfer

variable {σ : Type} (memory : Memory) (sink : MessageSink σ) (output : Option (List UInt8))
  (inLength budget : Nat)

/-- A transfer over a sink that keeps account of its messages mirrors the transfer over the sink
itself. -/
theorem mirrors_transfer_accounted :
    Program.Mirrors Attempted.state id (transfer memory sink.accounted output inLength budget)
      (transfer memory sink output inLength budget) := by
  rcases granted : memory.reserve inLength 1 with cause | ⟨⟩
  · rw [transfer_of_refused _ _ _ _ _ granted, transfer_of_refused _ _ _ _ _ granted]
    exact Program.mirrors_fail _
  · rw [transfer_of_granted _ _ _ _ _ granted, transfer_of_granted _ _ _ _ _ granted]
    exact Transfer.mirrors_sendAll _ _ _ _

/-- What a transfer asks of its sink, however the sink answers.
1. Keeping account of the messages changes neither answer nor state nor journal.
2. There is one journal record for each attempted message, the failing one included.
3. The attempts are the first messages of the schedule, in order and once each, and the schedule has
   as many messages as budgets fit into the longer leg, rounded up.
4. Either the receive buffer is refused, and nothing is attempted; or the last attempt fails, and
   its fault is the answer; or the whole schedule is carried out, and the answer has the asked
   length.
5. A transfer of nothing answers with nothing and attempts nothing.
6. A receive buffer beyond the reach of address arithmetic is always refused.
7. Absent output is the same as empty output. -/
theorem transfer_attempts_schedule (state : σ) :
    let outcome : Outcome σ SpiError (List UInt8) :=
      (transfer memory sink output inLength budget).run state
    let accounted := (transfer memory sink.accounted output inLength budget).run ⟨state, []⟩
    let attempts := accounted.state.attempts
    let bytes := output.getD []
    let schedule := Cursor.schedule bytes.length inLength (max budget 1)
    outcome = accounted.view Attempted.state id ∧
    outcome.journal = attempts.map (fun attempt => Transfer.messageRecord attempt.chunks) ∧
    (attempts.map Attempt.chunks <+: schedule ∧
      schedule.length = max bytes.length inLength ⌈/⌉ max budget 1) ∧
    ((∃ cause, memory.reserve inLength 1 = .error cause ∧
        outcome = ⟨.error (.outOfMemory cause), state, []⟩ ∧ attempts = []) ∨
      memory.reserve inLength 1 = .ok () ∧
        (∃ fault last earlier, outcome.answer = .error (.transferFailed fault) ∧
          attempts = earlier ++ [⟨last, .error fault⟩] ∧
          ∀ attempt ∈ earlier, attempt.answer = .ok ()) ∨
      memory.reserve inLength 1 = .ok () ∧
        ∃ received, outcome.answer = .ok received ∧ received.length = inLength ∧
          attempts.map Attempt.chunks = schedule ∧
          ∀ attempt ∈ attempts, attempt.answer = .ok ()) ∧
    (bytes = [] → inLength = 0 → outcome = ⟨.ok [], state, []⟩ ∧ attempts = []) ∧
    (Memory.largestBuffer < inLength → memory.reserve inLength 1 = .error .capacityExceeded) ∧
    transfer memory sink none inLength budget = transfer memory sink (some []) inLength budget := by
  intro outcome accounted attempts bytes schedule
  have viewed : outcome = accounted.view Attempted.state id :=
    mirrors_transfer_accounted memory sink output inLength budget ⟨state, []⟩
  have length_eq : schedule.length = max bytes.length inLength ⌈/⌉ max budget 1 := by
    simp [schedule, Cursor.schedule]
  have exceeded (beyond : Memory.largestBuffer < inLength) :
      memory.reserve inLength 1 = .error .capacityExceeded :=
    memory.reserve_of_exceeded (by rwa [Nat.mul_one])
  rcases granted : memory.reserve inLength 1 with cause | ⟨⟩
  · have failed : accounted = ⟨.error (.outOfMemory cause), ⟨state, []⟩, []⟩ := by
      simp only [accounted, transfer_of_refused _ _ _ _ _ granted]
      rfl
    have nothing : attempts = [] := by simp only [attempts, failed]
    have ended : outcome = ⟨.error (.outOfMemory cause), state, []⟩ := by
      rw [viewed, failed]
      rfl
    refine ⟨viewed, ?_, ⟨?_, length_eq⟩, .inl ⟨cause, rfl, ended, nothing⟩, fun _ empty => ?_,
      fun beyond => ?_, rfl⟩
    · rw [ended, nothing]
      rfl
    · rw [nothing]
      exact List.nil_prefix
    · subst empty
      simp [Memory.reserve] at granted
    · rw [← granted, exceeded beyond]
  · have ran : accounted = (Transfer.sendAll sink.accounted bytes schedule
        (List.replicate inLength 0)).run ⟨state, []⟩ := by
      simp only [accounted, transfer_of_granted _ _ _ _ _ granted]
      rfl
    rcases Transfer.ending_sendAll sink bytes schedule (List.replicate inLength 0) state [] with
      ⟨made, made_eq, noted, ending⟩
    rw [← ran, List.nil_append] at made_eq
    rw [← ran, ← made_eq] at noted ending
    have answer_eq : outcome.answer = accounted.answer := by rw [viewed, Outcome.answer_view_id]
    have journal_eq : outcome.journal = accounted.journal := by rw [viewed]; rfl
    rw [List.length_replicate, ← answer_eq] at ending
    refine ⟨viewed, journal_eq.trans noted, ⟨ending.isPrefix, length_eq⟩,
      .inr (ending.cases.imp (⟨rfl, ·⟩) (⟨rfl, ·⟩)), fun noBytes empty => ?_, fun beyond => ?_, rfl⟩
    · subst empty
      have noMessages : schedule = [] := by
        rw [← List.length_eq_zero_iff, length_eq, noBytes]
        simp
      rw [noMessages] at ran
      refine ⟨?_, by simp only [attempts, ran]; rfl⟩
      rw [viewed, ran]
      rfl
    · rw [exceeded beyond] at granted
      cases granted

end Transfer

/-- Five bytes go out, two in each message, over a wire that fails after the first one; nothing is
asked of it for an empty transfer or for one that is too long. -/
theorem transfer_attempts_until_failure :
    let sink := Bench.Loopback.sink
    let wire : Bench.Loopback := ⟨some (1, "simulated failure"), [], []⟩
    let output := some [1, 2, 3, 4, 5]
    let attempts :=
      ((transfer .addressSpace sink.accounted output 0 2).run ⟨wire, []⟩).state.attempts
    attempts.map Attempt.chunks = [[⟨2, some 0, none⟩], [⟨2, some 2, none⟩]] ∧
      (∀ attempt ∈ attempts.dropLast, attempt.answer = .ok ()) ∧
      ((transfer .addressSpace sink output 0 2).run wire).answer =
        .error (.transferFailed "simulated failure") ∧
      (transfer .addressSpace sink none 0 2).run wire = ⟨.ok [], wire, []⟩ ∧
      Memory.addressSpace.reserve 0x8000000000000000 1 = .error .capacityExceeded := by
  intro sink wire output attempts
  have schedule_eq : Cursor.schedule (output.getD []).length 0 (max 2 1) =
      [[⟨2, some 0, none⟩], [⟨2, some 2, none⟩], [⟨1, some 4, none⟩]] := by decide
  have made : attempts =
      [⟨[⟨2, some 0, none⟩], .ok ()⟩, ⟨[⟨2, some 2, none⟩], .error "simulated failure"⟩] := by
    simp only [attempts]
    rw [transfer_of_granted _ _ _ _ _ rfl, schedule_eq]
    rfl
  have answered : ((transfer .addressSpace sink output 0 2).run wire).answer =
      .error (.transferFailed "simulated failure") := by
    rw [transfer_of_granted _ _ _ _ _ rfl, schedule_eq]
    rfl
  rcases transfer_attempts_schedule .addressSpace sink output 0 2 wire with ⟨_, _, _, endings, _⟩
  rcases transfer_attempts_schedule .addressSpace sink none 0 2 wire with ⟨_, _, _, _, nothing, _⟩
  rcases transfer_attempts_schedule .addressSpace sink none 0x8000000000000000 2 wire with
    ⟨_, _, _, _, _, exceeded, _⟩
  refine ⟨by rw [made]; rfl, ?_, answered, (nothing rfl rfl).1, exceeded (by decide)⟩
  rcases endings with ⟨cause, refused, _⟩ | ⟨_, fault, last, earlier, _, split, carried⟩ |
    ⟨_, received, completed, _⟩
  · cases refused
  · rw [show attempts = _ from split, List.dropLast_concat]
    exact carried
  · rw [answered] at completed
    cases completed

end Pinwire
