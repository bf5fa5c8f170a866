import Pinwire.Call
import Pinwire.Proofs.Program

/-!
# Programs around SPI buses

Every call on an SPI bus is one transaction: what comes before is reading the bytes to transmit from
a text, and what comes after is putting what was received into a reply. So all that a call does
to its surroundings is done by its transaction.
-/

namespace Pinwire

/-- What is asked of a link in one go. -/
structure SpiTransaction where
  output : Option (List UInt8)
  inLength : Nat
  chunked : Bool
  deriving Repr, DecidableEq

namespace SpiTransaction

def outLength (transaction : SpiTransaction) : Nat :=
  (transaction.output.getD []).length

/-- A transaction that transmits something and receives something. -/
def BothWays (transaction : SpiTransaction) : Prop :=
  0 < transaction.outLength ∧ 0 < transaction.inLength
  deriving Decidable

def perform {σ ε : Type} (link : SpiLink σ ε) (transaction : SpiTransaction) :
    Program σ ε (List UInt8) :=
  link.transaction transaction.output transaction.inLength transaction.chunked

end SpiTransaction

namespace SpiCall

variable {σ τ ε ε' : Type}

/-- The transaction of a call; there is none if its text is malformed. -/
def transaction? : SpiCall → Except Text.HexDump.Defect SpiTransaction
  | transaction output inLength chunked => .ok ⟨output, inLength, chunked⟩
  | read count | printRead count => .ok ⟨none, count, false⟩
  | write bytes chunked => .ok ⟨some bytes, 0, chunked⟩
  | writeByte byte => .ok ⟨some [byte], 0, false⟩
  | writeText text chunked =>
    (Text.HexDump.parse text).map fun bytes => ⟨some bytes, 0, chunked⟩
  | printExchange text inLength chunked =>
    (Text.HexDump.parse text).map fun bytes => ⟨some bytes, inLength, chunked⟩

/-- What a call makes of the bytes that were received. -/
def reply (call : SpiCall) (received : List UInt8) : Program σ (CommandError ε) Reply :=
  match call with
  | transaction _ _ _ | read _ => pure (.bytes received)
  | write _ _ | writeByte _ => pure .nothing
  | printRead _ => pure (.text (Text.HexDump.render received ++ "\n"))
  | writeText text _ =>
    match Text.HexDump.parse text with
    | .ok bytes => do
      .record .info SpiLink.commandSource s!"spi: wrote {bytes.length} bytes"
      pure .nothing
    | .error _ => pure .nothing
  | printExchange _ _ _ =>
    pure (.text (if received.isEmpty then "" else Text.HexDump.render received ++ "\n"))

theorem mapError_write (link : SpiLink σ ε) (bytes : List UInt8) (chunked : Bool)
    (wrap : ε → ε') (next : Unit → Program σ ε' α) :
    (Program.mapError wrap (link.write bytes chunked) >>= next) =
      Program.mapError wrap (link.transaction (some bytes) 0 chunked) >>= fun _ => next () := by
  rw [SpiLink.write, Program.mapError_bind, bind_assoc]
  rfl

/-- A call is its transaction with a reply made of it. -/
theorem perform_eq (link : SpiLink σ ε) (call : SpiCall) :
    call.perform link =
      Program.ofExcept (call.transaction?.mapError .bytes) >>= fun transaction =>
        Program.mapError .bus (transaction.perform link) >>= call.reply := by
  cases call with
  | transaction output inLength chunked => rfl
  | read count => rfl
  | write bytes chunked =>
      rw [perform, ← bind_pure_comp, mapError_write]
      rfl
  | writeByte byte =>
      rw [perform, ← bind_pure_comp, SpiLink.writeByte, mapError_write]
      rfl
  | printRead count =>
      rw [perform, ← bind_pure_comp, SpiLink.printRead, bind_assoc]
      rfl
  | writeText text chunked =>
      simp only [perform, SpiLink.readBytes, SpiLink.writeBytes, transaction?, bind_assoc,
        mapError_write]
      rcases parsed : Text.HexDump.parse text with defect | bytes
      · rfl
      · simp only [Except.map, Program.ofExcept_mapError_ok_bind]
        refine bind_congr fun received => ?_
        simp only [reply, parsed]
  | printExchange text inLength chunked =>
      simp only [perform, SpiLink.readBytes, SpiLink.printExchange, transaction?]
      rcases parsed : Text.HexDump.parse text with defect | bytes
      · rfl
      · simp only [Except.map, Program.ofExcept_mapError_ok_bind]
        rw [← bind_pure_comp, bind_assoc]
        rfl

theorem perform_of_transaction {link : SpiLink σ ε} {call : SpiCall} {transaction : SpiTransaction}
    (asked : call.transaction? = .ok transaction) :
    call.perform link = Program.mapError .bus (transaction.perform link) >>= call.reply := by
  rw [perform_eq, asked]
  rfl

theorem run_reply (call : SpiCall) (received : List UInt8) (state : σ) :
    ∃ made journal, (call.reply received : Program σ (CommandError ε) Reply).run state =
      ⟨.ok made, state, journal⟩ := by
  cases call with
  | writeText text chunked =>
      simp only [reply]
      split
      · exact ⟨_, _, rfl⟩
      · exact ⟨_, _, rfl⟩
  | transaction output inLength chunked => exact ⟨_, _, rfl⟩
  | read count => exact ⟨_, _, rfl⟩
  | write bytes chunked => exact ⟨_, _, rfl⟩
  | writeByte byte => exact ⟨_, _, rfl⟩
  | printRead count => exact ⟨_, _, rfl⟩
  | printExchange text inLength chunked => exact ⟨_, _, rfl⟩

section Runs

variable {link : SpiLink σ ε} {call : SpiCall} {transaction : SpiTransaction} {state : σ}

theorem run_perform_of_malformed {defect : Text.HexDump.Defect}
    (malformed : call.transaction? = .error defect) :
    (call.perform link).run state = ⟨.error (.bytes defect), state, []⟩ := by
  rw [perform_eq, malformed]
  rfl

theorem run_perform_of_error {error : ε} {reached : σ} {journal : List Record}
    (asked : call.transaction? = .ok transaction)
    (failed : (transaction.perform link).run state = ⟨.error error, reached, journal⟩) :
    (call.perform link).run state = ⟨.error (.bus error), reached, journal⟩ := by
  have wrapped : (Program.mapError CommandError.bus (transaction.perform link)).run state =
      ⟨.error (.bus error), reached, journal⟩ := by
    rw [Program.run_mapError, failed]
    rfl
  rw [perform_of_transaction asked, Program.run_bind_of_error wrapped]

theorem run_perform_of_ok {received : List UInt8} {reached : σ} {journal : List Record}
    (asked : call.transaction? = .ok transaction)
    (carried : (transaction.perform link).run state = ⟨.ok received, reached, journal⟩) :
    ∃ made noted, (call.perform link).run state = ⟨.ok made, reached, journal ++ noted⟩ := by
  have wrapped : (Program.mapError CommandError.bus (transaction.perform link)).run state =
      ⟨.ok received, reached, journal⟩ := by
    rw [Program.run_mapError, carried]
    rfl
  rcases run_reply (σ := σ) (ε := ε) call received reached with ⟨made, noted, replied⟩
  refine ⟨made, noted, ?_⟩
  rw [perform_of_transaction asked, Program.run_bind_of_ok wrapped, replied]

theorem state_perform (asked : call.transaction? = .ok transaction) :
    ((call.perform link).run state).state = ((transaction.perform link).run state).state := by
  rcases outcome : (transaction.perform link).run state with ⟨error | received, reached, journal⟩
  · rw [run_perform_of_error asked outcome]
  · rcases run_perform_of_ok asked outcome with ⟨made, noted, performed⟩
    rw [performed]

/-- A call fails with an error of the bus only if its transaction does. -/
theorem bus_error_of_perform {error : ε}
    (failed : ((call.perform link).run state).answer = .error (.bus error)) :
    ∃ transaction, call.transaction? = .ok transaction ∧
      ((transaction.perform link).run state).answer = .error error := by
  rcases asked : call.transaction? with defect | transaction
  · rw [run_perform_of_malformed asked] at failed
    cases failed
  · refine ⟨transaction, rfl, ?_⟩
    rcases outcome : (transaction.perform link).run state with
      ⟨other | received, reached, journal⟩
    · rw [run_perform_of_error asked outcome] at failed
      cases failed
      rfl
    · rcases run_perform_of_ok asked outcome with ⟨made, noted, performed⟩
      rw [performed] at failed
      cases failed

theorem perform_congr {link' : SpiLink σ ε}
    (same : ∀ transaction, call.transaction? = .ok transaction →
      transaction.perform link = transaction.perform link') :
    call.perform link = call.perform link' := by
  rcases asked : call.transaction? with defect | transaction
  · rw [perform_eq, perform_eq, asked]
    rfl
  · rw [perform_of_transaction asked, perform_of_transaction asked, same transaction asked]

end Runs

/-- A call mirrors that on a plainer link if its transaction does. -/
theorem mirrors_perform {look : τ → σ} {detailed : SpiLink τ ε} {plain : SpiLink σ ε}
    (same : ∀ transaction : SpiTransaction, Program.Mirrors look id (transaction.perform detailed)
      (transaction.perform plain)) (call : SpiCall) :
    Program.Mirrors look id (call.perform detailed) (call.perform plain) := by
  rw [perform_eq, perform_eq]
  refine Program.mirrors_bind (Program.mirrors_ofExcept _) fun transaction =>
    Program.mirrors_bind (Program.mirrors_mapError _ (same transaction)) fun received => ?_
  cases call with
  | writeText text chunked =>
      simp only [reply]
      split
      · exact Program.mirrors_bind (Program.mirrors_record _ _ _) fun _ => Program.mirrors_pure rfl
      · exact Program.mirrors_pure rfl
  | transaction output inLength chunked => exact Program.mirrors_pure rfl
  | read count => exact Program.mirrors_pure rfl
  | write bytes chunked => exact Program.mirrors_pure rfl
  | writeByte byte => exact Program.mirrors_pure rfl
  | printRead count => exact Program.mirrors_pure rfl
  | printExchange text inLength chunked => exact Program.mirrors_pure rfl

end SpiCall

end Pinwire
