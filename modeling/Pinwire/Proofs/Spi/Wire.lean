import Pinwire.Proofs.Spi.Messages

/-!
# Transfers over a wire

A device at the far end of a wire sees clock ticks, not messages: with each tick it takes a byte or
nothing and gives an answer. This file shows that over such a device the division of a transfer into
messages has no meaning: whatever the budget, the transfer is one uninterrupted exchange with the
device, and the receive buffer holds its answers.

The invariant of the exchange is the receive buffer: after some ticks it holds the answers so far,
followed by the zeros it was filled with.
-/

namespace Pinwire

/-- A device at the far end of a wire, over the state `δ`. With each tick it is sent a byte or
nothing, together with whether its answer will be stored. -/
structure ByteDevice (δ : Type) where
  tick : Option UInt8 → Bool → δ → UInt8 × δ

/-- The state of a device together with what has been sent to it, tick by tick. -/
structure Wired (δ : Type) where
  state : δ
  sent : List (Option UInt8)
  deriving Repr, DecidableEq

namespace ByteDevice

variable {δ : Type} (device : ByteDevice δ) (output : List UInt8)

/-- One tick of a transfer: sends what the transmit leg holds at its place and stores the answer at
the place in the receive buffer, each if there is one. -/
def clock (reached : List UInt8 × Wired δ) (tick : Tick) : List UInt8 × Wired δ :=
  let (input, wired) := reached
  let sent := tick.transmit.bind fun place => output[place]?
  let (answer, state) := device.tick sent tick.receive.isSome wired.state
  let input := match tick.receive with
    | some place => input.set place answer
    | none => input
  (input, ⟨state, wired.sent ++ [sent]⟩)

theorem length_clock (reached : List UInt8 × Wired δ) (tick : Tick) :
    (device.clock output reached tick).1.length = reached.1.length := by
  simp only [clock]
  split
  · exact List.length_set
  · rfl

theorem length_foldl_clock (ticks : List Tick) (reached : List UInt8 × Wired δ) :
    (ticks.foldl (device.clock output) reached).1.length = reached.1.length := by
  induction ticks generalizing reached with
  | nil => rfl
  | cons tick ticks ih => exact (ih _).trans (device.length_clock output reached tick)

/-- The device as something that carries out messages, one tick of their chunks after the other. -/
def sink : MessageSink (Wired δ) where
  message chunks output input wired :=
    let reached := (chunks.flatMap Chunk.ticks).foldl (device.clock output) (input, wired)
    ((.ok (), reached.1), reached.2)
  keepsLength _ _ _ _ := device.length_foldl_clock _ _ _

/-- An uninterrupted exchange: the answers to what is sent, in order. -/
def exchange : List (Option UInt8 × Bool) → δ → List UInt8 × δ
  | [], state => ([], state)
  | (sent, stored) :: rest, state =>
      let (answer, state) := device.tick sent stored state
      let (answers, state) := exchange rest state
      (answer :: answers, state)

def sentAt (inLength time : Nat) : Option UInt8 × Bool :=
  (output[time]?, decide (time < inLength))

/-- The first ticks of a transfer as one exchange. -/
def exchangeUpTo (inLength time : Nat) (state : δ) : List UInt8 × δ :=
  device.exchange ((List.range time).map (sentAt output inLength)) state

theorem length_exchange (inputs : List (Option UInt8 × Bool)) (state : δ) :
    (device.exchange inputs state).1.length = inputs.length := by
  induction inputs generalizing state with
  | nil => rfl
  | cons input inputs ih => simp only [exchange, List.length_cons, ih]

theorem exchange_concat (inputs : List (Option UInt8 × Bool)) (sent : Option UInt8) (stored : Bool)
    (state : δ) :
    device.exchange (inputs ++ [(sent, stored)]) state =
      let before := device.exchange inputs state
      let last := device.tick sent stored before.2
      (before.1 ++ [last.1], last.2) := by
  induction inputs generalizing state with
  | nil => rfl
  | cons input inputs ih => simp only [List.cons_append, exchange, ih]

theorem exchangeUpTo_succ (inLength time : Nat) (state : δ) :
    device.exchangeUpTo output inLength (time + 1) state =
      let before := device.exchangeUpTo output inLength time state
      let last := device.tick output[time]? (decide (time < inLength)) before.2
      (before.1 ++ [last.1], last.2) := by
  rw [exchangeUpTo, List.range_succ, List.map_append]
  exact device.exchange_concat _ _ _ _

theorem length_exchangeUpTo (inLength time : Nat) (state : δ) :
    (device.exchangeUpTo output inLength time state).1.length = time := by
  rw [exchangeUpTo, length_exchange, List.length_map, List.length_range]

/-- A tick of a transfer sends what the transmit leg holds there, if anything, and stores the answer
if the receive leg goes on there. -/
theorem clock_ofTime (inLength time : Nat) (input : List UInt8) (wired : Wired δ) :
    device.clock output (input, wired) (Tick.ofTime output.length inLength time) =
      let last := device.tick output[time]? (decide (time < inLength)) wired.state
      (if time < inLength then input.set time last.1 else input,
        ⟨last.2, wired.sent ++ [output[time]?]⟩) := by
  have sent_eq : ((if time < output.length then some time else none).bind fun place =>
      output[place]?) = output[time]? := by
    by_cases transmits : time < output.length
    · rw [if_pos transmits, Option.bind_some]
    · rw [if_neg transmits, Option.bind_none, List.getElem?_eq_none (by omega)]
  by_cases receives : time < inLength
  · simp only [clock, Tick.ofTime, sent_eq, receives, decide_true, if_true]
    rfl
  · simp only [clock, Tick.ofTime, sent_eq, receives, decide_false, if_false]
    rfl

theorem set_answers {answers : List UInt8} {inLength time : Nat} (answer : UInt8)
    (length_eq : answers.length = time) (inside : time < inLength) :
    (answers.take inLength ++ List.replicate (inLength - time) 0).set time answer =
      (answers ++ [answer]).take inLength ++ List.replicate (inLength - (time + 1)) 0 := by
  have fits : (answers ++ [answer]).length ≤ inLength := by
    rw [List.length_append, List.length_singleton]
    omega
  rw [List.take_of_length_le (by omega), List.take_of_length_le fits,
    List.set_append_right _ _ (by omega), length_eq, Nat.sub_self,
    show inLength - time = inLength - (time + 1) + 1 by omega, List.replicate_succ,
    List.set_cons_zero, List.append_assoc, List.singleton_append]

/-- Clocking the first ticks of a transfer is the exchange of these ticks: the receive buffer holds
the answers so far, followed by what it was filled with. -/
theorem foldl_clock_ofTime (inLength time : Nat) (state : δ) :
    ((List.range time).map (Tick.ofTime output.length inLength)).foldl (device.clock output)
        (List.replicate inLength 0, ⟨state, []⟩) =
      let reached := device.exchangeUpTo output inLength time state
      (reached.1.take inLength ++ List.replicate (inLength - time) 0,
        ⟨reached.2, (List.range time).map (output[·]?)⟩) := by
  induction time with
  | zero => simp [exchangeUpTo, exchange]
  | succ time ih =>
      have length_eq := device.length_exchangeUpTo output inLength time state
      rw [List.range_succ, List.map_append, List.foldl_append, ih, exchangeUpTo_succ]
      simp only [List.map_cons, List.map_nil, List.foldl_cons, List.foldl_nil, List.map_append,
        clock_ofTime, Prod.mk.injEq, and_true]
      by_cases receives : time < inLength
      · rw [if_pos receives]
        exact set_answers _ length_eq receives
      · rw [if_neg receives, List.take_append_of_le_length (by omega),
          Nat.sub_eq_zero_of_le (by omega), Nat.sub_eq_zero_of_le (by omega)]

theorem run_sendAll_sink (messages : List (List Chunk)) (input : List UInt8) (wired : Wired δ) :
    let outcome := (Transfer.sendAll device.sink output messages input).run wired
    let reached := (messages.flatten.flatMap Chunk.ticks).foldl (device.clock output) (input, wired)
    outcome.answer = .ok reached.1 ∧ outcome.state = reached.2 := by
  induction messages generalizing input wired with
  | nil => exact ⟨rfl, rfl⟩
  | cons chunks messages ih =>
      rw [Transfer.run_sendAll_of_ok rfl, List.flatten_cons, List.flatMap_append, List.foldl_append]
      exact ih _ _

/-- A transfer without its division into messages: one exchange as long as the longer leg. -/
def unsplit (inLength : Nat) (state : δ) : List UInt8 × Wired δ :=
  let total := max output.length inLength
  let (answers, reached) := device.exchangeUpTo output inLength total state
  (answers.take inLength, ⟨reached, (List.range total).map (output[·]?)⟩)

theorem length_unsplit (inLength : Nat) (state : δ) :
    (device.unsplit output inLength state).1.length = inLength := by
  simp only [unsplit, List.length_take, length_exchangeUpTo]
  omega

theorem sent_unsplit (inLength : Nat) (state : δ) :
    (device.unsplit output inLength state).2.sent.filterMap id = output := by
  have sent_eq (time : Nat) :
      ((List.range time).map (output[·]?)).filterMap id = output.take time := by
    induction time with
    | zero => rfl
    | succ time ih =>
        rw [List.range_succ, List.map_append, List.filterMap_append, ih, List.take_add_one]
        rcases present : output[time]? with none | byte <;> simp [present]
  exact (sent_eq _).trans (List.take_of_length_le (Nat.le_max_left _ _))

theorem foldl_clock_unsplit (inLength : Nat) (state : δ) :
    ((List.range (max output.length inLength)).map
        (Tick.ofTime output.length inLength)).foldl (device.clock output)
        (List.replicate inLength 0, ⟨state, []⟩) =
      device.unsplit output inLength state := by
  rw [foldl_clock_ofTime, Nat.sub_eq_zero_of_le (Nat.le_max_right _ _)]
  simp only [unsplit, List.replicate_zero, List.append_nil]

end ByteDevice

section Transfer

variable {δ : Type} (device : ByteDevice δ) {memory : Memory} (output : Option (List UInt8))
  {inLength : Nat}

/-- Over a device that sees ticks only, the division of a transfer into messages has no meaning.
1. Whatever the budget, the transfer is one uninterrupted exchange of the bytes with the device: its
   answer, what was sent and the state that the device is left in are those of the exchange.
2. So any two budgets agree in all of these.
3. The answer is as long as was asked, and exactly the bytes of the output are sent, in order. -/
theorem transfer_over_device (granted : memory.reserve inLength 1 = .ok ()) (state : δ) :
    let run := fun budget => (transfer memory device.sink output inLength budget).run ⟨state, []⟩
    let reference := device.unsplit (output.getD []) inLength state
    (∀ budget, (run budget).answer = .ok reference.1 ∧ (run budget).state = reference.2) ∧
    (∀ first second,
      (run first).answer = (run second).answer ∧ (run first).state = (run second).state) ∧
    reference.1.length = inLength ∧
    reference.2.sent.filterMap id = output.getD [] := by
  intro run reference
  have ran (budget : Nat) :
      (run budget).answer = .ok reference.1 ∧ (run budget).state = reference.2 := by
    have sent := device.run_sendAll_sink (output.getD [])
      (Cursor.schedule (output.getD []).length inLength (max budget 1))
      (List.replicate inLength 0) ⟨state, []⟩
    rw [Cursor.ticks_schedule _ _ (Nat.le_max_right budget 1), device.foldl_clock_unsplit] at sent
    simp only [run, transfer_of_granted _ _ _ _ _ granted]
    exact sent
  refine ⟨ran, fun first second => ?_, device.length_unsplit _ _ _, device.sent_unsplit _ _ _⟩
  rw [(ran first).1, (ran first).2, (ran second).1, (ran second).2]
  exact ⟨rfl, rfl⟩

end Transfer

/-- Two bytes out and three back, with a device that answers with the sum of what it was sent and
how often it was silent: one byte in each message or all at once, the answers are the same. -/
theorem transfer_over_device_summing :
    let device : ByteDevice UInt8 := ⟨fun sent _ state =>
      let state := state + sent.getD 1
      (state, state)⟩
    let run := fun budget =>
      (transfer .addressSpace device.sink (some [3, 4]) 3 budget).run ⟨0, []⟩
    Memory.addressSpace.reserve 3 1 = .ok () ∧
      (run 0).answer = .ok [3, 7, 8] ∧
      (run 0).state = ⟨8, [some 3, some 4, none]⟩ ∧
      (run 2).answer = (run 0).answer ∧ (run 2).state = (run 0).state := by
  intro device run
  have granted : Memory.addressSpace.reserve 3 1 = .ok () := rfl
  rcases transfer_over_device device (some [3, 4]) granted 0 with ⟨exchanged, agree, _⟩
  exact ⟨granted, (exchanged 0).1, (exchanged 0).2, agree 2 0⟩

end Pinwire
