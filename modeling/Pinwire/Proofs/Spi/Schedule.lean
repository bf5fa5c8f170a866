import Mathlib.Algebra.Order.Floor.Div
import Pinwire.Spi.Chunk

/-!
# The schedule of a transfer

A transfer takes as many clock ticks as its longer leg is long, and tick `t` serves byte `t` of each
leg that has one. This file shows that the messages of a cursor cut these ticks into consecutive
stretches, one for each message and as long as its budget allows, and that a stretch is divided in
two only where the shorter leg ends inside it. Everything else that is said here of messages and
their chunks follows from that description.

The invariant is `Cursor.reached`: after some ticks, each leg has got exactly that far, or to its
end.
-/

namespace Pinwire

/-- A stretch of clock ticks, from the first one up to the one that follows its last. -/
structure Span where
  start : Nat
  stop : Nat
  deriving Repr, DecidableEq

theorem range'_append_of_le {start middle stop : Nat} (start_le : start ≤ middle)
    (le_stop : middle ≤ stop) :
    List.range' start (middle - start) ++ List.range' middle (stop - middle) =
      List.range' start (stop - start) := by
  have joined := List.range'_append_1 (s := start) (m := middle - start) (n := stop - middle)
  rwa [Nat.add_sub_cancel' start_le,
    show middle - start + (stop - middle) = stop - start by omega] at joined

namespace Span

/-- The stretch between two ticks, cut at a tick that lies strictly inside it; nothing if it is
empty. -/
def cutAt (cut start stop : Nat) : List Span :=
  if stop ≤ start then []
  else if start < cut ∧ cut < stop then [⟨start, cut⟩, ⟨cut, stop⟩]
  else [⟨start, stop⟩]

theorem cutAt_of_le {cut start stop : Nat} (empty : stop ≤ start) : cutAt cut start stop = [] := by
  rw [cutAt, if_pos empty]

theorem cutAt_of_inside {cut start stop : Nat} (inside : start < cut ∧ cut < stop) :
    cutAt cut start stop = [⟨start, cut⟩, ⟨cut, stop⟩] := by
  rw [cutAt, if_neg (by omega), if_pos inside]

theorem cutAt_of_outside {cut start stop : Nat} (nonempty : start < stop)
    (outside : ¬(start < cut ∧ cut < stop)) : cutAt cut start stop = [⟨start, stop⟩] := by
  rw [cutAt, if_neg (by omega), if_neg outside]

theorem bounds_of_mem_cutAt {cut start stop : Nat} {span : Span}
    (member : span ∈ cutAt cut start stop) :
    start ≤ span.start ∧ span.start < span.stop ∧ span.stop ≤ stop := by
  unfold cutAt at member
  split at member
  · simp at member
  · split at member
    · simp only [List.mem_cons, List.not_mem_nil, or_false] at member
      rcases member with rfl | rfl <;> dsimp only <;> omega
    · simp only [List.mem_singleton] at member
      subst member
      dsimp only
      omega

theorem uncut_of_mem_cutAt {cut start stop : Nat} {span : Span}
    (member : span ∈ cutAt cut start stop) : span.stop ≤ cut ∨ cut ≤ span.start := by
  unfold cutAt at member
  split at member
  · simp at member
  · split at member
    · simp only [List.mem_cons, List.not_mem_nil, or_false] at member
      rcases member with rfl | rfl <;> dsimp only <;> omega
    · simp only [List.mem_singleton] at member
      subst member
      dsimp only
      omega

/-- The chunk that serves a stretch. It takes part in every leg that goes on where it starts. -/
def chunk (transmitLength receiveLength : Nat) (span : Span) : Chunk where
  length := span.stop - span.start
  transmitOffset := if span.start < transmitLength then some span.start else none
  receiveOffset := if span.start < receiveLength then some span.start else none

end Span

/-- A clock tick of a transfer: the places in both legs of the bytes that it serves. -/
structure Tick where
  transmit : Option Nat
  receive : Option Nat
  deriving Repr, DecidableEq

namespace Tick

/-- Tick number `time` of a transfer. -/
def ofTime (transmitLength receiveLength time : Nat) : Tick where
  transmit := if time < transmitLength then some time else none
  receive := if time < receiveLength then some time else none

end Tick

def Chunk.ticks (chunk : Chunk) : List Tick :=
  (List.range chunk.length).map fun step =>
    ⟨chunk.transmitOffset.map (· + step), chunk.receiveOffset.map (· + step)⟩

namespace Span

variable (transmitLength receiveLength : Nat)

theorem chunk_serves {span : Span} (running : span.start < max transmitLength receiveLength) :
    (chunk transmitLength receiveLength span).transmitOffset.isSome ∨
      (chunk transmitLength receiveLength span).receiveOffset.isSome := by
  simp only [chunk]
  rcases lt_max_iff.1 running with transmits | receives
  · left
    rw [if_pos transmits]
    rfl
  · right
    rw [if_pos receives]
    rfl

/-- The chunk of a stretch that the shorter leg does not end inside of has the ticks of the
stretch. -/
theorem ticks_chunk {span : Span} (within : span.stop ≤ max transmitLength receiveLength)
    (uncut : ¬(span.start < min transmitLength receiveLength ∧
      min transmitLength receiveLength < span.stop)) :
    (chunk transmitLength receiveLength span).ticks =
      (List.range' span.start (span.stop - span.start)).map
        (Tick.ofTime transmitLength receiveLength) := by
  rw [List.range'_eq_map_range, List.map_map]
  apply List.map_congr_left
  intro step inside
  simp only [chunk, List.mem_range] at inside
  simp only [chunk, Tick.ofTime, Function.comp_apply, Tick.mk.injEq]
  constructor
  · by_cases transmits : span.start < transmitLength
    · rw [if_pos transmits, if_pos (by omega)]
      rfl
    · rw [if_neg transmits, if_neg (by omega)]
      rfl
  · by_cases receives : span.start < receiveLength
    · rw [if_pos receives, if_pos (by omega)]
      rfl
    · rw [if_neg receives, if_neg (by omega)]
      rfl

/-- Cutting a stretch where the shorter leg ends changes none of its ticks. -/
theorem ticks_cutAt {start stop : Nat} (within : stop ≤ max transmitLength receiveLength) :
    ((cutAt (min transmitLength receiveLength) start stop).map
        (chunk transmitLength receiveLength)).flatMap Chunk.ticks =
      (List.range' start (stop - start)).map (Tick.ofTime transmitLength receiveLength) := by
  by_cases empty : stop ≤ start
  · rw [cutAt_of_le empty, Nat.sub_eq_zero_of_le empty]
    rfl
  by_cases inside : start < min transmitLength receiveLength ∧
      min transmitLength receiveLength < stop
  · rw [cutAt_of_inside inside,
      ← range'_append_of_le (Nat.le_of_lt inside.1) (Nat.le_of_lt inside.2), List.map_append]
    simp only [List.map_cons, List.map_nil, List.flatMap_cons, List.flatMap_nil, List.append_nil]
    rw [ticks_chunk _ _ (by dsimp only; omega) (by dsimp only; omega),
      ticks_chunk _ _ (by dsimp only; omega) (by dsimp only; omega)]
  · rw [cutAt_of_outside (by omega) inside]
    simp only [List.map_cons, List.map_nil, List.flatMap_cons, List.flatMap_nil, List.append_nil]
    exact ticks_chunk _ _ within inside

theorem sum_length_cutAt (cut start stop : Nat) :
    (((cutAt cut start stop).map (chunk transmitLength receiveLength)).map Chunk.length).sum =
      stop - start := by
  unfold cutAt
  split
  · simp
    omega
  · split
    · simp [chunk]
      omega
    · simp [chunk]

theorem length_cutAt_le (cut start stop : Nat) : (cutAt cut start stop).length ≤ 2 := by
  unfold cutAt
  split
  · simp
  · split <;> simp

theorem length_cutAt {cut start stop : Nat} (nonempty : start < stop) :
    (cutAt cut start stop).length = 1 ∨ (cutAt cut start stop).length = 2 := by
  by_cases inside : start < cut ∧ cut < stop
  · right
    rw [cutAt_of_inside inside]
    rfl
  · left
    rw [cutAt_of_outside nonempty inside]
    rfl

theorem inside_of_length_cutAt {cut start stop : Nat}
    (divided : (cutAt cut start stop).length = 2) : start < cut ∧ cut < stop := by
  unfold cutAt at divided
  split at divided
  · simp at divided
  · split at divided
    · assumption
    · simp at divided

end Span

namespace Cursor

/-- A cursor whose legs have both got to a tick, or to their end if they are shorter. -/
def reached (transmitLength receiveLength time : Nat) : Cursor :=
  ⟨min time transmitLength, transmitLength, min time receiveLength, receiveLength⟩

/-- A cursor after a number of messages, each under a budget of its own. -/
def after (cursor : Cursor) (budgets : Nat → Nat) : Nat → Cursor
  | 0 => cursor
  | count + 1 => ((cursor.after budgets count).nextMessage (budgets count)).2

/-- The message with a number, counted from zero. -/
def messageAt (cursor : Cursor) (budgets : Nat → Nat) (index : Nat) : List Chunk :=
  ((cursor.after budgets index).nextMessage (budgets index)).1

/-- The messages of a whole transfer under equal budgets. -/
def schedule (transmitLength receiveLength budget : Nat) : List (List Chunk) :=
  (List.range (max transmitLength receiveLength ⌈/⌉ budget)).map
    ((start transmitLength receiveLength).messageAt fun _ => budget)

/-- The tick that a transfer of `total` ticks has got to after a number of messages. -/
def timeAfter (total : Nat) (budgets : Nat → Nat) : Nat → Nat
  | 0 => 0
  | count + 1 => min (timeAfter total budgets count + budgets count) total

section Reached

variable (transmitLength receiveLength : Nat)

@[simp]
theorem transmitRemaining_reached (time : Nat) :
    (reached transmitLength receiveLength time).transmitRemaining = transmitLength - time := by
  simp only [transmitRemaining, reached]
  omega

@[simp]
theorem receiveRemaining_reached (time : Nat) :
    (reached transmitLength receiveLength time).receiveRemaining = receiveLength - time := by
  simp only [receiveRemaining, reached]
  omega

@[simp]
theorem isDone_reached (time : Nat) :
    (reached transmitLength receiveLength time).isDone =
      decide (max transmitLength receiveLength ≤ time) := by
  simp only [isDone, transmitRemaining_reached, receiveRemaining_reached, ← Bool.decide_and,
    decide_eq_decide]
  omega

theorem start_eq_reached :
    start transmitLength receiveLength = reached transmitLength receiveLength 0 := by
  simp [start, reached]

/-- The next chunk goes on to the end of the shorter leg while that lies ahead, then to the end of
the transfer, and stays within its budget. -/
theorem take_reached {time budget stop : Nat}
    (running : time < max transmitLength receiveLength)
    (stop_eq : stop = min (time + budget)
      (if time < min transmitLength receiveLength then min transmitLength receiveLength
        else max transmitLength receiveLength)) :
    (reached transmitLength receiveLength time).take budget =
      (Span.chunk transmitLength receiveLength ⟨time, stop⟩,
        reached transmitLength receiveLength stop) := by
  have length_eq : chunkLength (transmitLength - time) (receiveLength - time) budget =
      stop - time := by
    simp only [chunkLength]
    split at stop_eq <;> split <;> omega
  simp only [take, transmitRemaining_reached, receiveRemaining_reached, length_eq]
  simp only [reached, Span.chunk, Prod.mk.injEq, Chunk.mk.injEq, Cursor.mk.injEq, true_and]
  split at stop_eq <;> grind

theorem fill_reached_of_stop {time budget : Nat} (count : Nat)
    (stopped : budget = 0 ∨ max transmitLength receiveLength ≤ time) :
    fill count (reached transmitLength receiveLength time) budget =
      ([], reached transmitLength receiveLength time) := by
  cases count with
  | zero => rfl
  | succ count =>
      have stop : ((reached transmitLength receiveLength time).isDone ||
          decide (budget = 0)) = true := by
        simpa [or_comm] using stopped
      simp only [fill, stop, if_true]

/-- A message of a running transfer is its next chunk and what the rest of the budget is filled
with. -/
theorem fill_succ_reached {time budget : Nat} (count stop : Nat) (positive : 0 < budget)
    (running : time < max transmitLength receiveLength)
    (stop_eq : stop = min (time + budget)
      (if time < min transmitLength receiveLength then min transmitLength receiveLength
        else max transmitLength receiveLength)) :
    fill (count + 1) (reached transmitLength receiveLength time) budget =
      let rest := fill count (reached transmitLength receiveLength stop) (budget - (stop - time))
      (Span.chunk transmitLength receiveLength ⟨time, stop⟩ :: rest.1, rest.2) := by
  have more : ((reached transmitLength receiveLength time).isDone ||
      decide (budget = 0)) = false := by
    simp only [isDone_reached, Bool.or_eq_false_iff, decide_eq_false_iff_not]
    omega
  simp only [fill, more, Bool.false_eq_true, if_false,
    take_reached transmitLength receiveLength running stop_eq]
  rfl

/-- A message serves the stretch from where the transfer has got to as far as its budget reaches,
cut where the shorter leg ends. -/
theorem nextMessage_reached {time budget stop : Nat}
    (within : time ≤ max transmitLength receiveLength)
    (stop_eq : stop = min (time + budget) (max transmitLength receiveLength)) :
    (reached transmitLength receiveLength time).nextMessage budget =
      ((Span.cutAt (min transmitLength receiveLength) time stop).map
        (Span.chunk transmitLength receiveLength),
      reached transmitLength receiveLength stop) := by
  simp only [nextMessage, largestMessage]
  by_cases stopped : budget = 0 ∨ max transmitLength receiveLength ≤ time
  · have nothing : stop = time := by omega
    rw [fill_reached_of_stop _ _ _ stopped, nothing, Span.cutAt_of_le (Nat.le_refl time)]
    rfl
  have positive : 0 < budget := by omega
  have running : time < max transmitLength receiveLength := by omega
  by_cases divided : time < min transmitLength receiveLength ∧
      min transmitLength receiveLength < stop
  · -- The first chunk ends with the shorter leg, and the second one uses the budget up.
    rw [Span.cutAt_of_inside divided,
      fill_succ_reached _ _ 1 (min transmitLength receiveLength) positive running
        (by rw [if_pos divided.1]; omega),
      fill_succ_reached _ _ 0 stop (by omega) (by omega) (by rw [if_neg (Nat.lt_irrefl _)]; omega)]
    rfl
  · -- The first chunk uses the budget up or ends the transfer.
    rw [Span.cutAt_of_outside (by omega) divided,
      fill_succ_reached _ _ 1 stop positive running (by split <;> omega),
      fill_reached_of_stop _ _ 1 (by omega)]
    rfl

end Reached

section Runs

variable (transmitLength receiveLength : Nat) (budgets : Nat → Nat)

theorem timeAfter_le_total (total count : Nat) : timeAfter total budgets count ≤ total := by
  cases count with
  | zero => exact Nat.zero_le _
  | succ count => exact Nat.min_le_right _ _

theorem timeAfter_le_succ (total count : Nat) :
    timeAfter total budgets count ≤ timeAfter total budgets (count + 1) := by
  have := timeAfter_le_total budgets total count
  simp only [timeAfter]
  omega

theorem timeAfter_mono (total : Nat) : Monotone (timeAfter total budgets) :=
  monotone_nat_of_le_succ (timeAfter_le_succ budgets total)

theorem timeAfter_const (total budget count : Nat) :
    timeAfter total (fun _ => budget) count = min (budget * count) total := by
  induction count with
  | zero => simp [timeAfter]
  | succ count ih =>
      rw [timeAfter, ih, Nat.mul_succ]
      omega

/-- However the budgets are chosen, a cursor has got as far in both legs as the ticks have. -/
theorem after_start (count : Nat) :
    (start transmitLength receiveLength).after budgets count =
      reached transmitLength receiveLength
        (timeAfter (max transmitLength receiveLength) budgets count) := by
  induction count with
  | zero => exact start_eq_reached _ _
  | succ count ih =>
      rw [after, ih, nextMessage_reached _ _ (timeAfter_le_total _ _ _) rfl]
      rfl

/-- Every message of a transfer is one stretch of its ticks, cut where the shorter leg ends. -/
theorem messageAt_start (index : Nat) :
    (start transmitLength receiveLength).messageAt budgets index =
      (Span.cutAt (min transmitLength receiveLength)
          (timeAfter (max transmitLength receiveLength) budgets index)
          (timeAfter (max transmitLength receiveLength) budgets (index + 1))).map
        (Span.chunk transmitLength receiveLength) := by
  rw [messageAt, after_start, nextMessage_reached _ _ (timeAfter_le_total _ _ _) rfl]
  rfl

/-- The first messages of a transfer have all ticks up to where it has got to, each once and in
order. -/
theorem ticks_messages (count : Nat) :
    ((List.range count).flatMap
        ((start transmitLength receiveLength).messageAt budgets)).flatMap Chunk.ticks =
      (List.range (timeAfter (max transmitLength receiveLength) budgets count)).map
        (Tick.ofTime transmitLength receiveLength) := by
  induction count with
  | zero => rfl
  | succ count ih =>
      have joined := range'_append_of_le (Nat.zero_le _)
        (timeAfter_le_succ budgets (max transmitLength receiveLength) count)
      rw [Nat.sub_zero, Nat.sub_zero, ← List.range_eq_range', ← List.range_eq_range'] at joined
      rw [List.range_succ, List.flatMap_append, List.flatMap_append, ih, List.flatMap_singleton,
        messageAt_start, Span.ticks_cutAt _ _ (timeAfter_le_total _ _ _), ← List.map_append, joined]

theorem sum_length_messageAt (index : Nat) :
    (((start transmitLength receiveLength).messageAt budgets index).map Chunk.length).sum =
      min (budgets index)
        (max ((start transmitLength receiveLength).after budgets index).transmitRemaining
          ((start transmitLength receiveLength).after budgets index).receiveRemaining) := by
  have within := timeAfter_le_total budgets (max transmitLength receiveLength) index
  rw [messageAt_start, Span.sum_length_cutAt, after_start, transmitRemaining_reached,
    receiveRemaining_reached, timeAfter]
  omega

theorem chunk_messageAt {index : Nat} {chunk : Chunk}
    (member : chunk ∈ (start transmitLength receiveLength).messageAt budgets index) :
    0 < chunk.length ∧ (chunk.transmitOffset.isSome ∨ chunk.receiveOffset.isSome) := by
  have within := timeAfter_le_total budgets (max transmitLength receiveLength) (index + 1)
  rw [messageAt_start] at member
  rcases List.mem_map.1 member with ⟨span, spanMember, rfl⟩
  rcases Span.bounds_of_mem_cutAt spanMember with ⟨_, nonempty, inside⟩
  exact ⟨Nat.sub_pos_of_lt nonempty, Span.chunk_serves _ _ (by omega)⟩

/-- The shorter leg ends inside the stretch of a message that has two chunks. -/
theorem divided_of_length_messageAt {index : Nat}
    (divided : ((start transmitLength receiveLength).messageAt budgets index).length = 2) :
    timeAfter (max transmitLength receiveLength) budgets index <
        min transmitLength receiveLength ∧
      min transmitLength receiveLength <
        timeAfter (max transmitLength receiveLength) budgets (index + 1) := by
  rw [messageAt_start, List.length_map] at divided
  exact Span.inside_of_length_cutAt divided

theorem eq_of_length_messageAt {first second : Nat}
    (firstDivided : ((start transmitLength receiveLength).messageAt budgets first).length = 2)
    (secondDivided : ((start transmitLength receiveLength).messageAt budgets second).length = 2) :
    first = second := by
  have firstInside := divided_of_length_messageAt _ _ _ firstDivided
  have secondInside := divided_of_length_messageAt _ _ _ secondDivided
  have mono := timeAfter_mono budgets (max transmitLength receiveLength)
  rcases Nat.lt_trichotomy first second with earlier | same | later
  · have := mono (Nat.succ_le_of_lt earlier)
    simp only [Nat.succ_eq_add_one] at this
    omega
  · exact same
  · have := mono (Nat.succ_le_of_lt later)
    simp only [Nat.succ_eq_add_one] at this
    omega

/-- Under equal budgets a transfer takes as many messages as budgets fit into its ticks, rounded
up. -/
theorem isDone_after_iff {budget : Nat} (positive : 0 < budget) (count : Nat) :
    ((start transmitLength receiveLength).after (fun _ => budget) count).isDone = true ↔
      max transmitLength receiveLength ⌈/⌉ budget ≤ count := by
  rw [after_start, isDone_reached, timeAfter_const, decide_eq_true_iff,
    ceilDiv_le_iff_le_mul positive, le_min_iff]
  exact and_iff_left (Nat.le_refl _)

/-- A message of a transfer serves a stretch of it that is not empty and fits the budget. -/
theorem stretch_of_mem_schedule {budget : Nat} (positive : 0 < budget) {chunks : List Chunk}
    (member : chunks ∈ schedule transmitLength receiveLength budget) :
    ∃ start stop, start < stop ∧ stop ≤ start + budget ∧
      stop ≤ max transmitLength receiveLength ∧
      chunks = (Span.cutAt (min transmitLength receiveLength) start stop).map
        (Span.chunk transmitLength receiveLength) := by
  rcases List.mem_map.1 member with ⟨index, inSchedule, rfl⟩
  have unfinished : budget * index < max transmitLength receiveLength := by
    have before := List.mem_range.1 inSchedule
    rw [← Nat.not_le, ceilDiv_le_iff_le_mul positive, Nat.not_le] at before
    exact before
  refine ⟨_, _, ?_, ?_, timeAfter_le_total _ _ (index + 1), messageAt_start _ _ _ index⟩ <;>
    rw [timeAfter_const, timeAfter_const, Nat.mul_succ] <;>
    omega

theorem ticks_schedule {budget : Nat} (positive : 0 < budget) :
    (schedule transmitLength receiveLength budget).flatten.flatMap Chunk.ticks =
      (List.range (max transmitLength receiveLength)).map
        (Tick.ofTime transmitLength receiveLength) := by
  have enough : max transmitLength receiveLength ≤
      budget * (max transmitLength receiveLength ⌈/⌉ budget) :=
    (ceilDiv_le_iff_le_mul positive).1 (Nat.le_refl _)
  rw [schedule, ← List.flatMap_def, ticks_messages, timeAfter_const, Nat.min_eq_right enough]

end Runs

end Cursor

namespace Tick

variable (transmitLength receiveLength : Nat)

theorem filterMap_transmit (time : Nat) :
    ((List.range time).map (ofTime transmitLength receiveLength)).filterMap transmit =
      List.range (min time transmitLength) := by
  induction time with
  | zero => simp
  | succ time ih =>
      rw [List.range_succ, List.map_append, List.filterMap_append, ih]
      by_cases transmits : time < transmitLength
      · rw [Nat.min_eq_left (Nat.le_of_lt transmits), Nat.min_eq_left transmits, List.range_succ]
        simp [ofTime, transmits]
      · rw [Nat.min_eq_right (by omega), Nat.min_eq_right (by omega)]
        simp [ofTime, transmits]

theorem filterMap_receive (time : Nat) :
    ((List.range time).map (ofTime transmitLength receiveLength)).filterMap receive =
      List.range (min time receiveLength) := by
  have exchanged := filterMap_transmit receiveLength transmitLength time
  rw [List.filterMap_map] at exchanged ⊢
  exact exchanged

end Tick

namespace Cursor

/-- The messages of a transfer, whatever budget each of them is given.
1. A message serves the stretch of ticks from where the transfer has got to as far as its budget
   reaches, in one chunk or, if the shorter leg ends strictly inside the stretch, in two; after it,
   both legs have got to the end of the stretch or to their own end.
2. The first messages together have all ticks up to where the transfer has got to, in order, and so
   every byte of either leg up to there once, in order and in step with the other leg.
3. A message has at most two chunks, is as long as its budget and what is left allow, and each of
   its chunks has some ticks and serves some leg.
4. At most one message has two chunks.
5. Under equal budgets the transfer takes as many messages as budgets fit in, rounded up. -/
theorem messages_follow_schedule (transmitLength receiveLength : Nat) (budgets : Nat → Nat) :
    let cursor : Cursor := start transmitLength receiveLength
    let message := cursor.messageAt budgets
    let total := max transmitLength receiveLength
    let cut := min transmitLength receiveLength
    let time := timeAfter total budgets
    (∀ index,
      message index = (Span.cutAt cut (time index) (time (index + 1))).map
        (Span.chunk transmitLength receiveLength) ∧
      (cursor.after budgets (index + 1)).transmitRemaining =
        transmitLength - min (time (index + 1)) transmitLength ∧
      (cursor.after budgets (index + 1)).receiveRemaining =
        receiveLength - min (time (index + 1)) receiveLength) ∧
    (∀ count,
      let ticks := ((List.range count).flatMap message).flatMap Chunk.ticks
      ticks = (List.range (time count)).map (Tick.ofTime transmitLength receiveLength) ∧
      ticks.filterMap Tick.transmit = List.range (min (time count) transmitLength) ∧
      ticks.filterMap Tick.receive = List.range (min (time count) receiveLength)) ∧
    (∀ index,
      (message index).length ≤ 2 ∧
      ((message index).map Chunk.length).sum =
        min (budgets index) (max (cursor.after budgets index).transmitRemaining
          (cursor.after budgets index).receiveRemaining) ∧
      ∀ chunk ∈ message index,
        0 < chunk.length ∧ (chunk.transmitOffset.isSome ∨ chunk.receiveOffset.isSome)) ∧
    (∀ first second,
      (message first).length = 2 → (message second).length = 2 → first = second) ∧
    ∀ budget, 0 < budget → ∀ count,
      (cursor.after (fun _ => budget) count).isDone = true ↔ total ⌈/⌉ budget ≤ count := by
  intro cursor message total cut time
  have after_eq (count : Nat) : cursor.after budgets count =
      reached transmitLength receiveLength (time count) := after_start _ _ _ _
  refine ⟨fun index => ⟨messageAt_start _ _ _ _, ?_, ?_⟩, fun count => ?_,
    fun index => ⟨?_, ?_, ?_⟩, fun first second => eq_of_length_messageAt _ _ _,
    fun budget positive => isDone_after_iff _ _ positive⟩
  · rw [after_eq, transmitRemaining_reached]
    omega
  · rw [after_eq, receiveRemaining_reached]
    omega
  · intro ticks
    have ticks_eq : ticks = _ := ticks_messages transmitLength receiveLength budgets count
    rw [ticks_eq]
    exact ⟨rfl, Tick.filterMap_transmit _ _ _, Tick.filterMap_receive _ _ _⟩
  · simp only [message, cursor, messageAt_start, List.length_map]
    exact Span.length_cutAt_le _ _ _
  · exact sum_length_messageAt _ _ _ _
  · intro chunk member
    exact chunk_messageAt _ _ _ member

/-- Ten bytes out and three back under a budget of four: the first message is divided, and three
messages are enough. -/
theorem messages_of_ten_and_three :
    let message := (start 10 3).messageAt fun _ => 4
    message 0 = [⟨3, some 0, some 0⟩, ⟨1, some 3, none⟩] ∧
      (∀ chunk ∈ message 0, 0 < chunk.length) ∧
      (∀ index, (message index).length = 2 → index = 0) ∧
      ((start 10 3).after (fun _ => 4) 3).isDone = true ∧
      ((start 10 3).after (fun _ => 4) 2).isDone = false := by
  intro message
  rcases messages_follow_schedule 10 3 fun _ => 4 with ⟨_, _, each, once, done⟩
  refine ⟨by decide, fun chunk member => (((each 0).2.2 chunk member).1),
    fun index divided => once index 0 divided (by decide), (done 4 (by decide) 3).2 (by decide), ?_⟩
  exact Bool.eq_false_iff.2 fun finished => absurd ((done 4 (by decide) 2).1 finished) (by decide)

end Cursor

end Pinwire
