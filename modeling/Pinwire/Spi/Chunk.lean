/-!
# Chunks of a transfer

A transfer has a transmit leg and a receive leg, which may differ in length. It is carried out in
messages of at most two chunks each, whose lengths together stay within a budget. A chunk serves
both legs as far as they overlap; the part of the longer leg beyond the shorter one is served by
chunks of its own.
-/

namespace Pinwire

/-- A stretch of a transfer: its length and where it lies in each leg that it serves. -/
structure Chunk where
  length : Nat
  transmitOffset : Option Nat
  receiveOffset : Option Nat
  deriving Repr, DecidableEq

/-- The length of the next chunk: up to the end of the shorter leg that is still open, and within
the budget. -/
def chunkLength (transmitRemaining receiveRemaining budget : Nat) : Nat :=
  min budget <|
    if transmitRemaining = 0 ∨ receiveRemaining = 0 then max transmitRemaining receiveRemaining
    else min transmitRemaining receiveRemaining

/-- How far a transfer has got in each of its legs. -/
structure Cursor where
  transmitted : Nat
  transmitLength : Nat
  received : Nat
  receiveLength : Nat
  deriving Repr, DecidableEq

namespace Cursor

def start (transmitLength receiveLength : Nat) : Cursor :=
  ⟨0, transmitLength, 0, receiveLength⟩

def transmitRemaining (cursor : Cursor) : Nat := cursor.transmitLength - cursor.transmitted

def receiveRemaining (cursor : Cursor) : Nat := cursor.receiveLength - cursor.received

def isDone (cursor : Cursor) : Bool :=
  cursor.transmitRemaining = 0 && cursor.receiveRemaining = 0

/-- The next chunk under a budget, and the cursor after it. -/
def take (cursor : Cursor) (budget : Nat) : Chunk × Cursor :=
  let length := chunkLength cursor.transmitRemaining cursor.receiveRemaining budget
  let transmits := 0 < cursor.transmitRemaining
  let receives := 0 < cursor.receiveRemaining
  (⟨length, if transmits then some cursor.transmitted else none,
      if receives then some cursor.received else none⟩,
    { cursor with
      transmitted := if transmits then cursor.transmitted + length else cursor.transmitted
      received := if receives then cursor.received + length else cursor.received })

def largestMessage : Nat := 2

/-- At most `count` chunks whose lengths together stay within a budget, and the cursor after
them. -/
def fill : Nat → Cursor → Nat → List Chunk × Cursor
  | 0, cursor, _ => ([], cursor)
  | count + 1, cursor, budget =>
    if cursor.isDone || budget = 0 then ([], cursor)
    else
      let (chunk, next) := cursor.take budget
      let (chunks, last) := fill count next (budget - chunk.length)
      (chunk :: chunks, last)

/-- The chunks of the next message under a budget, and the cursor after it. -/
def nextMessage (cursor : Cursor) (budget : Nat) : List Chunk × Cursor :=
  fill largestMessage cursor budget

def remaining (cursor : Cursor) : Nat :=
  cursor.transmitRemaining + cursor.receiveRemaining

theorem chunkLength_le_budget (transmitRemaining receiveRemaining budget : Nat) :
    chunkLength transmitRemaining receiveRemaining budget ≤ budget :=
  Nat.min_le_left _ _

/-- A chunk of a transfer that is not done is not empty. -/
theorem chunkLength_pos {cursor : Cursor} {budget : Nat} (notDone : cursor.isDone = false)
    (positive : 0 < budget) :
    0 < chunkLength cursor.transmitRemaining cursor.receiveRemaining budget := by
  simp only [isDone, Bool.and_eq_false_iff, decide_eq_false_iff_not] at notDone
  simp only [chunkLength]
  split <;> omega

theorem remaining_take_lt {cursor : Cursor} {budget : Nat} (notDone : cursor.isDone = false)
    (positive : 0 < budget) : (cursor.take budget).2.remaining < cursor.remaining := by
  have lengthPositive := chunkLength_pos notDone positive
  simp only [isDone, Bool.and_eq_false_iff, decide_eq_false_iff_not] at notDone
  simp only [take, remaining, transmitRemaining, receiveRemaining] at *
  generalize chunkLength _ _ _ = length at *
  by_cases transmits : 0 < cursor.transmitLength - cursor.transmitted <;>
    by_cases receives : 0 < cursor.receiveLength - cursor.received <;>
    simp only [transmits, receives, if_true, if_false] <;> omega

/-- Filling a message never adds to what is left. -/
theorem remaining_fill_le (count : Nat) (cursor : Cursor) (budget : Nat) :
    (fill count cursor budget).2.remaining ≤ cursor.remaining := by
  induction count generalizing cursor budget with
  | zero => simp [fill]
  | succ count ih =>
    simp only [fill]
    split
    · simp
    · rename_i more
      simp only [Bool.or_eq_true, decide_eq_true_eq, not_or, Bool.not_eq_true] at more
      have less := remaining_take_lt more.1 (Nat.pos_of_ne_zero more.2)
      have rest := ih (cursor.take budget).2
        (budget - (cursor.take budget).1.length)
      exact Nat.le_trans rest (Nat.le_of_lt less)

/-- A message of a transfer that is not done leaves less of it. -/
theorem remaining_nextMessage_lt {cursor : Cursor} {budget : Nat}
    (notDone : cursor.isDone = false) (positive : 0 < budget) :
    (cursor.nextMessage budget).2.remaining < cursor.remaining := by
  have stop : (cursor.isDone || decide (budget = 0)) = false := by
    simp [notDone, Nat.ne_of_gt positive]
  simp only [nextMessage, largestMessage, fill.eq_2, stop, Bool.false_eq_true, if_false]
  exact Nat.lt_of_le_of_lt (remaining_fill_le 1 _ _) (remaining_take_lt notDone positive)

end Cursor

end Pinwire
