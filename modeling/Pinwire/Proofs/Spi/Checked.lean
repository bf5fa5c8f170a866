import Pinwire.Bounds
import Pinwire.Proofs.Spi.Schedule

/-!
# Cursors on machine words

Positions, lengths and budgets are words of 64 bits, which have no room for a difference below zero
or a sum beyond the largest word. Here a cursor is moved with every difference and every sum
checked. None of the checks ever fails on the way of a transfer, so words come to the same as
numbers do.

The invariant is that neither position is past the end of its leg.
-/

namespace Pinwire

namespace Word

/-- The difference of two words, unless it is below zero. -/
def difference? (left right : Nat) : Option Nat :=
  if right ≤ left then some (left - right) else none

/-- The sum of two words, unless no word holds it. -/
def sum? (left right : Nat) : Option Nat :=
  if left + right ≤ Bounds.unsigned64 then some (left + right) else none

theorem difference?_of_le {left right : Nat} (ordered : right ≤ left) :
    difference? left right = some (left - right) :=
  if_pos ordered

theorem sum?_of_le {left right : Nat} (fits : left + right ≤ Bounds.unsigned64) :
    sum? left right = some (left + right) :=
  if_pos fits

end Word

namespace Cursor

def transmitRemaining? (cursor : Cursor) : Option Nat :=
  Word.difference? cursor.transmitLength cursor.transmitted

def receiveRemaining? (cursor : Cursor) : Option Nat :=
  Word.difference? cursor.receiveLength cursor.received

def isDone? (cursor : Cursor) : Option Bool := do
  let transmitLeft ← cursor.transmitRemaining?
  let receiveLeft ← cursor.receiveRemaining?
  pure (transmitLeft = 0 && receiveLeft = 0)

/-- A position after a chunk; it moves only if the leg had something left. -/
def advance? (position left length : Nat) : Option Nat :=
  if 0 < left then Word.sum? position length else some position

/-- The next chunk under a budget, the cursor after it and what is left of the budget. -/
def take? (cursor : Cursor) (budget : Nat) : Option (Chunk × Cursor × Nat) := do
  let transmitLeft ← cursor.transmitRemaining?
  let receiveLeft ← cursor.receiveRemaining?
  let length := chunkLength transmitLeft receiveLeft budget
  let budget ← Word.difference? budget length
  let transmitted ← advance? cursor.transmitted transmitLeft length
  let received ← advance? cursor.received receiveLeft length
  pure (⟨length, if 0 < transmitLeft then some cursor.transmitted else none,
      if 0 < receiveLeft then some cursor.received else none⟩,
    { cursor with transmitted, received }, budget)

/-- At most `count` chunks within a budget, and the cursor after them. -/
def fill? : Nat → Cursor → Nat → Option (List Chunk × Cursor)
  | 0, cursor, _ => some ([], cursor)
  | count + 1, cursor, budget => do
    let done ← cursor.isDone?
    if done || budget = 0 then some ([], cursor)
    else
      let (chunk, next, budget) ← cursor.take? budget
      let (chunks, last) ← fill? count next budget
      some (chunk :: chunks, last)

def nextMessage? (cursor : Cursor) (budget : Nat) : Option (List Chunk × Cursor) :=
  fill? largestMessage cursor budget

/-- A cursor on legs whose lengths are words, with neither position past the end of its leg. -/
structure InRange (cursor : Cursor) : Prop where
  transmitted : cursor.transmitted ≤ cursor.transmitLength
  received : cursor.received ≤ cursor.receiveLength
  transmitLength : cursor.transmitLength ≤ Bounds.unsigned64
  receiveLength : cursor.receiveLength ≤ Bounds.unsigned64

section InRange

variable {cursor : Cursor}

theorem inRange_start {transmitLength receiveLength : Nat}
    (transmitWord : transmitLength ≤ Bounds.unsigned64)
    (receiveWord : receiveLength ≤ Bounds.unsigned64) :
    InRange (start transmitLength receiveLength) :=
  ⟨Nat.zero_le _, Nat.zero_le _, transmitWord, receiveWord⟩

theorem isDone?_eq (inRange : cursor.InRange) : cursor.isDone? = some cursor.isDone := by
  simp only [isDone?, transmitRemaining?, receiveRemaining?,
    Word.difference?_of_le inRange.transmitted, Word.difference?_of_le inRange.received]
  rfl

/-- A chunk never goes past the end of a leg that it serves. -/
theorem chunkLength_le_remaining (transmitLeft receiveLeft budget : Nat) :
    (0 < transmitLeft → chunkLength transmitLeft receiveLeft budget ≤ transmitLeft) ∧
      (0 < receiveLeft → chunkLength transmitLeft receiveLeft budget ≤ receiveLeft) := by
  simp only [chunkLength]
  split <;> omega

theorem advance?_eq {position left length : Nat}
    (inside : 0 < left → position + length ≤ Bounds.unsigned64) :
    advance? position left length = some (if 0 < left then position + length else position) := by
  by_cases serves : 0 < left
  · rw [advance?, if_pos serves, if_pos serves, Word.sum?_of_le (inside serves)]
  · rw [advance?, if_neg serves, if_neg serves]

theorem inRange_take (inRange : cursor.InRange) (budget : Nat) :
    (cursor.take budget).2.InRange := by
  have fits := chunkLength_le_remaining cursor.transmitRemaining cursor.receiveRemaining budget
  rcases inRange with ⟨transmitted, received, transmitLength, receiveLength⟩
  simp only [take]
  generalize chunkLength cursor.transmitRemaining cursor.receiveRemaining budget = length at fits ⊢
  simp only [transmitRemaining, receiveRemaining] at fits ⊢
  refine ⟨?_, ?_, transmitLength, receiveLength⟩
  · by_cases transmits : 0 < cursor.transmitLength - cursor.transmitted <;>
      simp only [transmits, if_true, if_false] <;> omega
  · by_cases receives : 0 < cursor.receiveLength - cursor.received <;>
      simp only [receives, if_true, if_false] <;> omega

theorem take?_eq (inRange : cursor.InRange) (budget : Nat) :
    cursor.take? budget = some ((cursor.take budget).1, (cursor.take budget).2,
      budget - (cursor.take budget).1.length) := by
  have fits := chunkLength_le_remaining cursor.transmitRemaining cursor.receiveRemaining budget
  have within := chunkLength_le_budget cursor.transmitRemaining cursor.receiveRemaining budget
  rcases inRange with ⟨transmitted, received, transmitLength, receiveLength⟩
  have transmitLeft : cursor.transmitRemaining? = some cursor.transmitRemaining :=
    Word.difference?_of_le transmitted
  have receiveLeft : cursor.receiveRemaining? = some cursor.receiveRemaining :=
    Word.difference?_of_le received
  simp only [take?, transmitLeft, receiveLeft, Option.bind_eq_bind, Option.bind_some,
    Word.difference?_of_le within, take]
  generalize chunkLength cursor.transmitRemaining cursor.receiveRemaining budget = length
    at fits within ⊢
  -- A position moves only while its leg has something left, and then the end of the leg bounds it.
  have transmitMoves : 0 < cursor.transmitRemaining →
      cursor.transmitted + length ≤ Bounds.unsigned64 := by
    intro transmits
    have inside := fits.1 transmits
    simp only [transmitRemaining] at inside
    omega
  have receiveMoves : 0 < cursor.receiveRemaining →
      cursor.received + length ≤ Bounds.unsigned64 := by
    intro receives
    have inside := fits.2 receives
    simp only [receiveRemaining] at inside
    omega
  rw [advance?_eq transmitMoves, advance?_eq receiveMoves]
  rfl

theorem fill?_eq (inRange : cursor.InRange) (count budget : Nat) :
    fill? count cursor budget = some (fill count cursor budget) ∧
      (fill count cursor budget).2.InRange := by
  induction count generalizing cursor budget with
  | zero => exact ⟨rfl, inRange⟩
  | succ count ih =>
      simp only [fill?, fill, isDone?_eq inRange, Option.bind_eq_bind, Option.bind_some]
      by_cases stopped : (cursor.isDone || decide (budget = 0)) = true
      · rw [if_pos stopped, if_pos stopped]
        exact ⟨rfl, inRange⟩
      · rw [if_neg stopped, if_neg stopped, take?_eq inRange]
        rcases ih (inRange_take inRange budget) (budget - (cursor.take budget).1.length) with
          ⟨rest, restInRange⟩
        simp only [Option.bind_some, rest]
        exact ⟨trivial, restInRange⟩

/-- A message is put together on words as it is on numbers. -/
theorem nextMessage?_eq (inRange : cursor.InRange) (budget : Nat) :
    cursor.nextMessage? budget = some (cursor.nextMessage budget) :=
  (fill?_eq inRange largestMessage budget).1

theorem inRange_after (inRange : cursor.InRange) (budgets : Nat → Nat) (count : Nat) :
    (cursor.after budgets count).InRange := by
  induction count with
  | zero => exact inRange
  | succ count ih => exact (fill?_eq ih largestMessage (budgets count)).2

end InRange

end Cursor

end Pinwire
