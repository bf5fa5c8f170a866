import Pinwire.Proofs.Text.Numeral

/-!
# Digits in machine words

A numeral is read here into a word of 64 bits with a sign. Each digit makes ten times the word and
joins itself to the product: it is added, or taken away after a minus sign. Products, sums and
differences that no word holds end the reading.

Digits never bring a number back to zero, so a row of them that leaves the range of words stays
outside. The checks of all the steps come to a single check of the number that is read in the end,
and words are read from the same texts as numbers are.
-/

namespace Pinwire

namespace SignedWord

/-- The word of a number, if there is one. -/
def holding? (value : Int) : Option Int64 :=
  if Bounds.smallest64 ≤ value ∧ value ≤ Bounds.signed64 then some (Int64.ofInt value) else none

def product? (left right : Int64) : Option Int64 :=
  if left.toBitVec.smulOverflow right.toBitVec then none else some (left * right)

def sum? (left right : Int64) : Option Int64 :=
  if left.toBitVec.saddOverflow right.toBitVec then none else some (left + right)

def difference? (left right : Int64) : Option Int64 :=
  if left.toBitVec.ssubOverflow right.toBitVec then none else some (left - right)

section Holding

variable {value : Int} {word : Int64}

theorem toInt_bounds (word : Int64) :
    Bounds.smallest64 ≤ word.toInt ∧ word.toInt ≤ Bounds.signed64 := by
  have lower := word.le_toInt
  have upper := word.toInt_lt
  simp only [Bounds.smallest64, Bounds.signed64]
  omega

theorem toInt_ofInt (inside : Bounds.smallest64 ≤ value ∧ value ≤ Bounds.signed64) :
    (Int64.ofInt value).toInt = value := by
  simp only [Bounds.smallest64, Bounds.signed64] at inside
  apply Int64.toInt_ofInt_of_le <;> omega

theorem holding?_eq_some_iff : holding? value = some word ↔ word.toInt = value := by
  unfold holding?
  split
  · rename_i inside
    rw [Option.some.injEq, ← Int64.toInt_inj, toInt_ofInt inside, eq_comm]
  · rename_i outside
    simp only [reduceCtorEq, false_iff]
    rintro rfl
    exact outside (toInt_bounds word)

theorem holding?_eq_none_iff :
    holding? value = none ↔ value < Bounds.smallest64 ∨ Bounds.signed64 < value := by
  rw [holding?, ite_eq_right_iff]
  simp only [reduceCtorEq, imp_false]
  omega

theorem map_toInt_holding? (value : Int) : (holding? value).map Int64.toInt =
    (some value).filter fun value => Bounds.smallest64 ≤ value ∧ value ≤ Bounds.signed64 := by
  rw [Option.filter_some]
  by_cases inside : Bounds.smallest64 ≤ value ∧ value ≤ Bounds.signed64
  · have held : holding? value = some (Int64.ofInt value) := if_pos inside
    rw [held, Option.map_some, holding?_eq_some_iff.1 held, if_pos (decide_eq_true inside)]
  · have none : holding? value = none := if_neg inside
    rw [none, Option.map_none, if_neg (by rwa [decide_eq_true_eq])]

/-- An operation with a check gives the word of its exact result, if the check fails just where
there is no such word. -/
theorem checked_eq_holding? {overflow : Bool}
    (flagged : overflow ↔ value < Bounds.smallest64 ∨ Bounds.signed64 < value)
    (exact : ¬overflow → word.toInt = value) :
    (if overflow then none else some word) = holding? value := by
  by_cases overflown : overflow
  · rw [if_pos overflown, eq_comm, holding?_eq_none_iff]
    exact flagged.1 overflown
  · rw [if_neg overflown, eq_comm, holding?_eq_some_iff]
    exact exact overflown

theorem product?_eq (left right : Int64) :
    product? left right = holding? (left.toInt * right.toInt) := by
  apply checked_eq_holding?
  · simp only [BitVec.smulOverflow, Bool.or_eq_true, decide_eq_true_eq, Int64.toInt_toBitVec,
      Bounds.smallest64, Bounds.signed64]
    omega
  · exact BitVec.toInt_mul_of_not_smulOverflow

theorem sum?_eq (left right : Int64) :
    sum? left right = holding? (left.toInt + right.toInt) := by
  apply checked_eq_holding?
  · simp only [BitVec.saddOverflow, Bool.or_eq_true, decide_eq_true_eq, Int64.toInt_toBitVec,
      Bounds.smallest64, Bounds.signed64]
    omega
  · exact BitVec.toInt_add_of_not_saddOverflow

theorem difference?_eq (left right : Int64) :
    difference? left right = holding? (left.toInt - right.toInt) := by
  apply checked_eq_holding?
  · simp only [BitVec.ssubOverflow, Bool.or_eq_true, decide_eq_true_eq, Int64.toInt_toBitVec,
      Bounds.smallest64, Bounds.signed64]
    omega
  · exact BitVec.toInt_sub_of_not_ssubOverflow

end Holding

end SignedWord

namespace Text.Decimal

open SignedWord

/-- The word after digits that follow the word `high`, each of them joined to ten times the word
before it. -/
def accumulate? (join : Int64 → Int64 → Option Int64) (high : Int64) :
    List Char → Option Int64
  | [] => some high
  | character :: rest => do
    let digit ← digitValue? character
    let product ← product? high 10
    let next ← join product (Int64.ofNat digit)
    accumulate? join next rest

/-- The word of a row of digits, of which there is at least one. -/
def gather? (join : Int64 → Int64 → Option Int64) : List Char → Option Int64
  | [] => none
  | character :: rest => accumulate? join 0 (character :: rest)

/-- A word with a sign: digits after an optional sign. -/
def signedWord? (text : List Char) : Option Int64 :=
  match text with
  | '-' :: rest => gather? difference? rest
  | '+' :: rest => gather? sum? rest
  | _ => gather? sum? text

/-- Joining a word to another is adding it, or taking it away, with a check. -/
structure Joins (join : Int64 → Int64 → Option Int64) (sign : Int) : Prop where
  unit : sign = 1 ∨ sign = -1
  joined (left right : Int64) : join left right = holding? (left.toInt + sign * right.toInt)

theorem joins_sum? : Joins sum? 1 where
  unit := .inl rfl
  joined left right := by rw [sum?_eq, Int.one_mul]

theorem joins_difference? : Joins difference? (-1) where
  unit := .inr rfl
  joined left right := by rw [difference?_eq, Int.neg_one_mul, Int.sub_eq_add_neg]

theorem digitValue?_lt {character : Char} {digit : Nat}
    (read : digitValue? character = some digit) : digit < 10 := by
  unfold digitValue? at read
  split at read
  · rename_i range
    have upper : character.toNat ≤ '9'.toNat := range.2
    cases read
    simp only [Char.reduceToNat] at upper ⊢
    omega
  · cases read

theorem le_of_valueAfter? {high value : Nat} {text : List Char}
    (read : valueAfter? high text = some value) : high ≤ value := by
  induction text generalizing high with
  | nil => exact Nat.le_of_eq (Option.some.inj read)
  | cons character rest ih =>
      rw [valueAfter?, Option.bind_eq_some_iff] at read
      rcases read with ⟨digit, _, later⟩
      have larger := ih later
      omega

section Accumulation

variable {join : Int64 → Int64 → Option Int64} {sign : Int}

/-- What is outside the range of words stays there when it moves away from zero. -/
theorem Joins.holding?_eq_none_of_le (joins : Joins join sign) {smaller larger : Nat}
    (ordered : smaller ≤ larger) (outside : holding? (sign * smaller) = none) :
    holding? (sign * larger) = none := by
  have below : Bounds.smallest64 ≤ 0 := by decide
  rw [holding?_eq_none_iff] at outside ⊢
  rcases joins.unit with rfl | rfl <;> omega

/-- One digit more, with the checks on the way, comes to one check of the new number. -/
theorem Joins.join_product? (joins : Joins join sign) {high : Int64} {value digit : Nat}
    (held : high.toInt = sign * value) (small : digit < 10) :
    ((product? high 10).bind fun product => join product (Int64.ofNat digit)) =
      holding? (sign * (10 * value + digit : Nat)) := by
  have tenfold : product? high 10 = holding? (sign * (10 * value : Nat)) := by
    have exact : high.toInt * 10 = sign * (10 * value : Nat) := by
      rw [held, Int.natCast_mul, Int.mul_left_comm]
      exact Int.mul_comm _ _
    rw [product?_eq, ← exact]
    rfl
  rw [tenfold]
  rcases multiplied : holding? (sign * (10 * value : Nat)) with _ | product
  · have further := joins.holding?_eq_none_of_le (Nat.le_add_right (10 * value) digit) multiplied
    rw [further, Option.bind_none]
  · have exact : (sign * (10 * value : Nat) + sign * digit : Int) =
        sign * (10 * value + digit : Nat) := by
      rw [Int.natCast_add, Int.mul_add]
    rw [Option.bind_some, joins.joined, holding?_eq_some_iff.1 multiplied,
      Int64.toInt_ofNat_of_lt (by omega), exact]

/-- Digits after a word that holds a number are read as digits after that number, as long as there
is a word for what they come to. -/
theorem Joins.accumulate?_eq (joins : Joins join sign) {high : Int64} {value : Nat}
    (held : high.toInt = sign * value) (text : List Char) :
    accumulate? join high text =
      (valueAfter? value text).bind fun total => holding? (sign * total) := by
  -- The word holds the value of the digits before it, up to the sign, from one digit to the next.
  induction text generalizing high value with
  | nil => exact (holding?_eq_some_iff.2 held).symm
  | cons character rest ih =>
      rcases read : digitValue? character with _ | digit
      · rw [valueAfter?, accumulate?, read]
        rfl
      have step : accumulate? join high (character :: rest) =
          (holding? (sign * (10 * value + digit : Nat))).bind fun next =>
            accumulate? join next rest := by
        rw [← joins.join_product? held (digitValue?_lt read), Option.bind_assoc, accumulate?, read]
        rfl
      rw [step, valueAfter?, read, Option.bind_some]
      rcases moved : holding? (sign * (10 * value + digit : Nat)) with _ | next
      · -- No word is left here, and there would be none later either: the rest only adds to it.
        rcases later : valueAfter? (10 * value + digit) rest with _ | total
        · rfl
        · have further := joins.holding?_eq_none_of_le (le_of_valueAfter? later) moved
          rw [Option.bind_none, Option.bind_some, further]
      · exact ih (holding?_eq_some_iff.1 moved)

theorem Joins.gather?_eq (joins : Joins join sign) (text : List Char) :
    gather? join text = (value? text).bind fun total => holding? (sign * total) := by
  cases text with
  | nil => rfl
  | cons character rest => exact joins.accumulate?_eq (by simp) _

end Accumulation

/-- Checking the word of a number comes to checking the number. -/
theorem map_toInt_bind_holding? (number : Option Nat) {sign : Int} {place : Int → Int}
    (placed : ∀ value, sign * value = place value) :
    (number.bind fun total => holding? (sign * total)).map Int64.toInt =
      ((do pure (Nat.cast (← number)) : Option Int).map place).filter fun value =>
        Bounds.smallest64 ≤ value ∧ value ≤ Bounds.signed64 := by
  cases number with
  | none => rfl
  | some total =>
      rw [Option.bind_some, map_toInt_holding?, placed]
      rfl

/-- Words are read from the texts of the integers in their range. -/
theorem map_toInt_signedWord? (text : List Char) :
    (signedWord? text).map Int64.toInt = signed? Bounds.smallest64 Bounds.signed64 text := by
  fun_cases signedWord? text with
  | case1 rest =>
      rw [joins_difference?.gather?_eq]
      exact map_toInt_bind_holding? _ Int.neg_one_mul
  | case2 rest =>
      rw [joins_sum?.gather?_eq]
      exact map_toInt_bind_holding? _ Int.one_mul
  | case3 _ noMinus noPlus =>
      rw [joins_sum?.gather?_eq, signed?]
      · exact map_toInt_bind_holding? _ Int.one_mul
      · exact noMinus
      · exact noPlus

end Text.Decimal

end Pinwire
