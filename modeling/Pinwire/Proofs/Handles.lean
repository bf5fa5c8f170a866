import Pinwire.Handles

/-!
# Tables of handles

Which things a table of handles holds after a thing is put into it or taken out. The order of the
numbers is the invariant of every table, and as multisets of things, tables are easy to count.
-/

namespace Pinwire

namespace Handles

variable {α β : Type}

/-- A table with its numbers in strictly ascending order. -/
def Ordered (handles : Handles α) : Prop :=
  handles.Pairwise fun earlier later => earlier.1 < later.1

/-- The table with each thing in it looked at in some way. -/
def mapValues (f : α → β) (handles : Handles α) : Handles β :=
  handles.map fun entry => (entry.1, f entry.2)

section MapValues

variable (f : α → β) (handles : Handles α) (number : Nat)

theorem find?_mapValues : (handles.mapValues f).find? number = (handles.find? number).map f := by
  simp only [find?, mapValues, List.find?_map, Option.map_map]
  rfl

theorem erase_mapValues :
    (handles.mapValues f).erase number = (handles.erase number).mapValues f := by
  simp only [erase, mapValues, List.filter_map]
  rfl

theorem insert_mapValues (value : α) :
    (handles.mapValues f).insert number (f value) = (handles.insert number value).mapValues f := by
  simp only [insert, mapValues, List.filter_map, List.map_append, List.map_cons]
  rfl

end MapValues

section Contents

variable {handles : Handles α} {number : Nat} {value : α}

theorem ordered_erase (ordered : handles.Ordered) (number : Nat) : (handles.erase number).Ordered :=
  List.Pairwise.filter _ ordered

theorem ordered_insert (ordered : handles.Ordered) (number : Nat) (value : α) :
    (handles.insert number value).Ordered := by
  refine List.pairwise_append.2 ⟨List.Pairwise.filter _ ordered,
    List.pairwise_cons.2 ⟨fun entry later => ?_, List.Pairwise.filter _ ordered⟩,
    fun entry earlier other later => ?_⟩
  · simpa using (List.mem_filter.1 later).2
  · have below : entry.1 < number := by simpa using (List.mem_filter.1 earlier).2
    rcases List.mem_cons.1 later with rfl | later
    · exact below
    · have above : number < other.1 := by simpa using (List.mem_filter.1 later).2
      exact Nat.lt_trans below above

/-- Putting a thing under a number takes out what was there and adds the thing. -/
theorem insert_perm (handles : Handles α) (number : Nat) (value : α) :
    (handles.insert number value).Perm ((number, value) :: handles.erase number) := by
  refine List.perm_middle.trans (List.Perm.cons _ ?_)
  induction handles with
  | nil => exact List.Perm.refl _
  | cons entry handles ih =>
      simp only [erase] at ih ⊢
      rcases Nat.lt_trichotomy entry.1 number with below | same | above
      · rw [List.filter_cons_of_pos (by simpa using below),
          List.filter_cons_of_neg (by simpa using Nat.le_of_lt below),
          List.filter_cons_of_pos (by simpa using Nat.ne_of_lt below)]
        exact ih.cons entry
      · rw [List.filter_cons_of_neg (by simp [same]), List.filter_cons_of_neg (by simp [same]),
          List.filter_cons_of_neg (by simp [same])]
        exact ih
      · rw [List.filter_cons_of_neg (by simpa using Nat.le_of_lt above),
          List.filter_cons_of_pos (by simpa using above),
          List.filter_cons_of_pos (by simpa using Nat.ne_of_gt above)]
        exact List.perm_middle.trans (ih.cons entry)

/-- Putting a thing where it already is changes nothing. -/
theorem insert_of_find? (ordered : handles.Ordered) (found : handles.find? number = some value) :
    handles.insert number value = handles := by
  simp only [find?, Option.map_eq_some_iff, List.find?_eq_some_iff_append,
    decide_eq_true_eq] at found
  rcases found with ⟨⟨key, held⟩, ⟨rfl, before, after, rfl, _⟩, rfl⟩
  rcases List.pairwise_append.1 ordered with ⟨_, fromKey, below⟩
  have smaller : ∀ entry ∈ before, entry.1 < key := fun entry member =>
    below entry member (key, held) List.mem_cons_self
  have larger : ∀ entry ∈ after, key < entry.1 := (List.pairwise_cons.1 fromKey).1
  have below_eq :
      (before ++ (key, held) :: after).filter (fun entry => entry.1 < key) = before := by
    have none_larger : after.filter (fun entry => entry.1 < key) = [] :=
      List.filter_eq_nil_iff.2 fun entry member => by
        simpa using Nat.le_of_lt (larger entry member)
    rw [List.filter_append, List.filter_cons_of_neg (by simp), none_larger, List.append_nil]
    exact List.filter_eq_self.2 fun entry member => by simpa using smaller entry member
  have above_eq :
      (before ++ (key, held) :: after).filter (fun entry => key < entry.1) = after := by
    have none_smaller : before.filter (fun entry => key < entry.1) = [] :=
      List.filter_eq_nil_iff.2 fun entry member => by
        simpa using Nat.le_of_lt (smaller entry member)
    rw [List.filter_append, List.filter_cons_of_neg (by simp), none_smaller, List.nil_append]
    exact List.filter_eq_self.2 fun entry member => by simpa using larger entry member
  rw [insert, below_eq, above_eq]

theorem mem_of_find? (found : handles.find? number = some value) : (number, value) ∈ handles := by
  simp only [find?, Option.map_eq_some_iff] at found
  rcases found with ⟨entry, found, rfl⟩
  have same : entry.1 = number := by simpa using List.find?_some found
  exact same ▸ List.mem_of_find?_eq_some found

theorem find?_erase (handles : Handles α) (number : Nat) :
    (handles.erase number).find? number = none := by
  simp [find?, erase]

theorem erase_of_absent (absent : handles.find? number = none) :
    handles.erase number = handles := by
  simp only [find?, Option.map_eq_none_iff, List.find?_eq_none, decide_eq_true_eq] at absent
  exact List.filter_eq_self.2 fun entry member => by simpa using absent entry member

/-- A table holds what is under a number and what is left without it. -/
theorem perm_of_find? (ordered : handles.Ordered) (found : handles.find? number = some value) :
    handles.Perm ((number, value) :: handles.erase number) := by
  have inserted := insert_perm handles number value
  rwa [insert_of_find? ordered found] at inserted

end Contents

end Handles

end Pinwire
