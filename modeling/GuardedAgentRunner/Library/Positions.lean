/-
This file says what stands at a position of a list after one item was replaced or
appended, as the proofs about journals, processes and callers ask for it: the item
is the new one, or it stood there before.
-/

import Mathlib.Data.List.Basic

namespace Positions

variable {Item : Type} {items : List Item} {position place : Nat} {item found : Item}

theorem set_eq_some : (items.set position item)[place]? = some found ↔
    position = place ∧ place < items.length ∧ item = found ∨
      position ≠ place ∧ items[place]? = some found := by
  by_cases here : position = place
  · subst here
    rw [List.getElem?_set_self']
    simp [List.getElem?_eq_some_iff]
  · rw [List.getElem?_set_ne here]
    simp [here]

theorem set_of_present (present : items[position]? = some found) :
    (items.set position item)[position]? = some item :=
  List.getElem?_set_self (List.getElem?_eq_some_iff.mp present).1

theorem concat_eq_some : (items ++ [item])[place]? = some found ↔
    items[place]? = some found ∨ place = items.length ∧ item = found := by
  rcases Nat.lt_or_ge place items.length with inside | outside
  · rw [List.getElem?_append_left inside]
    simp [Nat.ne_of_lt inside]
  · rw [List.getElem?_append_right outside, List.getElem?_eq_none outside]
    have last : place - items.length = 0 ↔ place = items.length := by omega
    simp [List.getElem?_singleton, last]

theorem concat_of_present (present : items[place]? = some found) :
    (items ++ [item])[place]? = some found :=
  concat_eq_some.mpr (Or.inl present)

end Positions
