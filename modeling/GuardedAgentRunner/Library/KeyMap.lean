/-
This file develops finite maps that are walked in an order of their own. A map is
the list of its entries in the order of one walk, with no key twice; looking a key
up does not depend on the order, the first entry a walk accepts does. Every entry
is the first of some walk.
-/

import Mathlib.Data.List.Nodup
import Mathlib.Data.List.Perm.Basic

structure KeyMap (Value : Type) where
  /-- The entries in the order of a walk. -/
  entries : List (String × Value)
  distinct : (entries.map Prod.fst).Nodup

namespace KeyMap

variable {Value : Type} {map other : KeyMap Value} {key : String} {value : Value}

/-- The value of a key. -/
def find (map : KeyMap Value) (key : String) : Option Value :=
  (map.entries.find? fun entry => entry.1 = key).map Prod.snd

theorem find_eq_some_iff : map.find key = some value ↔ (key, value) ∈ map.entries := by
  unfold find
  constructor
  · intro found
    obtain ⟨entry, first, same⟩ := Option.map_eq_some_iff.mp found
    have accepted := List.find?_some first
    have named : entry.1 = key := of_decide_eq_true accepted
    rw [← named, ← same]
    exact List.mem_of_find?_eq_some first
  · intro member
    cases first : map.entries.find? fun entry => entry.1 = key with
    | none =>
      have refused := List.find?_eq_none.mp first (key, value) member
      exact absurd (decide_eq_true rfl) refused
    | some entry =>
      have accepted := List.find?_some first
      have named : entry.1 = key := of_decide_eq_true accepted
      have unique : entry = (key, value) :=
        List.inj_on_of_nodup_map map.distinct (List.mem_of_find?_eq_some first) member named
      rw [unique]
      rfl

/-- The maps have the same entries, walked in two orders. -/
def Reordered (map other : KeyMap Value) : Prop := map.entries.Perm other.entries

/-- The first value a walk accepts. -/
def first (map : KeyMap Value) (accepts : Value → Bool) : Option Value :=
  (map.entries.find? fun entry => accepts entry.2).map Prod.snd

/-- The values of the map that are accepted. -/
def Accepted (map : KeyMap Value) (accepts : Value → Bool) (value : Value) : Prop :=
  (∃ key, (key, value) ∈ map.entries) ∧ accepts value = true

variable {accepts : Value → Bool}

theorem accepted_of_first (found : map.first accepts = some value) :
    map.Accepted accepts value := by
  obtain ⟨entry, first, same⟩ := Option.map_eq_some_iff.mp found
  have accepted := List.find?_some first
  rw [← same]
  exact ⟨⟨entry.1, List.mem_of_find?_eq_some first⟩, accepted⟩

theorem not_accepted_of_first_none (none : map.first accepts = none) :
    ¬ map.Accepted accepts value := by
  rintro ⟨⟨key, member⟩, accepted⟩
  have refused := List.find?_eq_none.mp (Option.map_eq_none_iff.mp none) (key, value) member
  exact refused accepted

/-- A map with the same entries in another order. -/
def reorder (map : KeyMap Value) (entries : List (String × Value))
    (perm : entries.Perm map.entries) : KeyMap Value :=
  ⟨entries, (perm.map Prod.fst).nodup_iff.mpr map.distinct⟩

theorem exists_reordered_first (accepted : map.Accepted accepts value) :
    ∃ other : KeyMap Value, map.Reordered other ∧ other.first accepts = some value := by
  obtain ⟨⟨key, member⟩, holds⟩ := accepted
  obtain ⟨before, after, split⟩ := List.append_of_mem member
  have perm : ((key, value) :: (before ++ after)).Perm map.entries := by
    rw [split]
    exact List.perm_middle.symm
  refine ⟨map.reorder _ perm, perm.symm, ?_⟩
  show (((key, value) :: (before ++ after)).find? fun entry => accepts entry.2).map Prod.snd =
    some value
  simp only [List.find?_cons, holds, Option.map_some]

theorem Reordered.accepted_iff (reordered : map.Reordered other) :
    other.Accepted accepts value ↔ map.Accepted accepts value := by
  unfold Accepted
  simp only [reordered.mem_iff]

/-- The walks of a map lead to one answer exactly when its accepted values do. -/
theorem walks_agree_iff {Answer : Type} (missing : Answer) (answer : Value → Answer) :
    (∀ walk again : KeyMap Value, map.Reordered walk → map.Reordered again →
      (walk.first accepts).elim missing answer = (again.first accepts).elim missing answer) ↔
    ∀ value other, map.Accepted accepts value → map.Accepted accepts other →
      answer value = answer other := by
  constructor
  · intro agree value other accepted otherAccepted
    obtain ⟨walk, reordered, first⟩ := exists_reordered_first accepted
    obtain ⟨again, reorderedAgain, firstAgain⟩ := exists_reordered_first otherAccepted
    have same := agree walk again reordered reorderedAgain
    rw [first, firstAgain] at same
    exact same
  · intro agree walk again reordered reorderedAgain
    cases first : walk.first accepts with
    | none =>
      cases firstAgain : again.first accepts with
      | none => rfl
      | some other =>
        have accepted := reorderedAgain.accepted_iff.mp (accepted_of_first firstAgain)
        exact absurd (reordered.accepted_iff.mpr accepted) (not_accepted_of_first_none first)
    | some value =>
      have accepted := reordered.accepted_iff.mp (accepted_of_first first)
      cases firstAgain : again.first accepts with
      | none =>
        exact absurd (reorderedAgain.accepted_iff.mpr accepted)
          (not_accepted_of_first_none firstAgain)
      | some other =>
        have otherAccepted := reorderedAgain.accepted_iff.mp (accepted_of_first firstAgain)
        exact agree value other accepted otherAccepted

end KeyMap
