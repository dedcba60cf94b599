/-
This file develops paging by key. Rows are listed in a strict order; a page starts
after a row and has at most a fixed number of rows; and a client asks for one page
after the other until the answer says that it was the last. A client whose every
cursor stands for the rest of the list receives the whole list.
-/

import Mathlib.Data.List.Sort
import Mathlib.Data.List.TakeDrop

namespace Pages

/-! ### The rows after a row -/

section Order

variable {Row : Type} {before : Row → Row → Prop}

theorem filter_after [DecidableRel before]
    (asymmetric : ∀ first second, before first second → ¬ before second first)
    {front back : List Row} {row : Row}
    (sorted : (front ++ row :: back).Pairwise before) :
    (front ++ row :: back).filter (fun other => before row other) = back := by
  obtain ⟨-, rest, across⟩ := List.pairwise_append.mp sorted
  obtain ⟨follows, -⟩ := List.pairwise_cons.mp rest
  have earlier : front.filter (fun other => before row other) = [] := by
    refine List.filter_eq_nil_iff.mpr fun other member passes => ?_
    exact asymmetric _ _ (across other member row List.mem_cons_self) (of_decide_eq_true passes)
  have later := List.filter_eq_self.mpr fun other member => decide_eq_true (follows other member)
  have itself : (row :: back).filter (fun other => before row other) =
      back.filter (fun other => before row other) := by
    refine List.filter_cons_of_neg fun passes => ?_
    exact asymmetric _ _ (of_decide_eq_true passes) (of_decide_eq_true passes)
  rw [List.filter_append, earlier, itself, later, List.nil_append]

/-- Rows that are selected from a list and then brought into strict order are those selected from
the ordered list. -/
theorem eq_filter_of_perm
    (asymmetric : ∀ first second, before first second → ¬ before second first)
    {rows sorted selection : List Row} (test : Row → Bool) (perm : sorted.Perm rows)
    (inOrder : sorted.Pairwise before) (selected : selection.Perm (rows.filter test))
    (selectionInOrder : selection.Pairwise before) : selection = sorted.filter test := by
  refine List.Perm.eq_of_pairwise ?_ selectionInOrder (inOrder.filter _)
    (selected.trans (perm.symm.filter _))
  intro first second _ _ forth back
  exact absurd back (asymmetric first second forth)

end Order

/-! ### Following the cursors -/

section Follow

variable {Cursor Item Error : Type} (request : Cursor → Except Error (List Item × Cursor))
  (finished : Cursor → Prop) [DecidablePred finished]

/-- Ask for one page after the other, for at most a number of pages. -/
def follow : Nat → Cursor → Except Error (Option (List Item))
  | 0, _ => pure none
  | pages + 1, cursor => do
    let (items, next) ← request cursor
    if finished next then pure (some items)
    else do
      let more ← follow pages next
      pure (more.map (items ++ ·))

variable {request finished} {Row : Type} {item : Row → Item} {limit : Nat}

/-- A client that follows cursors that stand for the rest of a list receives the list: a cursor is
answered with the next rows, and the answer has a cursor for the rows after them unless there were
fewer than the limit. -/
theorem exists_follow (stands : Cursor → List Row → Prop) (positive : 0 < limit)
    (answered : ∀ cursor rest, stands cursor rest →
      ∃ next, request cursor = .ok ((rest.take limit).map item, next) ∧
        (rest.length < limit → finished next) ∧
        (limit ≤ rest.length → ¬ finished next ∧ stands next (rest.drop limit)))
    (cursor : Cursor) (rest : List Row) (start : stands cursor rest) :
    ∃ pages, follow request finished pages cursor = .ok (some (rest.map item)) := by
  induction length : rest.length using Nat.strong_induction_on generalizing cursor rest with
  | _ size hypothesis =>
    obtain ⟨next, asked, short, full⟩ := answered cursor rest start
    rcases Nat.lt_or_ge rest.length limit with isShort | isFull
    · refine ⟨1, ?_⟩
      rw [follow, asked, List.take_of_length_le isShort.le]
      exact if_pos (short isShort)
    · obtain ⟨more, stands⟩ := full isFull
      have fewer : (rest.drop limit).length < size := by
        rw [List.length_drop, ← length]
        omega
      obtain ⟨pages, followed⟩ := hypothesis _ fewer next _ stands rfl
      refine ⟨pages + 1, ?_⟩
      rw [follow, asked]
      refine (if_neg more).trans ?_
      rw [followed]
      show Except.ok (some ((rest.take limit).map item ++ (rest.drop limit).map item)) = _
      rw [← List.map_append, List.take_append_drop]

end Follow

end Pages
