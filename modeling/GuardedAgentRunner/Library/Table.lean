/-
This file models a relational table: a list of rows in insertion order that carries
its own uniqueness constraints, so a table that violates one cannot be built. An
insertion that would violate one fails; an update may only touch columns no
constraint names. A lookup by a key that a constraint covers is then a partial
function of the key, and each of the two kinds of write updates that function at
one point.
-/

import Mathlib.Data.List.Pairwise
import Mathlib.Logic.Function.Basic

/-- A partial function updated at one key holds the new value there and its old values
elsewhere. -/
theorem update_some_eq_some {Key Value : Type} [DecidableEq Key] {map : Key → Option Value}
    {key other : Key} {value result : Value} :
    Function.update map key (some value) other = some result ↔
      other = key ∧ value = result ∨ other ≠ key ∧ map other = some result := by
  by_cases same : other = key
  · subst same
    simp
  · simp [same]

/-- The uniqueness constraints of a row type. Each constraint is a tuple of columns that no
two rows of a table share: a primary key or a unique index. -/
class Constrained (Row : Type) where
  Columns : Type
  [equality : DecidableEq Columns]
  unique : List (Row → Columns)

namespace Constrained

variable {Row : Type} [Constrained Row]

instance : DecidableEq (Columns Row) := equality

/-- Two rows clash when they agree on the columns of some constraint. -/
def Clash (first second : Row) : Prop := ∃ columns ∈ unique, columns first = columns second
deriving Decidable

theorem Clash.symm {first second : Row} (clash : Clash first second) : Clash second first := by
  obtain ⟨columns, member, same⟩ := clash
  exact ⟨columns, member, same.symm⟩

end Constrained

open Constrained

/-- A table: its rows, no two of which clash. -/
@[ext]
structure Table (Row : Type) [Constrained Row] where
  rows : List Row
  distinct : rows.Pairwise fun first second => ¬ Clash first second

namespace Table

variable {Row : Type} [Constrained Row] {row : Row} {test : Row → Bool}

/-- The table without rows. -/
def empty : Table Row := ⟨[], List.Pairwise.nil⟩

@[simp] theorem empty_rows : (empty : Table Row).rows = [] := rfl

theorem eq_of_clash (table : Table Row) {first second : Row} (firstIn : first ∈ table.rows)
    (secondIn : second ∈ table.rows) (clash : Clash first second) : first = second := by
  by_contra different
  have : Std.Symm fun first second : Row => ¬ Clash first second :=
    ⟨fun _ _ apart clash => apart clash.symm⟩
  exact table.distinct.forall firstIn secondIn different clash

theorem length_filter_le_one (table : Table Row) (test : Row → Bool)
    (clash : ∀ first ∈ table.rows, ∀ second ∈ table.rows, test first → test second →
      Clash first second) : (table.rows.filter test).length ≤ 1 := by
  have distinct := table.distinct.filter test
  have chosen : ∀ row ∈ table.rows.filter test, row ∈ table.rows ∧ test row := by
    intro row member
    exact List.mem_filter.mp member
  match found : table.rows.filter test with
  | [] => exact Nat.zero_le 1
  | [_] => exact Nat.le_refl 1
  | first :: second :: rest =>
    rw [found] at distinct chosen
    obtain ⟨firstIn, firstPasses⟩ := chosen first List.mem_cons_self
    obtain ⟨secondIn, secondPasses⟩ := chosen second (List.mem_cons_of_mem _ List.mem_cons_self)
    have apart := (List.pairwise_cons.mp distinct).1 second List.mem_cons_self
    exact absurd (clash first firstIn second secondIn firstPasses secondPasses) apart

/-! ### Lookup -/

/-- The first row that passes the test: `SELECT ... WHERE test LIMIT 1`. -/
def find (table : Table Row) (test : Row → Bool) : Option Row := table.rows.find? test

theorem find_mem {table : Table Row} (found : table.find test = some row) : row ∈ table.rows :=
  List.mem_of_find?_eq_some found

theorem find_test {table : Table Row} (found : table.find test = some row) : test row = true :=
  List.find?_some found

theorem find_eq_none (table : Table Row) (test : Row → Bool) :
    table.find test = none ↔ ∀ row ∈ table.rows, test row = false := by
  simp [find, List.find?_eq_none]

theorem find_eq_some {table : Table Row}
    (clash : ∀ first second, test first = true → test second = true → Clash first second) :
    table.find test = some row ↔ row ∈ table.rows ∧ test row = true := by
  constructor
  · intro found
    exact ⟨find_mem found, find_test found⟩
  · rintro ⟨member, passes⟩
    cases found : table.find test with
    | none => exact absurd passes (List.find?_eq_none.mp found row member)
    | some other =>
      rw [table.eq_of_clash (find_mem found) member (clash other row (find_test found) passes)]

variable {Key : Type} [DecidableEq Key] {next : Table Row}

/-- A key that some constraint covers: no two rows of a table share it. -/
def Exclusive (key : Row → Key) : Prop :=
  ∀ first second, key first = key second → Clash first second

/-- The row with a given key. -/
def lookup (table : Table Row) (key : Row → Key) (value : Key) : Option Row :=
  table.find fun row => key row = value

theorem lookup_eq_some {key : Row → Key} (exclusive : Exclusive key) (table : Table Row)
    (value : Key) (row : Row) :
    table.lookup key value = some row ↔ row ∈ table.rows ∧ key row = value := by
  have clash : ∀ first second : Row, decide (key first = value) = true →
      decide (key second = value) = true → Clash first second := fun first second firstKey secondKey =>
    exclusive first second ((of_decide_eq_true firstKey).trans (of_decide_eq_true secondKey).symm)
  rw [lookup, find_eq_some clash, decide_eq_true_eq]

theorem lookup_eq_none (table : Table Row) (key : Row → Key) (value : Key) :
    table.lookup key value = none ↔ ∀ row ∈ table.rows, key row ≠ value := by
  simp [lookup, find_eq_none]

/-! ### Insertion -/

/-- Append a row unless it clashes with a row already there. -/
def insert (table : Table Row) (row : Row) : Option (Table Row) :=
  if fresh : ∀ other ∈ table.rows, ¬ Clash other row then
    some ⟨table.rows ++ [row], List.pairwise_append.mpr
      ⟨table.distinct, List.pairwise_singleton _ row, fun other member _ newIn =>
        List.mem_singleton.mp newIn ▸ fresh other member⟩⟩
  else none

theorem insert_eq_some {table : Table Row} (inserted : table.insert row = some next) :
    (∀ other ∈ table.rows, ¬ Clash other row) ∧ next.rows = table.rows ++ [row] := by
  unfold insert at inserted
  split at inserted
  · rename_i fresh
    exact ⟨fresh, by rw [← Option.some.inj inserted]⟩
  · cases inserted

theorem insert_of_fresh {table : Table Row} (fresh : ∀ other ∈ table.rows, ¬ Clash other row) :
    ∃ next, table.insert row = some next := by
  rw [insert, dif_pos fresh]
  exact ⟨_, rfl⟩

theorem mem_insert {table : Table Row} (inserted : table.insert row = some next) (other : Row) :
    other ∈ next.rows ↔ other ∈ table.rows ∨ other = row := by
  rw [(insert_eq_some inserted).2, List.mem_append, List.mem_singleton]

omit [DecidableEq Key] in
theorem insert_fresh {table : Table Row} {key : Row → Key} (exclusive : Exclusive key)
    (inserted : table.insert row = some next) :
    ∀ other ∈ table.rows, key other ≠ key row := by
  intro other member same
  exact (insert_eq_some inserted).1 other member (exclusive other row same)

theorem lookup_insert {table : Table Row} {key : Row → Key} (exclusive : Exclusive key)
    (inserted : table.insert row = some next) :
    next.lookup key = Function.update (table.lookup key) (key row) (some row) := by
  funext value
  by_cases same : value = key row
  · subst same
    rw [Function.update_self]
    exact (lookup_eq_some exclusive next (key row) row).mpr
      ⟨(mem_insert inserted row).mpr (Or.inr rfl), rfl⟩
  · rw [Function.update_of_ne same]
    unfold lookup find
    rw [(insert_eq_some inserted).2, List.find?_append]
    simp [Ne.symm same]

/-! ### Update -/

/-- Rewrite the chosen rows in columns that no constraint names. -/
def update (table : Table Row) (chosen : Row → Bool) (change : Row → Row)
    (keeps : ∀ row, ∀ columns ∈ unique, columns (change row) = columns row) : Table Row where
  rows := table.rows.map fun row => if chosen row then change row else row
  distinct := by
    refine List.pairwise_map.mpr (table.distinct.imp fun {first second} apart clash => apart ?_)
    obtain ⟨columns, member, same⟩ := clash
    have kept : ∀ row : Row, columns (if chosen row then change row else row) = columns row := by
      intro row
      split
      · exact keeps row columns member
      · rfl
    exact ⟨columns, member, by rw [← kept first, ← kept second, same]⟩

variable {table : Table Row} {change : Row → Row}
  (keeps : ∀ row, ∀ columns ∈ unique, columns (change row) = columns row) {value : Key}

theorem mem_update {chosen : Row → Bool} (row : Row) :
    row ∈ (table.update chosen change keeps).rows ↔
      ∃ old ∈ table.rows, row = if chosen old then change old else old := by
  simp only [update, List.mem_map, eq_comm]

theorem lookup_update {key : Row → Key} (stable : ∀ row, key (change row) = key row) :
    (table.update (fun row => key row = value) change keeps).lookup key =
      Function.update (table.lookup key) value ((table.lookup key value).map change) := by
  funext other
  have sameKey : ∀ row, key (if key row = value then change row else row) = key row := by
    intro row
    split
    · exact stable row
    · rfl
  have rewritten : (table.update (fun row => key row = value) change keeps).lookup key other =
      (table.lookup key other).map fun row => if key row = value then change row else row := by
    simp only [update, lookup, find, List.find?_map, decide_eq_true_eq, Function.comp_def, sameKey]
  rw [rewritten]
  by_cases same : other = value
  · subst same
    rw [Function.update_self]
    cases found : table.lookup key other with
    | none => rfl
    | some row =>
      have keyed : key row = other := by simpa using find_test found
      simp [keyed]
  · rw [Function.update_of_ne same]
    cases found : table.lookup key other with
    | none => rfl
    | some row =>
      have keyed : key row = other := by simpa using find_test found
      simp [keyed, same]

/-! ### Columns -/

variable {Value : Type} {key : Row → Key} {column : Row → Value}

/-- What a column holds in the row with a given key: `SELECT column WHERE key = value`. -/
def select (table : Table Row) (key : Row → Key) (column : Row → Value) (value : Key) :
    Option Value :=
  (table.lookup key value).map column

theorem select_eq_some (exclusive : Exclusive key) (table : Table Row) (value : Key)
    (content : Value) :
    table.select key column value = some content ↔
      ∃ row ∈ table.rows, key row = value ∧ column row = content := by
  simp only [select, Option.map_eq_some_iff, lookup_eq_some exclusive, and_assoc]

theorem select_eq_none (table : Table Row) (value : Key) :
    table.select key column value = none ↔ ∀ row ∈ table.rows, key row ≠ value := by
  rw [select, Option.map_eq_none_iff, lookup_eq_none]

theorem select_insert (exclusive : Exclusive key) (inserted : table.insert row = some next) :
    next.select key column =
      Function.update (table.select key column) (key row) (some (column row)) := by
  funext value
  unfold select
  rw [lookup_insert exclusive inserted]
  by_cases same : value = key row
  · rw [same, Function.update_self, Function.update_self]
    rfl
  · rw [Function.update_of_ne same, Function.update_of_ne same]

theorem select_update {content : Value} (stable : ∀ row, key (change row) = key row)
    (written : ∀ row, column (change row) = content)
    (present : table.select key column value ≠ none) :
    (table.update (fun row => key row = value) change keeps).select key column =
      Function.update (table.select key column) value (some content) := by
  funext other
  unfold select
  rw [lookup_update keeps stable]
  by_cases same : other = value
  · rw [same, Function.update_self, Function.update_self]
    obtain ⟨row, found⟩ : ∃ row, table.lookup key value = some row :=
      Option.ne_none_iff_exists'.mp fun absent => present (by rw [select, absent]; rfl)
    rw [found, Option.map_some, Option.map_some, written]
  · rw [Function.update_of_ne same, Function.update_of_ne same]

/-! ### Rows determined by their payload -/

variable {Record : Type} {payload : Row → Record} {encode : Record → Row}

/-- Every row of the table is the row of its payload. -/
def Faithful (payload : Row → Record) (encode : Record → Row) (table : Table Row) : Prop :=
  ∀ row ∈ table.rows, row = encode (payload row)

namespace Faithful

theorem empty : Faithful payload encode (empty : Table Row) := by
  intro row member
  rw [empty_rows] at member
  cases member

theorem select_eq_some (faithful : Faithful payload encode table)
    (retract : ∀ record, payload (encode record) = record) (exclusive : Exclusive key)
    (value : Key) (record : Record) :
    table.select key payload value = some record ↔
      encode record ∈ table.rows ∧ key (encode record) = value := by
  rw [Table.select_eq_some exclusive]
  constructor
  · rintro ⟨row, member, keyed, rfl⟩
    rw [← faithful row member]
    exact ⟨member, keyed⟩
  · rintro ⟨member, keyed⟩
    exact ⟨encode record, member, keyed, retract record⟩

theorem insert {record : Record} (faithful : Faithful payload encode table)
    (retract : payload (encode record) = record)
    (inserted : table.insert (encode record) = some next) : Faithful payload encode next := by
  intro row member
  rcases (mem_insert inserted row).mp member with old | rfl
  · exact faithful row old
  · rw [retract]

theorem update {old : Record} (faithful : Faithful payload encode table) (record : Record)
    (exclusive : Exclusive key) (found : table.select key payload value = some old)
    (retract : payload (encode record) = record) (rewritten : change (encode old) = encode record) :
    Faithful payload encode (table.update (fun row => key row = value) change keeps) := by
  intro row member
  obtain ⟨original, originalIn, rfl⟩ := (mem_update keeps row).mp member
  split
  · rename_i chosen
    have keyed : key original = value := by simpa using chosen
    have stored : table.select key payload value = some (payload original) :=
      (Table.select_eq_some exclusive table value _).mpr ⟨original, originalIn, keyed, rfl⟩
    have same : original = encode old := by
      rw [faithful original originalIn, Option.mem_unique stored found]
    rw [same, rewritten, retract]
  · exact faithful original originalIn

end Faithful

end Table
