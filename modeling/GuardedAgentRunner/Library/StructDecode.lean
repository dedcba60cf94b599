/-
This file develops the decoding of JSON values into records, as a decoder does that
matches the names of members to fields without regard to case and refuses unknown
names: an exact match wins, a null leaves its field as it is, and a later match
overwrites an earlier one. Every field is determined by at most one member exactly
when no object that is decoded into a record has two members with the same folded
name. A record that is printed and decoded again is the same record.
-/

import Mathlib.Data.List.Nodup
import GuardedAgentRunner.Library.JsonText

namespace StructDecode

open JsonText

/-! ### Shapes and data -/

/-- The shape of a record: leaves of given kinds, lists, maps, nested records and pointers to
records. -/
inductive Shape (Kind : Type) where
  | leaf (kind : Kind)
  | slice (item : Shape Kind)
  | map (item : Shape Kind)
  | struct (fields : List (String × Shape Kind))
  | pointer (fields : List (String × Shape Kind))

/-- What a shape is filled with. A list, a map or a pointer can be nil. -/
inductive Data (Leaf : Type) where
  | leaf (value : Leaf)
  | nil
  | slice (items : List (Data Leaf))
  | map (entries : List (String × Data Leaf))
  | struct (values : List (Data Leaf))

/-- How leaves are read and printed. A leaf that prints nothing leaves its member out. -/
structure Leaves (Kind Leaf : Type) where
  zero : Kind → Leaf
  read : Kind → Parsed → Option Leaf
  write : Kind → Leaf → Option Printed

variable {Kind Leaf : Type} (leaves : Leaves Kind Leaf)

mutual

/-- The data a shape has before anything is decoded into it. -/
def zero : Shape Kind → Data Leaf
  | .leaf kind => .leaf (leaves.zero kind)
  | .struct fields => .struct (zeros fields)
  | _ => .nil

def zeros : List (String × Shape Kind) → List (Data Leaf)
  | [] => []
  | (_, shape) :: fields => zero shape :: zeros fields

end

/-! ### Names -/

/-- The character that stands for all characters that differ from it by case only. Only the
characters that share a class with an ASCII letter are folded. -/
def foldCharacter (character : Char) : Char :=
  if 'a' ≤ character ∧ character ≤ 'z' then Char.ofNat (character.toNat - 32)
  else if character = '\u017f' then 'S'
  else if character = '\u212a' then 'K'
  else character

def foldName (name : String) : List Char := name.toList.map foldCharacter

/-- The field a member name stands for: the one with that name, or else the first one with that
folded name. -/
def fieldIndex (fields : List (String × Shape Kind)) (name : String) : Option Nat :=
  (fields.findIdx? (·.1 = name)).or (fields.findIdx? (foldName ·.1 = foldName name))

def findField (fields : List (String × Shape Kind)) (name : String) :
    Option (Nat × Shape Kind) := do
  let index ← fieldIndex fields name
  let field ← fields[index]?
  some (index, field.2)

/-! ### Decoding -/

/-- The fields a pointer is decoded into: those it points to, or new ones. -/
def target (fields : List (String × Shape Kind)) : Data Leaf → List (Data Leaf)
  | .struct values => values
  | _ => zeros leaves fields

mutual

/-- Decode a value into data of a shape. A list or a map is replaced as a whole. -/
def decode : Parsed → Shape Kind → Data Leaf → Option (Data Leaf)
  | .null, .leaf _, current => some current
  | .null, .struct _, current => some current
  | .null, _, _ => some .nil
  | .array items, .slice item, _ => (decodeItems items item).map .slice
  | .object members, .map item, _ => (decodeEntries members item).map .map
  | .object members, .struct fields, current =>
    (decodeFields members fields (target leaves fields current)).map .struct
  | .object members, .pointer fields, current =>
    (decodeFields members fields (target leaves fields current)).map .struct
  | value, .leaf kind, _ => (leaves.read kind value).map .leaf
  | _, _, _ => none

def decodeItems : List Parsed → Shape Kind → Option (List (Data Leaf))
  | [], _ => some []
  | item :: items, shape => do
    let data ← decode item shape (zero leaves shape)
    let others ← decodeItems items shape
    some (data :: others)

/-- Decode the entries of a map. A later entry replaces an earlier one with the same name. -/
def decodeEntries : List (List Piece × Parsed) → Shape Kind → Option (List (String × Data Leaf))
  | [], _ => some []
  | (name, value) :: members, shape => do
    let data ← decode value shape (zero leaves shape)
    let others ← decodeEntries members shape
    if others.any (·.1 = text name) then some others else some ((text name, data) :: others)

/-- Decode members into the fields of a record. -/
def decodeFields : List (List Piece × Parsed) → List (String × Shape Kind) → List (Data Leaf) →
    Option (List (Data Leaf))
  | [], _, values => some values
  | (name, value) :: members, fields, values =>
    match findField fields (text name) with
    | none => none
    | some (index, shape) => do
      let data ← decode value shape (values.getD index .nil)
      decodeFields members fields (values.set index data)

end

/-! ### Fields with one source -/

mutual

/-- No object of the value has two members of the same name. -/
def UniqueNames : Parsed → Prop
  | .array items => UniqueItems items
  | .object members => (members.map (text ·.1)).Nodup ∧ UniqueMembers members
  | _ => True

def UniqueItems : List Parsed → Prop
  | [] => True
  | item :: items => UniqueNames item ∧ UniqueItems items

def UniqueMembers : List (List Piece × Parsed) → Prop
  | [] => True
  | (_, value) :: members => UniqueNames value ∧ UniqueMembers members

end

mutual

/-- No object that is decoded into a record has two members with the same folded name. -/
def Distinct : Parsed → Shape Kind → Prop
  | .array items, .slice item => DistinctItems items item
  | .object members, .map item => DistinctEntries members item
  | .object members, .struct fields =>
    (members.map fun member => foldName (text member.1)).Nodup ∧ DistinctFields members fields
  | .object members, .pointer fields =>
    (members.map fun member => foldName (text member.1)).Nodup ∧ DistinctFields members fields
  | _, _ => True

def DistinctItems : List Parsed → Shape Kind → Prop
  | [], _ => True
  | item :: items, shape => Distinct item shape ∧ DistinctItems items shape

def DistinctEntries : List (List Piece × Parsed) → Shape Kind → Prop
  | [], _ => True
  | (_, value) :: members, shape => Distinct value shape ∧ DistinctEntries members shape

def DistinctFields : List (List Piece × Parsed) → List (String × Shape Kind) → Prop
  | [], _ => True
  | (name, value) :: members, fields =>
    (∀ index shape, findField fields (text name) = some (index, shape) → Distinct value shape) ∧
      DistinctFields members fields

end

/-- The members that stand for a field. -/
def setters (fields : List (String × Shape Kind)) (members : List (List Piece × Parsed))
    (index : Nat) : List (List Piece × Parsed) :=
  members.filter fun member => fieldIndex fields (text member.1) = some index

/-- No field has two members that stand for it, and a field without one is zero. -/
def SetOnce (fields : List (String × Shape Kind)) (members : List (List Piece × Parsed))
    (values : List (Data Leaf)) : Prop :=
  (∀ index, (setters fields members index).length ≤ 1) ∧
    ∀ index name shape, fields[index]? = some (name, shape) →
      setters fields members index = [] → values[index]? = some (zero leaves shape)

mutual

/-- Every field of the data, at every level, is determined by at most one member of the value:
it is what that member alone is decoded into, or zero if there is none. -/
def Determined : Parsed → Shape Kind → Data Leaf → Prop
  | .array items, .slice item, .slice values => DeterminedItems items item values
  | .object members, .map item, .map entries =>
    (members.map (text ·.1)).Nodup ∧ DeterminedEntries members item entries
  | .object members, .struct fields, .struct values =>
    SetOnce leaves fields members values ∧ DeterminedFields members fields values
  | .object members, .pointer fields, .struct values =>
    SetOnce leaves fields members values ∧ DeterminedFields members fields values
  | _, _, _ => True

def DeterminedItems : List Parsed → Shape Kind → List (Data Leaf) → Prop
  | item :: items, shape, value :: values =>
    decode leaves item shape (zero leaves shape) = some value ∧ Determined item shape value ∧
      DeterminedItems items shape values
  | [], _, [] => True
  | _, _, _ => False

def DeterminedEntries : List (List Piece × Parsed) → Shape Kind → List (String × Data Leaf) → Prop
  | [], _, _ => True
  | (name, value) :: members, shape, entries =>
    (∃ data, (text name, data) ∈ entries ∧
      decode leaves value shape (zero leaves shape) = some data ∧ Determined value shape data) ∧
      DeterminedEntries members shape entries

def DeterminedFields : List (List Piece × Parsed) → List (String × Shape Kind) →
    List (Data Leaf) → Prop
  | [], _, _ => True
  | (name, value) :: members, fields, values =>
    (∀ index shape, findField fields (text name) = some (index, shape) →
      ∃ data, values[index]? = some data ∧
        decode leaves value shape (zero leaves shape) = some data ∧
        Determined value shape data) ∧
      DeterminedFields members fields values

end

mutual

/-- No record of the shape has two fields with the same folded name. -/
def Clear : Shape Kind → Prop
  | .leaf _ => True
  | .slice item => Clear item
  | .map item => Clear item
  | .struct fields => (fields.map (foldName ·.1)).Nodup ∧ ClearFields fields
  | .pointer fields => (fields.map (foldName ·.1)).Nodup ∧ ClearFields fields

def ClearFields : List (String × Shape Kind) → Prop
  | [] => True
  | (_, shape) :: fields => Clear shape ∧ ClearFields fields

end

mutual

def decideClear : (shape : Shape Kind) → Decidable (Clear shape)
  | .leaf _ => isTrue trivial
  | .slice item => decideClear item
  | .map item => decideClear item
  | .struct fields => @instDecidableAnd _ _ _ (decideClearFields fields)
  | .pointer fields => @instDecidableAnd _ _ _ (decideClearFields fields)

def decideClearFields : (fields : List (String × Shape Kind)) → Decidable (ClearFields fields)
  | [] => isTrue trivial
  | (_, shape) :: fields => @instDecidableAnd _ _ (decideClear shape) (decideClearFields fields)

end

instance (shape : Shape Kind) : Decidable (Clear shape) := decideClear shape

/-! ### The predicates, member by member -/

theorem uniqueItems_iff (items : List Parsed) :
    UniqueItems items ↔ ∀ item ∈ items, UniqueNames item := by
  induction items with
  | nil => simp [UniqueItems]
  | cons item items hypothesis =>
    rw [UniqueItems, hypothesis, List.forall_mem_cons]

theorem uniqueMembers_iff (members : List (List Piece × Parsed)) :
    UniqueMembers members ↔ ∀ member ∈ members, UniqueNames member.2 := by
  induction members with
  | nil => simp [UniqueMembers]
  | cons member members hypothesis =>
    rw [UniqueMembers, hypothesis, List.forall_mem_cons]

theorem distinctEntries_iff (members : List (List Piece × Parsed)) (shape : Shape Kind) :
    DistinctEntries members shape ↔ ∀ member ∈ members, Distinct member.2 shape := by
  induction members with
  | nil => simp [DistinctEntries]
  | cons member members hypothesis =>
    rw [DistinctEntries, hypothesis, List.forall_mem_cons]

theorem distinctFields_iff (members : List (List Piece × Parsed))
    (fields : List (String × Shape Kind)) :
    DistinctFields members fields ↔ ∀ member ∈ members, ∀ index shape,
      findField fields (text member.1) = some (index, shape) → Distinct member.2 shape := by
  induction members with
  | nil => simp [DistinctFields]
  | cons member members hypothesis =>
    rw [DistinctFields, hypothesis, List.forall_mem_cons]

variable {leaves}

theorem determinedEntries_iff (members : List (List Piece × Parsed)) (shape : Shape Kind)
    (entries : List (String × Data Leaf)) :
    DeterminedEntries leaves members shape entries ↔ ∀ member ∈ members,
      ∃ data, (text member.1, data) ∈ entries ∧
        decode leaves member.2 shape (zero leaves shape) = some data ∧
        Determined leaves member.2 shape data := by
  induction members with
  | nil => simp [DeterminedEntries]
  | cons member members hypothesis =>
    rw [DeterminedEntries, hypothesis, List.forall_mem_cons]

theorem determinedFields_iff (members : List (List Piece × Parsed))
    (fields : List (String × Shape Kind)) (values : List (Data Leaf)) :
    DeterminedFields leaves members fields values ↔ ∀ member ∈ members, ∀ index shape,
      findField fields (text member.1) = some (index, shape) →
        ∃ data, values[index]? = some data ∧
          decode leaves member.2 shape (zero leaves shape) = some data ∧
          Determined leaves member.2 shape data := by
  induction members with
  | nil => simp [DeterminedFields]
  | cons member members hypothesis =>
    rw [DeterminedFields, hypothesis, List.forall_mem_cons]

theorem clearFields_iff (fields : List (String × Shape Kind)) :
    ClearFields fields ↔ ∀ field ∈ fields, Clear field.2 := by
  induction fields with
  | nil => simp [ClearFields]
  | cons field fields hypothesis =>
    rw [ClearFields, hypothesis, List.forall_mem_cons]

/-! ### Finding a field -/

variable {fields : List (String × Shape Kind)} {name : String} {index : Nat}

theorem foldName_of_fieldIndex (found : fieldIndex fields name = some index) :
    ∃ field, fields[index]? = some field ∧ foldName field.1 = foldName name := by
  unfold fieldIndex at found
  rcases Option.or_eq_some_iff.mp found with exact | ⟨-, folded⟩
  · obtain ⟨bound, same, -⟩ := List.findIdx?_eq_some_iff_getElem.mp exact
    refine ⟨fields[index], List.getElem?_eq_getElem bound, ?_⟩
    rw [of_decide_eq_true same]
  · obtain ⟨bound, same, -⟩ := List.findIdx?_eq_some_iff_getElem.mp folded
    exact ⟨fields[index], List.getElem?_eq_getElem bound, of_decide_eq_true same⟩

variable {shape : Shape Kind} {other : String}

theorem findField_eq_some_iff :
    findField fields name = some (index, shape) ↔
      fieldIndex fields name = some index ∧ ∃ field, fields[index]? = some field ∧
        field.2 = shape := by
  unfold findField
  constructor
  · intro found
    obtain ⟨other, isIndex, found⟩ := Option.bind_eq_some_iff.mp found
    obtain ⟨field, isField, same⟩ := Option.bind_eq_some_iff.mp found
    obtain ⟨rfl, rfl⟩ := Prod.mk.inj (Option.some.inj same)
    exact ⟨isIndex, field, isField, rfl⟩
  · rintro ⟨isIndex, field, isField, rfl⟩
    rw [isIndex]
    show (do let field ← fields[index]?; some (index, field.2)) = _
    rw [isField]
    rfl

theorem foldName_eq_of_fieldIndex (found : fieldIndex fields name = some index)
    (also : fieldIndex fields other = some index) : foldName name = foldName other := by
  obtain ⟨field, isField, folded⟩ := foldName_of_fieldIndex found
  obtain ⟨same, isSame, alsoFolded⟩ := foldName_of_fieldIndex also
  rw [isField] at isSame
  rw [← folded, ← alsoFolded, Option.some.inj isSame]

theorem fieldIndex_inj {second : Nat} (clear : (fields.map (foldName ·.1)).Nodup)
    (found : fieldIndex fields name = some index) (also : fieldIndex fields other = some second)
    (folded : foldName name = foldName other) :
    index = second := by
  obtain ⟨field, isField, sameFold⟩ := foldName_of_fieldIndex found
  obtain ⟨otherField, isOther, otherFold⟩ := foldName_of_fieldIndex also
  have equal : (fields.map (foldName ·.1))[index]? = (fields.map (foldName ·.1))[second]? := by
    rw [List.getElem?_map, List.getElem?_map, isField, isOther]
    exact congrArg some ((sameFold.trans folded).trans otherFold.symm)
  refine (List.getElem?_inj ?_ clear).mp equal
  rw [List.length_map]
  exact (List.getElem?_eq_some_iff.mp isField).1

theorem getElem?_zeros (fields : List (String × Shape Kind)) (index : Nat) :
    (zeros leaves fields)[index]? = fields[index]?.map (zero leaves ·.2) := by
  induction fields generalizing index with
  | nil => rfl
  | cons field fields hypothesis =>
    cases index with
    | zero => rfl
    | succ index => exact hypothesis index

/-! ### What decoding does to the fields -/

variable {member : List Piece × Parsed} {members : List (List Piece × Parsed)}
  {values result : List (Data Leaf)}

theorem decodeFields_cons_eq_some
    (decoded : decodeFields leaves (member :: members) fields values = some result) :
    ∃ index shape data, findField fields (text member.1) = some (index, shape) ∧
      decode leaves member.2 shape (values.getD index .nil) = some data ∧
      decodeFields leaves members fields (values.set index data) = some result := by
  obtain ⟨name, value⟩ := member
  rw [decodeFields] at decoded
  cases found : findField fields (text name) with
  | none =>
    rw [found] at decoded
    exact absurd decoded (Option.some_ne_none _).symm
  | some pair =>
    obtain ⟨index, shape⟩ := pair
    rw [found] at decoded
    obtain ⟨data, isData, rest⟩ := Option.bind_eq_some_iff.mp decoded
    exact ⟨index, shape, data, rfl, isData, rest⟩

/-- Members that stand for leaves and fit them are decoded, whatever the fields held before. -/
theorem exists_decodeFields (each : ∀ member ∈ members, ∃ index kind,
      findField fields (text member.1) = some (index, .leaf kind) ∧
        ∀ current, (decode leaves member.2 (.leaf kind) current).isSome = true)
    (values : List (Data Leaf)) :
    ∃ result, decodeFields leaves members fields values = some result := by
  induction members generalizing values with
  | nil => exact ⟨values, rfl⟩
  | cons first members hypothesis =>
    obtain ⟨name, value⟩ := first
    obtain ⟨index, kind, found, fits⟩ := each _ List.mem_cons_self
    obtain ⟨data, isData⟩ := Option.isSome_iff_exists.mp (fits (values.getD index .nil))
    obtain ⟨result, isResult⟩ := hypothesis
      (fun other listed => each other (List.mem_cons_of_mem _ listed)) (values.set index data)
    refine ⟨result, ?_⟩
    rw [decodeFields, found]
    exact Option.bind_eq_some_iff.mpr ⟨data, isData, isResult⟩

section

variable (decoded : decodeFields leaves members fields values = some result)

include decoded

theorem length_of_decodeFields :
    result.length = values.length := by
  induction members generalizing values with
  | nil => rw [Option.some.inj decoded]
  | cons first members hypothesis =>
    obtain ⟨index, shape, data, -, -, rest⟩ := decodeFields_cons_eq_some decoded
    rw [hypothesis rest, List.length_set]

theorem findField_of_decodeFields
    (listed : member ∈ members) :
    ∃ index shape, findField fields (text member.1) = some (index, shape) ∧
      ∃ current, (decode leaves member.2 shape current).isSome = true := by
  induction members generalizing values with
  | nil => exact absurd listed List.not_mem_nil
  | cons first members hypothesis =>
    obtain ⟨index, shape, data, found, isData, rest⟩ := decodeFields_cons_eq_some decoded
    rcases List.mem_cons.mp listed with rfl | listed
    · exact ⟨index, shape, found, values.getD index .nil, by rw [isData]; rfl⟩
    · exact hypothesis rest listed

theorem getElem?_of_no_setter
    (none : ∀ member ∈ members, fieldIndex fields (text member.1) ≠ some index) :
    result[index]? = values[index]? := by
  induction members generalizing values with
  | nil =>
    rw [decodeFields] at decoded
    rw [Option.some.inj decoded]
  | cons first members hypothesis =>
    obtain ⟨other, shape, data, found, -, rest⟩ := decodeFields_cons_eq_some decoded
    have different : other ≠ index := by
      rintro rfl
      exact none first List.mem_cons_self (findField_eq_some_iff.mp found).1
    rw [hypothesis rest fun member listed => none member (List.mem_cons_of_mem _ listed),
      List.getElem?_set_ne different]

/-- If no two members stand for one field, a member's field is what the member is decoded into. -/
theorem getElem?_of_setter
    (once : (members.map fun member => fieldIndex fields (text member.1)).Nodup)
    (listed : member ∈ members) (found : findField fields (text member.1) = some (index, shape))
    (bound : index < values.length) :
    ∃ data, result[index]? = some data ∧
      decode leaves member.2 shape (values.getD index .nil) = some data := by
  induction members generalizing values with
  | nil => exact absurd listed List.not_mem_nil
  | cons first members hypothesis =>
    obtain ⟨other, otherShape, data, isFound, isData, rest⟩ := decodeFields_cons_eq_some decoded
    rw [List.map_cons, List.nodup_cons] at once
    rcases List.mem_cons.mp listed with rfl | listed
    · rw [found] at isFound
      obtain ⟨rfl, rfl⟩ := Prod.mk.inj (Option.some.inj isFound)
      refine ⟨data, ?_, isData⟩
      have others : ∀ other ∈ members, fieldIndex fields (text other.1) ≠ some index := by
        intro other otherListed same
        refine once.1 (List.mem_map.mpr ⟨other, otherListed, ?_⟩)
        rw [same, (findField_eq_some_iff.mp found).1]
      rw [getElem?_of_no_setter rest others, List.getElem?_set_self bound]
    · have different : other ≠ index := by
        rintro rfl
        refine once.1 (List.mem_map.mpr ⟨member, listed, ?_⟩)
        rw [(findField_eq_some_iff.mp found).1, (findField_eq_some_iff.mp isFound).1]
      have kept : (values.set other data).getD index .nil = values.getD index .nil := by
        rw [List.getD_eq_getElem?_getD, List.getD_eq_getElem?_getD, List.getElem?_set_ne different]
      obtain ⟨own, isOwn, isDecoded⟩ := hypothesis rest once.2 listed
        (by rw [List.length_set]; exact bound)
      exact ⟨own, isOwn, by rw [← kept]; exact isDecoded⟩

end

theorem mem_of_decodeEntries {entries : List (String × Data Leaf)}
    (decoded : decodeEntries leaves members shape = some entries)
    (unique : (members.map (text ·.1)).Nodup) :
    (∀ member ∈ members, ∃ data, (text member.1, data) ∈ entries ∧
      decode leaves member.2 shape (zero leaves shape) = some data) ∧
      ∀ entry ∈ entries, entry.1 ∈ members.map (text ·.1) := by
  induction members generalizing entries with
  | nil =>
    rw [decodeEntries] at decoded
    obtain rfl := Option.some.inj decoded
    exact ⟨fun _ listed => absurd listed List.not_mem_nil,
      fun _ listed => absurd listed List.not_mem_nil⟩
  | cons first members hypothesis =>
    obtain ⟨name, value⟩ := first
    rw [decodeEntries] at decoded
    obtain ⟨data, isData, decoded⟩ := Option.bind_eq_some_iff.mp decoded
    obtain ⟨others, isOthers, decoded⟩ := Option.bind_eq_some_iff.mp decoded
    rw [List.map_cons, List.nodup_cons] at unique
    obtain ⟨each, names⟩ := hypothesis isOthers unique.2
    have new : ¬ others.any (·.1 = text name) = true := by
      intro again
      obtain ⟨entry, listed, same⟩ := List.any_eq_true.mp again
      refine unique.1 ?_
      rw [← of_decide_eq_true same]
      exact names entry listed
    rw [if_neg new] at decoded
    obtain rfl := Option.some.inj decoded
    refine ⟨List.forall_mem_cons.mpr ⟨⟨data, List.mem_cons_self, isData⟩, ?_⟩,
      List.forall_mem_cons.mpr ⟨List.mem_cons_self, ?_⟩⟩
    · intro member listed
      obtain ⟨own, isOwn, isDecoded⟩ := each member listed
      exact ⟨own, List.mem_cons_of_mem _ isOwn, isDecoded⟩
    · exact fun entry listed => List.mem_cons_of_mem _ (names entry listed)

/-! ### Determined exactly when distinct -/

theorem setters_le_one_iff
    (resolved : ∀ member ∈ members, ∃ index, fieldIndex fields (text member.1) = some index) :
    (∀ index, (setters fields members index).length ≤ 1) ↔
      (members.map fun member => fieldIndex fields (text member.1)).Nodup := by
  rw [List.nodup_iff_count_le_one]
  have counted : ∀ key, (members.map fun member => fieldIndex fields (text member.1)).count key =
      (members.filter fun member => fieldIndex fields (text member.1) = key).length := by
    intro key
    rw [List.count_eq_countP, List.countP_map, List.countP_eq_length_filter]
    refine congrArg List.length (List.filter_congr fun member _ => ?_)
    exact beq_eq_decide _ key
  constructor
  · intro once key
    rw [counted]
    cases key with
    | none =>
      have empty : members.filter (fun member => fieldIndex fields (text member.1) = none) = [] := by
        refine List.filter_eq_nil_iff.mpr fun member listed => ?_
        obtain ⟨index, found⟩ := resolved member listed
        rw [found]
        simp
      rw [empty]
      exact Nat.zero_le _
    | some index => exact once index
  · intro once index
    exact (counted (some index)).symm.trans_le (once (some index))

theorem nodup_fieldIndex_iff (clear : (fields.map (foldName ·.1)).Nodup)
    (resolved : ∀ member ∈ members, ∃ index, fieldIndex fields (text member.1) = some index) :
    (members.map fun member => fieldIndex fields (text member.1)).Nodup ↔
      (members.map fun member => foldName (text member.1)).Nodup := by
  unfold List.Nodup
  rw [List.pairwise_map, List.pairwise_map]
  refine List.Pairwise.iff_of_mem fun {first second} isFirst isSecond => not_congr ?_
  obtain ⟨index, found⟩ := resolved first isFirst
  obtain ⟨other, also⟩ := resolved second isSecond
  constructor
  · intro same
    exact foldName_eq_of_fieldIndex found (same ▸ found)
  · intro folded
    rw [found, also, fieldIndex_inj clear found also folded]

/-- The equivalence for one value, at every shape it can be decoded into. -/
def Settles (leaves : Leaves Kind Leaf) (value : Parsed) : Prop :=
  ∀ shape data, Clear shape → UniqueNames value →
    decode leaves value shape (zero leaves shape) = some data →
    (Determined leaves value shape data ↔ Distinct value shape)

theorem record_determined_iff (each : ∀ member ∈ members, Settles leaves member.2)
    (clear : (fields.map (foldName ·.1)).Nodup) (clearFields : ∀ field ∈ fields, Clear field.2)
    (unique : ∀ member ∈ members, UniqueNames member.2)
    (decoded : decodeFields leaves members fields (zeros leaves fields) = some values) :
    SetOnce leaves fields members values ∧ DeterminedFields leaves members fields values ↔
      (members.map fun member => foldName (text member.1)).Nodup ∧
        DistinctFields members fields := by
  have resolved : ∀ member ∈ members, ∃ index, fieldIndex fields (text member.1) = some index := by
    intro member listed
    obtain ⟨index, shape, found, -⟩ := findField_of_decodeFields decoded listed
    exact ⟨index, (findField_eq_some_iff.mp found).1⟩
  have clearShape : ∀ {name index shape}, findField fields name = some (index, shape) →
      Clear shape := by
    intro name index shape found
    obtain ⟨-, field, isField, rfl⟩ := findField_eq_some_iff.mp found
    exact clearFields field (List.mem_of_getElem? isField)
  rw [determinedFields_iff, distinctFields_iff]
  constructor
  · rintro ⟨⟨once, -⟩, determined⟩
    refine ⟨(nodup_fieldIndex_iff clear resolved).mp ((setters_le_one_iff resolved).mp once), ?_⟩
    intro member listed index shape found
    obtain ⟨data, -, isData, isDetermined⟩ := determined member listed index shape found
    exact (each member listed shape data (clearShape found) (unique member listed) isData).mp
      isDetermined
  · rintro ⟨folded, distinct⟩
    have once := (nodup_fieldIndex_iff clear resolved).mpr folded
    refine ⟨⟨(setters_le_one_iff resolved).mpr once, ?_⟩, ?_⟩
    · intro index name shape isField empty
      have none : ∀ member ∈ members, fieldIndex fields (text member.1) ≠ some index := by
        intro member listed same
        have setter : member ∈ setters fields members index :=
          List.mem_filter.mpr ⟨listed, decide_eq_true same⟩
        rw [empty] at setter
        exact absurd setter List.not_mem_nil
      rw [getElem?_of_no_setter decoded none, getElem?_zeros, isField]
      rfl
    · intro member listed index shape found
      obtain ⟨-, field, isField, sameShape⟩ := findField_eq_some_iff.mp found
      have isZero : (zeros leaves fields)[index]? = some (zero leaves shape) := by
        rw [getElem?_zeros, isField, ← sameShape]
        rfl
      obtain ⟨data, isData, isDecoded⟩ := getElem?_of_setter decoded once listed found
        (List.getElem?_eq_some_iff.mp isZero).1
      rw [List.getD_eq_getElem?_getD, isZero, Option.getD_some] at isDecoded
      exact ⟨data, isData, isDecoded, (each member listed shape data (clearShape found)
        (unique member listed) isDecoded).mpr (distinct member listed index shape found)⟩

theorem items_determined_iff {items : List Parsed} (each : ∀ item ∈ items, Settles leaves item)
    (clear : Clear shape) (unique : UniqueItems items)
    (decoded : decodeItems leaves items shape = some values) :
    DeterminedItems leaves items shape values ↔ DistinctItems items shape := by
  induction items generalizing values with
  | nil =>
    rw [decodeItems] at decoded
    rw [← Option.some.inj decoded, DeterminedItems, DistinctItems]
  | cons item items hypothesis =>
    rw [decodeItems] at decoded
    obtain ⟨data, isData, decoded⟩ := Option.bind_eq_some_iff.mp decoded
    obtain ⟨others, isOthers, decoded⟩ := Option.bind_eq_some_iff.mp decoded
    have first := each item List.mem_cons_self shape data clear unique.1 isData
    have rest := hypothesis (fun other listed => each other (List.mem_cons_of_mem _ listed))
      unique.2 isOthers
    rw [← Option.some.inj decoded, DeterminedItems, DistinctItems, first, rest]
    exact and_iff_right isData

/-- A decoded value determines every field by at most one member exactly if no object decoded
into a record has two members with the same folded name. -/
theorem determined_iff_distinct (value : Parsed) : Settles leaves value := by
  induction value using Value.induction with
  | null =>
    intro shape data _ _ _
    cases shape <;> cases data <;> exact Iff.rfl
  | bool =>
    intro shape data _ _ _
    cases shape <;> cases data <;> exact Iff.rfl
  | number =>
    intro shape data _ _ _
    cases shape <;> cases data <;> exact Iff.rfl
  | string =>
    intro shape data _ _ _
    cases shape <;> cases data <;> exact Iff.rfl
  | array items each =>
    intro shape data clear unique decoded
    cases shape with
    | slice item =>
      obtain ⟨values, isValues, rfl⟩ := Option.map_eq_some_iff.mp decoded
      exact items_determined_iff each clear unique isValues
    | leaf kind => cases data <;> exact Iff.rfl
    | map item => cases data <;> exact Iff.rfl
    | struct fields => cases data <;> exact Iff.rfl
    | pointer fields => cases data <;> exact Iff.rfl
  | object members each =>
    intro shape data clear unique decoded
    have uniqueMembers := (uniqueMembers_iff members).mp unique.2
    cases shape with
    | leaf kind => cases data <;> exact Iff.rfl
    | slice item => cases data <;> exact Iff.rfl
    | map item =>
      obtain ⟨entries, isEntries, rfl⟩ := Option.map_eq_some_iff.mp decoded
      obtain ⟨decodedEach, -⟩ := mem_of_decodeEntries isEntries unique.1
      rw [Determined, Distinct, determinedEntries_iff, distinctEntries_iff]
      constructor
      · rintro ⟨-, determined⟩ member listed
        obtain ⟨own, -, isOwn, isDetermined⟩ := determined member listed
        exact (each member listed item own clear (uniqueMembers member listed) isOwn).mp isDetermined
      · intro distinct
        refine ⟨unique.1, fun member listed => ?_⟩
        obtain ⟨own, entry, isOwn⟩ := decodedEach member listed
        exact ⟨own, entry, isOwn, (each member listed item own clear (uniqueMembers member listed)
          isOwn).mpr (distinct member listed)⟩
    | struct fields =>
      obtain ⟨values, isValues, rfl⟩ := Option.map_eq_some_iff.mp decoded
      exact record_determined_iff each clear.1 ((clearFields_iff fields).mp clear.2) uniqueMembers
        isValues
    | pointer fields =>
      obtain ⟨values, isValues, rfl⟩ := Option.map_eq_some_iff.mp decoded
      exact record_determined_iff each clear.1 ((clearFields_iff fields).mp clear.2) uniqueMembers
        isValues

/-! ### Printing -/

variable (leaves)

mutual

/-- The printed form of data, unless its member is left out. The records that are printed hold no
maps and no pointers. -/
def encode : Data Leaf → Shape Kind → Option Printed
  | .leaf value, .leaf kind => leaves.write kind value
  | .nil, .slice _ => some .null
  | .slice items, .slice item => some (.array (encodeItems items item))
  | .struct values, .struct fields => some (.object (encodeFields values fields))
  | _, _ => none

def encodeItems : List (Data Leaf) → Shape Kind → List Printed
  | [], _ => []
  | item :: items, shape => (encode item shape).getD .null :: encodeItems items shape

def encodeFields : List (Data Leaf) → List (String × Shape Kind) → List (String × Printed)
  | value :: values, (name, shape) :: fields =>
    match encode value shape with
    | some printed => (name, printed) :: encodeFields values fields
    | none => encodeFields values fields
  | _, _ => []

end

/-- A leaf is read back from its printed form; one that is left out is zero. -/
def Leaves.Kept (style : Style) (kind : Kind) (value : Leaf) : Prop :=
  match leaves.write kind value with
  | none => value = leaves.zero kind
  | some printed =>
    printed.quoted style ≠ .null ∧ leaves.read kind (printed.quoted style) = some value

mutual

/-- The data fits the shape and all its leaves are read back. -/
def Kept (style : Style) : Data Leaf → Shape Kind → Prop
  | .leaf value, .leaf kind => leaves.Kept style kind value
  | .nil, .slice _ => True
  | .slice items, .slice item => KeptItems style items item
  | .struct values, .struct fields => (fields.map (·.1)).Nodup ∧ KeptFields style values fields
  | _, _ => False

def KeptItems (style : Style) : List (Data Leaf) → Shape Kind → Prop
  | [], _ => True
  | item :: items, shape =>
    (encode leaves item shape).isSome = true ∧ Kept style item shape ∧ KeptItems style items shape

def KeptFields (style : Style) : List (Data Leaf) → List (String × Shape Kind) → Prop
  | [], [] => True
  | value :: values, (_, shape) :: fields => Kept style value shape ∧ KeptFields style values fields
  | _, _ => False

end

/-! ### Decoding members in the order of the fields -/

/-- Members that name fields in order, with what each of them is decoded into. A field without a
member is zero. -/
inductive Aligned : List (List Piece × Parsed) → List (String × Shape Kind) → List (Data Leaf) →
    Prop where
  | nil : Aligned [] [] []
  | present {name : List Piece} {value : Parsed} {shape : Shape Kind} {data : Data Leaf}
      {members : List (List Piece × Parsed)} {fields : List (String × Shape Kind)}
      {values : List (Data Leaf)}
      (decoded : decode leaves value shape (zero leaves shape) = some data)
      (rest : Aligned members fields values) :
      Aligned ((name, value) :: members) ((text name, shape) :: fields) (data :: values)
  | absent {name : String} {shape : Shape Kind} {members : List (List Piece × Parsed)}
      {fields : List (String × Shape Kind)} {values : List (Data Leaf)}
      (rest : Aligned members fields values) :
      Aligned members ((name, shape) :: fields) (zero leaves shape :: values)

variable {leaves} {done todo : List (String × Shape Kind)}

theorem findField_append (names : ((done ++ (name, shape) :: todo).map (·.1)).Nodup) :
    findField (done ++ (name, shape) :: todo) name = some (done.length, shape) := by
  have absent : ∀ field ∈ done, field.1 ≠ name := by
    intro field listed same
    rw [List.map_append, List.nodup_append] at names
    exact names.2.2 field.1 (List.mem_map_of_mem listed) name (by simp) same
  have exact : (done ++ (name, shape) :: todo).findIdx? (·.1 = name) = some done.length := by
    have none : done.findIdx? (·.1 = name) = none :=
      List.findIdx?_eq_none_iff.mpr fun field listed => decide_eq_false (absent field listed)
    rw [List.findIdx?_append, none, List.findIdx?_cons, decide_eq_true rfl, if_pos rfl]
    exact congrArg some (Nat.zero_add _)
  refine findField_eq_some_iff.mpr ⟨?_, (name, shape), ?_, rfl⟩
  · rw [fieldIndex, exact]
    rfl
  · rw [List.getElem?_append_right (Nat.le_refl _), Nat.sub_self]
    rfl

theorem decodeFields_append {pending : List (Data Leaf)}
    (aligned : Aligned leaves members todo pending) {finished : List (Data Leaf)}
    (length : finished.length = done.length) (names : ((done ++ todo).map (·.1)).Nodup) :
    decodeFields leaves members (done ++ todo) (finished ++ zeros leaves todo) =
      some (finished ++ pending) := by
  induction aligned generalizing done finished with
  | nil => rfl
  | @present name value shape data members fields values decoded rest hypothesis =>
    have split : done ++ (text name, shape) :: fields = (done ++ [(text name, shape)]) ++ fields := by
      rw [List.append_assoc, List.singleton_append]
    have later := @hypothesis (done ++ [(text name, shape)]) (finished ++ [data])
      (by rw [List.length_append, List.length_append, length]; rfl) (by rw [← split]; exact names)
    rw [← split, List.append_assoc, List.append_assoc, List.singleton_append,
      List.singleton_append] at later
    have current : (finished ++ zeros leaves ((text name, shape) :: fields)).getD done.length .nil =
        zero leaves shape := by
      rw [List.getD_eq_getElem?_getD, ← length, List.getElem?_append_right (Nat.le_refl _),
        Nat.sub_self]
      rfl
    have updated : (finished ++ zeros leaves ((text name, shape) :: fields)).set done.length data =
        finished ++ data :: zeros leaves fields := by
      rw [← length, List.set_append_right _ _ (Nat.le_refl _), Nat.sub_self]
      rfl
    rw [decodeFields, findField_append names]
    show (do let data ← decode leaves value shape _
             decodeFields leaves _ _ _) = _
    rw [current, decoded]
    show decodeFields leaves _ _ ((finished ++ zeros leaves ((text name, shape) :: fields)).set
      done.length data) = _
    rw [updated, later]
  | @absent name shape members fields values rest hypothesis =>
    have split : done ++ (name, shape) :: fields = (done ++ [(name, shape)]) ++ fields := by
      rw [List.append_assoc, List.singleton_append]
    have later := @hypothesis (done ++ [(name, shape)]) (finished ++ [zero leaves shape])
      (by rw [List.length_append, List.length_append, length]; rfl) (by rw [← split]; exact names)
    rw [← split, List.append_assoc, List.append_assoc, List.singleton_append,
      List.singleton_append] at later
    exact later

theorem decode_of_aligned (aligned : Aligned leaves members fields values)
    (names : (fields.map (·.1)).Nodup) :
    decode leaves (.object members) (.struct fields) (zero leaves (.struct fields)) =
      some (.struct values) := by
  have decoded := @decodeFields_append _ _ leaves members [] fields values aligned [] rfl names
  rw [List.nil_append, List.nil_append, List.nil_append] at decoded
  show (decodeFields leaves members fields (zeros leaves fields)).map Data.struct = _
  rw [decoded]
  rfl

/-! ### What is printed is read back -/

@[elab_as_elim] theorem Data.induction {motive : Data Leaf → Prop}
    (leaf : ∀ value, motive (.leaf value)) (nil : motive .nil)
    (slice : ∀ items, (∀ item ∈ items, motive item) → motive (.slice items))
    (map : ∀ entries, (∀ entry ∈ entries, motive entry.2) → motive (.map entries))
    (struct : ∀ values, (∀ value ∈ values, motive value) → motive (.struct values))
    (data : Data Leaf) : motive data := by
  refine @Data.rec Leaf motive (fun items => ∀ item ∈ items, motive item)
    (fun entries => ∀ entry ∈ entries, motive entry.2) (fun entry => motive entry.2)
    leaf nil slice map struct ?_ ?_ ?_ ?_ ?_ data
  · exact fun _ listed => absurd listed List.not_mem_nil
  · exact fun item items first rest => List.forall_mem_cons.mpr ⟨first, rest⟩
  · exact fun _ listed => absurd listed List.not_mem_nil
  · exact fun item items first rest => List.forall_mem_cons.mpr ⟨first, rest⟩
  · exact fun _ _ holds => holds

/-- What the decoder makes of the printed form of data. -/
def RoundTrips (leaves : Leaves Kind Leaf) (style : Style) (data : Data Leaf) : Prop :=
  ∀ shape, Kept leaves style data shape →
    match encode leaves data shape with
    | none => data = zero leaves shape
    | some printed => decode leaves (printed.quoted style) shape (zero leaves shape) = some data

variable {style : Style} {items : List (Data Leaf)}

theorem decodeItems_encodeItems (each : ∀ item ∈ items, RoundTrips leaves style item)
    (kept : KeptItems leaves style items shape) :
    decodeItems leaves (Value.mapItems (quoted style) Numeral.literal
      (encodeItems leaves items shape)) shape = some items := by
  induction items with
  | nil => rfl
  | cons item items hypothesis =>
    obtain ⟨printed, isPrinted⟩ := Option.isSome_iff_exists.mp kept.1
    have first := each item List.mem_cons_self shape kept.2.1
    rw [isPrinted] at first
    have rest := hypothesis (fun other listed => each other (List.mem_cons_of_mem _ listed))
      kept.2.2
    rw [encodeItems, isPrinted, Option.getD_some, Value.mapItems, decodeItems]
    show (do let data ← decode leaves (printed.quoted style) shape (zero leaves shape)
             let others ← decodeItems leaves _ shape
             some (data :: others)) = _
    rw [first, rest]
    rfl

theorem aligned_encodeFields (each : ∀ value ∈ values, RoundTrips leaves style value)
    (kept : KeptFields leaves style values fields) :
    Aligned leaves (Value.mapMembers (quoted style) Numeral.literal
      (encodeFields leaves values fields)) fields values := by
  induction fields generalizing values with
  | nil =>
    cases values with
    | nil => exact .nil
    | cons value values => exact kept.elim
  | cons field fields hypothesis =>
    obtain ⟨name, shape⟩ := field
    cases values with
    | nil => exact kept.elim
    | cons value values =>
      have first := each value List.mem_cons_self shape kept.1
      have rest := hypothesis
        (fun other listed => each other (List.mem_cons_of_mem _ listed)) kept.2
      rw [encodeFields]
      cases isPrinted : encode leaves value shape with
      | none =>
        rw [isPrinted] at first
        rw [first]
        exact .absent rest
      | some printed =>
        rw [isPrinted] at first
        have aligned : Aligned leaves ((quoted style name, printed.quoted style) :: _)
            ((text (quoted style name), shape) :: fields) (value :: values) := .present first rest
        rw [text_quoted] at aligned
        exact aligned

theorem decode_leaf {value : Parsed} (kind : Kind) (present : value ≠ .null)
    (current : Data Leaf) :
    decode leaves value (.leaf kind) current = (leaves.read kind value).map .leaf := by
  cases value with
  | null => exact absurd rfl present
  | _ => rfl

/-- What is printed and decoded again is the same. -/
theorem roundTrips (data : Data Leaf) : RoundTrips leaves style data := by
  induction data using Data.induction with
  | leaf value =>
    intro shape kept
    cases shape with
    | leaf kind =>
      have own : leaves.Kept style kind value := kept
      unfold Leaves.Kept at own
      show match leaves.write kind value with
        | none => Data.leaf value = zero leaves (.leaf kind)
        | some printed => decode leaves (printed.quoted style) (.leaf kind)
            (zero leaves (.leaf kind)) = some (.leaf value)
      cases written : leaves.write kind value with
      | none =>
        rw [written] at own
        exact congrArg Data.leaf own
      | some printed =>
        rw [written] at own
        show decode leaves (printed.quoted style) (.leaf kind) _ = _
        rw [decode_leaf kind own.1, own.2]
        rfl
    | _ => exact kept.elim
  | nil =>
    intro shape kept
    cases shape with
    | slice item => rfl
    | _ => exact kept.elim
  | slice items each =>
    intro shape kept
    cases shape with
    | slice item =>
      show (decodeItems leaves (Value.mapItems (quoted style) Numeral.literal
        (encodeItems leaves items item)) item).map Data.slice = _
      rw [decodeItems_encodeItems each kept]
      rfl
    | _ => exact kept.elim
  | map entries each =>
    intro shape kept
    cases shape <;> exact kept.elim
  | struct values each =>
    intro shape kept
    cases shape with
    | struct fields => exact decode_of_aligned (aligned_encodeFields each kept.2) kept.1
    | _ => exact kept.elim

/-! ### What is printed repeats no name -/

/-- Printed leaves are no objects and no arrays. -/
def Leaves.Flat (leaves : Leaves Kind Leaf) : Prop :=
  ∀ kind value printed, leaves.write kind value = some printed → ∀ style : Style,
    UniqueNames (printed.quoted style) ∧ printed.depth = 0

mutual

/-- The nesting of a printed record. -/
def depth : Shape Kind → Nat
  | .leaf _ => 0
  | .slice item => depth item + 1
  | .map item => depth item + 1
  | .struct fields => fieldsDepth fields + 1
  | .pointer fields => fieldsDepth fields + 1

def fieldsDepth : List (String × Shape Kind) → Nat
  | [] => 0
  | (_, shape) :: fields => max (depth shape) (fieldsDepth fields)

end

/-- What is printed of data is flat enough and repeats no name. -/
def Tidy (leaves : Leaves Kind Leaf) (style : Style) (data : Data Leaf) : Prop :=
  ∀ shape, Kept leaves style data shape → ∀ printed, encode leaves data shape = some printed →
    UniqueNames (printed.quoted style) ∧ printed.depth ≤ depth shape

theorem tidyItems (each : ∀ item ∈ items, Tidy leaves style item)
    (kept : KeptItems leaves style items shape) :
    UniqueItems (Value.mapItems (quoted style) Numeral.literal (encodeItems leaves items shape)) ∧
      Value.itemsDepth (encodeItems leaves items shape) ≤ depth shape := by
  induction items with
  | nil => exact ⟨trivial, Nat.zero_le _⟩
  | cons item items hypothesis =>
    obtain ⟨printed, isPrinted⟩ := Option.isSome_iff_exists.mp kept.1
    have first := each item List.mem_cons_self shape kept.2.1 printed isPrinted
    have rest := hypothesis (fun other listed => each other (List.mem_cons_of_mem _ listed))
      kept.2.2
    rw [encodeItems, isPrinted, Option.getD_some]
    exact ⟨⟨first.1, rest.1⟩, Nat.max_le.mpr ⟨first.2, rest.2⟩⟩

theorem names_encodeFields (values : List (Data Leaf)) (fields : List (String × Shape Kind)) :
    ((Value.mapMembers (quoted style) Numeral.literal (encodeFields leaves values fields)).map
      (text ·.1)).Sublist (fields.map (·.1)) := by
  induction fields generalizing values with
  | nil => cases values <;> exact List.Sublist.slnil
  | cons field fields hypothesis =>
    obtain ⟨name, shape⟩ := field
    cases values with
    | nil => exact List.nil_sublist _
    | cons value values =>
      rw [encodeFields]
      cases encode leaves value shape with
      | none => exact (hypothesis values).cons _
      | some printed =>
        rw [Value.mapMembers, List.map_cons, List.map_cons, text_quoted]
        exact (hypothesis values).cons_cons _

theorem tidyFields (each : ∀ value ∈ values, Tidy leaves style value)
    (kept : KeptFields leaves style values fields) :
    UniqueMembers (Value.mapMembers (quoted style) Numeral.literal
        (encodeFields leaves values fields)) ∧
      Value.membersDepth (encodeFields leaves values fields) ≤ fieldsDepth fields := by
  induction fields generalizing values with
  | nil =>
    cases values with
    | nil => exact ⟨trivial, Nat.zero_le _⟩
    | cons value values => exact kept.elim
  | cons field fields hypothesis =>
    obtain ⟨name, shape⟩ := field
    cases values with
    | nil => exact kept.elim
    | cons value values =>
      have rest := hypothesis
        (fun other listed => each other (List.mem_cons_of_mem _ listed)) kept.2
      rw [encodeFields]
      cases isPrinted : encode leaves value shape with
      | none => exact ⟨rest.1, Nat.le_trans rest.2 (Nat.le_max_right _ _)⟩
      | some printed =>
        have first := each value List.mem_cons_self shape kept.1 printed isPrinted
        exact ⟨⟨first.1, rest.1⟩, Nat.max_le.mpr ⟨Nat.le_trans first.2 (Nat.le_max_left _ _),
          Nat.le_trans rest.2 (Nat.le_max_right _ _)⟩⟩

theorem tidy (flat : leaves.Flat) (data : Data Leaf) : Tidy leaves style data := by
  induction data using Data.induction with
  | leaf value =>
    intro shape kept printed isPrinted
    cases shape with
    | leaf kind =>
      have leaf := flat kind value printed isPrinted style
      exact ⟨leaf.1, Nat.le_of_eq leaf.2⟩
    | _ => exact kept.elim
  | nil =>
    intro shape kept printed isPrinted
    cases shape with
    | slice item =>
      obtain rfl := Option.some.inj isPrinted
      exact ⟨trivial, Nat.zero_le _⟩
    | _ => exact kept.elim
  | slice items each =>
    intro shape kept printed isPrinted
    cases shape with
    | slice item =>
      obtain rfl := Option.some.inj isPrinted
      have tidy := tidyItems each kept
      exact ⟨tidy.1, Nat.succ_le_succ tidy.2⟩
    | _ => exact kept.elim
  | map entries each =>
    intro shape kept
    cases shape <;> exact kept.elim
  | struct values each =>
    intro shape kept printed isPrinted
    cases shape with
    | struct fields =>
      obtain rfl := Option.some.inj isPrinted
      have tidy := tidyFields each kept.2
      exact ⟨⟨(names_encodeFields values fields).nodup kept.1, tidy.1⟩, Nat.succ_le_succ tidy.2⟩
    | _ => exact kept.elim

end StructDecode
