/-
This file models `jsoncanonicalizer.Transform`, the canonicalizer behind every
digest, as RFC 8785 prescribes it. The members of an object are sorted by the
UTF-16 code units of their names, a number is written as the shortest decimal of
the double nearest to it, a string is written with the fewest escapes, and there is
no white space. The text determines the tree up to that normal form.
-/

import Mathlib.Data.List.Lex
import GuardedAgentRunner.Canonical
import GuardedAgentRunner.Library.Binary64
import GuardedAgentRunner.Library.JsonText

namespace GuardedAgentRunner

open PrefixCode

namespace Json

@[elab_as_elim] theorem induction {motive : Json → Prop} (null : motive .null)
    (bool : ∀ value, motive (.bool value)) (number : ∀ value, motive (.number value))
    (string : ∀ value, motive (.string value))
    (array : ∀ items, (∀ item ∈ items, motive item) → motive (.array items))
    (object : ∀ members, (∀ member ∈ members, motive member.2) → motive (.object members))
    (value : Json) : motive value := by
  refine @Json.rec motive (fun items => ∀ item ∈ items, motive item)
    (fun members => ∀ member ∈ members, motive member.2) (fun member => motive member.2)
    null bool number string array object ?_ ?_ ?_ ?_ ?_ value
  · exact fun _ member => absurd member List.not_mem_nil
  · exact fun item items first rest => List.forall_mem_cons.mpr ⟨first, rest⟩
  · exact fun _ member => absurd member List.not_mem_nil
  · exact fun item items first rest => List.forall_mem_cons.mpr ⟨first, rest⟩
  · exact fun _ _ holds => holds

/-! ### The normal form -/

/-- The UTF-16 code units of a character. -/
def utf16 (character : Char) : List Nat :=
  let code := character.toNat
  if code < 0x10000 then [code]
  else [0xD800 + (code - 0x10000) / 0x400, 0xDC00 + (code - 0x10000) % 0x400]

/-- The order of the members of an object. -/
def memberLE (first second : String × Json) : Prop :=
  first.1.toList.flatMap utf16 ≤ second.1.toList.flatMap utf16

instance : DecidableRel memberLE := fun first second =>
  inferInstanceAs (Decidable (first.1.toList.flatMap utf16 ≤ second.1.toList.flatMap utf16))

mutual

/-- The value with its members sorted and its numbers rounded. -/
def normalize : Json → Json
  | .null => .null
  | .bool value => .bool value
  | .number value => .number (Binary64.decimal value)
  | .string value => .string value
  | .array items => .array (normalizeItems items)
  | .object members => .object ((normalizeMembers members).insertionSort memberLE)

def normalizeItems : List Json → List Json
  | [] => []
  | item :: items => item.normalize :: normalizeItems items

def normalizeMembers : List (String × Json) → List (String × Json)
  | [] => []
  | (name, value) :: members => (name, value.normalize) :: normalizeMembers members

end

theorem normalizeItems_eq (items : List Json) : normalizeItems items = items.map normalize := by
  induction items with
  | nil => rfl
  | cons item items hypothesis =>
    rw [normalizeItems, hypothesis, List.map_cons]

theorem normalizeMembers_eq (members : List (String × Json)) :
    normalizeMembers members = members.map fun member => (member.1, member.2.normalize) := by
  induction members with
  | nil => rfl
  | cons member members hypothesis =>
    rw [normalizeMembers, hypothesis, List.map_cons]

/-! ### The text -/

/-- The escape of a character in a string. -/
def escape (character : Char) : List Char :=
  if character = '\x22' then ['\x5c', '\x22']
  else if character = '\x5c' then ['\x5c', '\x5c']
  else if character = '\x08' then ['\x5c', 'b']
  else if character = '\x09' then ['\x5c', 't']
  else if character = '\x0a' then ['\x5c', 'n']
  else if character = '\x0c' then ['\x5c', 'f']
  else if character = '\x0d' then ['\x5c', 'r']
  else if character.toNat < 32 then
    ['\x5c', 'u', '0', '0', Nat.digitChar (character.toNat / 16),
      Nat.digitChar (character.toNat % 16)]
  else [character]

def writeString (value : String) : List Char :=
  '\x22' :: (value.toList.flatMap escape ++ ['\x22'])

mutual

/-- The text of a value, without white space. -/
def write : Json → List Char
  | .null => ['n', 'u', 'l', 'l']
  | .bool true => ['t', 'r', 'u', 'e']
  | .bool false => ['f', 'a', 'l', 's', 'e']
  | .number value => integer value
  | .string value => writeString value
  | .array items => '\x5b' :: writeItems items
  | .object members => '\x7b' :: writeMembers members

def writeItems : List Json → List Char
  | [] => ['\x5d']
  | item :: items => item.write ++ writeMoreItems items

def writeMoreItems : List Json → List Char
  | [] => ['\x5d']
  | item :: items => ',' :: (item.write ++ writeMoreItems items)

def writeMembers : List (String × Json) → List Char
  | [] => ['\x7d']
  | (name, value) :: members =>
    writeString name ++ ':' :: value.write ++ writeMoreMembers members

def writeMoreMembers : List (String × Json) → List Char
  | [] => ['\x7d']
  | (name, value) :: members =>
    ',' :: (writeString name ++ ':' :: value.write ++ writeMoreMembers members)

end

/-- `jsoncanonicalizer.Transform` on the JSON text of a value. -/
def transform (value : Json) : String := String.ofList value.normalize.write

end Json

example : (Json.object [("b", .number 9007199254740993), ("a", .string "é\n")]).transform =
    "\x7b\"a\":\"é\\n\",\"b\":9007199254740992\x7d" := by decide +kernel

namespace Json

/-! ### The text is that of the writer -/

/-- The fewest escapes. -/
def fewest : JsonText.Style where
  long character := character.toNat < 0x20 && character ∉ JsonText.shortEscapes
  controls _ control notShort := Bool.and_eq_true_iff.mpr ⟨decide_eq_true control,
    decide_eq_true notShort⟩
  others := JsonText.forall_mem_of_all (by decide)

theorem escape_eq (character : Char) : escape character = JsonText.escape fewest character := by
  by_cases control : character.toNat < 32
  · have all : ∀ code < 32,
        escape (Char.ofNat code) = JsonText.escape fewest (Char.ofNat code) := by decide +kernel
    rw [← Char.ofNat_toNat character]
    exact all character.toNat control
  · unfold escape JsonText.escape
    simp only [fewest, control, decide_false, Bool.false_and, Bool.false_eq_true, if_false]
    split_ifs <;> simp_all

theorem writeString_eq (value : String) : writeString value = JsonText.writeString fewest value := by
  rw [writeString, JsonText.writeString, funext escape_eq]

mutual

/-- The value as the writer takes it. -/
def printed : Json → JsonText.Printed
  | .null => .null
  | .bool value => .bool value
  | .number value => .number (.ofInt value)
  | .string value => .string value
  | .array items => .array (printedItems items)
  | .object members => .object (printedMembers members)

def printedItems : List Json → List JsonText.Printed
  | [] => []
  | item :: items => item.printed :: printedItems items

def printedMembers : List (String × Json) → List (String × JsonText.Printed)
  | [] => []
  | (name, value) :: members => (name, value.printed) :: printedMembers members

end

theorem write_eq (value : Json) : value.write = JsonText.write fewest value.printed := by
  induction value using Json.induction with
  | null | number => rfl
  | bool value => cases value <;> rfl
  | string value => exact writeString_eq value
  | array items each =>
    have more : ∀ items : List Json,
        (∀ item ∈ items, item.write = JsonText.write fewest item.printed) →
        writeMoreItems items = JsonText.writeMoreItems fewest (printedItems items) := by
      intro items each
      induction items with
      | nil => rfl
      | cons item items hypothesis =>
        obtain ⟨head, tail⟩ := List.forall_mem_cons.mp each
        rw [writeMoreItems, head, hypothesis tail]
        rfl
    cases items with
    | nil => rfl
    | cons item items =>
      obtain ⟨head, tail⟩ := List.forall_mem_cons.mp each
      rw [write, writeItems, head, more items tail]
      rfl
  | object members each =>
    have more : ∀ members : List (String × Json),
        (∀ member ∈ members, member.2.write = JsonText.write fewest member.2.printed) →
        writeMoreMembers members = JsonText.writeMoreMembers fewest (printedMembers members) := by
      intro members each
      induction members with
      | nil => rfl
      | cons member members hypothesis =>
        obtain ⟨head, tail⟩ := List.forall_mem_cons.mp each
        rw [writeMoreMembers, head, hypothesis tail, writeString_eq, List.append_assoc]
        rfl
    cases members with
    | nil => rfl
    | cons member members =>
      obtain ⟨head, tail⟩ := List.forall_mem_cons.mp each
      rw [write, writeMembers, head, more members tail, writeString_eq, List.append_assoc]
      rfl

theorem printed_injective : Function.Injective printed := by
  intro first
  induction first using Json.induction with
  | null => rintro (_ | _ | _ | _ | _ | _) same <;> first | rfl | cases same
  | bool value => rintro (_ | _ | _ | _ | _ | _) same <;> cases same; rfl
  | number value =>
    rintro (_ | _ | other | _ | _ | _) same <;> try cases same
    have literals := congrArg JsonText.Numeral.literal (JsonText.Value.number.inj same)
    exact congrArg Json.number (integer_injective literals)
  | string value => rintro (_ | _ | _ | _ | _ | _) same <;> cases same; rfl
  | array items each =>
    rintro (_ | _ | _ | _ | others | _) same <;> try cases same
    refine congrArg Json.array ?_
    replace same := JsonText.Value.array.inj same
    induction items generalizing others with
    | nil => cases others <;> first | rfl | cases same
    | cons item items hypothesis =>
      cases others with
      | nil => cases same
      | cons other others =>
        obtain ⟨head, tail⟩ := List.cons.inj same
        rw [each item List.mem_cons_self head, hypothesis
          (fun item listed => each item (List.mem_cons_of_mem _ listed)) others tail]
  | object members each =>
    rintro (_ | _ | _ | _ | _ | others) same <;> try cases same
    refine congrArg Json.object ?_
    replace same := JsonText.Value.object.inj same
    induction members generalizing others with
    | nil => cases others <;> first | rfl | cases same
    | cons member members hypothesis =>
      cases others with
      | nil => cases same
      | cons other others =>
        obtain ⟨head, tail⟩ := List.cons.inj same
        obtain ⟨names, values⟩ := Prod.mk.inj head
        rw [hypothesis (fun member listed => each member (List.mem_cons_of_mem _ listed))
          others tail, Prod.ext names (each member List.mem_cons_self values)]

/-! ### What the canonical text determines -/

theorem transform_eq_iff {first second : Json} :
    first.transform = second.transform ↔ first.normalize = second.normalize := by
  constructor
  · intro same
    have words := congrArg String.toList same
    rw [transform, transform, String.toList_ofList, String.toList_ofList] at words
    rw [write_eq, write_eq] at words
    exact printed_injective (JsonText.write_injective words)
  · intro same
    rw [transform, transform, same]

/-- Objects with the same normal form have the same normal members, in some order. -/
theorem perm_of_normalize_object {first second : List (String × Json)}
    (same : (Json.object first).normalize = (Json.object second).normalize) :
    (first.map fun member => (member.1, member.2.normalize)).Perm
      (second.map fun member => (member.1, member.2.normalize)) := by
  rw [normalize, normalize, normalizeMembers_eq, normalizeMembers_eq] at same
  have sorted := Json.object.inj same
  exact (List.perm_insertionSort memberLE _).symm.trans
    (sorted ▸ List.perm_insertionSort memberLE _)

theorem normalize_eq_of_mem {first second : List (String × Json)}
    (same : (Json.object first).normalize = (Json.object second).normalize)
    (names : (second.map Prod.fst).Nodup) {name : String} {value other : Json}
    (member : (name, value) ∈ first) (otherMember : (name, other) ∈ second) :
    value.normalize = other.normalize := by
  have present := (perm_of_normalize_object same).subset (List.mem_map.mpr ⟨_, member, rfl⟩)
  obtain ⟨found, foundMember, equal⟩ := List.mem_map.mp present
  obtain ⟨sameName, sameValue⟩ := Prod.mk.inj equal
  have unique : found = (name, other) :=
    List.inj_on_of_nodup_map names foundMember otherMember sameName
  rw [← sameValue, unique]

theorem normalize_string_injective : Function.Injective fun text => (string text).normalize := by
  intro text other same
  dsimp only at same
  rw [normalize, normalize] at same
  exact string.inj same

theorem string_eq_of_mem {first second : List (String × Json)}
    (same : (Json.object first).normalize = (Json.object second).normalize)
    (names : (second.map Prod.fst).Nodup) {name value other : String}
    (member : (name, .string value) ∈ first) (otherMember : (name, .string other) ∈ second) :
    value = other :=
  normalize_string_injective (normalize_eq_of_mem same names member otherMember)

theorem normalize_slice_injective {Item : Type} {encode : Item → Json}
    (injective : Function.Injective fun item => (encode item).normalize) :
    Function.Injective fun slice : Slice Item => (slice.toJson encode).normalize := by
  intro first second same
  dsimp only at same
  cases first with
  | absent =>
    cases second with
    | absent => rfl
    | of others => simp [Slice.toJson, normalize] at same
  | of items =>
    cases second with
    | absent => simp [Slice.toJson, normalize] at same
    | of others =>
      rw [Slice.toJson, Slice.toJson, normalize, normalize, normalizeItems_eq, normalizeItems_eq,
        List.map_map, List.map_map] at same
      rw [List.map_injective_iff.mpr injective (array.inj same)]

end Json

end GuardedAgentRunner
