/-
This file develops JSON texts. A reader takes one value off the front of a list of
characters, by the grammar of RFC 8259 and up to a bound on the nesting, and
returns the rest; a string token is kept as the list of its pieces, because what an
escape stands for differs between consumers. A writer prints a value without white
space and with the escapes that keep a text safe inside HTML. The reader takes
every printed value off the front of a text and gives it back with its strings in
pieces.
-/

import Mathlib.Data.Nat.Init
import Mathlib.Data.List.Basic
import Mathlib.Order.Basic
import GuardedAgentRunner.Library.PrefixCode

namespace JsonText

open PrefixCode

/-! ### Characters -/

theorem forall_mem_of_all {property : Char → Prop} [DecidablePred property]
    {characters : List Char}
    (all : (characters.all fun character => decide (property character)) = true) :
    ∀ character ∈ characters, property character :=
  fun character listed => of_decide_eq_true (List.all_eq_true.mp all character listed)

/-! ### Values -/

/-- A piece of a string token: a character written as itself or with a short escape, or a UTF-16
code unit written with four hexadecimal digits. -/
inductive Piece where
  | plain (character : Char)
  | escaped (unit : Nat)
deriving DecidableEq, Repr

/-- A JSON value over a type of strings and a type of numbers. -/
inductive Value (Text Number : Type) where
  | null
  | bool (value : Bool)
  | number (value : Number)
  | string (value : Text)
  | array (items : List (Value Text Number))
  | object (members : List (Text × Value Text Number))

/-- A value as it stands in a text: its strings in pieces, its numbers as their literals. -/
abbrev Parsed := Value (List Piece) (List Char)

namespace Value

variable {Text Number OtherText OtherNumber : Type} {bound : Nat}

@[elab_as_elim] theorem induction {motive : Value Text Number → Prop} (null : motive .null)
    (bool : ∀ value, motive (.bool value)) (number : ∀ value, motive (.number value))
    (string : ∀ value, motive (.string value))
    (array : ∀ items, (∀ item ∈ items, motive item) → motive (.array items))
    (object : ∀ members, (∀ member ∈ members, motive member.2) → motive (.object members))
    (value : Value Text Number) : motive value := by
  refine @Value.rec Text Number motive (fun items => ∀ item ∈ items, motive item)
    (fun members => ∀ member ∈ members, motive member.2) (fun member => motive member.2)
    null bool number string array object ?_ ?_ ?_ ?_ ?_ value
  · exact fun _ member => absurd member List.not_mem_nil
  · exact fun item items first rest => List.forall_mem_cons.mpr ⟨first, rest⟩
  · exact fun _ member => absurd member List.not_mem_nil
  · exact fun item items first rest => List.forall_mem_cons.mpr ⟨first, rest⟩
  · exact fun _ _ holds => holds

mutual

/-- The value with another representation of its strings and numbers. -/
def map (text : Text → OtherText) (number : Number → OtherNumber) :
    Value Text Number → Value OtherText OtherNumber
  | .null => .null
  | .bool value => .bool value
  | .number value => .number (number value)
  | .string value => .string (text value)
  | .array items => .array (mapItems text number items)
  | .object members => .object (mapMembers text number members)

def mapItems (text : Text → OtherText) (number : Number → OtherNumber) :
    List (Value Text Number) → List (Value OtherText OtherNumber)
  | [] => []
  | item :: items => item.map text number :: mapItems text number items

def mapMembers (text : Text → OtherText) (number : Number → OtherNumber) :
    List (Text × Value Text Number) → List (OtherText × Value OtherText OtherNumber)
  | [] => []
  | (name, value) :: members =>
    (text name, value.map text number) :: mapMembers text number members

end

mutual

/-- The number of arrays and objects a part of the value is nested in, at most. -/
def depth : Value Text Number → Nat
  | .array items => itemsDepth items + 1
  | .object members => membersDepth members + 1
  | _ => 0

def itemsDepth : List (Value Text Number) → Nat
  | [] => 0
  | item :: items => max item.depth (itemsDepth items)

def membersDepth : List (Text × Value Text Number) → Nat
  | [] => 0
  | (_, value) :: members => max value.depth (membersDepth members)

end

theorem mapItems_eq_map (text : Text → OtherText) (number : Number → OtherNumber)
    (items : List (Value Text Number)) :
    mapItems text number items = items.map (map text number) := by
  induction items with
  | nil => rfl
  | cons item items hypothesis => exact congrArg (_ :: ·) hypothesis

theorem map_injective {text : Text → OtherText} {number : Number → OtherNumber}
    (texts : Function.Injective text) (numbers : Function.Injective number) :
    Function.Injective (map text number) := by
  intro first
  induction first using Value.induction with
  | null => rintro (_ | _ | _ | _ | _ | _) same <;> first | rfl | cases same
  | bool value => rintro (_ | _ | _ | _ | _ | _) same <;> cases same; rfl
  | number value =>
    rintro (_ | _ | other | _ | _ | _) same <;> try cases same
    exact congrArg Value.number (numbers (Value.number.inj same))
  | string value =>
    rintro (_ | _ | _ | other | _ | _) same <;> try cases same
    exact congrArg Value.string (texts (Value.string.inj same))
  | array items each =>
    rintro (_ | _ | _ | _ | others | _) same <;> try cases same
    refine congrArg Value.array ?_
    replace same := Value.array.inj same
    induction items generalizing others with
    | nil => cases others <;> first | rfl | cases same
    | cons item items hypothesis =>
      cases others with
      | nil => cases same
      | cons other others =>
        obtain ⟨head, tail⟩ := List.cons.inj same
        rw [each item List.mem_cons_self head, hypothesis
          (fun item listed => each item (List.mem_cons_of_mem _ listed)) others tail]
  | object members each =>
    rintro (_ | _ | _ | _ | _ | others) same <;> try cases same
    refine congrArg Value.object ?_
    replace same := Value.object.inj same
    induction members generalizing others with
    | nil => cases others <;> first | rfl | cases same
    | cons member members hypothesis =>
      cases others with
      | nil => cases same
      | cons other others =>
        obtain ⟨head, tail⟩ := List.cons.inj same
        obtain ⟨names, values⟩ := Prod.mk.inj head
        rw [hypothesis (fun member listed => each member (List.mem_cons_of_mem _ listed))
          others tail, Prod.ext (texts names) (each member List.mem_cons_self values)]

theorem itemsDepth_le_iff {items : List (Value Text Number)} :
    itemsDepth items ≤ bound ↔ ∀ item ∈ items, item.depth ≤ bound := by
  induction items with
  | nil => simp [itemsDepth]
  | cons item items hypothesis =>
    rw [itemsDepth, Nat.max_le, hypothesis, List.forall_mem_cons]

theorem membersDepth_le_iff {members : List (Text × Value Text Number)} :
    membersDepth members ≤ bound ↔ ∀ member ∈ members, member.2.depth ≤ bound := by
  induction members with
  | nil => simp [membersDepth]
  | cons member members hypothesis =>
    rw [membersDepth, Nat.max_le, hypothesis, List.forall_mem_cons]

end Value

/-! ### Reading tokens -/

def isSpace (character : Char) : Bool :=
  character = ' ' || character = '\t' || character = '\n' || character = '\r'

def skipSpace (text : List Char) : List Char := text.dropWhile isSpace

def hexDigit (character : Char) : Option Nat :=
  if '0' ≤ character ∧ character ≤ '9' then some (character.toNat - 48)
  else if 'a' ≤ character ∧ character ≤ 'f' then some (character.toNat - 87)
  else if 'A' ≤ character ∧ character ≤ 'F' then some (character.toNat - 55)
  else none

/-- The character a short escape stands for. -/
def shortEscape (kind : Char) : Option Char :=
  if kind = '\x22' ∨ kind = '\x5c' ∨ kind = '/' then some kind
  else if kind = 'b' then some '\x08'
  else if kind = 'f' then some '\x0c'
  else if kind = 'n' then some '\n'
  else if kind = 'r' then some '\r'
  else if kind = 't' then some '\t'
  else none

/-- Read a string token whose opening quote has been read. -/
def readPieces : List Char → Option (List Piece × List Char)
  | [] => none
  | first :: rest =>
    if first = '\x22' then some ([], rest)
    else if first = '\x5c' then
      match rest with
      | 'u' :: first :: second :: third :: fourth :: rest => do
        let first ← hexDigit first
        let second ← hexDigit second
        let third ← hexDigit third
        let fourth ← hexDigit fourth
        let (pieces, rest) ← readPieces rest
        some (.escaped (first * 4096 + second * 256 + third * 16 + fourth) :: pieces, rest)
      | kind :: rest => do
        let character ← shortEscape kind
        let (pieces, rest) ← readPieces rest
        some (.plain character :: pieces, rest)
      | [] => none
    else if first.toNat < 0x20 then none
    else do
      let (pieces, rest) ← readPieces rest
      some (.plain first :: pieces, rest)

/-- Read the integer part of a number: no zero in front of another digit. -/
def readInteger : List Char → Option (List Char × List Char)
  | [] => none
  | first :: rest =>
    if first = '0' then some (['0'], rest)
    else if first.isDigit then
      some (first :: rest.takeWhile Char.isDigit, rest.dropWhile Char.isDigit)
    else none

/-- Read one digit or more, after the characters that announce them. -/
def readDigits (announced text : List Char) : Option (List Char × List Char) :=
  let digits := text.takeWhile Char.isDigit
  if digits = [] then none else some (announced ++ digits, text.dropWhile Char.isDigit)

def readFraction : List Char → Option (List Char × List Char)
  | '.' :: rest => readDigits ['.'] rest
  | text => some ([], text)

def readExponent : List Char → Option (List Char × List Char)
  | [] => some ([], [])
  | first :: rest =>
    if first = 'e' ∨ first = 'E' then
      match rest with
      | '+' :: rest => readDigits [first, '+'] rest
      | '-' :: rest => readDigits [first, '-'] rest
      | rest => readDigits [first] rest
    else some ([], first :: rest)

def readSign : List Char → List Char × List Char
  | '-' :: rest => (['-'], rest)
  | text => ([], text)

/-- Read the literal of a number. -/
def readNumber (text : List Char) : Option (List Char × List Char) := do
  let (sign, rest) := readSign text
  let (integer, rest) ← readInteger rest
  let (fraction, rest) ← readFraction rest
  let (exponent, rest) ← readExponent rest
  some (sign ++ integer ++ fraction ++ exponent, rest)

/-- Read a fixed word. -/
def readWord (word : List Char) (text : List Char) : Option (List Char) :=
  if word <+: text then some (text.drop word.length) else none

/-! ### Reading values -/

mutual

/-- Read one value. The first argument bounds the recursion, the second the nesting. -/
def readValue : Nat → Nat → List Char → Option (Parsed × List Char)
  | 0, _, _ => none
  | fuel + 1, depth, text =>
    match skipSpace text with
    | [] => none
    | first :: rest =>
      if first = '\x22' then do
        let (pieces, rest) ← readPieces rest
        some (.string pieces, rest)
      else if first = '\x5b' then
        match depth with
        | 0 => none
        | depth + 1 => readItems fuel depth rest
      else if first = '\x7b' then
        match depth with
        | 0 => none
        | depth + 1 => readMembers fuel depth rest
      else if first = 't' then do
        let rest ← readWord ['r', 'u', 'e'] rest
        some (.bool true, rest)
      else if first = 'f' then do
        let rest ← readWord ['a', 'l', 's', 'e'] rest
        some (.bool false, rest)
      else if first = 'n' then do
        let rest ← readWord ['u', 'l', 'l'] rest
        some (.null, rest)
      else do
        let (literal, rest) ← readNumber (first :: rest)
        some (.number literal, rest)
termination_by structural fuel => fuel

/-- Read the items of an array whose bracket has been read. -/
def readItems : Nat → Nat → List Char → Option (Parsed × List Char)
  | 0, _, _ => none
  | fuel + 1, depth, text =>
    match skipSpace text with
    | '\x5d' :: rest => some (.array [], rest)
    | _ => do
      let (items, rest) ← readMoreItems fuel depth text
      some (.array items, rest)
termination_by structural fuel => fuel

def readMoreItems : Nat → Nat → List Char → Option (List Parsed × List Char)
  | 0, _, _ => none
  | fuel + 1, depth, text => do
    let (item, rest) ← readValue fuel depth text
    match skipSpace rest with
    | '\x5d' :: rest => some ([item], rest)
    | ',' :: rest => do
      let (items, rest) ← readMoreItems fuel depth rest
      some (item :: items, rest)
    | _ => none
termination_by structural fuel => fuel

/-- Read the members of an object whose brace has been read. -/
def readMembers : Nat → Nat → List Char → Option (Parsed × List Char)
  | 0, _, _ => none
  | fuel + 1, depth, text =>
    match skipSpace text with
    | '\x7d' :: rest => some (.object [], rest)
    | _ => do
      let (members, rest) ← readMoreMembers fuel depth text
      some (.object members, rest)
termination_by structural fuel => fuel

def readMoreMembers : Nat → Nat → List Char →
    Option (List (List Piece × Parsed) × List Char)
  | 0, _, _ => none
  | fuel + 1, depth, text =>
    match skipSpace text with
    | '\x22' :: rest => do
      let (name, rest) ← readPieces rest
      match skipSpace rest with
      | ':' :: rest => do
        let (value, rest) ← readValue fuel depth rest
        match skipSpace rest with
        | '\x7d' :: rest => some ([(name, value)], rest)
        | ',' :: rest => do
          let (members, rest) ← readMoreMembers fuel depth rest
          some ((name, value) :: members, rest)
        | _ => none
      | _ => none
    | _ => none
termination_by structural fuel => fuel

end

/-- The recursion a text can need: three calls for each of its characters. -/
def fuelFor (text : List Char) : Nat := 3 * text.length + 3

/-- Read a text that is one value and white space, nested at most to the given depth. -/
def parse (depth : Nat) (text : List Char) : Option Parsed := do
  let (value, rest) ← readValue (fuelFor text) depth text
  if skipSpace rest = [] then some value else none

/-! ### Nesting -/

section Nesting

variable {First Second : Type}

/-- What the first computation gives within a depth has a size from the floor to that depth, and
the second one gives it within every other depth it fits. -/
def Fits (size : First → Nat) (floor depth other : Nat) (first second : Option First) : Prop :=
  ∀ result, first = some result →
    floor ≤ size result ∧ size result ≤ depth ∧ (size result ≤ other → second = some result)

variable {size : First → Nat} {sizes : Second → Nat} {floor depth other : Nat}

theorem Fits.none (second : Option First) : Fits size floor depth other .none second :=
  fun _ contradiction => nomatch contradiction

theorem Fits.some {value : First} (above : floor ≤ size value) (below : size value ≤ depth) :
    Fits size floor depth other (.some value) (.some value) := by
  rintro result same
  obtain rfl := Option.some.inj same
  exact ⟨above, below, fun _ => rfl⟩

theorem Fits.same (read : Option First) : Fits (fun _ => 0) 0 depth other read read :=
  fun _ found => ⟨Nat.le_refl _, Nat.zero_le _, fun _ => found⟩

theorem Fits.bind {read another : Option First} {rest others : First → Option Second}
    (before : Fits size 0 depth other read another)
    (after : ∀ value, size value ≤ depth →
      Fits sizes (max floor (size value)) depth other (rest value) (others value)) :
    Fits sizes floor depth other (read >>= rest) (another >>= others) := by
  intro result found
  obtain ⟨value, first, second⟩ := Option.bind_eq_some_iff.mp found
  obtain ⟨-, below, enough⟩ := before value first
  obtain ⟨above, bound, also⟩ := after value below result second
  obtain ⟨aboveFloor, aboveFirst⟩ := Nat.max_le.mp above
  refine ⟨aboveFloor, bound, fun within => ?_⟩
  exact Option.bind_eq_some_iff.mpr ⟨value, enough (Nat.le_trans aboveFirst within), also within⟩

theorem Fits.wrap {read another : Option First} {wrapped : First → Second}
    (before : Fits size 0 depth other read another)
    (larger : ∀ value, sizes (wrapped value) = size value + 1) :
    Fits sizes 1 (depth + 1) (other + 1) (read >>= fun value => .some (wrapped value))
      (another >>= fun value => .some (wrapped value)) := by
  intro result found
  obtain ⟨value, first, same⟩ := Option.bind_eq_some_iff.mp found
  obtain rfl := Option.some.inj same
  obtain ⟨-, below, enough⟩ := before value first
  rw [larger]
  refine ⟨Nat.le_add_left _ _, Nat.add_le_add_right below 1, fun within => ?_⟩
  exact Option.bind_eq_some_iff.mpr ⟨value, enough (Nat.le_of_succ_le_succ within), rfl⟩

end Nesting

/-- What is read within a depth is nested at most that deep, and is read within every depth it
fits. -/
structure ReadsFit (fuel : Nat) : Prop where
  value : ∀ {depth other text}, Fits (fun read => read.1.depth) 0 depth other
    (readValue fuel depth text) (readValue fuel other text)
  items : ∀ {depth other text}, Fits (fun read => read.1.depth) 1 (depth + 1) (other + 1)
    (readItems fuel depth text) (readItems fuel other text)
  moreItems : ∀ {depth other text}, Fits (fun read => Value.itemsDepth read.1) 0 depth other
    (readMoreItems fuel depth text) (readMoreItems fuel other text)
  members : ∀ {depth other text}, Fits (fun read => read.1.depth) 1 (depth + 1) (other + 1)
    (readMembers fuel depth text) (readMembers fuel other text)
  moreMembers : ∀ {depth other text}, Fits (fun read => Value.membersDepth read.1) 0 depth other
    (readMoreMembers fuel depth text) (readMoreMembers fuel other text)

theorem fits_container {read : Nat → Option (Parsed × List Char)}
    (fits : ∀ {depth other}, Fits (fun read => read.1.depth) 1 (depth + 1) (other + 1)
      (read depth) (read other)) (depth other : Nat) :
    Fits (fun read => read.1.depth) 0 depth other
      (match depth with
        | 0 => none
        | depth + 1 => read depth)
      (match other with
        | 0 => none
        | other + 1 => read other) := by
  cases depth with
  | zero => exact .none _
  | succ depth =>
    intro result found
    cases other with
    | zero =>
      obtain ⟨above, below, -⟩ := @fits depth 0 result found
      exact ⟨Nat.zero_le _, below, fun within => absurd (Nat.le_trans above within) (by decide)⟩
    | succ other =>
      obtain ⟨-, below, enough⟩ := @fits depth other result found
      exact ⟨Nat.zero_le _, below, enough⟩

theorem readsFit (fuel : Nat) : ReadsFit fuel := by
  induction fuel with
  | zero => exact ⟨.none _, .none _, .none _, .none _, .none _⟩
  | succ fuel hypothesis =>
    have flat : ∀ {First : Type} (read : Option First) (rest : First → Parsed × List Char)
        {depth other : Nat}, (∀ value, (rest value).1.depth = 0) →
        Fits (fun read => read.1.depth) 0 depth other (read >>= fun value => some (rest value))
          (read >>= fun value => some (rest value)) := by
      intro First read rest depth other scalar
      refine .bind (.same read) fun value _ => .some (Nat.zero_le _) ?_
      rw [scalar value]
      exact Nat.zero_le _
    constructor
    · intro depth other text
      rw [readValue.eq_def, readValue.eq_def]
      dsimp only
      split
      · exact .none _
      · split_ifs
        · exact flat _ _ fun _ => rfl
        · exact fits_container hypothesis.items depth other
        · exact fits_container hypothesis.members depth other
        all_goals exact flat _ _ fun _ => rfl
    · intro depth other text
      rw [readItems.eq_def, readItems.eq_def]
      dsimp only
      split
      · exact .some (Nat.le_refl 1) (Nat.le_add_left 1 depth)
      · exact .wrap hypothesis.moreItems fun _ => rfl
    · intro depth other text
      rw [readMoreItems.eq_def, readMoreItems.eq_def]
      refine .bind hypothesis.value fun item within => ?_
      dsimp only
      split
      · exact .some (by simp [Value.itemsDepth]) (by simpa [Value.itemsDepth] using within)
      · refine .bind hypothesis.moreItems fun items alsoWithin => ?_
        exact .some (by simp [Value.itemsDepth]) (Nat.max_le.mpr ⟨within, alsoWithin⟩)
      · exact .none _
    · intro depth other text
      rw [readMembers.eq_def, readMembers.eq_def]
      dsimp only
      split
      · exact .some (Nat.le_refl 1) (Nat.le_add_left 1 depth)
      · exact .wrap hypothesis.moreMembers fun _ => rfl
    · intro depth other text
      rw [readMoreMembers.eq_def, readMoreMembers.eq_def]
      dsimp only
      split
      · refine .bind (.same _) fun _ _ => ?_
        split
        · refine .bind hypothesis.value fun value within => ?_
          split
          · exact .some (by simp [Value.membersDepth]) (by simpa [Value.membersDepth] using within)
          · refine .bind hypothesis.moreMembers fun members alsoWithin => ?_
            exact .some (by simp [Value.membersDepth]) (Nat.max_le.mpr ⟨within, alsoWithin⟩)
          · exact .none _
        · exact .none _
      · exact .none _

variable {value : Parsed}

theorem parse_of_depth_le {depth other : Nat} {text : List Char}
    (parsed : parse depth text = some value) (within : value.depth ≤ other) :
    parse other text = some value := by
  obtain ⟨⟨read, rest⟩, first, second⟩ := Option.bind_eq_some_iff.mp parsed
  have same : read = value := by
    dsimp only at second
    split at second
    · exact Option.some.inj second
    · exact nomatch second
  subst same
  exact Option.bind_eq_some_iff.mpr ⟨_, ((readsFit _).value _ first).2.2 within, second⟩

theorem parse_unique {depth other : Nat} {text : List Char} {another : Parsed}
    (first : parse depth text = some value) (second : parse other text = some another) :
    value = another := by
  have deep := parse_of_depth_le first (Nat.le_max_left value.depth another.depth)
  have also := parse_of_depth_le second (Nat.le_max_right value.depth another.depth)
  exact Option.mem_unique deep also

/-! ### What a string token stands for -/

/-- The character a code unit stands for on its own; a surrogate is replaced. -/
def single (unit : Nat) : Char :=
  if 0xD800 ≤ unit ∧ unit < 0xE000 then '\ufffd' else Char.ofNat unit

/-- Two code units form a surrogate pair. -/
def Paired (high low : Nat) : Prop :=
  0xD800 ≤ high ∧ high < 0xDC00 ∧ 0xDC00 ≤ low ∧ low < 0xE000
deriving Decidable

/-- The characters of a string token, with an unpaired surrogate replaced. -/
def characters : List Piece → List Char
  | [] => []
  | .plain character :: rest => character :: characters rest
  | .escaped high :: .escaped low :: rest =>
    if Paired high low then
      Char.ofNat (0x10000 + (high - 0xD800) * 0x400 + (low - 0xDC00)) :: characters rest
    else single high :: characters (.escaped low :: rest)
  | .escaped unit :: rest => single unit :: characters rest

/-- The string of a token, with an unpaired surrogate replaced. -/
def text (pieces : List Piece) : String := String.ofList (characters pieces)

/-! ### Writing -/

/-- The text after a number does not continue it. -/
def EndsNumber (rest : List Char) : Prop :=
  NoDigit rest ∧ ∀ symbol ∈ rest.head?, symbol ∉ ['.', 'e', 'E']

/-- The characters with a short escape. -/
def shortEscapes : List Char := ['\x22', '\x5c', '\x08', '\x0c', '\n', '\r', '\t']

/-- A style of writing strings: which characters are written with hexadecimal digits. Control
characters without a short escape have to be. -/
structure Style where
  long : Char → Bool
  controls : ∀ character, character.toNat < 0x20 → character ∉ shortEscapes →
    long character = true
  others : ∀ character ∈ shortEscapes, long character = false

/-- The UTF-16 code units of a character. -/
def units (character : Char) : List Nat :=
  if character.toNat < 0x10000 then [character.toNat]
  else [0xD800 + (character.toNat - 0x10000) / 0x400, 0xDC00 + (character.toNat - 0x10000) % 0x400]

/-- The escape of a code unit with four hexadecimal digits. -/
def longEscape (unit : Nat) : List Char :=
  ['\x5c', 'u', Nat.digitChar (unit / 4096), Nat.digitChar (unit / 256 % 16),
    Nat.digitChar (unit / 16 % 16), Nat.digitChar (unit % 16)]

/-- A number literal: it is read as itself before every text that does not continue it. -/
structure Numeral where
  literal : List Char
  starts : ∃ first rest, literal = first :: rest ∧ (first = '-' ∨ first.isDigit = true)
  reads : ∀ rest, EndsNumber rest → readNumber (literal ++ rest) = some (literal, rest)

/-- A value to be printed. -/
abbrev Printed := Value String Numeral

section Writer

variable (style : Style)

/-- The escape of a character in a string. -/
def escape (character : Char) : List Char :=
  if character = '\x22' ∨ character = '\x5c' then ['\x5c', character]
  else if character = '\x08' then ['\x5c', 'b']
  else if character = '\x0c' then ['\x5c', 'f']
  else if character = '\n' then ['\x5c', 'n']
  else if character = '\r' then ['\x5c', 'r']
  else if character = '\t' then ['\x5c', 't']
  else if style.long character then (units character).flatMap longEscape
  else [character]

def writeString (value : String) : List Char :=
  '\x22' :: (value.toList.flatMap (escape style) ++ ['\x22'])

mutual

/-- The text of a value, without white space. -/
def write : Printed → List Char
  | .null => ['n', 'u', 'l', 'l']
  | .bool true => ['t', 'r', 'u', 'e']
  | .bool false => ['f', 'a', 'l', 's', 'e']
  | .number value => value.literal
  | .string value => writeString style value
  | .array items => '\x5b' :: writeItems items
  | .object members => '\x7b' :: writeMembers members

def writeItems : List Printed → List Char
  | [] => ['\x5d']
  | item :: items => write item ++ writeMoreItems items

def writeMoreItems : List Printed → List Char
  | [] => ['\x5d']
  | item :: items => ',' :: (write item ++ writeMoreItems items)

def writeMembers : List (String × Printed) → List Char
  | [] => ['\x7d']
  | (name, value) :: members =>
    writeString style name ++ ':' :: (write value ++ writeMoreMembers members)

def writeMoreMembers : List (String × Printed) → List Char
  | [] => ['\x7d']
  | (name, value) :: members =>
    ',' :: (writeString style name ++ ':' :: (write value ++ writeMoreMembers members))

end

/-- The pieces a written character is read back as. -/
def quote (character : Char) : List Piece :=
  if style.long character then (units character).map .escaped else [.plain character]

/-- The pieces a written string is read back as. -/
def quoted (value : String) : List Piece := value.toList.flatMap (quote style)

/-- The value that the text of a value is read back as. -/
def Value.quoted (value : Printed) : Parsed := value.map (JsonText.quoted style) Numeral.literal

end Writer

/-! ### Code units -/

theorem toNat_bounds (character : Char) :
    character.toNat < 0xD800 ∨ 0xDFFF < character.toNat ∧ character.toNat < 0x110000 :=
  character.valid

theorem not_surrogate (character : Char) :
    ¬ (0xD800 ≤ character.toNat ∧ character.toNat < 0xE000) := by
  have bounds := toNat_bounds character
  omega

variable {unit : Nat}

theorem characters_escaped (alone : ¬ (0xD800 ≤ unit ∧ unit < 0xE000)) (rest : List Piece) :
    characters (.escaped unit :: rest) = Char.ofNat unit :: characters rest := by
  have itself : single unit = Char.ofNat unit := if_neg alone
  have unpaired : ∀ low, ¬ Paired unit low := by
    rintro low ⟨high, below, -, -⟩
    omega
  rw [characters.eq_def]
  split
  · rename_i empty
    exact absurd empty (List.cons_ne_nil _ _)
  · rename_i plain
    exact absurd (List.cons.inj plain).1 (by simp)
  · rename_i high low others split
    obtain ⟨same, rfl⟩ := List.cons.inj split
    rw [← Piece.escaped.inj same, if_neg (unpaired low), itself]
  · rename_i split
    obtain ⟨same, rfl⟩ := List.cons.inj split
    rw [← Piece.escaped.inj same, itself]

theorem characters_units (character : Char) (rest : List Piece) :
    characters ((units character).map .escaped ++ rest) = character :: characters rest := by
  unfold units
  split
  · rw [List.map_cons, List.map_nil, List.singleton_append,
      characters_escaped (not_surrogate character), Char.ofNat_toNat]
  · rename_i large
    have bounds := toNat_bounds character
    have sum : 0x10000 + (0xD800 + (character.toNat - 0x10000) / 0x400 - 0xD800) * 0x400 +
        (0xDC00 + (character.toNat - 0x10000) % 0x400 - 0xDC00) = character.toNat := by omega
    have paired : Paired (0xD800 + (character.toNat - 0x10000) / 0x400)
        (0xDC00 + (character.toNat - 0x10000) % 0x400) := by
      unfold Paired
      omega
    simp only [List.map_cons, List.map_nil, List.cons_append, List.nil_append, characters,
      if_pos paired, sum, Char.ofNat_toNat]

theorem units_lt (character : Char) : ∀ unit ∈ units character, unit < 0x10000 := by
  have bounds := toNat_bounds character
  unfold units
  split
  · intro unit listed
    rw [List.mem_singleton.mp listed]
    assumption
  · intro unit listed
    simp only [List.mem_cons, List.not_mem_nil, or_false] at listed
    omega

/-- The code units of a text. -/
def textUnits (value : String) : List Nat := value.toList.flatMap units

/-- The code units of a string token, with every surrogate kept. -/
def tokenUnits : List Piece → List Nat
  | [] => []
  | .plain character :: rest => units character ++ tokenUnits rest
  | .escaped unit :: rest => unit :: tokenUnits rest

theorem not_paired_units (high : Nat) (character : Char) :
    ∀ low ∈ (units character).head?, ¬ Paired high low := by
  have bounds := toNat_bounds character
  unfold units Paired
  split <;> rintro low first <;> obtain rfl := Option.some.inj first <;> omega

theorem characters_tokenUnits (pieces : List Piece) :
    characters ((tokenUnits pieces).map .escaped) = characters pieces := by
  induction pieces using characters.induct with
  | case1 => rfl
  | case2 character rest hypothesis =>
    rw [tokenUnits, List.map_append, characters_units, hypothesis, characters]
  | case3 high low rest paired hypothesis =>
    simp only [tokenUnits, List.map_cons, characters, if_pos paired, hypothesis]
  | case4 high low rest unpaired hypothesis =>
    simp only [tokenUnits, List.map_cons, characters, if_neg unpaired] at hypothesis ⊢
    rw [hypothesis]
  | case5 unit rest last hypothesis =>
    rw [tokenUnits, List.map_cons]
    cases rest with
    | nil => rfl
    | cons piece rest =>
      cases piece with
      | escaped low => exact absurd rfl (last low rest)
      | plain character =>
        have first := not_paired_units unit character
        rw [characters.eq_4 _ _ last, ← hypothesis, tokenUnits]
        cases split : units character with
        | nil => exact absurd split (by unfold units; split <;> simp)
        | cons low others =>
          rw [split] at first
          rw [List.cons_append, List.map_cons, characters, if_neg (first low rfl)]

theorem text_of_tokenUnits {pieces : List Piece} {value : String}
    (same : tokenUnits pieces = textUnits value) : text pieces = value := by
  have whole : ∀ rest : List Char,
      characters ((rest.flatMap units).map .escaped) = rest := by
    intro rest
    induction rest with
    | nil => rfl
    | cons character rest hypothesis =>
      rw [List.flatMap_cons, List.map_append, characters_units, hypothesis]
  rw [text, ← characters_tokenUnits, same, textUnits, whole, String.ofList_toList]

theorem textUnits_inj {value other : String} (same : textUnits value = textUnits other) :
    value = other := by
  have plain : ∀ rest : List Char, tokenUnits (rest.map .plain) = rest.flatMap units := by
    intro rest
    induction rest with
    | nil => rfl
    | cons character rest hypothesis =>
      rw [List.map_cons, tokenUnits, hypothesis, List.flatMap_cons]
  have own : text (value.toList.map .plain) = value := text_of_tokenUnits (plain _)
  exact own.symm.trans (text_of_tokenUnits ((plain _).trans same))

/-! ### Reading strings back -/

theorem hexDigit_digitChar {digit : Nat} (small : digit < 16) :
    hexDigit (Nat.digitChar digit) = some digit := by
  have all : ∀ digit < 16, hexDigit (Nat.digitChar digit) = some digit := by decide
  exact all digit small

theorem readPieces_short {kind other : Char} (notLong : kind ≠ 'u')
    (escapes : shortEscape kind = some other) (rest : List Char) :
    readPieces ('\x5c' :: kind :: rest) =
      (readPieces rest).map fun read => ([.plain other] ++ read.1, read.2) := by
  rw [readPieces]
  simp only [Char.reduceEq, if_false, if_true]
  · rw [escapes]
    cases readPieces rest <;> rfl
  · intro first second third fourth others long
    exact absurd long notLong

theorem readPieces_longEscape (small : unit < 0x10000) (rest : List Char) :
    readPieces (longEscape unit ++ rest) =
      (readPieces rest).map fun read => (.escaped unit :: read.1, read.2) := by
  have sum : unit / 4096 * 4096 + unit / 256 % 16 * 256 + unit / 16 % 16 * 16 + unit % 16 =
      unit := by omega
  simp only [longEscape, List.cons_append, List.nil_append]
  rw [readPieces]
  simp only [Char.reduceEq, if_false, if_true, hexDigit_digitChar (show unit / 4096 < 16 by omega),
    hexDigit_digitChar (Nat.mod_lt _ (show 0 < 16 by decide))]
  cases readPieces rest with
  | none => rfl
  | some read => exact congrArg (fun code => some (Piece.escaped code :: read.1, read.2)) sum

theorem readPieces_longEscapes {codes : List Nat} (small : ∀ unit ∈ codes, unit < 0x10000)
    (rest : List Char) :
    readPieces (codes.flatMap longEscape ++ rest) =
      (readPieces rest).map fun read => (codes.map .escaped ++ read.1, read.2) := by
  induction codes with
  | nil =>
    rw [List.flatMap_nil, List.nil_append]
    cases readPieces rest <;> rfl
  | cons unit codes hypothesis =>
    rw [List.flatMap_cons, List.append_assoc, readPieces_longEscape (small unit List.mem_cons_self),
      hypothesis fun other listed => small other (List.mem_cons_of_mem _ listed)]
    cases readPieces rest <;> rfl

variable {character : Char}

theorem readPieces_plain (notQuote : character ≠ '\x22') (notEscape : character ≠ '\x5c')
    (notControl : ¬ character.toNat < 0x20) (rest : List Char) :
    readPieces (character :: rest) =
      (readPieces rest).map fun read => ([.plain character] ++ read.1, read.2) := by
  rw [readPieces.eq_def]
  simp only [if_neg notQuote, if_neg notEscape, if_neg notControl]
  cases readPieces rest <;> rfl

variable {style : Style}

theorem quote_short (short : character ∈ shortEscapes) :
    quote style character = [.plain character] := by
  rw [quote, style.others character short, if_neg Bool.false_ne_true]

theorem readPieces_escape (character : Char) (rest : List Char) :
    readPieces (escape style character ++ rest) =
      (readPieces rest).map fun read => (quote style character ++ read.1, read.2) := by
  unfold escape
  split_ifs with own backspace feed line carriage tab long
  · rw [quote_short (by rcases own with own | own <;> rw [own] <;> decide)]
    refine readPieces_short ?_ ?_ rest
    · rcases own with own | own <;> rw [own] <;> decide
    · rcases own with own | own <;> rw [own] <;> decide
  · rw [backspace, quote_short (by decide)]
    exact readPieces_short (by decide) (by decide) rest
  · rw [feed, quote_short (by decide)]
    exact readPieces_short (by decide) (by decide) rest
  · rw [line, quote_short (by decide)]
    exact readPieces_short (by decide) (by decide) rest
  · rw [carriage, quote_short (by decide)]
    exact readPieces_short (by decide) (by decide) rest
  · rw [tab, quote_short (by decide)]
    exact readPieces_short (by decide) (by decide) rest
  · rw [quote, if_pos long]
    exact readPieces_longEscapes (units_lt character) rest
  · rw [quote, if_neg long]
    refine readPieces_plain (fun quote => own (Or.inl quote)) (fun mark => own (Or.inr mark)) ?_ rest
    intro control
    refine long (style.controls character control ?_)
    simp only [shortEscapes, List.mem_cons, List.not_mem_nil, backspace, feed, line, carriage, tab,
      or_false]
    exact own

/-- The reader takes a written string off the front of a text, after its opening quote. -/
theorem readPieces_quoted (value : List Char) (rest : List Char) :
    readPieces (value.flatMap (escape style) ++ '\x22' :: rest) =
      some (value.flatMap (quote style), rest) := by
  induction value with
  | nil =>
    rw [List.flatMap_nil, List.nil_append, readPieces.eq_def]
    exact if_pos rfl
  | cons character value hypothesis =>
    rw [List.flatMap_cons, List.append_assoc, readPieces_escape, hypothesis,
      List.flatMap_cons]
    rfl

theorem characters_quote (value : List Char) :
    characters (value.flatMap (quote style)) = value := by
  induction value with
  | nil => rfl
  | cons character value hypothesis =>
    rw [List.flatMap_cons, quote]
    split
    · rw [characters_units, hypothesis]
    · rw [List.singleton_append, characters, hypothesis]

theorem tokenUnits_quoted (value : String) : tokenUnits (quoted style value) = textUnits value := by
  have escaped : ∀ (codes : List Nat) (rest : List Piece),
      tokenUnits (codes.map .escaped ++ rest) = codes ++ tokenUnits rest := by
    intro codes rest
    induction codes with
    | nil => rfl
    | cons code codes hypothesis =>
      exact congrArg (code :: ·) hypothesis
  unfold quoted textUnits
  induction value.toList with
  | nil => rfl
  | cons character rest hypothesis =>
    rw [List.flatMap_cons, List.flatMap_cons, ← hypothesis, quote]
    split
    · exact escaped _ _
    · rfl

@[simp] theorem text_quoted (value : String) : text (quoted style value) = value := by
  rw [text, quoted, characters_quote, String.ofList_toList]

theorem names_quoted {Other : Type} (number : Numeral → Other)
    (members : List (String × Printed)) :
    (Value.mapMembers (quoted style) number members).map (text ·.1) = members.map (·.1) := by
  induction members with
  | nil => rfl
  | cons member members hypothesis =>
    rw [Value.mapMembers, List.map_cons, List.map_cons, text_quoted, hypothesis]

/-! ### Reading numbers back -/

variable {rest : List Char} {first : Char} {members : List (String × Printed)}
  {items : List Printed}

theorem toDigits_eq_zero_cons {number : Nat} (leading : Nat.toDigits 10 number = '0' :: rest) :
    number = 0 := by
  induction number using Nat.strongRecOn generalizing rest with
  | ind number hypothesis =>
    rcases Nat.lt_or_ge number 10 with small | large
    · have all : ∀ digit < 10, Nat.digitChar digit = '0' → digit = 0 := by decide
      rw [Nat.toDigits_of_lt_base small] at leading
      exact all number small (List.cons.inj leading).1
    · rw [Nat.toDigits_of_base_le (by decide) large] at leading
      obtain ⟨digit, others, word, -⟩ := toDigits_eq_cons (number / 10)
      rw [word, List.cons_append] at leading
      rw [(List.cons.inj leading).1] at word
      have zero := hypothesis (number / 10) (by omega) word
      omega

theorem readInteger_toDigits (number : Nat) (stops : NoDigit rest) :
    readInteger (Nat.toDigits 10 number ++ rest) = some (Nat.toDigits 10 number, rest) := by
  obtain ⟨digit, others, word, isDigit⟩ := toDigits_eq_cons number
  rw [word, List.cons_append, readInteger]
  by_cases zero : digit = '0'
  · have none : number = 0 := toDigits_eq_zero_cons (word.trans (by rw [zero]))
    rw [none] at word
    obtain ⟨rfl, rfl⟩ := List.cons.inj word
    rfl
  · have digits : ∀ symbol ∈ others, symbol.isDigit = true := fun symbol member =>
      Nat.isDigit_of_mem_toDigits (by decide) (by decide) (word ▸ List.mem_cons_of_mem _ member)
    rw [if_neg zero, if_pos isDigit, List.takeWhile_append_of_pos digits,
      List.dropWhile_append_of_pos digits, takeWhile_of_noDigit stops, List.append_nil,
      dropWhile_of_noDigit stops]

theorem readNumber_integer (number : Int) (ends : EndsNumber rest) :
    readNumber (integer number ++ rest) = some (integer number, rest) := by
  have fraction : readFraction rest = some ([], rest) := by
    cases rest with
    | nil => rfl
    | cons symbol others =>
      rw [readFraction]
      rintro rest same
      exact ends.2 symbol rfl (by rw [(List.cons.inj same).1]; decide)
  have exponent : readExponent rest = some ([], rest) := by
    cases rest with
    | nil => rfl
    | cons symbol others =>
      rw [readExponent.eq_def]
      refine if_neg ?_
      rintro (rfl | rfl)
      · exact ends.2 'e' rfl (by decide)
      · exact ends.2 'E' rfl (by decide)
  cases number with
  | ofNat number =>
    obtain ⟨digit, others, word, isDigit⟩ := toDigits_eq_cons number
    have unsigned : readSign (Nat.toDigits 10 number ++ rest) =
        ([], Nat.toDigits 10 number ++ rest) := by
      rw [word, List.cons_append, readSign]
      rintro others same
      rw [(List.cons.inj same).1] at isDigit
      exact absurd isDigit (by decide)
    rw [integer, readNumber, unsigned]
    simp only [readInteger_toDigits number ends.1, fraction, exponent, Option.bind_eq_bind,
      Option.bind_some, List.append_nil, List.nil_append]
  | negSucc number =>
    rw [integer, List.cons_append, readNumber, readSign]
    simp only [readInteger_toDigits (number + 1) ends.1, fraction, exponent, Option.bind_eq_bind,
      Option.bind_some, List.append_nil, List.cons_append, List.nil_append]

/-- An integer as a literal. -/
def Numeral.ofInt (number : Int) : Numeral :=
  ⟨integer number, integer_eq_cons number, fun _ => readNumber_integer number⟩

/-! ### Reading values back -/

/-- A character that starts a value. -/
def Starts (first : Char) : Prop :=
  first ∈ ['\x22', '\x5b', '\x7b', 't', 'f', 'n', '-'] ∨ first.isDigit = true

theorem write_eq_cons (style : Style) (value : Printed) :
    ∃ first rest, write style value = first :: rest ∧ Starts first := by
  cases value with
  | null => exact ⟨_, _, rfl, Or.inl (by decide)⟩
  | bool value => cases value <;> exact ⟨_, _, rfl, Or.inl (by decide)⟩
  | number value =>
    obtain ⟨first, rest, word, minus | digit⟩ := value.starts
    · exact ⟨first, rest, word, Or.inl (by rw [minus]; decide)⟩
    · exact ⟨first, rest, word, Or.inr digit⟩
  | string value => exact ⟨_, _, rfl, Or.inl (by decide)⟩
  | array items => exact ⟨_, _, rfl, Or.inl (by decide)⟩
  | object members => exact ⟨_, _, rfl, Or.inl (by decide)⟩

theorem Starts.ne {other : Char} (starts : Starts first)
    (different : other ∉ ['\x22', '\x5b', '\x7b', 't', 'f', 'n', '-'])
    (notDigit : other.isDigit = false) : first ≠ other := by
  rintro rfl
  rcases starts with listed | digit
  · exact different listed
  · exact absurd (notDigit.symm.trans digit) Bool.false_ne_true

theorem isSpace_of_starts (starts : Starts first) : isSpace first = false := by
  have blanks : ∀ other ∈ [' ', '\t', '\n', '\r'], first ≠ other := by
    have all : ∀ other ∈ [' ', '\t', '\n', '\r'],
        other ∉ ['\x22', '\x5b', '\x7b', 't', 'f', 'n', '-'] ∧ other.isDigit = false :=
      forall_mem_of_all (by decide)
    exact fun other listed => starts.ne (all other listed).1 (all other listed).2
  simp only [List.forall_mem_cons, List.not_mem_nil, false_implies, implies_true, and_true] at blanks
  simp only [isSpace, blanks, decide_false, Bool.or_self]

theorem skipSpace_cons (visible : isSpace first = false) (rest : List Char) :
    skipSpace (first :: rest) = first :: rest := by
  rw [skipSpace, List.dropWhile_cons, visible, if_neg Bool.false_ne_true]

theorem endsNumber_cons (listed : first ∈ [',', '\x5d', '\x7d', '\n']) (rest : List Char) :
    EndsNumber (first :: rest) := by
  have all : ∀ symbol ∈ [',', '\x5d', '\x7d', '\n'],
      symbol.isDigit = false ∧ symbol ∉ ['.', 'e', 'E'] := forall_mem_of_all (by decide)
  constructor
  · intro digit others same
    rw [← (List.cons.inj same).1]
    exact (all first listed).1
  · intro symbol head
    rw [← Option.some.inj head]
    exact (all first listed).2

/-- The reader takes the printed value off the front of every text that does not continue it. -/
def ReadsBack (style : Style) (value : Printed) : Prop :=
  ∀ fuel depth rest, 3 * (write style value).length ≤ fuel → value.depth ≤ depth → EndsNumber rest →
    readValue fuel depth (write style value ++ rest) = some (value.quoted style, rest)

theorem readMoreItems_write {item : Printed}
    (each : ∀ other ∈ item :: items, ReadsBack style other) {fuel depth : Nat} (rest : List Char)
    (enough : 3 * (writeItems style (item :: items)).length ≤ fuel)
    (shallow : Value.itemsDepth (item :: items) ≤ depth) :
    readMoreItems fuel depth (writeItems style (item :: items) ++ rest) =
      some (Value.mapItems (quoted style) Numeral.literal (item :: items), rest) := by
  induction items generalizing item fuel with
  | nil =>
    rw [writeItems, List.length_append] at enough
    obtain ⟨less, rfl⟩ : ∃ less, fuel = less + 1 :=
      ⟨fuel - 1, by simp [writeMoreItems] at enough; omega⟩
    have first := each item List.mem_cons_self less depth ('\x5d' :: rest)
      (by simp [writeMoreItems] at enough; omega) (Nat.le_trans (Nat.le_max_left _ _) shallow)
      (endsNumber_cons (by decide) _)
    rw [writeItems, writeMoreItems, readMoreItems, List.append_assoc, List.singleton_append, first]
    rfl
  | cons next items hypothesis =>
    rw [writeItems, List.length_append] at enough
    have more : writeMoreItems style (next :: items) = ',' :: writeItems style (next :: items) := rfl
    rw [more, List.length_cons] at enough
    obtain ⟨less, rfl⟩ : ∃ less, fuel = less + 1 := ⟨fuel - 1, by omega⟩
    have first := each item List.mem_cons_self less depth
      (',' :: (writeItems style (next :: items) ++ rest)) (by omega)
      (Nat.le_trans (Nat.le_max_left _ _) shallow) (endsNumber_cons (by decide) _)
    have others := @hypothesis next
      (fun other member => each other (List.mem_cons_of_mem _ member)) less (by omega)
      (Nat.le_trans (Nat.le_max_right _ _) shallow)
    rw [writeItems, more, readMoreItems, List.append_assoc, List.cons_append, first]
    show (do let (items, rest) ← readMoreItems less depth (writeItems style (next :: items) ++ rest)
             some (item.quoted style :: items, rest)) = _
    rw [others]
    rfl

theorem readMoreMembers_write {member : String × Printed}
    (each : ∀ other ∈ member :: members, ReadsBack style other.2) {fuel depth : Nat}
    (rest : List Char) (enough : 3 * (writeMembers style (member :: members)).length ≤ fuel)
    (shallow : Value.membersDepth (member :: members) ≤ depth) :
    readMoreMembers fuel depth (writeMembers style (member :: members) ++ rest) =
      some (Value.mapMembers (quoted style) Numeral.literal (member :: members), rest) := by
  induction members generalizing member fuel with
  | nil =>
    obtain ⟨name, value⟩ := member
    rw [writeMembers, List.length_append, List.length_cons, List.length_append] at enough
    obtain ⟨less, rfl⟩ : ∃ less, fuel = less + 1 := ⟨fuel - 1, by omega⟩
    have back : ReadsBack style value := each (name, value) List.mem_cons_self
    have first := back less depth ('\x7d' :: rest) (by omega)
      (Nat.le_trans (Nat.le_max_left _ _) shallow) (endsNumber_cons (by decide) _)
    have text : writeMembers style [(name, value)] ++ rest =
        '\x22' :: (name.toList.flatMap (escape style) ++ '\x22' ::
          (':' :: (write style value ++ ('\x7d' :: rest)))) := by
      simp only [writeMembers, writeString, writeMoreMembers, List.cons_append, List.append_assoc,
        List.nil_append]
    rw [text, readMoreMembers, skipSpace_cons (by decide)]
    simp only [readPieces_quoted, Option.bind_eq_bind, Option.bind_some,
      skipSpace_cons (show isSpace ':' = false by decide), first,
      skipSpace_cons (show isSpace '\x7d' = false by decide)]
    rfl
  | cons next members hypothesis =>
    obtain ⟨name, value⟩ := member
    have more : writeMoreMembers style (next :: members) = ',' :: writeMembers style (next :: members) := rfl
    rw [writeMembers, List.length_append, List.length_cons, List.length_append, more,
      List.length_cons] at enough
    obtain ⟨less, rfl⟩ : ∃ less, fuel = less + 1 := ⟨fuel - 1, by omega⟩
    have back : ReadsBack style value := each (name, value) List.mem_cons_self
    have first := back less depth (',' :: (writeMembers style (next :: members) ++ rest))
      (by omega) (Nat.le_trans (Nat.le_max_left _ _) shallow) (endsNumber_cons (by decide) _)
    have others := @hypothesis next
      (fun other member => each other (List.mem_cons_of_mem _ member)) less (by omega)
      (Nat.le_trans (Nat.le_max_right _ _) shallow)
    have text : writeMembers style ((name, value) :: next :: members) ++ rest =
        '\x22' :: (name.toList.flatMap (escape style) ++ '\x22' ::
          (':' :: (write style value ++ (',' :: (writeMembers style (next :: members) ++ rest))))) := by
      rw [writeMembers, more]
      simp only [writeString, List.cons_append, List.append_assoc, List.nil_append]
    rw [text, readMoreMembers, skipSpace_cons (by decide)]
    simp only [readPieces_quoted, Option.bind_eq_bind, Option.bind_some,
      skipSpace_cons (show isSpace ':' = false by decide), first,
      skipSpace_cons (show isSpace ',' = false by decide), others]
    rfl

theorem readValue_number (value : Numeral) (fuel depth : Nat) (ends : EndsNumber rest) :
    readValue (fuel + 1) depth (value.literal ++ rest) = some (.number value.literal, rest) := by
  have read := value.reads rest ends
  obtain ⟨first, others, word, numeric⟩ := value.starts
  have other : ∀ symbol ∈ ['\x22', '\x5b', '\x7b', 't', 'f', 'n'], first ≠ symbol := by
    have all : ∀ symbol ∈ ['\x22', '\x5b', '\x7b', 't', 'f', 'n'],
        symbol ≠ '-' ∧ symbol.isDigit = false := forall_mem_of_all (by decide)
    rintro symbol listed rfl
    rcases numeric with minus | digit
    · exact (all first listed).1 minus
    · exact absurd ((all first listed).2.symm.trans digit) Bool.false_ne_true
  have starts : Starts first := by
    rcases numeric with minus | digit
    · exact Or.inl (by rw [minus]; decide)
    · exact Or.inr digit
  simp only [List.forall_mem_cons, List.not_mem_nil, false_implies, implies_true, and_true] at other
  rw [word, List.cons_append] at read ⊢
  simp only [readValue, skipSpace_cons (isSpace_of_starts starts), other, if_false, read]
  rfl

theorem readItems_cons (visible : isSpace first = false) (continues : first ≠ '\x5d')
    (fuel depth : Nat) (rest : List Char) :
    readItems (fuel + 1) depth (first :: rest) =
      (readMoreItems fuel depth (first :: rest)).map fun read => (.array read.1, read.2) := by
  rw [readItems, skipSpace_cons visible]
  split
  · rename_i same
    exact absurd (List.cons.inj same).1 continues
  · cases readMoreItems fuel depth (first :: rest) <;> rfl

theorem readMembers_cons (visible : isSpace first = false) (continues : first ≠ '\x7d')
    (fuel depth : Nat) (rest : List Char) :
    readMembers (fuel + 1) depth (first :: rest) =
      (readMoreMembers fuel depth (first :: rest)).map fun read => (.object read.1, read.2) := by
  rw [readMembers, skipSpace_cons visible]
  split
  · rename_i same
    exact absurd (List.cons.inj same).1 continues
  · cases readMoreMembers fuel depth (first :: rest) <;> rfl

theorem readsBack (value : Printed) : ReadsBack style value := by
  induction value using Value.induction with
  | null =>
    rintro (_ | fuel) depth rest enough shallow ends
    · exact absurd enough (by simp [write])
    · rfl
  | bool value =>
    rintro (_ | fuel) depth rest enough shallow ends
    · cases value <;> exact absurd enough (by simp [write])
    · cases value <;> rfl
  | number value =>
    rintro (_ | fuel) depth rest enough shallow ends
    · obtain ⟨first, others, word, -⟩ := value.starts
      rw [write, word, List.length_cons] at enough
      omega
    · exact readValue_number value fuel depth ends
  | string value =>
    rintro (_ | fuel) depth rest enough shallow ends
    · exact absurd enough (by simp [write, writeString])
    · have text : write style (.string value) ++ rest =
          '\x22' :: (value.toList.flatMap (escape style) ++ '\x22' :: rest) := by
        rw [write, writeString, List.cons_append, List.append_assoc]
        rfl
      rw [text, readValue, skipSpace_cons (by decide)]
      simp only [if_true, readPieces_quoted]
      rfl
  | array items each =>
    intro fuel depth rest enough shallow ends
    rw [write, List.length_cons] at enough
    rw [Value.depth] at shallow
    obtain ⟨less, rfl⟩ : ∃ less, fuel = less + 2 := ⟨fuel - 2, by omega⟩
    obtain ⟨inner, rfl⟩ : ∃ inner, depth = inner + 1 := ⟨depth - 1, by omega⟩
    cases items with
    | nil => rfl
    | cons item items =>
      have read := readMoreItems_write each rest (show _ ≤ less by omega)
        (Nat.le_of_succ_le_succ shallow)
      obtain ⟨first, others, word, starts⟩ := write_eq_cons style item
      have text : writeItems style (item :: items) ++ rest =
          first :: (others ++ (writeMoreItems style items ++ rest)) := by
        rw [writeItems, word, List.append_assoc, List.cons_append]
      have entered : readValue (less + 2) (inner + 1) (write style (.array (item :: items)) ++ rest) =
          readItems (less + 1) inner (writeItems style (item :: items) ++ rest) := rfl
      rw [text] at read entered
      rw [entered, readItems_cons (isSpace_of_starts starts) (starts.ne (by decide) (by decide)),
        read]
      rfl
  | object members each =>
    intro fuel depth rest enough shallow ends
    rw [write, List.length_cons] at enough
    rw [Value.depth] at shallow
    obtain ⟨less, rfl⟩ : ∃ less, fuel = less + 2 := ⟨fuel - 2, by omega⟩
    obtain ⟨inner, rfl⟩ : ∃ inner, depth = inner + 1 := ⟨depth - 1, by omega⟩
    cases members with
    | nil => rfl
    | cons member members =>
      have read := readMoreMembers_write each rest (show _ ≤ less by omega)
        (Nat.le_of_succ_le_succ shallow)
      have entered : readValue (less + 2) (inner + 1) (write style (.object (member :: members)) ++ rest) =
          readMembers (less + 1) inner (writeMembers style (member :: members) ++ rest) := rfl
      obtain ⟨others, text⟩ : ∃ others, writeMembers style (member :: members) ++ rest =
          '\x22' :: others := ⟨_, rfl⟩
      rw [text] at read entered
      rw [entered, readMembers_cons (by decide) (by decide), read]
      rfl

theorem itemsDepth_le (each : ∀ item ∈ items, item.depth ≤ (write style item).length) :
    Value.itemsDepth items < (writeItems style items).length ∧
      Value.itemsDepth items < (writeMoreItems style items).length := by
  induction items with
  | nil => exact ⟨Nat.zero_lt_one, Nat.zero_lt_one⟩
  | cons item items hypothesis =>
    have first := each item List.mem_cons_self
    have rest := (hypothesis fun other listed =>
      each other (List.mem_cons_of_mem _ listed)).2
    rw [Value.itemsDepth, writeItems, writeMoreItems, List.length_append, List.length_cons,
      List.length_append]
    omega

theorem membersDepth_le
    (each : ∀ member ∈ members, member.2.depth ≤ (write style member.2).length) :
    Value.membersDepth members < (writeMembers style members).length ∧
      Value.membersDepth members < (writeMoreMembers style members).length := by
  induction members with
  | nil => exact ⟨Nat.zero_lt_one, Nat.zero_lt_one⟩
  | cons member members hypothesis =>
    obtain ⟨name, value⟩ := member
    have first : value.depth ≤ (write style value).length := each (name, value) List.mem_cons_self
    have rest := (hypothesis fun other listed =>
      each other (List.mem_cons_of_mem _ listed)).2
    rw [Value.membersDepth, writeMembers, writeMoreMembers, List.length_append, List.length_cons,
      List.length_append, List.length_cons, List.length_append, List.length_cons,
      List.length_append]
    omega

theorem depth_le_length_write (value : Printed) : value.depth ≤ (write style value).length := by
  induction value using Value.induction with
  | null | bool | number | string => exact Nat.zero_le _
  | array items each => exact Nat.le_succ_of_le (itemsDepth_le each).1
  | object members each => exact Nat.le_succ_of_le (membersDepth_le each).1

/-- A printed value, with a line break or without, is parsed as the value. -/
theorem parse_write {value : Printed} {limit : Nat} (shallow : value.depth ≤ limit)
    (blank : skipSpace rest = []) (ends : EndsNumber rest) :
    parse limit (write style value ++ rest) = some (value.quoted style) := by
  have enough : 3 * (write style value).length ≤ fuelFor (write style value ++ rest) := by
    rw [fuelFor, List.length_append]
    omega
  rw [parse, readsBack value _ limit rest enough shallow ends]
  exact if_pos blank

theorem write_injective : Function.Injective (write style) := by
  intro first second same
  have parsed : ∀ value : Printed, value.depth ≤ max first.depth second.depth →
      parse (max first.depth second.depth) (write style value) = some (value.quoted style) := by
    intro value shallow
    have parsed := @parse_write style [] value _ shallow rfl ⟨nofun, nofun⟩
    rwa [List.append_nil] at parsed
  have equal := parsed first (Nat.le_max_left ..)
  rw [same, parsed second (Nat.le_max_right ..)] at equal
  have texts : Function.Injective (quoted style) :=
    Function.LeftInverse.injective text_quoted
  have numbers : Function.Injective Numeral.literal := by
    rintro ⟨first, _, _⟩ ⟨second, _, _⟩ rfl
    rfl
  exact (Value.map_injective texts numbers (Option.some.inj equal)).symm

end JsonText
