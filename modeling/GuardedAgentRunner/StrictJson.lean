/-
This file models the strict decoding of JSON files: `RejectDuplicateKeys`, which
walks the tokens of a payload with one set of names for each object, and the
decoder of `encoding/json` with unknown fields disallowed, which is asked for one
value and then has to find the end of the payload. A record that was marshalled is
decoded as itself.
-/

import GuardedAgentRunner.Library.StructDecode
import GuardedAgentRunner.Library.Utf8
import GuardedAgentRunner.Records

namespace GuardedAgentRunner

open JsonText StructDecode

/-! ### Fields of records -/

/-- The types of fields that are no records, lists or maps. A string field with `omitempty` is
left out when it is empty. -/
inductive Kind where
  | string
  | optionalString
  | int64
  | uint64
  | bool
  | time
  | float64
  | raw
deriving DecidableEq

/-- The value of such a field. A `float64` is kept as its literal, and nothing is kept of a
`json.RawMessage`. -/
inductive Scalar where
  | string (value : String)
  | int64 (value : Int)
  | uint64 (value : Nat)
  | bool (value : Bool)
  | time (value : Time)
  | float64 (literal : List Char)
  | raw
deriving DecidableEq

/-- `strconv.ParseInt` on the digits of a number literal. -/
def parseDigits (negative : Bool) (digits : List Char) : Option Int :=
  let magnitude : Int := Nat.ofDigitChars 10 digits 0
  let value := if negative then -magnitude else magnitude
  if digits ≠ [] ∧ digits.all Char.isDigit ∧ Int64Range value then some value else none

/-- `strconv.ParseInt` on a number literal. -/
def parseInt64 : List Char → Option Int
  | '-' :: digits => parseDigits true digits
  | digits => parseDigits false digits

/-- `strconv.ParseUint` on a number literal. -/
def parseUint64 (literal : List Char) : Option Nat :=
  let value := Nat.ofDigitChars 10 literal 0
  if literal ≠ [] ∧ literal.all Char.isDigit ∧ value < 2 ^ 64 then some value else none

/-- The digits of a number literal as a whole number, and the power of ten it is multiplied by. -/
def decimalParts (literal : List Char) : Nat × Int :=
  let mantissa := literal.takeWhile fun symbol => symbol ≠ 'e' ∧ symbol ≠ 'E'
  let exponent := (literal.dropWhile fun symbol => symbol ≠ 'e' ∧ symbol ≠ 'E').drop 1
  let power : Int := Nat.ofDigitChars 10 (exponent.filter Char.isDigit) 0
  let decimals := (mantissa.dropWhile (· ≠ '.')).drop 1
  (Nat.ofDigitChars 10 (mantissa.filter Char.isDigit) 0,
    (if exponent.head? = some '-' then -power else power) - decimals.length)

/-- `strconv.ParseFloat` does not round the literal to infinity. -/
def Float64Range (literal : List Char) : Prop :=
  let (digits, power) := decimalParts literal
  digits * 10 ^ power.toNat < (2 ^ 1024 - 2 ^ 970) * 10 ^ (-power).toNat
deriving Decidable

/-- How `encoding/json` reads and prints fields. -/
def leaves : Leaves Kind Scalar where
  zero
    | .string => .string ""
    | .optionalString => .string ""
    | .int64 => .int64 0
    | .uint64 => .uint64 0
    | .bool => .bool false
    | .time => .time 0
    | .float64 => .float64 ['0']
    | .raw => .raw
  read
    | .raw, _ => some .raw
    | .string, .string pieces => some (.string (text pieces))
    | .optionalString, .string pieces => some (.string (text pieces))
    | .int64, .number literal => (parseInt64 literal).map .int64
    | .uint64, .number literal => (parseUint64 literal).map .uint64
    | .bool, .bool value => some (.bool value)
    | .time, .string pieces => (Time.parse (text pieces)).map .time
    | .float64, .number literal =>
      if Float64Range literal then some (.float64 literal) else none
    | _, _ => none
  write
    | .string, .string value => some (.string value)
    | .optionalString, .string value => if value = "" then none else some (.string value)
    | .int64, .int64 value => some (.number (.ofInt value))
    | .uint64, .uint64 value => some (.number (.ofInt value))
    | .bool, .bool value => some (.bool value)
    | .time, .time value => some (.string value.formatRFC3339Nano)
    | _, _ => some .null

/-- The strings of `json.Marshal`: control characters, the characters that are special in HTML
and the line separators of JavaScript are written with hexadecimal digits. -/
def html : Style where
  long character := character ∈ ['<', '>', '&', '\u2028', '\u2029'] ||
    character.toNat < 0x20 && character ∉ shortEscapes
  controls character control notShort := by
    rw [Bool.or_eq_true, Bool.and_eq_true]
    exact Or.inr ⟨decide_eq_true control, decide_eq_true notShort⟩
  others := forall_mem_of_all (by decide)

/-! ### Tokens -/

inductive Delim where
  | brace
  | bracket
deriving DecidableEq

/-- The tokens `json.Decoder.Token` delivers. -/
inductive Token where
  | opening (delim : Delim)
  | closing (delim : Delim)
  | string (value : String)
  | other
deriving DecidableEq

mutual

/-- The token stream of a value. -/
def tokens : Parsed → List Token
  | .string pieces => [.string (text pieces)]
  | .array items => .opening .bracket :: (itemTokens items ++ [.closing .bracket])
  | .object members => .opening .brace :: (memberTokens members ++ [.closing .brace])
  | _ => [.other]

def itemTokens : List Parsed → List Token
  | [] => []
  | item :: items => tokens item ++ itemTokens items

def memberTokens : List (List Piece × Parsed) → List Token
  | [] => []
  | (name, value) :: members => .string (text name) :: (tokens value ++ memberTokens members)

end

/-- `json.Decoder.More`: the next token closes nothing. -/
def more : List Token → Bool
  | [] => false
  | .closing _ :: _ => false
  | _ => true

mutual

/-- `consumeValue`: the tokens that are left. -/
def consumeValue : Nat → List Token → Option (List Token)
  | 0, _ => none
  | _, [] => none
  | fuel + 1, .opening .brace :: rest => consumeMembers fuel [] rest
  | fuel + 1, .opening .bracket :: rest => consumeItems fuel rest
  | _, .closing _ :: _ => none
  | _, _ :: rest => some rest
termination_by structural fuel => fuel

/-- The loop over the members of an object, with the names seen. -/
def consumeMembers : Nat → List String → List Token → Option (List Token)
  | 0, _, _ => none
  | fuel + 1, seen, rest =>
    if more rest then
      match rest with
      | .string key :: rest =>
        if key ∈ seen then none
        else (consumeValue fuel rest).bind (consumeMembers fuel (key :: seen))
      | _ => none
    else rest.tail?
termination_by structural fuel => fuel

def consumeItems : Nat → List Token → Option (List Token)
  | 0, _ => none
  | fuel + 1, rest =>
    if more rest then (consumeValue fuel rest).bind (consumeItems fuel) else rest.tail?
termination_by structural fuel => fuel

end

/-- `RejectDuplicateKeys`. The decoder delivers the tokens of a payload that is one value and
white space; on any other payload it fails, or finds a token after the first value. -/
def rejectDuplicateKeys (payload : List UInt8) : Option Unit := do
  let characters := Utf8.decodeLossy payload
  let value ← JsonText.parse characters.length characters
  let rest ← consumeValue (tokens value).length (tokens value)
  if rest = [] then some () else none

/-! ### What the walk accepts -/

theorem more_tokens (value : Parsed) (rest : List Token) : more (tokens value ++ rest) = true := by
  cases value <;> rfl

/-- A walk that ends before the given tokens exactly if the condition holds, and fails
otherwise. -/
def Answers (condition : Prop) (rest : List Token) (walk : Option (List Token)) : Prop :=
  (condition → walk = some rest) ∧ (¬ condition → walk = none)

variable {walk : Option (List Token)} {rest : List Token}

theorem Answers.bind {first second : Prop} {middle : List Token}
    {next : List Token → Option (List Token)} (before : Answers first middle walk)
    (after : Answers second rest (next middle)) :
    Answers (first ∧ second) rest (walk.bind next) := by
  by_cases holds : first
  · rw [before.1 holds]
    exact ⟨fun both => after.1 both.2, fun neither => after.2 fun also => neither ⟨holds, also⟩⟩
  · rw [before.2 holds]
    exact ⟨fun both => absurd both.1 holds, fun _ => rfl⟩

theorem Answers.congr {first second : Prop} (answers : Answers first rest walk)
    (same : first ↔ second) : Answers second rest walk :=
  ⟨fun holds => answers.1 (same.mpr holds), fun fails => answers.2 fun holds => fails (same.mp holds)⟩

/-- The walk passes a value without repeated names and refuses any other. -/
def Walked (value : Parsed) : Prop :=
  ∀ fuel rest, (tokens value).length ≤ fuel →
    Answers (UniqueNames value) rest (consumeValue fuel (tokens value ++ rest))

theorem tokens_ne_nil (value : Parsed) : 0 < (tokens value).length := by
  cases value <;> exact Nat.succ_pos _

variable {fuel : Nat}

theorem consumeItems_tokens {items : List Parsed} (each : ∀ item ∈ items, Walked item)
    (rest : List Token) (enough : (itemTokens items).length < fuel) :
    Answers (UniqueItems items) rest
      (consumeItems fuel (itemTokens items ++ .closing .bracket :: rest)) := by
  induction items generalizing fuel with
  | nil =>
    obtain ⟨less, rfl⟩ : ∃ less, fuel = less + 1 := ⟨fuel - 1, by omega⟩
    exact ⟨fun _ => rfl, fun repeated => absurd trivial repeated⟩
  | cons item items hypothesis =>
    rw [itemTokens, List.length_append] at enough
    have positive := tokens_ne_nil item
    obtain ⟨less, rfl⟩ : ∃ less, fuel = less + 1 := ⟨fuel - 1, by omega⟩
    rw [itemTokens, List.append_assoc, consumeItems, if_pos (more_tokens item _)]
    exact (each item List.mem_cons_self less _ (by omega)).bind
      (hypothesis (fun other listed => each other (List.mem_cons_of_mem _ listed))
        (by omega))

theorem consumeMembers_tokens {members : List (List Piece × Parsed)}
    (each : ∀ member ∈ members, Walked member.2) (seen : List String) (rest : List Token)
    (enough : (memberTokens members).length < fuel) :
    Answers (((members.map (text ·.1)).Nodup ∧ UniqueMembers members) ∧
        ∀ member ∈ members, text member.1 ∉ seen) rest
      (consumeMembers fuel seen (memberTokens members ++ .closing .brace :: rest)) := by
  induction members generalizing fuel seen with
  | nil =>
    obtain ⟨less, rfl⟩ : ∃ less, fuel = less + 1 := ⟨fuel - 1, by omega⟩
    refine ⟨fun _ => rfl, fun fails => absurd ⟨⟨List.nodup_nil, trivial⟩, ?_⟩ fails⟩
    exact fun _ listed => absurd listed List.not_mem_nil
  | cons member members hypothesis =>
    obtain ⟨name, value⟩ := member
    rw [memberTokens, List.length_cons, List.length_append] at enough
    obtain ⟨less, rfl⟩ : ∃ less, fuel = less + 1 := ⟨fuel - 1, by omega⟩
    have opens : ∀ others, more (.string (text name) :: others) = true := fun _ => rfl
    rw [memberTokens, List.cons_append, List.append_assoc, consumeMembers, if_pos (opens _)]
    by_cases old : text name ∈ seen
    · refine ⟨fun holds => absurd old (holds.2 (name, value) List.mem_cons_self), fun _ => ?_⟩
      exact if_pos old
    · have walked : Walked value := each (name, value) List.mem_cons_self
      have walk := (walked less (memberTokens members ++ .closing .brace :: rest) (by omega)).bind
        (@hypothesis less (fun other listed => each other (List.mem_cons_of_mem _ listed))
          (text name :: seen) (by omega))
      rw [if_neg old]
      refine walk.congr ?_
      rw [List.map_cons, List.nodup_cons, UniqueMembers, List.forall_mem_cons]
      simp only [List.mem_cons, List.mem_map, not_or, not_exists, not_and]
      constructor
      · rintro ⟨own, ⟨distinct, others⟩, unseen⟩
        exact ⟨⟨⟨fun other listed => (unseen other listed).1, distinct⟩, own, others⟩, old,
          fun other listed => (unseen other listed).2⟩
      · rintro ⟨⟨⟨fresh, distinct⟩, own, others⟩, -, unseen⟩
        exact ⟨own, ⟨distinct, others⟩, fun other listed =>
          ⟨fresh other listed, unseen other listed⟩⟩

theorem walked (value : Parsed) : Walked value := by
  induction value using Value.induction with
  | null =>
    rintro (_ | fuel) rest enough
    · exact absurd enough (by decide)
    · exact ⟨fun _ => rfl, fun fails => absurd trivial fails⟩
  | bool | number | string =>
    rintro (_ | fuel) rest enough
    · exact absurd enough (Nat.not_succ_le_zero _)
    · exact ⟨fun _ => rfl, fun fails => absurd trivial fails⟩
  | array items each =>
    intro fuel rest enough
    rw [tokens, List.length_cons, List.length_append, List.length_singleton] at enough
    obtain ⟨less, rfl⟩ : ∃ less, fuel = less + 1 := ⟨fuel - 1, by omega⟩
    rw [tokens, List.cons_append, List.append_assoc]
    exact consumeItems_tokens each rest (by omega)
  | object members each =>
    intro fuel rest enough
    rw [tokens, List.length_cons, List.length_append, List.length_singleton] at enough
    obtain ⟨less, rfl⟩ : ∃ less, fuel = less + 1 := ⟨fuel - 1, by omega⟩
    rw [tokens, List.cons_append, List.append_assoc]
    refine (consumeMembers_tokens each [] rest (by omega)).congr ?_
    exact and_iff_left fun _ _ => List.not_mem_nil

/-- `RejectDuplicateKeys` accepts the payloads that are one value without repeated names. -/
theorem rejectDuplicateKeys_eq_some_iff {payload : List UInt8} :
    rejectDuplicateKeys payload = some () ↔
      ∃ value, JsonText.parse (Utf8.decodeLossy payload).length (Utf8.decodeLossy payload) =
        some value ∧ UniqueNames value := by
  unfold rejectDuplicateKeys
  dsimp only
  cases JsonText.parse (Utf8.decodeLossy payload).length (Utf8.decodeLossy payload) with
  | none => simp
  | some value =>
    have walk := walked value (tokens value).length [] (Nat.le_refl _)
    rw [List.append_nil] at walk
    by_cases unique : UniqueNames value
    · simp [walk.1 unique, unique]
    · simp [walk.2 unique, unique]

/-! ### What a decoder delivers -/

/-- What a decoder delivers of a payload: tokens, and then the end of the input or an error. -/
structure Stream where
  tokens : List Token
  ended : Bool

/-- `RejectDuplicateKeys` on what the decoder delivers. -/
def Stream.rejectDuplicateKeys (stream : Stream) : Option Unit := do
  let rest ← consumeValue stream.tokens.length stream.tokens
  if rest = [] ∧ stream.ended then some () else none

/-- The value of a payload that is one value and white space. -/
def completeValue (payload : List UInt8) : Option Parsed :=
  JsonText.parse (Utf8.decodeLossy payload).length (Utf8.decodeLossy payload)

/-- What `json.Decoder` promises: of a complete value it delivers the tokens up to the end of the
input; delimiters and names are always as in values, up to where it fails; and a payload that is
not one complete value does not look like one. -/
structure Delivers (deliver : List UInt8 → Stream) : Prop where
  complete : ∀ payload value, completeValue payload = some value →
    deliver payload = ⟨tokens value, true⟩
  nested : ∀ payload, ∃ values : List Parsed, (deliver payload).tokens <+: values.flatMap tokens
  malformed : ∀ payload, completeValue payload = none →
    ∀ value, deliver payload ≠ ⟨tokens value, true⟩

theorem more_append (others : List Token) (nonempty : rest ≠ []) :
    more (rest ++ others) = more rest := by
  cases rest with
  | nil => exact absurd rfl nonempty
  | cons token rest => cases token <;> rfl

/-- A walk goes the same way when more tokens follow and more steps are allowed. -/
theorem consume_extends (others : List Token) (fuel : Nat) :
    (∀ rest left larger, fuel ≤ larger → consumeValue fuel rest = some left →
      consumeValue larger (rest ++ others) = some (left ++ others)) ∧
    (∀ seen rest left larger, fuel ≤ larger → consumeMembers fuel seen rest = some left →
      consumeMembers larger seen (rest ++ others) = some (left ++ others)) ∧
    ∀ rest left larger, fuel ≤ larger → consumeItems fuel rest = some left →
      consumeItems larger (rest ++ others) = some (left ++ others) := by
  induction fuel with
  | zero => exact ⟨nofun, nofun, nofun⟩
  | succ fuel hypothesis =>
    obtain ⟨value, members, items⟩ := hypothesis
    refine ⟨fun rest left larger enough walk => ?_, fun seen rest left larger enough walk => ?_,
      fun rest left larger enough walk => ?_⟩
    all_goals obtain ⟨larger, rfl⟩ : ∃ less, larger = less + 1 := ⟨larger - 1, by omega⟩
    all_goals have enough := Nat.le_of_succ_le_succ enough
    · match rest with
      | [] => cases walk
      | .opening .brace :: rest => exact members [] rest left larger enough walk
      | .opening .bracket :: rest => exact items rest left larger enough walk
      | .closing _ :: rest => cases walk
      | .string _ :: rest | .other :: rest =>
        obtain rfl := Option.some.inj walk
        rfl
    · match rest with
      | [] => cases walk
      | .closing _ :: rest =>
        obtain rfl := Option.some.inj walk
        rfl
      | .string key :: rest =>
        have walk : (if key ∈ seen then none
          else (consumeValue fuel rest).bind (consumeMembers fuel (key :: seen))) = some left := walk
        obtain ⟨fresh, walk⟩ := Option.ite_none_left_eq_some.mp walk
        obtain ⟨middle, first, second⟩ := Option.bind_eq_some_iff.mp walk
        refine (if_neg fresh).trans ?_
        show (consumeValue larger (rest ++ others)).bind _ = _
        rw [value rest middle larger enough first]
        exact members _ middle left larger enough second
      | .opening _ :: rest | .other :: rest => cases walk
    · by_cases goes : more rest = true
      · rw [consumeItems, if_pos goes] at walk
        obtain ⟨middle, first, second⟩ := Option.bind_eq_some_iff.mp walk
        have nonempty : rest ≠ [] := by
          rintro rfl
          cases goes
        rw [consumeItems, more_append others nonempty, if_pos goes,
          value rest middle larger enough first]
        exact items middle left larger enough second
      · rw [consumeItems, if_neg goes] at walk
        cases rest with
        | nil => cases walk
        | cons token rest =>
          obtain rfl := Option.some.inj walk
          rw [consumeItems, more_append others (List.cons_ne_nil _ _), if_neg goes]
          rfl

theorem tokens_of_consumeValue {read : List Token} {values : List Parsed}
    (nested : read <+: values.flatMap tokens) (walk : consumeValue read.length read = some []) :
    ∃ value, read = tokens value ∧ UniqueNames value := by
  cases values with
  | nil =>
    rw [List.flatMap_nil, List.prefix_nil] at nested
    subst nested
    cases walk
  | cons value values =>
    rw [List.flatMap_cons] at nested
    obtain ⟨others, whole⟩ := nested
    have extended := (consume_extends others read.length).1 read [] (read.length +
      (tokens value).length) (Nat.le_add_right ..) walk
    rw [whole] at extended
    have answers := walked value (read.length + (tokens value).length) (values.flatMap tokens)
      (Nat.le_add_left ..)
    by_cases unique : UniqueNames value
    · rw [answers.1 unique, List.nil_append] at extended
      rw [Option.some.inj extended] at whole
      exact ⟨value, List.append_cancel_right whole, unique⟩
    · cases (answers.2 unique).symm.trans extended

/-- With any decoder that keeps its promise, `RejectDuplicateKeys` accepts exactly the payloads
that are one complete value, and white space, in which no object repeats a name. -/
theorem rejectDuplicateKeys_iff_unique (deliver : List UInt8 → Stream) (delivers : Delivers deliver)
    (payload : List UInt8) :
    (deliver payload).rejectDuplicateKeys = some () ↔
      ∃ value, completeValue payload = some value ∧ UniqueNames value := by
  constructor
  · intro accepted
    obtain ⟨rest, walk, passed⟩ := Option.bind_eq_some_iff.mp accepted
    obtain ⟨⟨rfl, ended⟩, -⟩ := Option.ite_none_right_eq_some.mp passed
    obtain ⟨values, nested⟩ := delivers.nested payload
    obtain ⟨value, read, unique⟩ := tokens_of_consumeValue nested walk
    have whole : deliver payload = ⟨tokens value, true⟩ := by rw [← read, ← ended]
    cases isValue : completeValue payload with
    | none => exact absurd whole (delivers.malformed payload isValue value)
    | some other =>
      have same : tokens other = tokens value :=
        congrArg Stream.tokens ((delivers.complete payload other isValue).symm.trans whole)
      refine ⟨other, rfl, ?_⟩
      by_contra repeated
      have answers := walked other (tokens other).length [] (Nat.le_refl _)
      rw [List.append_nil, same] at answers
      rw [read] at walk
      cases (answers.2 repeated).symm.trans walk
  · rintro ⟨value, isValue, unique⟩
    have walk := (walked value (tokens value).length [] (Nat.le_refl _)).1 unique
    rw [List.append_nil] at walk
    rw [delivers.complete payload value isValue, Stream.rejectDuplicateKeys, walk]
    rfl

/-- A decoder that delivers nothing of a payload that is not complete. -/
def deliverComplete (payload : List UInt8) : Stream :=
  match completeValue payload with
  | some value => ⟨tokens value, true⟩
  | none => ⟨[], false⟩

theorem rejectDuplicateKeys_of_pair :
    ∃ value, completeValue "\x7b\"a\": [1], \"b\": \x7b\x7d\x7d ".toUTF8.toList = some value ∧
      UniqueNames value := by
  refine (rejectDuplicateKeys_iff_unique deliverComplete ⟨fun payload value isValue => ?_,
    fun payload => ?_, fun payload isValue value same => ?_⟩ _).mp (by decide +kernel)
  · rw [deliverComplete, isValue]
  · rw [deliverComplete]
    split
    · rename_i value _
      exact ⟨[value], by simp⟩
    · exact ⟨[], List.nil_prefix⟩
  · rw [deliverComplete, isValue] at same
    cases congrArg Stream.ended same

/-! ### Decoding a payload -/

/-- The nesting `encoding/json` allows. -/
def maxNestingDepth : Nat := 10000

/-- The strict decoding of a payload: no repeated names, no unknown fields, one value. -/
def strictDecode (fields : List (String × Shape Kind)) (payload : List UInt8) :
    Option (Data Scalar) := do
  rejectDuplicateKeys payload
  let value ← JsonText.parse maxNestingDepth (Utf8.decodeLossy payload)
  decode leaves value (.struct fields) (zero leaves (.struct fields))

/-- `json.Marshal` of a record. -/
def marshalRecord (fields : List (String × Shape Kind)) (data : Data Scalar) : List Char :=
  write html ((encode leaves data (.struct fields)).getD .null)

/-! ### Marshalled records are decoded -/

theorem flat_leaves : leaves.Flat := by
  intro kind value printed isPrinted style
  cases kind <;> cases value <;> simp only [leaves] at isPrinted
  all_goals first
    | (obtain rfl := Option.some.inj isPrinted; exact ⟨trivial, rfl⟩)
    | (split at isPrinted
       · exact absurd isPrinted (Option.some_ne_none _).symm
       · obtain rfl := Option.some.inj isPrinted
         exact ⟨trivial, rfl⟩)

theorem kept_string (value : String) : leaves.Kept html .string (.string value) :=
  ⟨nofun, congrArg (fun text => some (Scalar.string text)) (text_quoted value)⟩

theorem parseDigits_toDigits (negative : Bool) (number : Nat)
    (range : Int64Range (if negative then -(number : Int) else number)) :
    parseDigits negative (Nat.toDigits 10 number) =
      some (if negative then -(number : Int) else number) := by
  have digits : (Nat.toDigits 10 number).all Char.isDigit = true :=
    List.all_eq_true.mpr fun _ => Nat.isDigit_of_mem_toDigits (by decide) (by decide)
  have value : Nat.ofDigitChars 10 (Nat.toDigits 10 number) 0 = number :=
    Nat.ofDigitChars_ten_toDigits
  unfold parseDigits
  rw [value]
  exact if_pos ⟨Nat.toDigits_ne_nil, digits, range⟩

variable {value : Int}

theorem parseInt64_integer (range : Int64Range value) :
    parseInt64 (PrefixCode.integer value) = some value := by
  cases value with
  | ofNat number =>
    obtain ⟨digit, rest, word, isDigit⟩ := PrefixCode.toDigits_eq_cons number
    have unsigned : parseInt64 (Nat.toDigits 10 number) =
        parseDigits false (Nat.toDigits 10 number) := by
      rw [word, parseInt64]
      rintro others same
      rw [(List.cons.inj same).1] at isDigit
      exact absurd isDigit (by decide)
    exact unsigned.trans (parseDigits_toDigits false number range)
  | negSucc number => exact parseDigits_toDigits true (number + 1) range

theorem kept_int64 (range : Int64Range value) :
    leaves.Kept html .int64 (.int64 value) :=
  ⟨nofun, congrArg (Option.map Scalar.int64) (parseInt64_integer range)⟩

variable {text : String}

theorem read_time {style : Style} :
    leaves.read .time (.string (quoted style text)) = (Time.parse text).map .time := by
  have read : ∀ pieces, leaves.read .time (.string pieces) =
      (Time.parse (JsonText.text pieces)).map .time := fun _ => rfl
  rw [read, text_quoted]

theorem kept_time {value : Time} (encodable : value.Encodable) :
    leaves.Kept html .time (.time value) :=
  ⟨nofun, read_time.trans
    (congrArg (Option.map Scalar.time) (Time.parse_formatRFC3339Nano encodable))⟩

variable {fields : List (String × Shape Kind)} {data : Data Scalar}

theorem strictDecode_write {style : Style} {printed : Printed}
    (shallow : printed.depth ≤ maxNestingDepth) (unique : UniqueNames (printed.quoted style))
    (decoded : decode leaves (printed.quoted style) (.struct fields)
      (zero leaves (.struct fields)) = some data) {rest : List Char}
    (blank : skipSpace rest = []) (ends : EndsNumber rest) :
    strictDecode fields (Utf8.encode (write style printed ++ rest)) = some data := by
  have long : printed.depth ≤ (write style printed ++ rest).length := by
    rw [List.length_append]
    exact Nat.le_add_right_of_le (depth_le_length_write printed)
  have accepted : rejectDuplicateKeys (Utf8.encode (write style printed ++ rest)) = some () := by
    refine rejectDuplicateKeys_eq_some_iff.mpr ⟨printed.quoted style, ?_, unique⟩
    rw [Utf8.decodeLossy_encode]
    exact parse_write long blank ends
  rw [strictDecode, accepted, Utf8.decodeLossy_encode, parse_write shallow blank ends]
  exact decoded

theorem strictDecode_marshalRecord (kept : StructDecode.Kept leaves html data (.struct fields))
    (shallow : StructDecode.depth (.struct fields) ≤ maxNestingDepth) {rest : List Char}
    (blank : skipSpace rest = []) (ends : EndsNumber rest) :
    strictDecode fields (Utf8.encode (marshalRecord fields data ++ rest)) = some data := by
  obtain ⟨printed, isPrinted⟩ : ∃ printed, encode leaves data (.struct fields) = some printed := by
    cases data with
    | struct values => exact ⟨_, rfl⟩
    | _ => exact kept.elim
  have decoded := roundTrips data (.struct fields) kept
  rw [isPrinted] at decoded
  obtain ⟨unique, bound⟩ := tidy flat_leaves data (.struct fields) kept printed isPrinted
  rw [marshalRecord, isPrinted, Option.getD_some]
  exact strictDecode_write (bound.trans shallow) unique decoded blank ends

/-! ### Sizes -/

/-- The number of bytes of a text. -/
def byteLength (characters : List Char) : Nat := (Utf8.encode characters).length

@[simp] theorem byteLength_nil : byteLength [] = 0 := rfl

@[simp] theorem byteLength_append (first second : List Char) :
    byteLength (first ++ second) = byteLength first + byteLength second := by
  rw [byteLength, Utf8.encode_append, List.length_append]
  rfl

@[simp] theorem byteLength_cons (character : Char) (rest : List Char) :
    byteLength (character :: rest) = character.utf8Size + byteLength rest := by
  rw [byteLength, Utf8.encode, List.flatMap_cons, List.length_append, String.length_utf8EncodeChar]
  rfl

theorem byteLength_ascii {characters : List Char}
    (ascii : ∀ character ∈ characters, character.utf8Size = 1) :
    byteLength characters = characters.length := by
  induction characters with
  | nil => rfl
  | cons character characters hypothesis =>
    rw [byteLength_cons, ascii character List.mem_cons_self, List.length_cons,
      hypothesis fun other listed => ascii other (List.mem_cons_of_mem _ listed),
      Nat.add_comm]

theorem byteLength_longEscape (unit : Nat) (small : unit < 0x10000) :
    byteLength (longEscape unit) = 6 := by
  have digits : ∀ digit < 16, (Nat.digitChar digit).utf8Size = 1 := by decide
  simp only [longEscape, byteLength_cons, byteLength_nil, digits _ (Nat.mod_lt _ (by decide)),
    digits (unit / 4096) (by omega)]
  rfl

theorem byteLength_longEscapes {codes : List Nat} (small : ∀ unit ∈ codes, unit < 0x10000) :
    byteLength (codes.flatMap longEscape) = 6 * codes.length := by
  induction codes with
  | nil => rfl
  | cons unit codes hypothesis =>
    rw [List.flatMap_cons, byteLength_append, byteLength_longEscape unit (small unit
      List.mem_cons_self), hypothesis fun other listed =>
      small other (List.mem_cons_of_mem _ listed), List.length_cons]
    omega

theorem length_units_le (character : Char) : (units character).length ≤ character.utf8Size := by
  have positive := character.utf8Size_pos
  unfold units
  split
  · exact positive
  · rename_i large
    unfold Char.utf8Size
    dsimp only
    split_ifs with one two three
    · have bound : character.toNat ≤ 127 := UInt32.le_iff_toNat_le.mp one
      omega
    · exact Nat.le_refl _
    · exact Nat.le_succ _
    · exact Nat.le_add_left 2 2

theorem byteLength_escape_le (style : Style) (character : Char) :
    byteLength (escape style character) ≤ 6 * character.utf8Size := by
  have positive := character.utf8Size_pos
  have two : ∀ kind ∈ ['\x22', '\x5c', 'b', 'f', 'n', 'r', 't'],
      byteLength ['\x5c', kind] = 2 := forall_mem_of_all (by decide +kernel)
  unfold escape
  split_ifs with own
  · rw [two character (by rcases own with own | own <;> rw [own] <;> decide)]
    omega
  · rw [two 'b' (by decide)]
    omega
  · rw [two 'f' (by decide)]
    omega
  · rw [two 'n' (by decide)]
    omega
  · rw [two 'r' (by decide)]
    omega
  · rw [two 't' (by decide)]
    omega
  · rw [byteLength_longEscapes (units_lt character)]
    exact Nat.mul_le_mul_left 6 (length_units_le character)
  · rw [byteLength_cons, byteLength_nil]
    omega

theorem byteLength_writeString_le (style : Style) (value : String) :
    byteLength (writeString style value) ≤ 6 * value.utf8ByteSize + 2 := by
  have characters : ∀ characters : List Char,
      byteLength (characters.flatMap (escape style)) ≤ 6 * byteLength characters := by
    intro characters
    induction characters with
    | nil => exact Nat.le_refl _
    | cons character characters hypothesis =>
      have first := byteLength_escape_le style character
      rw [List.flatMap_cons, byteLength_append, byteLength_cons]
      omega
  have body := characters value.toList
  have marks : '\x22'.utf8Size = 1 := by decide
  have size : value.utf8ByteSize = byteLength value.toList := Utf8.utf8ByteSize_eq value
  rw [writeString, byteLength_cons, byteLength_append, byteLength_cons, byteLength_nil, marks, size]
  omega

theorem utf8Size_of_isDigit {character : Char} (digit : character.isDigit = true) :
    character.utf8Size = 1 := by
  have bounds := Char.isDigit_iff_toNat.mp digit
  have nine : '9'.toNat = 57 := rfl
  have small : character.val ≤ 127 := by
    rw [UInt32.le_iff_toNat_le]
    show character.toNat ≤ 127
    omega
  unfold Char.utf8Size
  exact if_pos small

theorem utf8ByteSize_formatRFC3339Nano_le {time : Time} (encodable : time.Encodable) :
    time.formatRFC3339Nano.utf8ByteSize ≤ 30 := by
  have ascii : ∀ character ∈ time.formatRFC3339Nano.toList, character.utf8Size = 1 := by
    intro character listed
    rcases time.timely_formatRFC3339Nano character listed with digit | mark
    · exact utf8Size_of_isDigit digit
    · have all : ∀ mark ∈ ['-', 'T', ':', '.', 'Z'], mark.utf8Size = 1 :=
        forall_mem_of_all (by decide)
      exact all character mark
  have size : time.formatRFC3339Nano.utf8ByteSize = byteLength time.formatRFC3339Nano.toList :=
    Utf8.utf8ByteSize_eq _
  rw [size, byteLength_ascii ascii]
  exact Time.length_formatRFC3339Nano_le encodable

theorem byteLength_toDigits_le {number : Nat} (fits : number < 10 ^ 19) :
    byteLength (Nat.toDigits 10 number) ≤ 19 := by
  have length := congrArg List.length (Decimal.replicate_append_toDigits fits)
  rw [List.length_append, Decimal.length_fixedDigits] at length
  rw [byteLength_ascii fun digit listed => utf8Size_of_isDigit
    (Nat.isDigit_of_mem_toDigits (by decide) (by decide) listed)]
  omega

theorem byteLength_integer_le (range : Int64Range value) :
    byteLength (PrefixCode.integer value) ≤ 20 := by
  unfold Int64Range at range
  cases value with
  | ofNat number =>
    have fits : number < 10 ^ 19 := by
      have bound := range.2
      rw [Int.ofNat_eq_natCast] at bound
      omega
    have digits := byteLength_toDigits_le fits
    show byteLength (Nat.toDigits 10 number) ≤ 20
    omega
  | negSucc number =>
    have fits : number + 1 < 10 ^ 19 := by
      have bound := range.1
      rw [Int.negSucc_eq] at bound
      omega
    have digits := byteLength_toDigits_le fits
    have mark : '-'.utf8Size = 1 := by decide
    show byteLength ('-' :: Nat.toDigits 10 (number + 1)) ≤ 20
    rw [byteLength_cons, mark]
    omega

section Objects

variable {style : Style} {members : List (String × Printed)} {bound : Nat}
  (each : ∀ member ∈ members,
    byteLength (writeString style member.1) + byteLength (write style member.2) ≤ bound)

include each

theorem byteLength_writeMoreMembers_le :
    byteLength (writeMoreMembers style members) ≤ members.length * (bound + 2) + 1 := by
  have marks : ∀ mark ∈ [',', ':', '\x7d'], mark.utf8Size = 1 := forall_mem_of_all (by decide)
  induction members with
  | nil =>
    rw [writeMoreMembers, byteLength_cons, byteLength_nil, marks '\x7d' (by decide)]
    exact Nat.le_add_left _ _
  | cons member members hypothesis =>
    have first := each member List.mem_cons_self
    have others := hypothesis fun other listed => each other (List.mem_cons_of_mem _ listed)
    rw [writeMoreMembers, byteLength_cons, byteLength_append, byteLength_cons, byteLength_append,
      marks ',' (by decide), marks ':' (by decide), List.length_cons, Nat.succ_mul]
    omega

theorem byteLength_object_le :
    byteLength (write style (.object members)) ≤ members.length * (bound + 2) + 2 := by
  have marks : ∀ mark ∈ ['\x7b', ':', '\x7d'], mark.utf8Size = 1 := forall_mem_of_all (by decide)
  cases members with
  | nil =>
    rw [write, writeMembers, byteLength_cons, byteLength_cons, byteLength_nil,
      marks '\x7b' (by decide), marks '\x7d' (by decide)]
    exact Nat.le_add_left _ _
  | cons member members =>
    have first := each member List.mem_cons_self
    have others := byteLength_writeMoreMembers_le fun other listed =>
      each other (List.mem_cons_of_mem _ listed)
    rw [write, writeMembers, byteLength_cons, byteLength_append, byteLength_cons,
      byteLength_append, marks '\x7b' (by decide), marks ':' (by decide), List.length_cons,
      Nat.succ_mul]
    omega

end Objects

end GuardedAgentRunner
