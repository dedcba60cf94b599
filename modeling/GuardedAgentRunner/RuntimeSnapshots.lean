/-
This file models the runtime snapshot of the Paper plugin: the record with the
decision on the lease, its text as `SnapshotJson` builds it, with the instant as
`Instant.toString` prints it, and the bytes that are published. No string leaves
its token, whatever surrogates it holds. The gate reads back exactly the
published snapshots that are short enough and whose instant has a year of four
digits.
-/

import GuardedAgentRunner.Guard

namespace GuardedAgentRunner

open JsonText StructDecode

namespace Guard

/-! ### Instants -/

/-- The fraction of a second in groups of three digits. -/
def groupedFraction (nanoseconds : Int) : String :=
  if nanoseconds = 0 then ""
  else if nanoseconds % 1000000 = 0 then "." ++ Time.padded 3 (nanoseconds / 1000000)
  else if nanoseconds % 1000 = 0 then "." ++ Time.padded 6 (nanoseconds / 1000)
  else "." ++ Time.padded 9 nanoseconds

/-- `Instant.toString`. A year that has no four digits is given a sign. -/
def instantText (time : Time) : String :=
  let text := time.clockText ++ groupedFraction time.nanosecond ++ "Z"
  if time.Encodable then text
  else if 0 ≤ time then "+" ++ text
  else "-" ++ Time.padded 4 (-time.year) ++ String.ofList (text.toList.drop 4)

example : instantText (63924467696 * Duration.second + 120000000) =
    "2026-09-08T12:34:56.120Z" := by decide +kernel

theorem readFraction_groupedFraction {nanoseconds : Int} (low : 0 ≤ nanoseconds)
    (high : nanoseconds < 10 ^ 9) :
    Time.readFraction ((groupedFraction nanoseconds).toList ++ ['Z']) =
      some (nanoseconds.toNat, ['Z']) := by
  unfold groupedFraction
  split
  · rename_i zero
    rw [zero]
    rfl
  · split
    · rename_i exact
      rw [Time.readFraction_padded (by decide) (by omega) (by omega)]
      refine congrArg (fun value => some (value, ['Z'])) ?_
      omega
    · split
      · rename_i exact
        rw [Time.readFraction_padded (by decide) (by omega) (by omega)]
        refine congrArg (fun value => some (value, ['Z'])) ?_
        omega
      · rw [Time.readFraction_padded (by decide) low (by omega)]
        refine congrArg (fun value => some (value, ['Z'])) ?_
        omega

theorem readFixed_of_sign {width : Nat} {sign : Char} (noDigit : sign.isDigit = false)
    (rest : List Char) : Decimal.readFixed (width + 1) (sign :: rest) = none := by
  have refused : ¬ (((sign :: rest).take (width + 1)).length = width + 1 ∧
      ((sign :: rest).take (width + 1)).all Char.isDigit = true) := by
    rintro ⟨-, digits⟩
    rw [List.take_succ_cons, List.all_cons, noDigit] at digits
    exact nomatch digits
  rw [Decimal.readFixed, if_neg refused]

theorem parse_instantText (time : Time) :
    Time.parse (instantText time) = if time.Encodable then some time else none := by
  obtain ⟨low, high⟩ := time.nanosecond_bounds
  have signed : ∀ {sign : Char} {text : String}, sign.isDigit = false →
      text.toList.head? = some sign → Time.parse text = none := by
    intro sign text noDigit first
    obtain ⟨rest, isText⟩ := List.head?_eq_some_iff.mp first
    unfold Time.parse
    rw [isText, readFixed_of_sign noDigit]
    rfl
  unfold instantText
  dsimp only
  split
  · rename_i encodable
    exact Time.parse_of_parseRFC3339
      (Time.parseRFC3339_clockText encodable (readFraction_groupedFraction low high))
  · split
    · refine @signed '+' _ rfl ?_
      rw [String.toList_append]
      rfl
    · refine @signed '-' _ rfl ?_
      rw [String.toList_append, String.toList_append]
      rfl

/-! ### Snapshots -/

structure PluginObservation where
  name : String
  version : String
  enabled : Bool
  sourceAttribution : String

/-- A runtime snapshot. A reading that is no finite number is `none`, any other is the literal it
is printed as with three decimals. -/
structure RuntimeSnapshot where
  schemaVersion : String
  pairingId : String
  bootId : String
  observedAt : Time
  ready : Bool
  admissionState : String
  playerCount : Int
  playerRange : Int64Range playerCount
  tps : List (Option Numeral)
  mspt : Option Numeral
  heapUsedBytes : Int
  heapUsedRange : Int64Range heapUsedBytes
  heapMaxBytes : Int
  heapMaxRange : Int64Range heapMaxBytes
  plugins : List PluginObservation

/-- `escape`: control characters without a short escape and surrogates are written with
hexadecimal digits. -/
def escape : Style where
  long character :=
    character.toNat < 0x20 && character ∉ shortEscapes || 0x10000 ≤ character.toNat
  controls character control notShort := by
    rw [Bool.or_eq_true, Bool.and_eq_true]
    exact Or.inl ⟨decide_eq_true control, decide_eq_true notShort⟩
  others := forall_mem_of_all (by decide)

/-! ### Strings of the plugin -/

/-- `escape` of one `char` of a Java string. A surrogate is none of the characters with a case of
their own. -/
def escapeUnit (unit : UInt16) : List Char :=
  if 0xD800 ≤ unit.toNat ∧ unit.toNat < 0xE000 then longEscape unit.toNat
  else JsonText.escape escape (Char.ofNat unit.toNat)

/-- `escape` of a Java string, which may hold unpaired surrogates. -/
def escapeUnits (value : List UInt16) : List Char := value.flatMap escapeUnit

/-- Every surrogate of a Java string belongs to a pair. -/
def WellPaired : List UInt16 → Prop
  | [] => True
  | [unit] => ¬ (0xD800 ≤ unit.toNat ∧ unit.toNat < 0xE000)
  | high :: low :: rest =>
    if Paired high.toNat low.toNat then WellPaired rest
    else ¬ (0xD800 ≤ high.toNat ∧ high.toNat < 0xE000) ∧ WellPaired (low :: rest)

/-- A text in which quotes, reverse solidi and control characters occur only in escapes. -/
inductive Unbroken : List Char → Prop where
  | nil : Unbroken []
  | plain {character : Char} {rest : List Char} (notQuote : character ≠ '\x22')
    (notEscape : character ≠ '\x5c') (notControl : ¬ character.toNat < 0x20) :
    Unbroken rest → Unbroken (character :: rest)
  | short {kind : Char} {rest : List Char} (known : (shortEscape kind).isSome) :
    Unbroken rest → Unbroken ('\x5c' :: kind :: rest)
  | long {unit : Nat} {rest : List Char} (small : unit < 0x10000) :
    Unbroken rest → Unbroken (longEscape unit ++ rest)

theorem toNat_ofNat {code : Nat} (valid : code.isValidChar) : (Char.ofNat code).toNat = code := by
  rw [Char.ofNat, dif_pos valid]
  rfl

theorem toNat_ofNat_unit {unit : UInt16} (alone : ¬ (0xD800 ≤ unit.toNat ∧ unit.toNat < 0xE000)) :
    (Char.ofNat unit.toNat).toNat = unit.toNat := by
  have small := unit.toNat_lt
  refine toNat_ofNat ?_
  unfold Nat.isValidChar
  omega

theorem unbroken_escape {character : Char} (small : character.toNat < 0x10000) {rest : List Char}
    (unbroken : Unbroken rest) : Unbroken (JsonText.escape escape character ++ rest) := by
  unfold JsonText.escape
  split_ifs with own backspace feed line carriage tab long
  · exact .short (by rcases own with own | own <;> rw [own] <;> decide) unbroken
  · exact .short (by decide) unbroken
  · exact .short (by decide) unbroken
  · exact .short (by decide) unbroken
  · exact .short (by decide) unbroken
  · exact .short (by decide) unbroken
  · rw [units, if_pos small]
    exact .long small unbroken
  · refine .plain (fun quote => own (.inl quote)) (fun mark => own (.inr mark)) ?_ unbroken
    intro control
    refine long (escape.controls character control ?_)
    simp only [shortEscapes, List.mem_cons, List.not_mem_nil, backspace, feed, line, carriage, tab,
      or_false]
    exact own

theorem unbroken_escapeUnits (value : List UInt16) : Unbroken (escapeUnits value) := by
  induction value with
  | nil => exact .nil
  | cons unit value hypothesis =>
    rw [escapeUnits, List.flatMap_cons, escapeUnit]
    split
    · exact .long unit.toNat_lt hypothesis
    · rename_i alone
      refine unbroken_escape ?_ hypothesis
      rw [toNat_ofNat_unit alone]
      exact unit.toNat_lt

/-- Between quotes an escaped string is one token, which keeps every code unit. -/
theorem readPieces_escapeUnits (value : List UInt16) :
    ∃ pieces, (∀ rest, readPieces (escapeUnits value ++ '\x22' :: rest) = some (pieces, rest)) ∧
      tokenUnits pieces = value.map UInt16.toNat := by
  induction value with
  | nil => exact ⟨[], fun rest => by rw [readPieces.eq_def]; rfl, rfl⟩
  | cons unit value hypothesis =>
    obtain ⟨pieces, reads, keeps⟩ := hypothesis
    by_cases alone : 0xD800 ≤ unit.toNat ∧ unit.toNat < 0xE000
    · refine ⟨.escaped unit.toNat :: pieces, fun rest => ?_, congrArg (unit.toNat :: ·) keeps⟩
      rw [escapeUnits, List.flatMap_cons, escapeUnit, if_pos alone, List.append_assoc,
        readPieces_longEscape unit.toNat_lt, ← escapeUnits, reads]
      rfl
    · refine ⟨quote escape (Char.ofNat unit.toNat) ++ pieces, fun rest => ?_, ?_⟩
      · rw [escapeUnits, List.flatMap_cons, escapeUnit, if_neg alone, List.append_assoc,
          readPieces_escape, ← escapeUnits, reads]
        rfl
      · have single : units (Char.ofNat unit.toNat) = [unit.toNat] := by
          rw [units, toNat_ofNat_unit alone, if_pos unit.toNat_lt]
        rw [quote, single, List.map_cons, List.map_cons, ← keeps]
        split
        · rfl
        · rw [List.singleton_append, tokenUnits, single]
          rfl

theorem WellPaired.exists_text {value : List UInt16} (paired : WellPaired value) :
    ∃ text : List Char, text.flatMap units = value.map UInt16.toNat := by
  fun_induction WellPaired value with
  | case1 => exact ⟨[], rfl⟩
  | case2 unit =>
    refine ⟨[Char.ofNat unit.toNat], ?_⟩
    rw [List.flatMap_singleton, units, toNat_ofNat_unit paired, if_pos unit.toNat_lt]
    rfl
  | case3 high low rest isPair hypothesis =>
    obtain ⟨text, isText⟩ := hypothesis paired
    unfold Paired at isPair
    have valid : (0x10000 + (high.toNat - 0xD800) * 0x400 + (low.toNat - 0xDC00)).isValidChar := by
      unfold Nat.isValidChar
      omega
    refine ⟨Char.ofNat (0x10000 + (high.toNat - 0xD800) * 0x400 + (low.toNat - 0xDC00)) :: text, ?_⟩
    rw [List.flatMap_cons, isText, units, toNat_ofNat valid, if_neg (by omega)]
    simp only [List.map_cons, List.cons_append, List.nil_append, List.cons.injEq, and_true]
    omega
  | case4 high low rest isPair hypothesis =>
    obtain ⟨text, isText⟩ := hypothesis paired.2
    refine ⟨Char.ofNat high.toNat :: text, ?_⟩
    rw [List.flatMap_cons, isText, units, toNat_ofNat_unit paired.1, if_pos high.toNat_lt]
    rfl

theorem flatMap_escape {text : List Char} {value : List UInt16}
    (same : text.flatMap units = value.map UInt16.toNat) :
    text.flatMap (JsonText.escape escape) = escapeUnits value := by
  induction text generalizing value with
  | nil =>
    rw [List.map_eq_nil_iff.mp same.symm]
    rfl
  | cons character text hypothesis =>
    rw [List.flatMap_cons] at same ⊢
    by_cases small : character.toNat < 0x10000
    · rw [units, if_pos small] at same
      obtain ⟨unit, value, rfl, isUnit, rest⟩ := List.map_eq_cons_iff.mp same.symm
      rw [hypothesis rest.symm, escapeUnits, escapeUnits, List.flatMap_cons, escapeUnit,
        isUnit, if_neg (not_surrogate character), Char.ofNat_toNat]
    · have others : ∀ other : Char, other.toNat < 0x10000 → character ≠ other := by
        rintro other below rfl
        exact small below
      have isLong : escape.long character = true :=
        Bool.or_eq_true_iff.mpr (.inr (decide_eq_true (not_lt.mp small)))
      have written : JsonText.escape escape character =
          (units character).flatMap longEscape := by
        simp [JsonText.escape, isLong, others]
      rw [written]
      rw [units, if_neg small] at same ⊢
      obtain ⟨high, _, rfl, isHigh, rest⟩ := List.map_eq_cons_iff.mp same.symm
      obtain ⟨low, value, rfl, isLow, rest⟩ := List.map_eq_cons_iff.mp rest
      have bounds := toNat_bounds character
      have highEscape : escapeUnit high = longEscape high.toNat := if_pos (by omega)
      have lowEscape : escapeUnit low = longEscape low.toNat := if_pos (by omega)
      rw [hypothesis rest.symm]
      simp [escapeUnits, highEscape, lowEscape, isHigh, isLow]

/-- The escaped form of a Java string. Quotes, reverse solidi and control characters occur in it
only in escapes; closed by a quote it is read as one token, whatever comes after, so that it
neither ends its field nor adds a member; a string without unpaired surrogates is read back as
itself; and the strings of a snapshot are written in this form, between quotes. -/
theorem escapeUnits_token (value : List UInt16) :
    Unbroken (escapeUnits value) ∧
    (∃ pieces,
      (∀ rest, readPieces (escapeUnits value ++ '\x22' :: rest) = some (pieces, rest)) ∧
      (WellPaired value → textUnits (text pieces) = value.map UInt16.toNat)) ∧
    ∀ text : String, textUnits text = value.map UInt16.toNat →
      writeString escape text = '\x22' :: (escapeUnits value ++ ['\x22']) := by
  obtain ⟨pieces, reads, keeps⟩ := readPieces_escapeUnits value
  refine ⟨unbroken_escapeUnits value, ⟨pieces, reads, fun paired => ?_⟩, fun text same => ?_⟩
  · obtain ⟨characters, isText⟩ := paired.exists_text
    have own : textUnits (String.ofList characters) = value.map UInt16.toNat := by
      rw [textUnits, String.toList_ofList, isText]
    rw [text_of_tokenUnits (keeps.trans own.symm), own]
  · rw [writeString, flatMap_escape same]

theorem escapeUnits_token_of_pair :
    ∃ pieces,
      readPieces (escapeUnits [0x22, 0xD83D, 0xDE00] ++ ['\x22']) = some (pieces, []) ∧
      textUnits (text pieces) = [0x22, 0xD83D, 0xDE00] := by
  obtain ⟨-, ⟨pieces, reads, keeps⟩, -⟩ := escapeUnits_token [0x22, 0xD83D, 0xDE00]
  exact ⟨pieces, reads [], keeps (by simp [WellPaired, Paired])⟩

/-- `number`. -/
def number : Option Numeral → Printed
  | none => .null
  | some literal => .number literal

def PluginObservation.printed (plugin : PluginObservation) : Printed :=
  .object [("name", .string plugin.name), ("version", .string plugin.version),
    ("enabled", .bool plugin.enabled), ("source_attribution", .string plugin.sourceAttribution)]

namespace RuntimeSnapshot

/-- `SCHEMA_VERSION`. -/
def supportedSchema : String := "gar.paper-runtime-observation.v1"

variable (snapshot : RuntimeSnapshot)

def printed : Printed :=
  .object [("schema_version", .string snapshot.schemaVersion),
    ("pairing_id", .string snapshot.pairingId), ("boot_id", .string snapshot.bootId),
    ("observed_at", .string (instantText snapshot.observedAt)), ("ready", .bool snapshot.ready),
    ("admission_state", .string snapshot.admissionState),
    ("player_count", .number (.ofInt snapshot.playerCount)),
    ("tps", .array (snapshot.tps.map number)), ("mspt", number snapshot.mspt),
    ("heap_used_bytes", .number (.ofInt snapshot.heapUsedBytes)),
    ("heap_max_bytes", .number (.ofInt snapshot.heapMaxBytes)),
    ("plugins", .array (snapshot.plugins.map PluginObservation.printed))]

/-- `SnapshotJson.encode`. -/
def encode : List Char := write escape snapshot.printed

/-- The bytes `publish` writes. -/
def payload : List UInt8 := Utf8.encode (snapshot.encode ++ ['\n'])

/-- What the gate uses of the snapshot. -/
def reading : Admission.RuntimeReading where
  schemaVersion := snapshot.schemaVersion
  pairingID := snapshot.pairingId
  bootID := snapshot.bootId
  observedAt := snapshot.observedAt
  ready := snapshot.ready
  admissionState := snapshot.admissionState

/-! ### The gate reads what the plugin publishes -/

theorem depth_printed : snapshot.printed.depth ≤ maxNestingDepth := by
  have leaf : ∀ reading : Option Numeral, (number reading).depth = 0 := by
    intro reading
    cases reading <;> rfl
  have tps : Value.itemsDepth (snapshot.tps.map number) ≤ 1 := by
    refine Value.itemsDepth_le_iff.mpr fun item listed => ?_
    obtain ⟨reading, -, rfl⟩ := List.mem_map.mp listed
    rw [leaf]
    exact Nat.zero_le 1
  have plugins : Value.itemsDepth (snapshot.plugins.map PluginObservation.printed) ≤ 1 := by
    refine Value.itemsDepth_le_iff.mpr fun item listed => ?_
    obtain ⟨plugin, -, rfl⟩ := List.mem_map.mp listed
    exact Nat.le_refl 1
  have shallow : snapshot.printed.depth ≤ 3 := by
    refine Nat.succ_le_succ (Value.membersDepth_le_iff.mpr ?_)
    simp only [List.forall_mem_cons, List.not_mem_nil, false_imp_iff, implies_true, and_true]
    refine ⟨?_, ?_, ?_, ?_, ?_, ?_, ?_, Nat.succ_le_succ tps, ?_, ?_, ?_, Nat.succ_le_succ plugins⟩
    all_goals first | exact Nat.zero_le 2 | (rw [leaf]; exact Nat.zero_le 2)
  exact shallow.trans (Nat.le_add_left 3 9997)

theorem unique_printed : UniqueNames (snapshot.printed.quoted escape) := by
  have tps : UniqueItems (Value.mapItems (quoted escape) Numeral.literal
      (snapshot.tps.map number)) := by
    rw [Value.mapItems_eq_map, uniqueItems_iff]
    intro item listed
    obtain ⟨_, isItem, rfl⟩ := List.mem_map.mp listed
    obtain ⟨reading, -, rfl⟩ := List.mem_map.mp isItem
    cases reading <;> trivial
  have plugins : UniqueItems (Value.mapItems (quoted escape) Numeral.literal
      (snapshot.plugins.map PluginObservation.printed)) := by
    rw [Value.mapItems_eq_map, uniqueItems_iff]
    intro item listed
    obtain ⟨_, isItem, rfl⟩ := List.mem_map.mp listed
    obtain ⟨plugin, -, rfl⟩ := List.mem_map.mp isItem
    refine ⟨?_, trivial, trivial, trivial, trivial, trivial⟩
    rw [names_quoted]
    simp only [List.map_cons, List.map_nil]
    decide
  have mspt : UniqueNames ((number snapshot.mspt).quoted escape) := by
    cases snapshot.mspt <;> trivial
  refine ⟨?_, trivial, trivial, trivial, trivial, trivial, trivial, trivial, tps, mspt, trivial,
    trivial, plugins, trivial⟩
  rw [names_quoted]
  simp only [List.map_cons, List.map_nil]
  decide

theorem decode_raws (items : List Parsed) :
    ∃ data, decode leaves (.array items) (.slice (.leaf .raw)) .nil = some data := by
  have each : ∃ values, decodeItems leaves items (.leaf .raw) = some values := by
    induction items with
    | nil => exact ⟨[], rfl⟩
    | cons item items hypothesis =>
      obtain ⟨values, decoded⟩ := hypothesis
      refine ⟨.leaf .raw :: values, ?_⟩
      have first : decode leaves item (.leaf .raw) (zero leaves (.leaf .raw)) =
          some (.leaf .raw) := by
        cases item <;> rfl
      rw [decodeItems, first, decoded]
      rfl
  obtain ⟨values, decoded⟩ := each
  exact ⟨.slice values, Option.map_eq_some_iff.mpr ⟨values, decoded, rfl⟩⟩

theorem decode_observedAt (current : Data Scalar) :
    decode leaves (.string (quoted escape (instantText snapshot.observedAt))) (.leaf .time)
      current = if snapshot.observedAt.Encodable then some (.leaf (.time snapshot.observedAt))
        else none := by
  have present : (.string (quoted escape (instantText snapshot.observedAt)) : Parsed) ≠ .null :=
    nofun
  rw [decode_leaf _ present, read_time, parse_instantText]
  split
  · rfl
  · rfl

theorem decode_printed (encodable : snapshot.observedAt.Encodable) :
    ∃ rest, decode leaves (snapshot.printed.quoted escape)
      (.struct Admission.runtimeSnapshotFields)
      (zero leaves (.struct Admission.runtimeSnapshotFields)) =
        some (.struct (.leaf (.string snapshot.schemaVersion) ::
          .leaf (.string snapshot.pairingId) :: .leaf (.string snapshot.bootId) ::
          .leaf (.time snapshot.observedAt) :: .leaf (.bool snapshot.ready) ::
          .leaf (.string snapshot.admissionState) :: rest)) := by
  have string : ∀ value : String, decode leaves (.string (quoted escape value)) (.leaf .string)
      (zero leaves (.leaf .string)) = some (.leaf (.string value)) := by
    intro value
    show some (Data.leaf (Scalar.string (text (quoted escape value)))) = _
    rw [text_quoted]
  have integer : ∀ {value : Int}, Int64Range value →
      decode leaves (.number (PrefixCode.integer value)) (.leaf .int64)
        (zero leaves (.leaf .int64)) = some (.leaf (.int64 value)) := by
    intro value range
    show ((parseInt64 (PrefixCode.integer value)).map Scalar.int64).map Data.leaf = _
    rw [parseInt64_integer range]
    rfl
  have time := snapshot.decode_observedAt (zero leaves (.leaf .time))
  rw [if_pos encodable] at time
  have raw : decode leaves ((number snapshot.mspt).quoted escape) (.leaf .raw)
      (zero leaves (.leaf .raw)) = some (.leaf .raw) := by
    cases snapshot.mspt <;> rfl
  obtain ⟨tps, isTps⟩ := decode_raws (Value.mapItems (quoted escape) Numeral.literal
    (snapshot.tps.map number))
  obtain ⟨plugins, isPlugins⟩ := decode_raws (Value.mapItems (quoted escape) Numeral.literal
    (snapshot.plugins.map PluginObservation.printed))
  have present : ∀ {name : String} {value : Parsed} {shape : Shape Kind} {data : Data Scalar}
      {members : List (List Piece × Parsed)} {fields : List (String × Shape Kind)}
      {values : List (Data Scalar)},
      decode leaves value shape (zero leaves shape) = some data →
      Aligned leaves members fields values →
      Aligned leaves ((quoted escape name, value) :: members) ((name, shape) :: fields)
        (data :: values) := by
    intro name value shape data members fields values decoded rest
    have aligned : Aligned leaves ((quoted escape name, value) :: members)
      ((text (quoted escape name), shape) :: fields) (data :: values) := .present decoded rest
    rwa [text_quoted] at aligned
  refine ⟨_, decode_of_aligned (present (string _) <| present (string _) <| present (string _) <|
    present time <| present rfl <| present (string _) <| present (integer snapshot.playerRange) <|
    present isTps <| present raw <| present (integer snapshot.heapUsedRange) <|
    present (integer snapshot.heapMaxRange) <| present isPlugins .nil) (by decide)⟩

theorem strictDecode_payload (unencodable : ¬ snapshot.observedAt.Encodable) :
    strictDecode Admission.runtimeSnapshotFields snapshot.payload = none := by
  have ends : EndsNumber ['\n'] := endsNumber_cons (by decide) []
  have blank : skipSpace ['\n'] = [] := by decide
  rw [Option.eq_none_iff_forall_ne_some]
  intro data decoded
  unfold strictDecode at decoded
  obtain ⟨_, -, decoded⟩ := Option.bind_eq_some_iff.mp decoded
  obtain ⟨members, isObject, listed⟩ : ∃ members, snapshot.printed.quoted escape =
      .object members ∧ (quoted escape "observed_at",
        .string (quoted escape (instantText snapshot.observedAt))) ∈ members :=
    ⟨_, rfl, List.mem_of_getElem? (rfl : _[3]? = _)⟩
  rw [payload, encode, Utf8.decodeLossy_encode, parse_write snapshot.depth_printed blank ends,
    isObject] at decoded
  obtain ⟨values, isValues, -⟩ := Option.map_eq_some_iff.mp decoded
  obtain ⟨index, shape, found, current, fits⟩ := findField_of_decodeFields isValues listed
  rw [text_quoted] at found
  have time : findField Admission.runtimeSnapshotFields "observed_at" =
      some (3, .leaf .time) := rfl
  obtain ⟨-, rfl⟩ := Prod.mk.inj (Option.mem_unique time found)
  rw [decode_observedAt, if_neg unencodable] at fits
  exact nomatch fits

/-- A published snapshot that the gate can read: it is short enough and its instant has a year of
four digits. -/
def Readable : Prop :=
  snapshot.observedAt.Encodable ∧ snapshot.payload.length ≤ Admission.maxRuntimeSnapshotBytes
deriving Decidable

/-- The gate reads what the plugin publishes. -/
theorem readRuntimeSnapshot_payload :
    Admission.readRuntimeSnapshot (.regular snapshot.payload) =
      if snapshot.Readable then some snapshot.reading else none := by
  have ends : EndsNumber ['\n'] := endsNumber_cons (by decide) []
  have blank : skipSpace ['\n'] = [] := by decide
  rw [Admission.readRuntimeSnapshot]
  by_cases short : snapshot.payload.length ≤ Admission.maxRuntimeSnapshotBytes
  · rw [if_neg (not_lt.mpr short)]
    by_cases encodable : snapshot.observedAt.Encodable
    · obtain ⟨rest, decoded⟩ := snapshot.decode_printed encodable
      rw [if_pos ⟨encodable, short⟩, payload, encode, strictDecode_write snapshot.depth_printed
        snapshot.unique_printed decoded blank ends]
      rfl
    · rw [if_neg fun readable => encodable readable.1, snapshot.strictDecode_payload encodable]
      rfl
  · rw [if_pos (not_le.mp short), if_neg fun readable => short readable.2]

end RuntimeSnapshot

end Guard

end GuardedAgentRunner
