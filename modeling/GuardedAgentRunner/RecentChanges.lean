/-
This file models the tool `get_recent_changes`, which pages through the intents of
a session, and proves that its pages are complete. The cursor of a page is the
text of the last row's time, parsed and formatted again, and the identifier of the
row; it is accepted as the next argument and remains for the rows after that row.
-/

import GuardedAgentRunner.Library.Pages
import GuardedAgentRunner.OwnReads
import GuardedAgentRunner.StrictJson

namespace GuardedAgentRunner

open Fallible Store

/-! ### Identifiers -/

/-- `hex.EncodeToString`. -/
def hexEncode (bytes : List UInt8) : String :=
  String.ofList (bytes.flatMap fun byte =>
    [Nat.digitChar (byte.toNat / 16), Nat.digitChar (byte.toNat % 16)])

/-- `NewID`, with the bytes that were drawn. -/
def newID (kind : String) (random : List UInt8) : String := kind ++ "_" ++ hexEncode random

/-- An identifier of an intent that `NewID` returns. -/
def IsIntentID (id : String) : Prop :=
  ∃ random : List UInt8, random.length = 16 ∧ id = newID "intent" random

/-! ### The tool -/

/-- An argument of a read tool: a string, an `int` or a value of another type. -/
inductive ReadArgument where
  | text (value : String)
  | integer (value : Int)
  | other
deriving DecidableEq, Repr

abbrev ReadArguments := List (String × ReadArgument)

/-- The check of `cursor`, if it is given. -/
def validateCursor : Option ReadArgument → Except Failure Unit
  | none => pure ()
  | some (.text value) => refuse (256 < value.utf8ByteSize)
    (newError .invalidRequest "cursor must be a string of at most 256 bytes")
  | some _ => throw (newError .invalidRequest "cursor must be a string of at most 256 bytes")

/-- The check of `limit`, if it is given. -/
def validateLimit : Option ReadArgument → Except Failure Unit
  | none => pure ()
  | some (.integer limit) => refuse (limit < 1 ∨ 200 < limit)
    (newError .invalidRequest "limit must be an integer from 1 through 200")
  | some _ => throw (newError .invalidRequest "limit must be an integer from 1 through 200")

/-- `validateReadArguments`. The map of arguments is walked in some order. -/
def validateReadArguments (name : String) (arguments : ReadArguments) : Except Failure Unit :=
  if name ∈ ["inspect_server_identity", "get_health", "get_players", "get_performance",
      "list_plugins", "get_backup_status"] then
    refuse (arguments ≠ []) (newError .invalidRequest (name ++ " accepts no arguments"))
  else if name ∈ ["get_recent_errors", "get_recent_changes"] then do
    each (fun argument : String × ReadArgument =>
      refuse (argument.1 ≠ "cursor" ∧ argument.1 ≠ "limit")
        (newError .invalidRequest ("unknown bounded-read argument: " ++ argument.1))) arguments
    validateCursor (arguments.lookup "cursor")
    validateLimit (arguments.lookup "limit")
  else throw (newError .scopeDenied "unknown or non-read agent tool")

/-- What `recentChanges` returns. -/
structure RecentChanges where
  availability : Availability
  source : String
  observedAt : Time
  changes : List IntentSummary
  nextCursor : String
  historyScope : String

/-- `recentChanges`. -/
def recentChanges (now : Time) (arguments : ReadArguments) (scope : AgentSessionScope)
    (database : Database) : Except Failure RecentChanges := do
  let limit := match arguments.lookup "limit" with
    | some (.integer value) => value
    | _ => 50
  let cursor := match arguments.lookup "cursor" with
    | some (.text value) => value
    | _ => ""
  let (changes, nextCursor) ←
    listIntentSummaries scope.principalID scope.enrollmentID cursor limit database
  pure { availability := .available, source := "gar-journal", observedAt := now, changes,
         nextCursor,
         historyScope := "GAR intents visible to this principal and enrollment only" }

/-- A call of the tool with a cursor and a limit, as far as the arguments and the journal decide
it. -/
def readRecentChanges (now : Time) (scope : AgentSessionScope) (limit : Int)
    (database : Database) (cursor : String) : Except Failure (List IntentSummary × String) := do
  let arguments := [("cursor", .text cursor), ("limit", .integer limit)]
  validateReadArguments "get_recent_changes" arguments
  let answer ← recentChanges now arguments scope database
  pure (answer.changes, answer.nextCursor)

/-- The summary of a stored intent. -/
def IntentSummary.of (record : IntentRecord) : IntentSummary where
  intentID := record.intent.intentID
  clientRequestID := record.intent.clientRequestID
  status := record.status
  intentDigest := record.intent.intentDigest
  updatedAt := record.updatedAt

/-! ### Texts -/

theorem hexEncode_characters {bytes : List UInt8} :
    ∀ character ∈ (hexEncode bytes).toList, character ∈ "0123456789abcdef".toList := by
  have digits : ∀ digit < 16, Nat.digitChar digit ∈ "0123456789abcdef".toList := by decide
  intro character listed
  rw [hexEncode, String.toList_ofList] at listed
  obtain ⟨byte, -, listed⟩ := List.mem_flatMap.mp listed
  have bound : byte.toNat < 256 := byte.toNat_lt
  rcases List.mem_cons.mp listed with rfl | listed
  · exact digits _ (by omega)
  · rw [List.mem_singleton.mp listed]
    exact digits _ (Nat.mod_lt _ (by decide))

theorem length_hexEncode (bytes : List UInt8) :
    (hexEncode bytes).toList.length = 2 * bytes.length := by
  rw [hexEncode, String.toList_ofList, List.length_flatMap]
  simp [Nat.mul_comm]

variable {id : String}

theorem IsIntentID.characters (isID : IsIntentID id) :
    id.toList.length = 39 ∧
      ∀ character ∈ id.toList, character ∈ "intent_".toList ++ "0123456789abcdef".toList := by
  obtain ⟨random, length, rfl⟩ := isID
  have parts : (newID "intent" random).toList = "intent_".toList ++ (hexEncode random).toList := by
    rw [newID, String.toList_append]
    rfl
  rw [parts]
  constructor
  · rw [List.length_append, length_hexEncode, length]
    rfl
  · intro character listed
    rcases List.mem_append.mp listed with listed | listed
    · exact List.mem_append_left _ listed
    · exact List.mem_append_right _ (hexEncode_characters character listed)

theorem IsIntentID.utf8ByteSize (isID : IsIntentID id) : id.utf8ByteSize = 39 := by
  obtain ⟨length, characters⟩ := isID.characters
  have ascii : ∀ character ∈ "intent_".toList ++ "0123456789abcdef".toList,
      character.utf8Size = 1 := JsonText.forall_mem_of_all (by decide)
  rw [Utf8.utf8ByteSize_eq]
  exact (byteLength_ascii fun character listed => ascii character (characters character listed)).trans
    length

theorem IsIntentID.bar_notMem (isID : IsIntentID id) : '|' ∉ id.toList := by
  intro listed
  have bar := isID.characters.2 '|' listed
  exact absurd bar (by decide)

theorem splitCursor_join {time : String} (parsed : (Time.parse time).isSome = true)
    (timed : time ≠ "") (named : id ≠ "") (noBar : '|' ∉ id.toList) :
    splitCursor (time ++ "|" ++ id) = some (time, id) := by
  have reversed : (time ++ "|" ++ id).toList.reverse =
      id.toList.reverse ++ '|' :: time.toList.reverse := by
    rw [String.toList_append, String.toList_append, List.reverse_append, List.reverse_append]
    rfl
  have plain : ∀ character ∈ id.toList.reverse, decide (character ≠ '|') = true := by
    intro character listed
    refine decide_eq_true fun bar => noBar ?_
    exact bar ▸ List.mem_reverse.mp listed
  have dropped : (time ++ "|" ++ id).toList.reverse.dropWhile (· ≠ '|') =
      '|' :: time.toList.reverse := by
    rw [reversed, List.dropWhile_append_of_pos plain]
    rfl
  have taken : (time ++ "|" ++ id).toList.reverse.takeWhile (· ≠ '|') = id.toList.reverse := by
    rw [reversed, List.takeWhile_append_of_pos plain]
    exact List.append_nil _
  have bar : '|' ∈ (time ++ "|" ++ id).toList := by
    rw [← List.mem_reverse, reversed]
    exact List.mem_append_right _ List.mem_cons_self
  unfold splitCursor
  rw [dropped, taken]
  simp only [List.drop_succ_cons, List.drop_zero, List.reverse_reverse, String.ofList_toList]
  exact if_pos ⟨bar, timed, named, parsed⟩

/-! ### Pages -/

/-- A row is listed before another one. -/
def Before (first second : IntentRow) : Prop :=
  second.updatedAt < first.updatedAt ∨
    second.updatedAt = first.updatedAt ∧ second.intentID < first.intentID
deriving Decidable

theorem before_asymmetric (first second : IntentRow) (before : Before first second) :
    ¬ Before second first := by
  rintro (later | ⟨same, later⟩)
  · rcases before with earlier | ⟨same, -⟩
    · exact lt_asymm later earlier
    · exact absurd same (ne_of_gt later)
  · rcases before with earlier | ⟨-, earlier⟩
    · exact absurd same (ne_of_gt earlier)
    · exact lt_asymm later earlier

section Rows

variable (database : Database) (principalID enrollmentID : String)

/-- The rows from a start on, in the order in which they are listed. -/
def listing (start : Option (String × String)) : List IntentRow :=
  (database.intents.rows.filter (inPage principalID enrollmentID start)).mergeSort newestFirst

variable {database principalID enrollmentID} {start : Option (String × String)}
  {scope : AgentSessionScope} {record : IntentRecord}

theorem listing_perm : (listing database principalID enrollmentID start).Perm
    (database.intents.rows.filter (inPage principalID enrollmentID start)) :=
  List.mergeSort_perm ..

theorem mem_listing {row : IntentRow} :
    row ∈ listing database principalID enrollmentID start ↔
      row ∈ database.intents.rows ∧ inPage principalID enrollmentID start row = true :=
  listing_perm.mem_iff.trans List.mem_filter

theorem listing_distinct : (listing database principalID enrollmentID start).Pairwise
    fun first second => first.intentID ≠ second.intentID := by
  have rows := database.intents.distinct.imp fun apart same =>
      apart (IntentRow.exclusive_intentID _ _ same)
  exact (listing_perm.pairwise_iff Ne.symm).mpr (rows.filter _)

theorem listing_pairwise :
    (listing database principalID enrollmentID start).Pairwise Before := by
  have sorted : (listing database principalID enrollmentID start).Pairwise
      fun first second => newestFirst first second = true :=
    List.pairwise_mergeSort newestFirst_trans newestFirst_total _
  refine (sorted.and listing_distinct).imp ?_
  rintro first second ⟨order, apart⟩
  rcases newestFirst_iff.mp order with before | ⟨same, id⟩
  · exact Or.inl before
  · exact Or.inr ⟨same, lt_of_le_of_ne id (Ne.symm apart)⟩

theorem inPage_none :
    inPage scope.principalID scope.enrollmentID none (IntentRow.of record) = true ↔
      scope.Owns record := by
  show (decide (record.intent.principalID = scope.principalID) &&
    decide (record.intent.enrollmentID = scope.enrollmentID) && true) = true ↔ _
  rw [Bool.and_true, Bool.and_eq_true, decide_eq_true_iff, decide_eq_true_iff]
  exact Iff.rfl

theorem listing_after {front back : List IntentRow} {row : IntentRow}
    (listed : listing database principalID enrollmentID none = front ++ row :: back) :
    listing database principalID enrollmentID (some (row.updatedAt, row.intentID)) = back := by
  have selected : database.intents.rows.filter
        (inPage principalID enrollmentID (some (row.updatedAt, row.intentID))) =
      (database.intents.rows.filter (inPage principalID enrollmentID none)).filter
        (fun other => Before row other) := by
    rw [List.filter_filter]
    refine List.filter_congr fun other _ => ?_
    rw [Bool.eq_iff_iff]
    simp [inPage, Before]
    tauto
  have perm : (listing database principalID enrollmentID
      (some (row.updatedAt, row.intentID))).Perm _ := listing_perm
  rw [selected] at perm
  rw [Pages.eq_filter_of_perm before_asymmetric _ listing_perm listing_pairwise perm
    listing_pairwise, listed]
  exact Pages.filter_after before_asymmetric (listed ▸ listing_pairwise)

/-- The rows of intents that the store has written with identifiers of `NewID` and encodable
times. -/
def WellTimed (database : Database) : Prop :=
  ∀ id record, database.intent id = some record →
    IsIntentID id ∧ record.updatedAt.Encodable

theorem WellTimed.row (wellTimed : WellTimed database) (coherent : database.Coherent)
    {row : IntentRow} (member : row ∈ database.intents.rows) :
    IsIntentID row.intentID ∧
      ∃ record, row = IntentRow.of record ∧ record.updatedAt.Encodable := by
  obtain ⟨record, rfl, stored⟩ := coherent.intent_row member
  obtain ⟨isID, encodable⟩ := wellTimed _ record stored
  exact ⟨isID, record, rfl, encodable⟩

theorem summarize_of (encodable : record.updatedAt.Encodable) :
    summarize (IntentRow.of record) = .ok (IntentSummary.of record) := by
  unfold summarize
  rw [show (IntentRow.of record).updatedAt = record.updatedAt.formatRFC3339Nano from rfl,
    Time.parse_formatRFC3339Nano encodable]
  rfl

theorem mapM_summarize {rows : List IntentRow}
    (all : ∀ row ∈ rows, ∃ record, row = IntentRow.of record ∧ record.updatedAt.Encodable) :
    rows.mapM summarize = .ok (rows.map fun row => IntentSummary.of row.payload) := by
  induction rows with
  | nil => rfl
  | cons row rows hypothesis =>
    obtain ⟨record, rfl, encodable⟩ := all row List.mem_cons_self
    rw [List.mapM_cons, summarize_of encodable,
      hypothesis fun other member => all other (List.mem_cons_of_mem _ member)]
    rfl

/-- The cursor that names a row. -/
def cursorOf (row : IntentRow) : String := row.updatedAt ++ "|" ++ row.intentID

theorem cursorOf_accepted (wellTimed : WellTimed database) (coherent : database.Coherent)
    {row : IntentRow} (member : row ∈ database.intents.rows) :
    cursorOf row ≠ "" ∧ (cursorOf row).utf8ByteSize ≤ 256 ∧
      readCursor (cursorOf row) = .ok (some (row.updatedAt, row.intentID)) := by
  obtain ⟨isID, record, same, encodable⟩ := wellTimed.row coherent member
  have time : row.updatedAt = record.updatedAt.formatRFC3339Nano := by rw [same]; rfl
  have parsed : Time.parse row.updatedAt = some record.updatedAt := by
    rw [time, Time.parse_formatRFC3339Nano encodable]
  have timed : row.updatedAt ≠ "" := by
    intro empty
    rw [empty] at parsed
    exact nomatch parsed
  have named : row.intentID ≠ "" := by
    intro empty
    have length := isID.characters.1
    rw [empty] at length
    exact nomatch length
  have notEmpty : cursorOf row ≠ "" := by
    intro empty
    have listed : '|' ∈ (cursorOf row).toList := by
      rw [cursorOf, String.toList_append, String.toList_append]
      exact List.mem_append_left _ (List.mem_append_right _ List.mem_cons_self)
    rw [empty] at listed
    exact nomatch listed
  refine ⟨notEmpty, ?_, ?_⟩
  · have size := utf8ByteSize_formatRFC3339Nano_le encodable
    rw [← time] at size
    rw [cursorOf, String.utf8ByteSize_append, String.utf8ByteSize_append, isID.utf8ByteSize]
    have bar : "|".utf8ByteSize = 1 := rfl
    omega
  · unfold readCursor
    rw [if_neg notEmpty, cursorOf, splitCursor_join (by rw [parsed]; rfl) timed named
      isID.bar_notMem]
    rfl

theorem nextCursor_full (wellTimed : WellTimed database) (coherent : database.Coherent)
    (front : List IntentRow) {last : IntentRow} (member : last ∈ database.intents.rows) :
    nextCursor (front.length + 1)
      ((front ++ [last]).map fun row => IntentSummary.of row.payload) = cursorOf last := by
  obtain ⟨-, record, rfl, -⟩ := wellTimed.row coherent member
  have length : ((front ++ [IntentRow.of record]).map fun row =>
      IntentSummary.of row.payload).length = front.length + 1 := by
    rw [List.length_map, List.length_append, List.length_singleton]
  have isLast : ((front ++ [IntentRow.of record]).map fun row =>
      IntentSummary.of row.payload).getLast? = some (IntentSummary.of record) := by
    rw [List.map_append, List.map_singleton, List.getLast?_concat]
    rfl
  unfold nextCursor
  rw [isLast, length]
  exact if_pos rfl

theorem nextCursor_short {limit : Nat} {results : List IntentSummary}
    (short : results.length < limit) : nextCursor limit results = "" := by
  unfold nextCursor
  split
  · exact if_neg (ne_of_lt short)
  · rfl

/-- The cursor is accepted and stands for the rest of the listing. -/
def Remains (database : Database) (principalID enrollmentID cursor : String)
    (rest : List IntentRow) : Prop :=
  cursor.utf8ByteSize ≤ 256 ∧ ∃ start, readCursor cursor = .ok start ∧
    listing database principalID enrollmentID start = rest ∧
    rest <:+ listing database principalID enrollmentID none

/-- The summaries of the first rows. -/
def summaries (limit : Int) (rows : List IntentRow) : List IntentSummary :=
  (rows.take limit.toNat).map fun row => IntentSummary.of row.payload

variable {cursor : String} {rest : List IntentRow} {limit : Int}

theorem validateReadArguments_eq (low : 1 ≤ limit) (high : limit ≤ 200)
    (size : cursor.utf8ByteSize ≤ 256) :
    validateReadArguments "get_recent_changes"
      [("cursor", .text cursor), ("limit", .integer limit)] = .ok () := by
  have small : ¬ 256 < cursor.utf8ByteSize := by omega
  have inRange : ¬ (limit < 1 ∨ 200 < limit) := by omega
  refine bind_eq_ok.mpr ⟨(), rfl, bind_eq_ok.mpr ⟨(), ?_, ?_⟩⟩
  · exact (refuse_eq_ok _ _ _).mpr small
  · exact (refuse_eq_ok _ _ _).mpr inRange

/-- What a call answers, for a cursor that stands for the rest of the listing. -/
theorem readRecentChanges_eq (now : Time) (wellTimed : WellTimed database)
    (coherent : database.Coherent) (low : 1 ≤ limit) (high : limit ≤ 200)
    (remains : Remains database scope.principalID scope.enrollmentID cursor rest) :
    readRecentChanges now scope limit database cursor =
      .ok (summaries limit rest, nextCursor limit.toNat (summaries limit rest)) := by
  obtain ⟨size, start, accepted, rfl, -⟩ := remains
  have inRange : ¬ (limit < 1 ∨ 200 < limit) := by omega
  have all : ((listing database scope.principalID scope.enrollmentID start).take
      limit.toNat).mapM summarize =
      .ok (summaries limit (listing database scope.principalID scope.enrollmentID start)) :=
    mapM_summarize fun row member => (wellTimed.row coherent
      (mem_listing.mp (List.mem_of_mem_take member)).1).2
  have listed : listIntentSummaries scope.principalID scope.enrollmentID cursor limit database =
      .ok (summaries limit (listing database scope.principalID scope.enrollmentID start),
        nextCursor limit.toNat
          (summaries limit (listing database scope.principalID scope.enrollmentID start))) := by
    refine (refuse_bind_eq_ok _ _).mpr ⟨inRange, ?_⟩
    exact bind_eq_ok.mpr ⟨start, accepted, bind_eq_ok.mpr ⟨_, all, rfl⟩⟩
  refine bind_eq_ok.mpr ⟨(), validateReadArguments_eq low high size, ?_⟩
  exact bind_eq_ok.mpr ⟨_, bind_eq_ok.mpr ⟨_, listed, rfl⟩, rfl⟩

theorem Remains.next (wellTimed : WellTimed database) (coherent : database.Coherent)
    (low : 1 ≤ limit) (remains : Remains database principalID enrollmentID cursor rest)
    (full : limit.toNat ≤ rest.length) :
    nextCursor limit.toNat (summaries limit rest) ≠ "" ∧
      Remains database principalID enrollmentID (nextCursor limit.toNat (summaries limit rest))
        (rest.drop limit.toNat) := by
  obtain ⟨-, start, -, -, front, whole⟩ := remains
  obtain ⟨count, isCount⟩ : ∃ count, limit.toNat = count + 1 := ⟨limit.toNat - 1, by omega⟩
  rw [isCount] at full ⊢
  have bound : count < rest.length := full
  have page := (List.take_concat_get' rest count bound).symm
  have split : listing database principalID enrollmentID none =
      (front ++ rest.take count) ++ rest[count] :: rest.drop (count + 1) := by
    rw [← whole, List.append_assoc, ← List.drop_eq_getElem_cons bound, List.take_append_drop]
  have member : rest[count] ∈ database.intents.rows := by
    have listed : rest[count] ∈ listing database principalID enrollmentID none := by
      rw [split]
      exact List.mem_append_right _ List.mem_cons_self
    exact (mem_listing.mp listed).1
  have isCursor : nextCursor (count + 1) (summaries limit rest) = cursorOf rest[count] := by
    have length : (rest.take count).length = count := List.length_take_of_le bound.le
    have next := nextCursor_full wellTimed coherent (rest.take count) member
    rw [length, ← page, ← isCount] at next
    rw [← isCount]
    exact next
  obtain ⟨notEmpty, size, accepted⟩ := cursorOf_accepted wellTimed coherent member
  rw [isCursor]
  refine ⟨notEmpty, size, _, accepted, listing_after split, front ++ rest.take (count + 1), ?_⟩
  rw [List.append_assoc, List.take_append_drop, whole]

end Rows

/-- The pages of recent changes are complete: following the returned cursors from the empty one
ends, every cursor is accepted, and the pages together list every intent of the principal and the
enrollment once and nothing else. -/
theorem recent_changes_complete (codec : Codec) (log : List Transaction)
    (scope : AgentSessionScope) (now : Time) (limit : Int) (low : 1 ≤ limit) (high : limit ≤ 200)
    (wellTimed : WellTimed (replay codec log)) :
    ∃ pages changes,
      Pages.follow (readRecentChanges now scope limit (replay codec log)) (· = "") pages "" =
        .ok (some changes) ∧
      (changes.map (·.intentID)).Nodup ∧
      ∀ summary, summary ∈ changes ↔
        ∃ record, (replay codec log).intent record.intent.intentID = some record ∧
          scope.Owns record ∧ summary = .of record := by
  have coherent := @replay_coherent codec log
  have first : Remains (replay codec log) scope.principalID scope.enrollmentID ""
      (listing (replay codec log) scope.principalID scope.enrollmentID none) :=
    ⟨Nat.zero_le _, none, rfl, rfl, List.suffix_refl _⟩
  have positive : 0 < limit.toNat := by omega
  have answered : ∀ cursor rest,
      Remains (replay codec log) scope.principalID scope.enrollmentID cursor rest →
      ∃ next, readRecentChanges now scope limit (replay codec log) cursor =
          .ok ((rest.take limit.toNat).map (fun row => IntentSummary.of row.payload), next) ∧
        (rest.length < limit.toNat → next = "") ∧
        (limit.toNat ≤ rest.length → next ≠ "" ∧
          Remains (replay codec log) scope.principalID scope.enrollmentID next
            (rest.drop limit.toNat)) := by
    intro cursor rest remains
    refine ⟨_, readRecentChanges_eq now wellTimed coherent low high remains, fun short => ?_,
      remains.next wellTimed coherent low⟩
    have length : (summaries limit rest).length ≤ rest.length := by
      rw [summaries, List.length_map]
      exact List.length_take_le' ..
    exact nextCursor_short (length.trans_lt short)
  obtain ⟨pages, followed⟩ := Pages.exists_follow _ positive answered "" _ first
  have named : ∀ row ∈ listing (replay codec log) scope.principalID scope.enrollmentID none,
      row.payload.intent.intentID = row.intentID := by
    intro row listed
    obtain ⟨record, rfl, -⟩ := coherent.intent_row (mem_listing.mp listed).1
    rfl
  refine ⟨pages, _, followed, ?_, fun summary => ?_⟩
  · rw [List.map_map, List.Nodup, List.pairwise_map]
    refine listing_distinct.imp_of_mem fun {first second} isFirst isSecond apart same => ?_
    exact apart ((named first isFirst).symm.trans (same.trans (named second isSecond)))
  · rw [List.mem_map]
    constructor
    · rintro ⟨row, listed, rfl⟩
      obtain ⟨member, own⟩ := mem_listing.mp listed
      obtain ⟨record, rfl, stored⟩ := coherent.intent_row member
      exact ⟨record, stored, inPage_none.mp own, rfl⟩
    · rintro ⟨record, stored, owns, rfl⟩
      obtain ⟨member, -⟩ := coherent.intent_eq_some.mp stored
      exact ⟨IntentRow.of record, mem_listing.mpr ⟨member, inPage_none.mpr owns⟩, rfl⟩

/-- A proposal of the fixture whose identifier was drawn as sixteen equal bytes. -/
def drawnProposal (byte : UInt8) (clientRequestID : String) : IntentRecord :=
  { firstProposal with
    intent := fixtureIntent (newID "intent" (List.replicate 16 byte)) clientRequestID "backup_a"
      "digest" }

/-- Two proposals of the same instant. -/
def drawnLog : List Transaction :=
  [⟨fixtureIDs "a", .putIntent (drawnProposal 10 "request-a")⟩,
    ⟨fixtureIDs "b", .putIntent (drawnProposal 11 "request-b")⟩]

theorem drawnLog_rows : (replay fixtureCodec drawnLog).intents.rows =
    [IntentRow.of (drawnProposal 10 "request-a"), IntentRow.of (drawnProposal 11 "request-b")] := by
  decide +kernel

theorem drawnLog_wellTimed : WellTimed (replay fixtureCodec drawnLog) := by
  intro id record stored
  obtain ⟨member, rfl⟩ := (replay_coherent drawnLog).intent_eq_some.mp stored
  rw [drawnLog_rows] at member
  have drawn : ∃ byte request, record = drawnProposal byte request := by
    rcases List.mem_cons.mp member with same | member
    · exact ⟨10, "request-a", congrArg IntentRow.payload same⟩
    · exact ⟨11, "request-b", congrArg IntentRow.payload (List.mem_singleton.mp member)⟩
  obtain ⟨byte, request, rfl⟩ := drawn
  have encodable : fixtureNow.Encodable := by decide
  exact ⟨⟨List.replicate 16 byte, rfl, rfl⟩, encodable⟩

/-- Pages of one change each list both proposals. -/
theorem drawnLog_pages_complete :
    ∃ pages changes,
      Pages.follow (readRecentChanges fixtureNow fixtureScope 1 (replay fixtureCodec drawnLog))
        (· = "") pages "" = .ok (some changes) ∧
      IntentSummary.of (drawnProposal 10 "request-a") ∈ changes ∧
      IntentSummary.of (drawnProposal 11 "request-b") ∈ changes := by
  obtain ⟨pages, changes, followed, -, listed⟩ := recent_changes_complete fixtureCodec drawnLog
    fixtureScope fixtureNow 1 (by decide) (by decide) drawnLog_wellTimed
  have coherent := @replay_coherent fixtureCodec drawnLog
  refine ⟨pages, changes, followed, (listed _).mpr ⟨_, ?_, ⟨rfl, rfl⟩, rfl⟩,
    (listed _).mpr ⟨_, ?_, ⟨rfl, rfl⟩, rfl⟩⟩
  · exact coherent.intent_eq_some.mpr ⟨drawnLog_rows ▸ List.mem_cons_self, rfl⟩
  · exact coherent.intent_eq_some.mpr
      ⟨drawnLog_rows ▸ List.mem_cons_of_mem _ List.mem_cons_self, rfl⟩

end GuardedAgentRunner
