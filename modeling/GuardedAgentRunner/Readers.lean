/-
This file compares the two readers of the lease, the one of the gate and the one
of the plugin, on the same bytes. It says when a content means the same to both
and when it is a lease to one of them, and proves that they agree at every
instant exactly if the content means the same to both or is a lease to neither.
-/

import GuardedAgentRunner.Guard

namespace GuardedAgentRunner

open Fallible JsonText StructDecode Admission

namespace Guard

/-! ### The fields as the gate decodes them -/

variable {field : Field} {pairingID : String} {now : Time} {member : List Piece × Parsed}
  {given : String} {other : Field}

namespace Field

def kind : Field → Kind
  | .deploymentGeneration => .int64
  | .issuedAt => .time
  | .expiresAt => .time
  | _ => .string

/-- The place of a field in the record of the gate. -/
def index : Field → Nat
  | .schemaVersion => 0
  | .pairingID => 1
  | .deploymentGeneration => 2
  | .mode => 3
  | .reason => 4
  | .issuedAt => 5
  | .expiresAt => 6

/-- What a state has in a field. -/
def scalar (state : State) : Field → Scalar
  | .schemaVersion => .string state.schemaVersion
  | .pairingID => .string state.pairingID
  | .deploymentGeneration => .int64 state.deploymentGeneration
  | .mode => .string state.mode.text
  | .reason => .string state.reason
  | .issuedAt => .time state.issuedAt
  | .expiresAt => .time state.expiresAt

/-- A value of the kind of the field. -/
def Fits : Field → Scalar → Prop
  | .deploymentGeneration, scalar => ∃ value, scalar = .int64 value
  | .issuedAt, scalar => ∃ value, scalar = .time value
  | .expiresAt, scalar => ∃ value, scalar = .time value
  | _, scalar => ∃ value, scalar = .string value

theorem getElem?_stateFields (field : Field) :
    stateFields[field.index]? = some (field.name, .leaf field.kind) := by
  cases field <;> rfl

theorem exists_of_getElem? {index : Nat} {entry : String × Shape Kind}
    (found : stateFields[index]? = some entry) :
    ∃ field : Field, index = field.index ∧ entry = (field.name, .leaf field.kind) := by
  have same : stateFields = all.map fun field => (field.name, .leaf field.kind) := rfl
  rw [same, List.getElem?_map] at found
  obtain ⟨field, isField, rfl⟩ := Option.map_eq_some_iff.mp found
  have numbered : ∀ place < 7, ∀ field ∈ all[place]?, place = Field.index field := by decide
  have bound : index < 7 := (List.getElem?_eq_some_iff.mp isField).1
  exact ⟨field, numbered index bound field isField, rfl⟩

theorem findField_name (field : Field) :
    findField stateFields field.name = some (field.index, .leaf field.kind) := by
  cases field <;> rfl

theorem fieldIndex_name (field : Field) :
    fieldIndex stateFields field.name = some field.index :=
  (findField_eq_some_iff.mp field.findField_name).1

theorem name_inj (same : field.name = other.name) : field = other := by
  have first := congrArg (fun name => textUnits name) same
  have found := find_field_eq_some_iff.mpr (rfl : textUnits field.name = textUnits field.name)
  have also := find_field_eq_some_iff.mpr first
  exact Option.mem_unique found also

end Field

/-! ### What the gate makes of the members -/

section Decoding

variable {members : List (List Piece × Parsed)} {values : List (Data Scalar)}
  {state : State} {data : Data Scalar}

/-- The state has in every field what its member is decoded into. -/
structure Decodes (members : List (List Piece × Parsed)) (state : State) : Prop where
  given : ∀ member ∈ members, ∀ field : Field, text member.1 = field.name →
    decode leaves member.2 (.leaf field.kind) (zero leaves (.leaf field.kind)) =
      some (.leaf (field.scalar state))
  absent : ∀ field : Field, (∀ member ∈ members, text member.1 ≠ field.name) →
    field.scalar state = leaves.zero field.kind
  normal : Mode.ofText state.mode.text = state.mode

theorem getElem?_of_ofData (isState : State.ofData (.struct values) = some state)
    (field : Field) : values[field.index]? = some (.leaf (field.scalar state)) := by
  unfold State.ofData at isState
  split at isState
  · rename_i schemaVersion pairingID generation mode reason issuedAt expiresAt same
    obtain rfl := Data.struct.inj same
    obtain rfl := Option.some.inj isState
    cases field with
    | mode =>
      show some (Data.leaf (Scalar.string mode)) = _
      rw [Field.scalar, Mode.text_ofText]
    | _ => rfl
  · exact nomatch isState

theorem ofText_of_ofData (isState : State.ofData data = some state) :
    Mode.ofText state.mode.text = state.mode := by
  unfold State.ofData at isState
  split at isState
  · obtain rfl := Option.some.inj isState
    exact congrArg Mode.ofText (Mode.text_ofText _)
  · exact nomatch isState

/-- A decoded object whose members have the names of fields, each once. -/
structure Exact (members : List (List Piece × Parsed)) : Prop where
  named : ∀ member ∈ members, ∃ field : Field, text member.1 = field.name
  distinct : (members.map (text ·.1)).Nodup

theorem Exact.entry (exact : Exact members)
    (decoded : decodeFields leaves members stateFields
      (zeros leaves stateFields) = some values) (field : Field) :
    (∀ member ∈ members, text member.1 = field.name →
      values[field.index]? = decode leaves member.2 (.leaf field.kind)
        (zero leaves (.leaf field.kind))) ∧
    ((∀ member ∈ members, text member.1 ≠ field.name) →
      values[field.index]? = some (zero leaves (.leaf field.kind))) := by
  have isZero : (zeros leaves stateFields)[field.index]? =
      some (zero leaves (.leaf field.kind)) := by
    rw [getElem?_zeros, field.getElem?_stateFields]
    rfl
  have names : ∀ member ∈ members, ∀ other : Field,
      fieldIndex stateFields (text member.1) = some other.index →
      text member.1 = other.name := by
    intro member listed other found
    obtain ⟨own, isOwn⟩ := exact.named member listed
    rw [isOwn, own.fieldIndex_name] at found
    have same : own = other := by
      revert found
      cases own <;> cases other <;> decide
    rw [isOwn, same]
  have once : (members.map fun member =>
      fieldIndex stateFields (text member.1)).Nodup := by
    refine List.Nodup.map_on ?_ exact.distinct.of_map
    intro first isFirst second isSecond same
    obtain ⟨own, isOwn⟩ := exact.named second isSecond
    rw [isOwn, own.fieldIndex_name] at same
    exact (List.inj_on_of_nodup_map exact.distinct) isFirst isSecond
      ((names first isFirst own same).trans isOwn.symm)
  constructor
  · intro member listed named
    have found := field.findField_name
    rw [← named] at found
    obtain ⟨data, isData, isDecoded⟩ := getElem?_of_setter decoded once listed found
      (List.getElem?_eq_some_iff.mp isZero).1
    rw [List.getD_eq_getElem?_getD, isZero, Option.getD_some] at isDecoded
    rw [isData, isDecoded]
  · intro absent
    rw [getElem?_of_no_setter decoded, isZero]
    intro member listed found
    exact absent member listed (names member listed field found)

theorem Exact.decodes (exact : Exact members)
    (decoded : decodeFields leaves members stateFields
      (zeros leaves stateFields) = some values)
    (isState : State.ofData (.struct values) = some state) : Decodes members state := by
  refine ⟨fun member listed field named => ?_, fun field absent => ?_,
    ofText_of_ofData isState⟩
  · rw [← (exact.entry decoded field).1 member listed named, getElem?_of_ofData isState]
  · have same := (exact.entry decoded field).2 absent
    rw [getElem?_of_ofData isState field] at same
    exact Data.leaf.inj (Option.some.inj same)

theorem Field.fits_decode {value : Parsed}
    (decoded : decode leaves value (.leaf field.kind) (zero leaves (.leaf field.kind)) = some data) :
    ∃ scalar, data = .leaf scalar ∧ field.Fits scalar := by
  by_cases present : value = .null
  · subst present
    obtain rfl := Option.some.inj decoded
    cases field <;> exact ⟨_, rfl, _, rfl⟩
  · rw [decode_leaf _ present] at decoded
    obtain ⟨scalar, isRead, rfl⟩ := Option.map_eq_some_iff.mp decoded
    have string : leaves.read .string value = some scalar → ∃ text, scalar = .string text := by
      intro read
      cases value with
      | string pieces => exact ⟨_, (Option.some.inj read).symm⟩
      | _ => exact nomatch read
    have integer : leaves.read .int64 value = some scalar → ∃ number, scalar = .int64 number := by
      intro read
      cases value with
      | number literal =>
        obtain ⟨number, -, rfl⟩ := Option.map_eq_some_iff.mp read
        exact ⟨number, rfl⟩
      | _ => exact nomatch read
    have time : leaves.read .time value = some scalar → ∃ instant, scalar = .time instant := by
      intro read
      cases value with
      | string pieces =>
        obtain ⟨instant, -, rfl⟩ := Option.map_eq_some_iff.mp read
        exact ⟨instant, rfl⟩
      | _ => exact nomatch read
    refine ⟨scalar, rfl, ?_⟩
    cases field with
    | deploymentGeneration => exact integer isRead
    | issuedAt => exact time isRead
    | expiresAt => exact time isRead
    | _ => exact string isRead

theorem Exact.exists_state (exact : Exact members)
    (fits : ∀ member ∈ members, ∀ field : Field, text member.1 = field.name →
      ∀ current, (decode leaves member.2 (.leaf field.kind) current).isSome = true) :
    ∃ values state, decodeFields leaves members stateFields
        (zeros leaves stateFields) = some values ∧
      State.ofData (.struct values) = some state := by
  obtain ⟨values, decoded⟩ : ∃ values, decodeFields leaves members stateFields
      (zeros leaves stateFields) = some values := by
    refine exists_decodeFields (fun member listed => ?_) _
    obtain ⟨field, named⟩ := exact.named member listed
    exact ⟨field.index, field.kind, by rw [named, field.findField_name],
      fits member listed field named⟩
  refine ⟨values, ?_⟩
  have each : ∀ field : Field, ∃ scalar, values[field.index]? = some (.leaf scalar) ∧
      field.Fits scalar := by
    intro field
    by_cases present : ∃ member ∈ members, text member.1 = field.name
    · obtain ⟨member, listed, named⟩ := present
      obtain ⟨data, isData⟩ := Option.isSome_iff_exists.mp (fits member listed field named
        (zero leaves (.leaf field.kind)))
      obtain ⟨scalar, rfl, fitting⟩ := Field.fits_decode isData
      exact ⟨scalar, ((exact.entry decoded field).1 member listed named).trans isData, fitting⟩
    · refine ⟨leaves.zero field.kind, (exact.entry decoded field).2 fun member listed named =>
        present ⟨member, listed, named⟩, ?_⟩
      cases field <;> exact ⟨_, rfl⟩
  have length : values.length = 7 := length_of_decodeFields decoded
  obtain ⟨_, isSchemaVersion, schemaVersion, rfl⟩ := each .schemaVersion
  obtain ⟨_, isPairingID, pairingID, rfl⟩ := each .pairingID
  obtain ⟨_, isGeneration, generation, rfl⟩ := each .deploymentGeneration
  obtain ⟨_, isMode, mode, rfl⟩ := each .mode
  obtain ⟨_, isReason, reason, rfl⟩ := each .reason
  obtain ⟨_, isIssuedAt, issuedAt, rfl⟩ := each .issuedAt
  obtain ⟨_, isExpiresAt, expiresAt, rfl⟩ := each .expiresAt
  have whole : values = [.leaf (.string schemaVersion), .leaf (.string pairingID),
      .leaf (.int64 generation), .leaf (.string mode), .leaf (.string reason),
      .leaf (.time issuedAt), .leaf (.time expiresAt)] := by
    refine List.ext_getElem? fun place => ?_
    match place with
    | 0 => exact isSchemaVersion
    | 1 => exact isPairingID
    | 2 => exact isGeneration
    | 3 => exact isMode
    | 4 => exact isReason
    | 5 => exact isIssuedAt
    | 6 => exact isExpiresAt
    | place + 7 => exact List.getElem?_eq_none (by omega)
  rw [whole] at decoded
  rw [whole]
  exact ⟨_, decoded, rfl⟩

end Decoding

/-! ### Contents that mean the same to both readers -/

/-- A string token without unpaired surrogates. -/
def Whole (pieces : List Piece) : Prop := tokenUnits pieces = textUnits (text pieces)

/-- A value that both libraries read as the same instant, other than the zero one. -/
def SameInstant (libraries : Libraries) (value : Parsed) : Prop :=
  ∃ pieces instant, value = .string pieces ∧ instant ≠ 0 ∧
    leaves.read .time (.string pieces) = some (.time instant) ∧
    libraries.instant (tokenUnits pieces) = some instant

/-- A value that means the same to both readers in a field. -/
def Field.Alike (libraries : Libraries) : Field → Parsed → Prop
  | .deploymentGeneration, value =>
    ∃ literal, value = .number literal ∧ (parseInt64 literal).isSome = true
  | .issuedAt, value => SameInstant libraries value
  | .expiresAt, value => SameInstant libraries value
  | .reason, value => ∃ pieces, value = .string pieces ∧
    ((tokenUnits pieces).length ≤ 256 ↔ (text pieces).utf8ByteSize ≤ 256)
  | _, value => ∃ pieces, value = .string pieces ∧ Whole pieces

/-- The members of an object that means the same to both readers: the name of a field is spelled
exactly and its value means the same, there is a reason, and there is a pairing id if the empty one
is expected. -/
structure MembersAlike (libraries : Libraries) (pairingID : String)
    (members : List (List Piece × Parsed)) : Prop where
  spelled : ∀ member ∈ members, ∀ field : Field, foldName (text member.1) = foldName field.name →
    tokenUnits member.1 = textUnits field.name ∧ field.Alike libraries member.2
  explained : ∃ member ∈ members, text member.1 = Field.reason.name
  paired : pairingID = "" → ∃ member ∈ members, text member.1 = Field.pairingID.name

/-- A content that means the same to both readers: it is UTF-8, the library of the plugin accepts
it only if it is JSON, and the object it is means the same. -/
structure Alike (libraries : Libraries) (pairingID : String) (payload : List UInt8) : Prop where
  encoded : (Utf8.decode? payload).isSome = true
  strict : ∀ {text members}, Utf8.decode? payload = some text →
    libraries.jsonReader text = some ⟨members, .finished⟩ →
    (JsonText.parse text.length text).isSome = true
  members : ∀ {text members}, Utf8.decode? payload = some text →
    JsonText.parse text.length text = some (.object members) →
    MembersAlike libraries pairingID members

/-! ### Contents that are a lease -/

/-- A content that the gate decodes into a state: an object without repeated names whose members
are those of the state. -/
def Contains (payload : List UInt8) (state : State) : Prop :=
  ∃ members values, JsonText.parse (Utf8.decodeLossy payload).length (Utf8.decodeLossy payload) =
      some (.object members) ∧ (members.map (text ·.1)).Nodup ∧
    decodeFields leaves members stateFields (zeros leaves stateFields) = some values ∧
    State.ofData (.struct values) = some state

/-- A content that is a lease to the gate: what it contains is effective at its own issue. -/
def GateLease (config : Admission.Config) (payload : List UInt8) : Prop :=
  ∃ state, Contains payload state ∧ state.schemaVersion = stateSchemaVersion ∧
    Effective config state state.issuedAt

/-- A content that is a lease to the plugin: what its members say is open at its own issue. -/
def PluginLease (libraries : Libraries) (reader : AdmissionStateReader) (payload : List UInt8) :
    Prop :=
  ∃ text delivered observed issuedAt expiresAt, Utf8.decode? payload = some text ∧
    libraries.jsonReader text = some ⟨delivered, .finished⟩ ∧
    Reads libraries delivered (fun _ => none) observed ∧
    Opens reader observed issuedAt expiresAt issuedAt

/-! ### The two readings of one object -/

section Reading

variable {libraries : Libraries} {members : List (List Piece × Parsed)} {state : State}
  {observed : Observed} {units : Option (List Nat)} {instant : Option Time}

/-- A text that both readers have, or neither. -/
def SameText (value : String) (units : Option (List Nat)) : Prop :=
  units = none ∧ value = "" ∨ units = some (textUnits value)

theorem SameText.eq_iff {value wanted : String} (same : SameText value units)
    (present : wanted = "" → units ≠ none) :
    value = wanted ↔ units = some (textUnits wanted) := by
  rcases same with ⟨rfl, rfl⟩ | rfl
  · exact ⟨fun empty => absurd rfl (present empty.symm), nofun⟩
  · exact ⟨fun equal => by rw [equal], fun equal => textUnits_inj (Option.some.inj equal)⟩

/-- An instant that both readers have, or neither. -/
def SameTime (value : Time) (instant : Option Time) : Prop :=
  instant = none ∧ value = 0 ∨ instant = some value ∧ value ≠ 0

theorem SameTime.eq_iff {value wanted : Time} (same : SameTime value instant) :
    value = wanted ∧ wanted ≠ 0 ↔ instant = some wanted := by
  rcases same with ⟨rfl, rfl⟩ | ⟨rfl, dated⟩
  · exact ⟨fun equal => absurd equal.1.symm equal.2, nofun⟩
  · refine ⟨fun equal => by rw [equal.1], fun equal => ?_⟩
    obtain rfl := Option.some.inj equal
    exact ⟨rfl, dated⟩

/-- What the gate and the plugin have made of one object. -/
structure Corresponds (state : State) (observed : Observed) : Prop where
  schemaVersion : SameText state.schemaVersion (observed .schemaVersion)
  pairingID : SameText state.pairingID (observed .pairingID)
  generation : observed .deploymentGeneration = none ∧ state.deploymentGeneration = 0 ∨
    observed .deploymentGeneration = some state.deploymentGeneration
  mode : SameText state.mode.text (observed .mode)
  reason : ∃ units : List Nat, observed .reason = some units ∧
    (units.length ≤ 256 ↔ state.reason.utf8ByteSize ≤ 256)
  issuedAt : SameTime state.issuedAt (observed .issuedAt)
  expiresAt : SameTime state.expiresAt (observed .expiresAt)
  normal : Mode.ofText state.mode.text = state.mode

theorem Corresponds.effective_iff (corresponds : Corresponds state observed)
    {config : Admission.Config} {reader : AdmissionStateReader}
    (pairing : reader.pairingID = config.pairingID)
    (generation : reader.deploymentGeneration = config.deploymentGeneration)
    (paired : config.pairingID = "" → observed .pairingID ≠ none) (now : Time) :
    state.schemaVersion = stateSchemaVersion ∧ Effective config state now ↔
      ∃ issuedAt expiresAt, Opens reader observed issuedAt expiresAt now := by
  obtain ⟨units, isReason, lengths⟩ := corresponds.reason
  have schemaIff : state.schemaVersion = stateSchemaVersion ↔
      observed .schemaVersion = some (textUnits stateSchemaVersion) :=
    corresponds.schemaVersion.eq_iff fun empty => absurd empty (by decide)
  have pairingIff : state.pairingID = config.pairingID ↔
      observed .pairingID = some (textUnits config.pairingID) :=
    corresponds.pairingID.eq_iff paired
  have modeIff : state.mode.text = "OPEN" ↔ observed .mode = some (textUnits "OPEN") :=
    corresponds.mode.eq_iff fun empty => absurd empty (by decide)
  have generationIff : state.deploymentGeneration = config.deploymentGeneration ↔
      observed .deploymentGeneration = some config.deploymentGeneration := by
    rcases corresponds.generation with ⟨absent, zero⟩ | present
    · have positive := reader.positive
      rw [absent, zero]
      exact ⟨fun equal => by omega, nofun⟩
    · rw [present]
      exact ⟨fun equal => congrArg some equal, fun equal => Option.some.inj equal⟩
  constructor
  · rintro ⟨schema, effective⟩
    refine ⟨state.issuedAt, state.expiresAt, ?_⟩
    exact {
      schema := schemaIff.mp schema
      pairing := by rw [pairing]; exact pairingIff.mp effective.pairing
      generation := by rw [generation]; exact generationIff.mp effective.generation
      mode := modeIff.mp (by rw [effective.mode]; rfl)
      reason := ⟨units, isReason, lengths.mpr effective.reason⟩
      issued := corresponds.issuedAt.eq_iff.mp ⟨rfl, effective.dated⟩
      expires := corresponds.expiresAt.eq_iff.mp ⟨rfl, effective.limited⟩
      started := effective.started
      running := effective.running
      forward := effective.forward
      short := effective.short }
  · rintro ⟨issuedAt, expiresAt, opens⟩
    obtain ⟨rfl, dated⟩ := corresponds.issuedAt.eq_iff.mpr opens.issued
    obtain ⟨rfl, limited⟩ := corresponds.expiresAt.eq_iff.mpr opens.expires
    obtain ⟨also, isAlso, short⟩ := opens.reason
    obtain rfl := Option.mem_unique isReason isAlso
    refine ⟨schemaIff.mpr opens.schema, ?_⟩
    exact {
      pairing := pairingIff.mpr (pairing ▸ opens.pairing)
      generation := generationIff.mpr (generation ▸ opens.generation)
      dated := dated
      started := opens.started
      reason := lengths.mp short
      mode := by rw [← corresponds.normal, modeIff.mpr opens.mode]; rfl
      limited := limited
      running := opens.running
      short := opens.short
      forward := opens.forward }

/-- What the gate and the plugin have read from a member. -/
structure ReadAlike (libraries : Libraries) (state : State) (observed : Observed)
    (field : Field) (value : Parsed) : Prop where
  alike : field.Alike libraries value
  decoded : decode leaves value (.leaf field.kind) (zero leaves (.leaf field.kind)) =
    some (.leaf (field.scalar state))
  read : field.read libraries (.of value) = observed field

section Members

variable (spelled : ∀ member ∈ members, ∀ field : Field,
    foldName (text member.1) = foldName field.name →
    tokenUnits member.1 = textUnits field.name ∧ field.Alike libraries member.2)
  (decodes : Decodes members state)
  (reads : Reads libraries (members.map deliver) (fun _ => none) observed)

include spelled decodes reads

theorem readAlike (listed : member ∈ members) (named : text member.1 = field.name) :
    ReadAlike libraries state observed field member.2 := by
  obtain ⟨own, value, ownName, isValue, isObserved⟩ :=
    reads.given (deliver member) (List.mem_map.mpr ⟨member, listed, rfl⟩)
  obtain rfl : own = field := Field.name_inj ((text_of_tokenUnits ownName).symm.trans named)
  exact ⟨(spelled member listed own (by rw [named])).2, decodes.given member listed own named,
    isValue.trans isObserved.symm⟩

theorem readAlike_or_absent (field : Field) :
    (∃ value, ReadAlike libraries state observed field value) ∨
      field.scalar state = leaves.zero field.kind ∧ observed field = none := by
  by_cases present : ∃ member ∈ members, text member.1 = field.name
  · obtain ⟨member, listed, named⟩ := present
    exact Or.inl ⟨member.2, readAlike spelled decodes reads listed named⟩
  · have absent : ∀ member ∈ members, text member.1 ≠ field.name :=
      fun member listed named => present ⟨member, listed, named⟩
    refine Or.inr ⟨decodes.absent field absent, reads.absent field ?_⟩
    intro delivered listed same
    obtain ⟨member, isMember, rfl⟩ := List.mem_map.mp listed
    exact absent member isMember (text_of_tokenUnits same)

end Members

theorem sameText {value : Parsed} (alike : ∃ pieces, value = .string pieces ∧ Whole pieces)
    (decoded : decode leaves value (.leaf .string) (zero leaves (.leaf .string)) =
      some (.leaf (.string given))) (read :
    nextString (.of value) = units) : SameText given units := by
  obtain ⟨pieces, rfl, whole⟩ := alike
  obtain rfl := Scalar.string.inj (Data.leaf.inj (Option.some.inj decoded))
  rw [← read]
  exact Or.inr (congrArg some whole)

theorem sameTime {value : Parsed} {given : Time} (alike : SameInstant libraries value)
    (decoded : decode leaves value (.leaf .time) (zero leaves (.leaf .time)) =
      some (.leaf (.time given)))
    (read : (nextString (.of value)).bind libraries.instant = instant) :
    SameTime given instant := by
  obtain ⟨pieces, own, rfl, dated, isOwn, also⟩ := alike
  have same : (leaves.read .time (.string pieces)).map Data.leaf = some (.leaf (.time given)) :=
    decoded
  rw [isOwn] at same
  obtain rfl := Scalar.time.inj (Data.leaf.inj (Option.some.inj same))
  rw [← read]
  exact Or.inr ⟨also, dated⟩

theorem sameLong {value : Parsed} {given : Int} {long : Option Int}
    (documented : Documented libraries)
    (alike : ∃ literal, value = .number literal ∧ (parseInt64 literal).isSome = true)
    (decoded : decode leaves value (.leaf .int64) (zero leaves (.leaf .int64)) =
      some (.leaf (.int64 given)))
    (read : libraries.nextLong (.of value) = long) : long = some given := by
  obtain ⟨literal, rfl, integral⟩ := alike
  obtain ⟨number, isNumber⟩ := Option.isSome_iff_exists.mp integral
  have same : ((parseInt64 literal).map Scalar.int64).map Data.leaf = some (.leaf (.int64 given)) :=
    decoded
  rw [isNumber] at same
  obtain rfl := Scalar.int64.inj (Data.leaf.inj (Option.some.inj same))
  rw [← read]
  exact documented.nextLong isNumber

theorem corresponds (documented : Documented libraries)
    (alike : MembersAlike libraries pairingID members) (decodes : Decodes members state)
    (reads : Reads libraries (members.map deliver) (fun _ => none) observed) :
    Corresponds state observed := by
  have each := readAlike_or_absent alike.spelled decodes reads
  have schemaVersion : SameText state.schemaVersion (observed .schemaVersion) := by
    rcases each .schemaVersion with ⟨value, same⟩ | ⟨zero, absent⟩
    · exact sameText same.alike same.decoded same.read
    · exact Or.inl ⟨absent, Scalar.string.inj zero⟩
  have pairing : SameText state.pairingID (observed .pairingID) := by
    rcases each .pairingID with ⟨value, same⟩ | ⟨zero, absent⟩
    · exact sameText same.alike same.decoded same.read
    · exact Or.inl ⟨absent, Scalar.string.inj zero⟩
  have generation : observed .deploymentGeneration = none ∧ state.deploymentGeneration = 0 ∨
      observed .deploymentGeneration = some state.deploymentGeneration := by
    rcases each .deploymentGeneration with ⟨value, same⟩ | ⟨zero, absent⟩
    · exact Or.inr (sameLong documented same.alike same.decoded same.read)
    · exact Or.inl ⟨absent, Scalar.int64.inj zero⟩
  have mode : SameText state.mode.text (observed .mode) := by
    rcases each .mode with ⟨value, same⟩ | ⟨zero, absent⟩
    · exact sameText same.alike same.decoded same.read
    · exact Or.inl ⟨absent, Scalar.string.inj zero⟩
  have issuedAt : SameTime state.issuedAt (observed .issuedAt) := by
    rcases each .issuedAt with ⟨value, same⟩ | ⟨zero, absent⟩
    · exact sameTime same.alike same.decoded same.read
    · exact Or.inl ⟨absent, Scalar.time.inj zero⟩
  have expiresAt : SameTime state.expiresAt (observed .expiresAt) := by
    rcases each .expiresAt with ⟨value, same⟩ | ⟨zero, absent⟩
    · exact sameTime same.alike same.decoded same.read
    · exact Or.inl ⟨absent, Scalar.time.inj zero⟩
  have reason : ∃ units : List Nat, observed .reason = some units ∧
      (units.length ≤ 256 ↔ state.reason.utf8ByteSize ≤ 256) := by
    obtain ⟨⟨name, value⟩, listed, named⟩ := alike.explained
    have same := readAlike alike.spelled decodes reads listed named
    obtain ⟨pieces, rfl, lengths⟩ := same.alike
    have own : text pieces = state.reason :=
      Scalar.string.inj (Data.leaf.inj (Option.some.inj same.decoded))
    refine ⟨tokenUnits pieces, same.read.symm, ?_⟩
    rw [← own]
    exact lengths
  exact ⟨schemaVersion, pairing, generation, mode, reason, issuedAt, expiresAt, decodes.normal⟩

end Reading

/-! ### The two decisions -/

section Decisions

variable {libraries : Libraries} {config : Admission.Config} {reader : AdmissionStateReader}
  {payload : List UInt8} {text : List Char} {members : List (List Piece × Parsed)}
  {state : State} {observed : Observed}

theorem contains_of_readState (read : readState (.regular payload) = .ok state) :
    Contains payload state ∧ state.schemaVersion = stateSchemaVersion := by
  obtain ⟨-, read⟩ := (refuse_bind_eq_ok _ _).mp read
  obtain ⟨data, isData, read⟩ := bind_eq_ok.mp read
  obtain ⟨also, isState, read⟩ := bind_eq_ok.mp read
  obtain ⟨schema, same⟩ := (refuse_bind_eq_ok _ _).mp read
  obtain rfl := Except.ok.inj same
  have isState : State.ofData data = some also := (demand_eq_ok _ _ _).mp isState
  have isData : strictDecode stateFields payload = some data :=
    (demand_eq_ok _ _ _).mp isData
  unfold strictDecode at isData
  obtain ⟨_, accepted, isData⟩ := Option.bind_eq_some_iff.mp isData
  obtain ⟨value, parsed, unique⟩ := rejectDuplicateKeys_eq_some_iff.mp accepted
  obtain ⟨other, alsoParsed, decoded⟩ := Option.bind_eq_some_iff.mp isData
  obtain rfl := parse_unique alsoParsed parsed
  cases other with
  | object members =>
    obtain ⟨values, isValues, rfl⟩ := Option.map_eq_some_iff.mp decoded
    exact ⟨⟨members, values, parsed, unique.1, isValues, isState⟩, not_not.mp schema⟩
  | null =>
    obtain rfl := Option.some.inj decoded
    obtain rfl := Option.some.inj isState
    exact absurd schema (by decide)
  | _ => exact nomatch decoded

theorem readState_of_contains (short : payload.length ≤ 65536) (contains : Contains payload state)
    (schema : state.schemaVersion = stateSchemaVersion) :
    readState (.regular payload) = .ok state := by
  obtain ⟨members, values, parsed, distinct, decoded, isState⟩ := contains
  have flat : ∀ member ∈ members, UniqueNames member.2 ∧ member.2.depth ≤ 0 := by
    intro member listed
    obtain ⟨index, shape, found, current, fits⟩ := findField_of_decodeFields decoded listed
    obtain ⟨-, entry, isEntry, rfl⟩ := findField_eq_some_iff.mp found
    obtain ⟨field, -, rfl⟩ := Field.exists_of_getElem? isEntry
    cases value : member.2 with
    | array items => rw [value] at fits; cases field <;> exact nomatch fits
    | object others => rw [value] at fits; cases field <;> exact nomatch fits
    | _ => exact ⟨trivial, Nat.le_refl 0⟩
  have unique : UniqueNames (.object members) :=
    ⟨distinct, (uniqueMembers_iff members).mpr fun member listed => (flat member listed).1⟩
  have shallow : JsonText.parse maxNestingDepth (Utf8.decodeLossy payload) =
      some (.object members) := by
    refine parse_of_depth_le parsed ?_
    have depth := Value.membersDepth_le_iff.mpr fun member listed => (flat member listed).2
    exact (Nat.succ_le_succ depth).trans (Nat.le_add_left 1 9999)
  have isData : strictDecode stateFields payload = some (.struct values) := by
    unfold strictDecode
    refine Option.bind_eq_some_iff.mpr
      ⟨(), rejectDuplicateKeys_eq_some_iff.mpr ⟨_, parsed, unique⟩, ?_⟩
    refine Option.bind_eq_some_iff.mpr ⟨_, shallow, ?_⟩
    exact Option.map_eq_some_iff.mpr ⟨values, decoded, rfl⟩
  refine (refuse_bind_eq_ok _ _).mpr ⟨not_lt.mpr short, ?_⟩
  refine bind_eq_ok.mpr ⟨_, (demand_eq_ok _ _ _).mpr isData, ?_⟩
  refine bind_eq_ok.mpr ⟨_, (demand_eq_ok _ _ _).mpr isState, ?_⟩
  exact (refuse_bind_eq_ok _ _).mpr ⟨not_not.mpr schema, rfl⟩

/-- The gate opens a content at some instant exactly if it is a lease to it. -/
theorem gateLease_iff (short : payload.length ≤ 65536) :
    GateLease config payload ↔
      ∃ now, (evaluateState config (.regular payload) now).isOpen = true := by
  constructor
  · rintro ⟨state, contains, schema, effective⟩
    exact ⟨state.issuedAt, (evaluateState_isOpen_iff config _ _).mpr
      ⟨state, readState_of_contains short contains schema, effective⟩⟩
  · rintro ⟨now, isOpen⟩
    obtain ⟨state, read, effective⟩ := (evaluateState_isOpen_iff config _ now).mp isOpen
    obtain ⟨contains, schema⟩ := contains_of_readState read
    have allowed : state.issuedAt ≤ state.issuedAt + 2 * Duration.second :=
      Int.le_add_of_nonneg_right (by decide)
    exact ⟨state, contains, schema,
      { effective with started := allowed, running := effective.forward }⟩

theorem read_isOpen_iff (short : payload.length ≤ 65536)
    (decoded : Utf8.decode? payload = some text) {delivered : List (List Nat × Item)}
    (delivers : libraries.jsonReader text = some ⟨delivered, .finished⟩)
    (reads : readMembers libraries [] delivered (fun _ => none) = .ok observed) (now : Time) :
    (reader.read libraries (.regular true payload) now).isOpen = true ↔
      ∃ issuedAt expiresAt, Opens reader observed issuedAt expiresAt now := by
  have fits : ¬ maxBytes < payload.length := not_lt.mpr short
  rw [← conclude_isOpen_iff, AdmissionStateReader.read, if_neg fits, if_neg (by decide), decoded]
  dsimp only
  rw [AdmissionStateReader.parse, delivers]
  dsimp only
  rw [reads]

theorem exists_members_of_read
    (isOpen : (reader.read libraries (.regular true payload) now).isOpen = true) :
    ∃ text delivered observed, Utf8.decode? payload = some text ∧
      libraries.jsonReader text = some ⟨delivered, .finished⟩ ∧
      readMembers libraries [] delivered (fun _ => none) = .ok observed := by
  rw [AdmissionStateReader.read] at isOpen
  split at isOpen
  · exact nomatch isOpen
  · split at isOpen
    · exact nomatch isOpen
    · split at isOpen
      · exact nomatch isOpen
      · rename_i text decoded
        rw [AdmissionStateReader.parse] at isOpen
        split at isOpen
        · exact nomatch isOpen
        · rename_i delivery delivers
          obtain ⟨delivered, ending⟩ := delivery
          dsimp only at isOpen
          split at isOpen
          · exact nomatch isOpen
          · exact nomatch isOpen
          · exact nomatch isOpen
          · rename_i observed reads
            exact ⟨text, delivered, observed, decoded, delivers, reads⟩

/-- The plugin opens a content at some instant exactly if it is a lease to it. -/
theorem pluginLease_iff (short : payload.length ≤ 65536) :
    PluginLease libraries reader payload ↔
      ∃ now, (reader.read libraries (.regular true payload) now).isOpen = true := by
  constructor
  · rintro ⟨text, delivered, observed, issuedAt, expiresAt, encoded, delivers, reads, opens⟩
    exact ⟨issuedAt, (read_isOpen_iff short encoded delivers (readMembers_eq_ok_iff.mpr reads) _).mpr
      ⟨issuedAt, expiresAt, opens⟩⟩
  · rintro ⟨now, isOpen⟩
    obtain ⟨text, delivered, observed, encoded, delivers, reading⟩ := exists_members_of_read isOpen
    obtain ⟨issuedAt, expiresAt, opens⟩ :=
      (read_isOpen_iff short encoded delivers reading now).mp isOpen
    have allowed : issuedAt ≤ issuedAt + 2 * Duration.second :=
      Int.le_add_of_nonneg_right (by decide)
    exact ⟨text, delivered, observed, issuedAt, expiresAt, encoded, delivers,
      readMembers_eq_ok_iff.mp reading,
      { opens with started := allowed, running := opens.forward }⟩

end Decisions

/-! ### Agreement -/

section Agreement

variable {libraries : Libraries} {config : Admission.Config} {reader : AdmissionStateReader}
  {payload : List UInt8} {members : List (List Piece × Parsed)} {observed : Observed}

theorem Field.Alike.accepted {value : Parsed} (alike : field.Alike libraries value)
    (documented : Documented libraries) :
    Plain value ∧ (∀ current, (decode leaves value (.leaf field.kind) current).isSome = true) ∧
      (field.read libraries (.of value)).isSome = true := by
  have text : (∃ pieces, value = .string pieces) → Plain value ∧
      (∀ current, (decode leaves value (.leaf .string) current).isSome = true) ∧
      (nextString (.of value)).isSome = true := by
    rintro ⟨pieces, rfl⟩
    exact ⟨trivial, fun _ => rfl, rfl⟩
  have time : SameInstant libraries value → Plain value ∧
      (∀ current, (decode leaves value (.leaf .time) current).isSome = true) ∧
      ((nextString (.of value)).bind libraries.instant).isSome = true := by
    rintro ⟨pieces, instant, rfl, -, isRead, also⟩
    refine ⟨trivial, fun current => ?_, ?_⟩
    · show ((leaves.read .time (.string pieces)).map Data.leaf).isSome = true
      rw [isRead]
      rfl
    · show (libraries.instant (tokenUnits pieces)).isSome = true
      rw [also]
      rfl
  cases field with
  | deploymentGeneration =>
    obtain ⟨literal, rfl, integral⟩ := alike
    obtain ⟨number, isNumber⟩ := Option.isSome_iff_exists.mp integral
    refine ⟨integral, fun current => ?_, ?_⟩
    · show (((parseInt64 literal).map Scalar.int64).map Data.leaf).isSome = true
      rw [isNumber]
      rfl
    · show (libraries.nextLong (.number literal)).isSome = true
      rw [documented.nextLong isNumber]
      rfl
  | issuedAt => exact time alike
  | expiresAt => exact time alike
  | schemaVersion => exact text (alike.imp fun _ => And.left)
  | pairingID => exact text (alike.imp fun _ => And.left)
  | mode => exact text (alike.imp fun _ => And.left)
  | reason => exact text (alike.imp fun _ => And.left)

theorem exact_of_reads (reads : Reads libraries (members.map deliver) (fun _ => none) observed) :
    Exact members := by
  have named : ∀ member ∈ members, ∃ field : Field,
      tokenUnits member.1 = textUnits field.name := by
    intro member listed
    obtain ⟨field, -, name, -⟩ := reads.given _ (List.mem_map.mpr ⟨member, listed, rfl⟩)
    exact ⟨field, name⟩
  refine ⟨fun member listed => ?_, ?_⟩
  · obtain ⟨field, name⟩ := named member listed
    exact ⟨field, text_of_tokenUnits name⟩
  · have distinct := reads.distinct
    rw [List.map_map] at distinct
    refine List.Nodup.map_on ?_ distinct.of_map
    intro first isFirst second isSecond same
    obtain ⟨field, name⟩ := named first isFirst
    obtain ⟨other, otherName⟩ := named second isSecond
    rw [text_of_tokenUnits name, text_of_tokenUnits otherName] at same
    refine List.inj_on_of_nodup_map distinct isFirst isSecond ?_
    exact name.trans ((congrArg textUnits same).trans otherName.symm)

theorem Field.foldName_inj (same : foldName field.name = foldName other.name) :
    field = other := by
  have clear : (stateFields.map (foldName ·.1)).Nodup := by decide +kernel
  have index := fieldIndex_inj clear field.fieldIndex_name other.fieldIndex_name same
  revert index
  cases field <;> cases other <;> decide

theorem exact_of_decoded (alike : MembersAlike libraries pairingID members)
    (distinct : (members.map (text ·.1)).Nodup) {values : List (Data Scalar)}
    (decoded : decodeFields leaves members stateFields
      (zeros leaves stateFields) = some values) : Exact members := by
  refine ⟨fun member listed => ?_, distinct⟩
  obtain ⟨index, shape, found, -⟩ := findField_of_decodeFields decoded listed
  obtain ⟨entry, isEntry, folded⟩ := foldName_of_fieldIndex (findField_eq_some_iff.mp found).1
  obtain ⟨field, -, rfl⟩ := Field.exists_of_getElem? isEntry
  exact ⟨field, text_of_tokenUnits (alike.spelled member listed field folded.symm).1⟩

theorem MembersAlike.accepted (alike : MembersAlike libraries pairingID members)
    (documented : Documented libraries) (listed : member ∈ members)
    (named : text member.1 = field.name) :
    tokenUnits member.1 = textUnits field.name ∧ Plain member.2 ∧
      (∀ current, (decode leaves member.2 (.leaf field.kind) current).isSome = true) ∧
      (field.read libraries (.of member.2)).isSome = true := by
  obtain ⟨spelled, value⟩ := alike.spelled member listed field (by rw [named])
  exact ⟨spelled, value.accepted documented⟩

theorem MembersAlike.present {state : State}
    (alike : MembersAlike libraries pairingID members) (decodes : Decodes members state)
    (reads : Reads libraries (members.map deliver) (fun _ => none) observed)
    (empty : pairingID = "") : observed .pairingID ≠ none := by
  obtain ⟨member, listed, named⟩ := alike.paired empty
  have same := readAlike alike.spelled decodes reads listed named
  obtain ⟨pieces, isString, -⟩ := same.alike
  have read := same.read
  rw [isString] at read
  rw [← read]
  exact nofun

variable (documented : Documented libraries) (short : payload.length ≤ 65536)
  (pairing : reader.pairingID = config.pairingID)
  (generation : reader.deploymentGeneration = config.deploymentGeneration)

include documented short pairing generation

theorem Alike.gate_opens (alike : Alike libraries config.pairingID payload)
    (isOpen : (reader.read libraries (.regular true payload) now).isOpen = true) :
    (evaluateState config (.regular payload) now).isOpen = true := by
  obtain ⟨text, delivered, observed, encoded, delivers, read⟩ := exists_members_of_read isOpen
  obtain ⟨value, parsed⟩ := Option.isSome_iff_exists.mp (alike.strict encoded delivers)
  obtain ⟨members, rfl, rfl⟩ := documented.faithful parsed delivers
  have same := alike.members encoded parsed
  have reads := readMembers_eq_ok_iff.mp read
  have exact := exact_of_reads reads
  obtain ⟨values, state, decoded, isState⟩ := exact.exists_state
    fun member listed field named => (same.accepted documented listed named).2.2.1
  have decodes := exact.decodes decoded isState
  have opens := (read_isOpen_iff short encoded delivers read now).mp isOpen
  obtain ⟨schema, effective⟩ := ((corresponds documented same decodes reads).effective_iff pairing
    generation (same.present decodes reads) now).mpr opens
  rw [← Utf8.decodeLossy_of_decode? encoded] at parsed
  have contains : Contains payload state :=
    ⟨members, values, parsed, exact.distinct, decoded, isState⟩
  exact (evaluateState_isOpen_iff config _ now).mpr ⟨state,
    readState_of_contains short contains schema, effective⟩

theorem Alike.plugin_opens (alike : Alike libraries config.pairingID payload)
    (isOpen : (evaluateState config (.regular payload) now).isOpen = true) :
    (reader.read libraries (.regular true payload) now).isOpen = true := by
  obtain ⟨state, read, effective⟩ := (evaluateState_isOpen_iff config _ now).mp isOpen
  obtain ⟨⟨members, values, parsed, distinct, decoded, isState⟩, schema⟩ :=
    contains_of_readState read
  obtain ⟨text, encoded⟩ := Option.isSome_iff_exists.mp alike.encoded
  rw [Utf8.decodeLossy_of_decode? encoded] at parsed
  have same := alike.members encoded parsed
  have exact := exact_of_decoded same distinct decoded
  have decodes := exact.decodes decoded isState
  have delivers := documented.complete parsed fun member listed => by
    obtain ⟨field, named⟩ := exact.named member listed
    exact (same.accepted documented listed named).2.1
  have each : ∀ member ∈ members.map deliver, ∃ field : Field,
      member.1 = textUnits field.name ∧ (field.read libraries member.2).isSome = true := by
    intro delivered listed
    obtain ⟨member, isMember, rfl⟩ := List.mem_map.mp listed
    obtain ⟨field, named⟩ := exact.named member isMember
    obtain ⟨name, -, -, readable⟩ := same.accepted documented isMember named
    exact ⟨field, name, readable⟩
  have names : ((members.map deliver).map (·.1)).Nodup := by
    rw [List.map_map]
    refine List.Nodup.map_on ?_ distinct.of_map
    intro first isFirst second isSecond equal
    refine List.inj_on_of_nodup_map distinct isFirst isSecond ?_
    show String.ofList (characters first.1) = String.ofList (characters second.1)
    rw [← characters_tokenUnits, ← characters_tokenUnits second.1]
    exact congrArg (fun units : List Nat => String.ofList (characters (units.map .escaped))) equal
  obtain ⟨observed, reading⟩ := @exists_readMembers libraries [] _ names
    (fun _ _ => List.not_mem_nil) each (fun _ => none)
  have reads := readMembers_eq_ok_iff.mp reading
  refine (read_isOpen_iff short encoded delivers reading now).mpr ?_
  exact ((corresponds documented same decodes reads).effective_iff pairing generation
    (same.present decodes reads) now).mp ⟨schema, effective⟩

end Agreement

/-! ### Disagreement -/

section Disagreement

variable {libraries : Libraries} {config : Admission.Config} {reader : AdmissionStateReader}
  {payload : List UInt8} {state : State} {observed : Observed} {value : Parsed}

theorem string_of_both {scalar : Scalar} {units : List Nat}
    (decoded : decode leaves value (.leaf .string) (zero leaves (.leaf .string)) =
      some (.leaf scalar)) (read : nextString (.of value) = some units) :
    ∃ pieces, value = .string pieces ∧ scalar = .string (text pieces) ∧
      units = tokenUnits pieces := by
  cases value with
  | string pieces =>
    exact ⟨pieces, rfl, (Data.leaf.inj (Option.some.inj decoded)).symm,
      (Option.some.inj read).symm⟩
  | number literal => exact nomatch decoded
  | _ => exact nomatch read

theorem whole_of_both
    (decoded : decode leaves value (.leaf .string) (zero leaves (.leaf .string)) =
      some (.leaf (.string given))) (read : nextString (.of value) = some (textUnits given)) :
    ∃ pieces, value = .string pieces ∧ Whole pieces := by
  obtain ⟨pieces, rfl, same, units⟩ := string_of_both decoded read
  refine ⟨pieces, rfl, ?_⟩
  rw [Whole, ← units, Scalar.string.inj same]

theorem instant_of_both {instant : Time} (dated : instant ≠ 0)
    (decoded : decode leaves value (.leaf .time) (zero leaves (.leaf .time)) =
      some (.leaf (.time instant)))
    (read : (nextString (.of value)).bind libraries.instant = some instant) :
    SameInstant libraries value := by
  cases value with
  | string pieces =>
    have same : (leaves.read .time (.string pieces)).map Data.leaf =
      some (.leaf (.time instant)) := decoded
    obtain ⟨scalar, isRead, isScalar⟩ := Option.map_eq_some_iff.mp same
    obtain rfl := Data.leaf.inj isScalar
    exact ⟨pieces, instant, rfl, dated, isRead, read⟩
  | null => exact absurd (Scalar.time.inj (Data.leaf.inj (Option.some.inj decoded))).symm dated
  | _ => exact nomatch decoded

/-- A field that both readers have read, of a lease that is open to both with the same instants,
means the same to both. -/
theorem Field.alike_of_both (pairing : reader.pairingID = config.pairingID)
    (schema : state.schemaVersion = stateSchemaVersion)
    (effective : Effective config state now)
    (opens : Opens reader observed state.issuedAt state.expiresAt now)
    (positive : 1 ≤ config.deploymentGeneration)
    (decoded : decode leaves value (.leaf field.kind) (zero leaves (.leaf field.kind)) =
      some (.leaf (field.scalar state))) (read : field.read libraries (.of value) = observed field) :
    field.Alike libraries value := by
  cases field with
  | schemaVersion =>
    refine whole_of_both decoded (read.trans ?_)
    rw [schema]
    exact opens.schema
  | pairingID =>
    refine whole_of_both decoded (read.trans ?_)
    rw [effective.pairing, ← pairing]
    exact opens.pairing
  | mode =>
    refine whole_of_both decoded (read.trans ?_)
    rw [effective.mode]
    exact opens.mode
  | reason =>
    obtain ⟨units, isReason, short⟩ := opens.reason
    obtain ⟨pieces, rfl, same, rfl⟩ := string_of_both decoded (read.trans isReason)
    refine ⟨pieces, rfl, iff_of_true short ?_⟩
    rw [← Scalar.string.inj same]
    exact effective.reason
  | issuedAt => exact instant_of_both effective.dated decoded (read.trans opens.issued)
  | expiresAt => exact instant_of_both effective.limited decoded (read.trans opens.expires)
  | deploymentGeneration =>
    cases value with
    | number literal =>
      have same : ((parseInt64 literal).map Scalar.int64).map Data.leaf =
        some (.leaf (.int64 state.deploymentGeneration)) := decoded
      obtain ⟨scalar, isScalar, -⟩ := Option.map_eq_some_iff.mp same
      obtain ⟨number, isNumber, -⟩ := Option.map_eq_some_iff.mp isScalar
      exact ⟨literal, rfl, by rw [isNumber]; rfl⟩
    | null =>
      have zero : (0 : Int) = state.deploymentGeneration :=
        Scalar.int64.inj (Data.leaf.inj (Option.some.inj decoded))
      have same := effective.generation
      omega
    | _ => exact nomatch decoded

theorem window_unique {start stop otherStart otherStop allowance : Int} (allows : 0 ≤ allowance)
    (forward : start < stop)
    (first : ∀ instant, start ≤ instant + allowance → instant < stop →
      otherStart ≤ instant + allowance ∧ instant < otherStop)
    (second : ∀ instant, otherStart ≤ instant + allowance → instant < otherStop →
      start ≤ instant + allowance ∧ instant < stop) :
    otherStart = start ∧ otherStop = stop := by
  have firstStart := first (start - allowance) (by omega) (by omega)
  have firstStop := first (stop - 1) (by omega) (by omega)
  have secondStart := second (otherStart - allowance) (by omega) (by omega)
  have secondStop := second (otherStop - 1) (by omega) (by omega)
  omega

/-- Two leases that are open at the same instants have the same instants. -/
theorem opens_same_lease (effective : Effective config state now)
    {issuedAt expiresAt : Time} (opens : Opens reader observed issuedAt expiresAt now)
    (agree : ∀ now, Effective config state now ↔
      ∃ issuedAt expiresAt, Opens reader observed issuedAt expiresAt now) :
    issuedAt = state.issuedAt ∧ expiresAt = state.expiresAt := by
  have unique : ∀ {issued expires now}, Opens reader observed issued expires now →
      issued = issuedAt ∧ expires = expiresAt := fun also =>
    ⟨Option.mem_unique also.issued opens.issued,
      Option.mem_unique also.expires opens.expires⟩
  have gate : ∀ later : Time, state.issuedAt ≤ later + 2 * Duration.second →
      later < state.expiresAt → issuedAt ≤ later + 2 * Duration.second ∧ later < expiresAt := by
    intro later started running
    have still : Effective config state later :=
      { effective with started := started, running := running }
    obtain ⟨issued, expires, also⟩ := (agree later).mp still
    obtain ⟨rfl, rfl⟩ := unique also
    exact ⟨also.started, also.running⟩
  have plugin : ∀ later : Time, issuedAt ≤ later + 2 * Duration.second →
      later < expiresAt → state.issuedAt ≤ later + 2 * Duration.second ∧
        later < state.expiresAt := by
    intro later started running
    have still := (agree later).mpr ⟨issuedAt, expiresAt,
      { opens with started := started, running := running }⟩
    exact ⟨still.started, still.running⟩
  exact window_unique (by decide) effective.forward gate plugin

/-- A content on which the readers always agree, and which one of them opens at some instant, means
the same to both. -/
theorem alike_of_agree (documented : Documented libraries) (short : payload.length ≤ 65536)
    (pairing : reader.pairingID = config.pairingID)
    (generation : reader.deploymentGeneration = config.deploymentGeneration)
    (agree : ∀ now, (reader.read libraries (.regular true payload) now).isOpen = true ↔
      (evaluateState config (.regular payload) now).isOpen = true)
    (isOpen : (reader.read libraries (.regular true payload) now).isOpen = true) :
    Alike libraries config.pairingID payload := by
  obtain ⟨state, read, effective⟩ :=
    (evaluateState_isOpen_iff config _ now).mp ((agree now).mp isOpen)
  obtain ⟨⟨members, values, parsed, distinct, decoded, isState⟩, schema⟩ :=
    contains_of_readState read
  obtain ⟨text, delivered, observed, encoded, delivers, reading⟩ := exists_members_of_read isOpen
  rw [Utf8.decodeLossy_of_decode? encoded] at parsed
  obtain ⟨_, same, rfl⟩ := documented.faithful parsed delivers
  obtain rfl := Value.object.inj same
  have reads := readMembers_eq_ok_iff.mp reading
  have exact := exact_of_reads reads
  have decodes := exact.decodes decoded isState
  have plugin : ∀ later, (reader.read libraries (.regular true payload) later).isOpen = true ↔
      ∃ issuedAt expiresAt, Opens reader observed issuedAt expiresAt later :=
    read_isOpen_iff short encoded delivers reading
  have gate : ∀ later, (evaluateState config (.regular payload) later).isOpen = true ↔
      Effective config state later := by
    intro later
    rw [evaluateState, read]
    exact judge_isOpen_iff config state later
  obtain ⟨issuedAt, expiresAt, opens⟩ := (plugin now).mp isOpen
  obtain ⟨rfl, rfl⟩ := opens_same_lease effective opens fun later =>
    ((gate later).symm.trans (agree later).symm).trans (plugin later)
  have named : ∀ {field : Field} {value : field.Value}, observed field = some value →
      ∃ member ∈ members, JsonText.text member.1 = field.name := by
    intro field value isValue
    by_contra absent
    have none := reads.absent field fun other listed name => by
      obtain ⟨member, isMember, rfl⟩ := List.mem_map.mp listed
      exact absent ⟨member, isMember, text_of_tokenUnits name⟩
    exact absurd (none.symm.trans isValue) (Option.some_ne_none _).symm
  refine ⟨by rw [encoded]; rfl, fun {other _} also _ => ?_, fun {other others} also isObject => ?_⟩
  · obtain rfl := Option.mem_unique encoded also
    rw [parsed]
    rfl
  · obtain rfl := Option.mem_unique encoded also
    obtain rfl := Value.object.inj (Option.mem_unique parsed isObject)
    obtain ⟨reason, isReason, -⟩ := opens.reason
    refine ⟨fun member listed field folded => ?_, named isReason, fun _ => named opens.pairing⟩
    obtain ⟨own, value, name, isRead, isValue⟩ :=
      reads.given _ (List.mem_map.mpr ⟨member, listed, rfl⟩)
    have ownName := text_of_tokenUnits name
    obtain rfl : own = field := Field.foldName_inj (ownName ▸ folded)
    refine ⟨name, Field.alike_of_both pairing schema effective opens ?_
      (decodes.given member listed own ownName) (isRead.trans isValue.symm)⟩
    exact generation ▸ reader.positive

/-- The plugin and the gate agree on a content at every instant exactly if the content means the
same to both, or is a lease to neither. -/
theorem readers_agree_iff (documented : Documented libraries) (short : payload.length ≤ 65536)
    (pairing : reader.pairingID = config.pairingID)
    (generation : reader.deploymentGeneration = config.deploymentGeneration) :
    (∀ now, (reader.read libraries (.regular true payload) now).isOpen = true ↔
      (Admission.evaluateState config (.regular payload) now).isOpen = true) ↔
    Alike libraries config.pairingID payload ∨
      ¬ GateLease config payload ∧ ¬ PluginLease libraries reader payload := by
  rw [gateLease_iff short, pluginLease_iff short]
  constructor
  · intro agree
    by_cases opened : ∃ now, (reader.read libraries (.regular true payload) now).isOpen = true
    · obtain ⟨now, isOpen⟩ := opened
      exact Or.inl (alike_of_agree documented short pairing generation agree isOpen)
    · exact Or.inr ⟨fun ⟨now, isOpen⟩ => opened ⟨now, (agree now).mpr isOpen⟩, opened⟩
  · rintro (alike | ⟨gate, plugin⟩) now
    · exact ⟨alike.gate_opens documented short pairing generation,
        alike.plugin_opens documented short pairing generation⟩
    · exact iff_of_false (fun isOpen => plugin ⟨now, isOpen⟩) (fun isOpen => gate ⟨now, isOpen⟩)

end Disagreement

/-! ### Two contents -/

/-- Libraries that read what is JSON, integers and instants in UTC. -/
def plainLibraries : Libraries where
  jsonReader text := match JsonText.parse text.length text with
    | some (.object given) => some ⟨given.map deliver, .finished⟩
    | _ => none
  nextLong
    | .number literal => parseInt64 literal
    | _ => none
  instant units := Time.parseRFC3339 (String.ofList (units.map Char.ofNat))

theorem plainLibraries_documented : Documented plainLibraries where
  faithful {text value members} parsed delivers := by
    have read : (match JsonText.parse text.length text with
      | some (.object given) => some (Delivery.mk (given.map deliver) .finished)
      | _ => none) = some ⟨members, .finished⟩ := delivers
    rw [parsed] at read
    cases value with
    | object given =>
      exact ⟨given, rfl, (congrArg Delivery.members (Option.some.inj read)).symm⟩
    | _ => exact nomatch read
  complete {text given} parsed _ := by
    show (match JsonText.parse text.length text with
      | some (.object given) => some (Delivery.mk (given.map deliver) .finished)
      | _ => none) = _
    rw [parsed]
  nextLong parsed := parsed

/-- The plugin enrolled with the sample gate. -/
def sampleReader : AdmissionStateReader where
  pairingID := "pair"
  deploymentGeneration := 1
  positive := by decide

/-- An open lease of thirty seconds, with some members for its reason. -/
def lease (reason : List (String × Printed)) : Printed :=
  .object ([("schema_version", .string "gar.admission-state.v1"), ("pairing_id", .string "pair"),
    ("deployment_generation", .number (.ofInt 1)), ("mode", .string "OPEN"),
    ("issued_at", .string "2000-01-01T00:00:00Z"),
    ("expires_at", .string "2000-01-01T00:00:30Z")] ++ reason)

/-- The content of a state file. -/
def content (printed : Printed) : List UInt8 := Utf8.encode (write html printed)

/-- A lease without a reason is open to the gate and closed to the plugin. -/
theorem unexplained_lease_disagrees :
    (Admission.evaluateState Admission.sampleConfig (.regular (content (lease [])))
      (730119 * Time.day)).isOpen = true ∧
    (sampleReader.read plainLibraries (.regular true (content (lease [])))
      (730119 * Time.day)).isOpen = false := by
  constructor
  · decide +kernel
  · decide +kernel

theorem membersAlike_explained {members : List (List Piece × Parsed)}
    (same : (lease [("reason", .string "")]).quoted html = .object members) :
    MembersAlike plainLibraries "pair" members := by
  obtain rfl := Value.object.inj same
  have spelled : ∀ (own : Field) (value : Parsed), own.Alike plainLibraries value →
      tokenUnits (quoted html own.name) = textUnits own.name →
      ∀ field : Field, foldName (text (quoted html own.name)) = foldName field.name →
        tokenUnits (quoted html own.name) = textUnits field.name ∧
          field.Alike plainLibraries value := by
    intro own value alike units field folded
    rw [text_quoted] at folded
    obtain rfl := Field.foldName_inj folded
    exact ⟨units, alike⟩
  have named : ∀ own : Field, tokenUnits (quoted html own.name) = textUnits own.name :=
    fun own => tokenUnits_quoted own.name
  have whole : ∀ value, Whole (quoted html value) := fun value => by
    rw [Whole, tokenUnits_quoted, text_quoted]
  have schema := spelled .schemaVersion (.string (quoted html "gar.admission-state.v1"))
    ⟨_, rfl, whole _⟩ (named _)
  have pairing := spelled .pairingID (.string (quoted html "pair")) ⟨_, rfl, whole _⟩ (named _)
  have generation := spelled .deploymentGeneration (.number (Numeral.ofInt 1).literal)
    ⟨_, rfl, by decide⟩ (named _)
  have mode := spelled .mode (.string (quoted html "OPEN")) ⟨_, rfl, whole _⟩ (named _)
  have issued := spelled .issuedAt (.string (quoted html "2000-01-01T00:00:00Z"))
    ⟨_, 730119 * Time.day, rfl, by decide, by decide +kernel, by decide +kernel⟩ (named _)
  have expires := spelled .expiresAt (.string (quoted html "2000-01-01T00:00:30Z"))
    ⟨_, 730119 * Time.day + 30 * Duration.second, rfl, by decide, by decide +kernel,
      by decide +kernel⟩ (named _)
  have reason := spelled .reason (.string (quoted html "")) ⟨_, rfl, by decide⟩ (named _)
  refine ⟨?_, ⟨_, List.mem_of_getElem? (rfl : _[6]? = _), by decide⟩, fun empty => ?_⟩
  · simp only [Value.mapMembers, List.cons_append, List.nil_append, List.forall_mem_cons]
    exact ⟨schema, pairing, generation, mode, issued, expires, reason,
      fun _ none => absurd none List.not_mem_nil⟩
  · exact absurd empty (by decide)

/-- Both readers open a lease with an empty reason at its issue. -/
theorem explained_lease_agrees :
    (sampleReader.read plainLibraries (.regular true (content (lease [("reason", .string "")])))
      (730119 * Time.day)).isOpen = true ∧
    (Admission.evaluateState Admission.sampleConfig
      (.regular (content (lease [("reason", .string "")]))) (730119 * Time.day)).isOpen = true := by
  have isOpen : (Admission.evaluateState Admission.sampleConfig
      (.regular (content (lease [("reason", .string "")]))) (730119 * Time.day)).isOpen = true := by
    decide +kernel
  refine ⟨?_, isOpen⟩
  have encoded : Utf8.decode? (content (lease [("reason", .string "")])) =
      some (write html (lease [("reason", .string "")])) := Utf8.decode?_encode _
  have parsed : JsonText.parse (write html (lease [("reason", .string "")])).length
      (write html (lease [("reason", .string "")])) =
        some ((lease [("reason", .string "")]).quoted html) := by
    have ends : EndsNumber [] := ⟨nofun, nofun⟩
    have whole : JsonText.parse (write html (lease [("reason", .string "")])).length
        (write html (lease [("reason", .string "")]) ++ []) = _ :=
      parse_write (by decide +kernel) rfl ends
    rwa [List.append_nil] at whole
  refine ((readers_agree_iff plainLibraries_documented (by decide +kernel) rfl rfl).mpr
    (Or.inl ?_) _).mpr isOpen
  refine ⟨by rw [encoded]; rfl, fun {text _} also _ => ?_, fun {text members} also isObject => ?_⟩
  · obtain rfl := Option.mem_unique encoded also
    rw [parsed]
    rfl
  · obtain rfl := Option.mem_unique encoded also
    exact membersAlike_explained (Option.mem_unique parsed isObject)

end Guard

end GuardedAgentRunner
