/-
This file models the reader of the admission lease in the Paper plugin, which
decodes the same file as the gate with another library: names are compared as
they are, a repeated or unknown name closes, a number is accepted for a string,
and the length of the reason is counted in UTF-16 code units. It says which
members the loop of the reader accepts and when the lease they make is open.
-/

import GuardedAgentRunner.Access

namespace GuardedAgentRunner

open Fallible JsonText StructDecode

namespace Guard

/-! ### Libraries -/

/-- A value as the plugin's `JsonReader` meets it. -/
inductive Item where
  | string (units : List Nat)
  | number (literal : List Char)
  | other
deriving DecidableEq, Repr

/-- How reading goes on after the members of an object: the reader throws, it finds something
else after the object, or it finds the end. -/
inductive Ending where
  | failed
  | trailing
  | finished
deriving DecidableEq, Repr

/-- The members of an object in the order the reader delivers them, and what comes after them. -/
structure Delivery where
  members : List (List Nat × Item)
  ending : Ending
deriving DecidableEq, Repr

/-- What the plugin uses of its libraries: the members that a `JsonReader` with `lenient = false`
delivers for a text, unless `beginObject` throws; `nextLong`; and `Instant.parse`. -/
structure Libraries where
  jsonReader : List Char → Option Delivery
  nextLong : Item → Option Int
  instant : List Nat → Option Time

def Item.of : Parsed → Item
  | .string pieces => .string (tokenUnits pieces)
  | .number literal => .number literal
  | _ => .other

/-- What the reader delivers for a member of a JSON object. -/
def deliver (member : List Piece × Parsed) : List Nat × Item :=
  (tokenUnits member.1, .of member.2)

/-- A string, or a number that is a 64-bit integer. -/
def Plain : Parsed → Prop
  | .string _ => True
  | .number literal => (parseInt64 literal).isSome = true
  | _ => False

/-- The documented behaviour of the JSON library. -/
structure Documented (libraries : Libraries) : Prop where
  /-- What is delivered of a JSON text up to its end are the members of the object it is. -/
  faithful : ∀ {text value members}, JsonText.parse text.length text = some value →
    libraries.jsonReader text = some ⟨members, .finished⟩ →
    ∃ given, value = .object given ∧ members = given.map deliver
  /-- An object of strings and integers is delivered. -/
  complete : ∀ {text given}, JsonText.parse text.length text = some (.object given) →
    (∀ member ∈ given, Plain member.2) →
    libraries.jsonReader text = some ⟨given.map deliver, .finished⟩
  /-- A 64-bit integer is read as it is. -/
  nextLong : ∀ {literal value}, parseInt64 literal = some value →
    libraries.nextLong (.number literal) = some value

/-! ### The reader -/

/-- The fields of the state. -/
inductive Field where
  | schemaVersion
  | pairingID
  | deploymentGeneration
  | mode
  | reason
  | issuedAt
  | expiresAt
deriving DecidableEq, Repr

namespace Field

def name : Field → String
  | .schemaVersion => "schema_version"
  | .pairingID => "pairing_id"
  | .deploymentGeneration => "deployment_generation"
  | .mode => "mode"
  | .reason => "reason"
  | .issuedAt => "issued_at"
  | .expiresAt => "expires_at"

def all : List Field :=
  [.schemaVersion, .pairingID, .deploymentGeneration, .mode, .reason, .issuedAt, .expiresAt]

/-- The type of the variable the reader has for a field. -/
abbrev Value : Field → Type
  | .deploymentGeneration => Int
  | .issuedAt => Time
  | .expiresAt => Time
  | _ => List Nat

end Field

/-- `nextString`, which accepts a number. -/
def nextString : Item → Option (List Nat)
  | .string units => some units
  | .number literal => some (literal.map Char.toNat)
  | .other => none

/-- The statement of the `switch` for a field. -/
def Field.read (libraries : Libraries) : (field : Field) → Item → Option field.Value
  | .schemaVersion, item => nextString item
  | .pairingID, item => nextString item
  | .deploymentGeneration, item => libraries.nextLong item
  | .mode, item => nextString item
  | .reason, item => nextString item
  | .issuedAt, item => (nextString item).bind libraries.instant
  | .expiresAt, item => (nextString item).bind libraries.instant

inductive ReasonCode where
  | admissionStateSymlink
  | admissionStateInvalidFile
  | admissionStateUnsafePermissions
  | admissionStateUnavailable
  | admissionStateDuplicateField
  | admissionStateUnknownField
  | admissionStateTrailingData
  | admissionStateIdentityOrSchemaMismatch
  | admissionClosed
  | admissionLeaseInvalidOrExpired
  | admissionOpen
  | admissionNotConfiguredReadOnly
deriving DecidableEq, Repr

/-- `AdmissionDecision`. -/
structure AdmissionDecision where
  isOpen : Bool
  reasonCode : ReasonCode
deriving DecidableEq, Repr

def AdmissionDecision.closed (reasonCode : ReasonCode) : AdmissionDecision :=
  { isOpen := false, reasonCode }

/-- The variables of `parse`. -/
abbrev Observed : Type := (field : Field) → Option field.Value

/-- The loop of `parse`, with the names it has met. -/
def readMembers (libraries : Libraries) (names : List (List Nat)) :
    List (List Nat × Item) → Observed → Except ReasonCode Observed
  | [], observed => .ok observed
  | (name, item) :: members, observed => do
    refuse (name ∈ names) .admissionStateDuplicateField
    let field ← demand (Field.all.find? fun field => textUnits field.name = name)
      .admissionStateUnknownField
    let value ← demand (field.read libraries item) .admissionStateUnavailable
    readMembers libraries (name :: names) members (Function.update observed field (some value))

/-- An `AdmissionStateReader`: its constructor refuses a generation below one. -/
structure AdmissionStateReader where
  pairingID : String
  deploymentGeneration : Int
  positive : 1 ≤ deploymentGeneration

/-- `MAX_BYTES`. -/
def maxBytes : Nat := 64 * 1024

/-- `MAX_LEASE`. -/
def maxLease : Duration := 30 * Duration.second

/-- What stands at the path of the state: nothing that can be read, a symbolic link, something
that is no regular file, or a regular file with its bytes. -/
inductive StateFile where
  | unavailable
  | symlink
  | irregular
  | regular (ownerOnly : Bool) (payload : List UInt8)

namespace AdmissionStateReader

variable (libraries : Libraries) (reader : AdmissionStateReader)

/-- The end of `parse`: what is made of the variables. -/
def conclude (schemaVersion observedPairing : Option (List Nat)) (observedGeneration : Option Int)
    (mode reason : Option (List Nat)) (issuedAt expiresAt : Option Time) (now : Time) :
    AdmissionDecision :=
  match issuedAt, reason with
  | some issuedAt, some reason =>
    if schemaVersion ≠ some (textUnits Admission.stateSchemaVersion) ∨
        observedPairing ≠ some (textUnits reader.pairingID) ∨
        observedGeneration ≠ some reader.deploymentGeneration ∨
        issuedAt.After (now.add (2 * Duration.second)) ∨ 256 < reason.length then
      .closed .admissionStateIdentityOrSchemaMismatch
    else if mode = some (textUnits "CLOSED") then .closed .admissionClosed
    else match expiresAt with
      | some expiresAt =>
        if mode ≠ some (textUnits "OPEN") ∨ ¬ expiresAt.After now ∨ ¬ expiresAt.After issuedAt ∨
            maxLease < (expiresAt - issuedAt : Int) then
          .closed .admissionLeaseInvalidOrExpired
        else { isOpen := true, reasonCode := .admissionOpen }
      | none => .closed .admissionLeaseInvalidOrExpired
  | _, _ => .closed .admissionStateIdentityOrSchemaMismatch

/-- `parse`. -/
def parse (text : List Char) (now : Time) : AdmissionDecision :=
  match libraries.jsonReader text with
  | none => .closed .admissionStateUnavailable
  | some delivery =>
    match readMembers libraries [] delivery.members (fun _ => none), delivery.ending with
    | .error reasonCode, _ => .closed reasonCode
    | .ok _, .failed => .closed .admissionStateUnavailable
    | .ok _, .trailing => .closed .admissionStateTrailingData
    | .ok observed, .finished =>
      reader.conclude (observed .schemaVersion) (observed .pairingID)
        (observed .deploymentGeneration) (observed .mode) (observed .reason) (observed .issuedAt)
        (observed .expiresAt) now

/-- `read`. -/
def read (file : StateFile) (now : Time) : AdmissionDecision :=
  match file with
  | .unavailable => .closed .admissionStateUnavailable
  | .symlink => .closed .admissionStateSymlink
  | .irregular => .closed .admissionStateInvalidFile
  | .regular ownerOnly payload =>
    if maxBytes < payload.length then .closed .admissionStateInvalidFile
    else if ownerOnly = false then .closed .admissionStateUnsafePermissions
    else match Utf8.decode? payload with
      | none => .closed .admissionStateUnavailable
      | some text => reader.parse libraries text now

end AdmissionStateReader

/-! ### What the reader opens -/

/-- The lease of the variables is open at an instant. -/
structure Opens (reader : AdmissionStateReader) (observed : Observed) (issuedAt expiresAt : Time)
    (now : Time) : Prop where
  schema : observed .schemaVersion = some (textUnits Admission.stateSchemaVersion)
  pairing : observed .pairingID = some (textUnits reader.pairingID)
  generation : observed .deploymentGeneration = some reader.deploymentGeneration
  mode : observed .mode = some (textUnits "OPEN")
  reason : ∃ units : List Nat, observed .reason = some units ∧ units.length ≤ 256
  issued : observed .issuedAt = some issuedAt
  expires : observed .expiresAt = some expiresAt
  started : issuedAt ≤ now + 2 * Duration.second
  running : now < expiresAt
  forward : issuedAt < expiresAt
  short : expiresAt - issuedAt ≤ maxLease

theorem conclude_isOpen_iff (reader : AdmissionStateReader) (observed : Observed) (now : Time) :
    (reader.conclude (observed .schemaVersion) (observed .pairingID)
      (observed .deploymentGeneration) (observed .mode) (observed .reason) (observed .issuedAt)
      (observed .expiresAt) now).isOpen = true ↔
        ∃ issuedAt expiresAt, Opens reader observed issuedAt expiresAt now := by
  unfold AdmissionStateReader.conclude
  constructor
  · intro isOpen
    cases issued : (observed .issuedAt : Option Time) with
    | none =>
      rw [issued] at isOpen
      exact nomatch isOpen
    | some issuedAt =>
      cases isReason : (observed .reason : Option (List Nat)) with
      | none =>
        rw [issued, isReason] at isOpen
        exact nomatch isOpen
      | some reason =>
        rw [issued, isReason] at isOpen
        dsimp only at isOpen
        split at isOpen
        · exact nomatch isOpen
        · rename_i own
          simp only [not_or, not_not] at own
          obtain ⟨schema, pairing, generation, started, length⟩ := own
          split at isOpen
          · exact nomatch isOpen
          · split at isOpen
            · rename_i expiresAt expires
              split at isOpen
              · exact nomatch isOpen
              · rename_i lease
                simp only [not_or, not_not] at lease
                obtain ⟨mode, running, forward, short⟩ := lease
                exact ⟨issuedAt, expiresAt, schema, pairing, generation, mode,
                  ⟨reason, isReason, not_lt.mp length⟩, issued, expires, not_lt.mp started,
                  running, forward, not_lt.mp short⟩
            · exact nomatch isOpen
  · rintro ⟨issuedAt, expiresAt, opens⟩
    obtain ⟨reason, isReason, length⟩ := opens.reason
    have open_ne_closed : (some (textUnits "OPEN") : Option (List Nat)) ≠
        some (textUnits "CLOSED") := by decide
    rw [opens.issued, isReason, opens.expires, opens.schema, opens.pairing, opens.generation,
      opens.mode]
    dsimp only
    have own : ¬ (some (textUnits Admission.stateSchemaVersion) ≠
        some (textUnits Admission.stateSchemaVersion) ∨
        some (textUnits reader.pairingID) ≠ some (textUnits reader.pairingID) ∨
        some reader.deploymentGeneration ≠ some reader.deploymentGeneration ∨
        issuedAt.After (now.add (2 * Duration.second)) ∨ 256 < reason.length) := by
      simp only [ne_eq, not_true_eq_false, false_or]
      rintro (future | long)
      · exact absurd future (not_lt.mpr opens.started)
      · exact absurd long (not_lt.mpr length)
    have lease : ¬ (some (textUnits "OPEN") ≠ some (textUnits "OPEN") ∨ ¬ expiresAt.After now ∨
        ¬ expiresAt.After issuedAt ∨ maxLease < (expiresAt - issuedAt : Int)) := by
      simp only [ne_eq, not_true_eq_false, false_or]
      rintro (ended | backward | long)
      · exact ended opens.running
      · exact backward opens.forward
      · exact absurd long (not_lt.mpr opens.short)
    rw [if_neg own, if_neg open_ne_closed, if_neg lease]

theorem find_field_eq_some_iff {name : List Nat} {field : Field} :
    Field.all.find? (fun field => textUnits field.name = name) = some field ↔
      name = textUnits field.name := by
  constructor
  · intro found
    have same := List.find?_some found
    exact (of_decide_eq_true same).symm
  · rintro rfl
    cases field <;> decide +kernel

/-- What the loop makes of the members of an object. -/
structure Reads (libraries : Libraries) (members : List (List Nat × Item))
    (before after : Observed) : Prop where
  distinct : (members.map (·.1)).Nodup
  given : ∀ member ∈ members, ∃ (field : Field) (value : field.Value),
    member.1 = textUnits field.name ∧ field.read libraries member.2 = some value ∧
      after field = some value
  absent : ∀ field : Field, (∀ member ∈ members, member.1 ≠ textUnits field.name) →
    after field = before field

variable {libraries : Libraries} {names : List (List Nat)} {members : List (List Nat × Item)}

theorem readMembers_cons_eq_ok {name : List Nat} {item : Item} {before after : Observed}
    (read : readMembers libraries names ((name, item) :: members) before = .ok after) :
    name ∉ names ∧ ∃ (field : Field) (value : field.Value), name = textUnits field.name ∧
      field.read libraries item = some value ∧
      readMembers libraries (name :: names) members (Function.update before field (some value)) =
        .ok after := by
  rw [readMembers] at read
  obtain ⟨new, read⟩ := (refuse_bind_eq_ok _ _).mp read
  obtain ⟨field, found, read⟩ := bind_eq_ok.mp read
  obtain ⟨value, isValue, read⟩ := bind_eq_ok.mp read
  have isField := (demand_eq_ok _ _ _).mp found
  exact ⟨new, field, value, find_field_eq_some_iff.mp isField, (demand_eq_ok _ _ _).mp isValue,
    read⟩

theorem reads_of_readMembers {before after : Observed}
    (read : readMembers libraries names members before = .ok after) :
    Reads libraries members before after ∧ ∀ member ∈ members, member.1 ∉ names := by
  induction members generalizing names before with
  | nil =>
    obtain rfl := Except.ok.inj read
    exact ⟨⟨List.nodup_nil, nofun, fun _ _ => rfl⟩, nofun⟩
  | cons member members hypothesis =>
    obtain ⟨name, item⟩ := member
    obtain ⟨new, field, value, rfl, isValue, rest⟩ := readMembers_cons_eq_ok read
    obtain ⟨reads, unseen⟩ := hypothesis rest
    have only : ∀ member ∈ members, member.1 ≠ textUnits field.name := fun member listed same =>
      unseen member listed (same ▸ List.mem_cons_self)
    refine ⟨⟨?_, ?_, ?_⟩, ?_⟩
    · refine List.nodup_cons.mpr ⟨fun again => ?_, reads.distinct⟩
      obtain ⟨member, listed, same⟩ := List.mem_map.mp again
      exact only member listed same
    · refine List.forall_mem_cons.mpr ⟨⟨field, value, rfl, isValue, ?_⟩, reads.given⟩
      rw [reads.absent field only, Function.update_self]
    · intro other named
      obtain ⟨first, others⟩ := List.forall_mem_cons.mp named
      rw [reads.absent other others, Function.update_of_ne]
      rintro rfl
      exact first rfl
    · exact List.forall_mem_cons.mpr
        ⟨new, fun member listed again => unseen member listed (List.mem_cons_of_mem _ again)⟩

theorem exists_readMembers (distinct : (members.map (·.1)).Nodup)
    (unseen : ∀ member ∈ members, member.1 ∉ names)
    (each : ∀ member ∈ members, ∃ field : Field, member.1 = textUnits field.name ∧
      (field.read libraries member.2).isSome = true) (before : Observed) :
    ∃ after, readMembers libraries names members before = .ok after := by
  induction members generalizing names before with
  | nil => exact ⟨before, rfl⟩
  | cons member members hypothesis =>
    obtain ⟨name, item⟩ := member
    obtain ⟨⟨field, rfl, fits⟩, others⟩ := List.forall_mem_cons.mp each
    obtain ⟨value, isValue⟩ := Option.isSome_iff_exists.mp fits
    obtain ⟨new, fresh⟩ := List.forall_mem_cons.mp unseen
    obtain ⟨first, rest⟩ := List.nodup_cons.mp distinct
    obtain ⟨after, read⟩ := @hypothesis (textUnits field.name :: names) rest
      (fun member listed again => (List.mem_cons.mp again).elim
        (fun same => first (List.mem_map.mpr ⟨member, listed, same⟩)) (fresh member listed))
      others (Function.update before field (some value))
    refine ⟨after, ?_⟩
    have found : Field.all.find? (fun other => textUnits other.name = textUnits field.name) =
        some field := find_field_eq_some_iff.mpr rfl
    rw [readMembers]
    refine (refuse_bind_eq_ok _ _).mpr ⟨new, ?_⟩
    refine bind_eq_ok.mpr ⟨field, (demand_eq_ok _ _ _).mpr found, ?_⟩
    exact bind_eq_ok.mpr ⟨value, (demand_eq_ok _ _ _).mpr isValue, read⟩

theorem Reads.unique {before after other : Observed} (reads : Reads libraries members before after)
    (also : Reads libraries members before other) : after = other := by
  funext field
  by_cases present : ∃ member ∈ members, member.1 = textUnits field.name
  · obtain ⟨member, listed, named⟩ := present
    have same : ∀ {own : Field}, member.1 = textUnits own.name → own = field := fun name =>
      Option.mem_unique (find_field_eq_some_iff.mpr name) (find_field_eq_some_iff.mpr named)
    obtain ⟨own, value, name, isValue, given⟩ := reads.given member listed
    obtain rfl := same name
    obtain ⟨own, another, name, isAnother, alsoGiven⟩ := also.given member listed
    obtain rfl := same name
    rw [given, alsoGiven, ← isValue, isAnother]
  · have absent : ∀ member ∈ members, member.1 ≠ textUnits field.name :=
      fun member listed named => present ⟨member, listed, named⟩
    rw [reads.absent field absent, also.absent field absent]

theorem readMembers_eq_ok_iff {before after : Observed} :
    readMembers libraries [] members before = .ok after ↔
      Reads libraries members before after := by
  refine ⟨fun read => (reads_of_readMembers read).1, fun reads => ?_⟩
  have each : ∀ member ∈ members, ∃ field : Field, member.1 = textUnits field.name ∧
      (field.read libraries member.2).isSome = true := by
    intro member listed
    obtain ⟨field, value, named, isValue, -⟩ := reads.given member listed
    exact ⟨field, named, by rw [isValue]; rfl⟩
  obtain ⟨other, read⟩ := @exists_readMembers libraries [] members reads.distinct
    (fun _ _ => List.not_mem_nil) each before
  rw [read, reads.unique (reads_of_readMembers read).1]

end Guard

end GuardedAgentRunner
