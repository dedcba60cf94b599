/-
This file models the check of a response at the boundary to an agent: no object in
it, at any depth, may name a secret, a path or a player.
-/

import Mathlib.Data.List.Infix
import GuardedAgentRunner.Errors
import GuardedAgentRunner.Library.JsonText

namespace GuardedAgentRunner.Boundary

open Fallible JsonText

/-- A lower-cased name that may not pass. -/
def forbidden (lower : String) : Bool :=
  ["credential", "secret", "token", "archive_path", "download_url"].any
      (fun part => part.toList <:+: lower.toList) ||
    lower ∈ ["path", "uuid", "player_name", "player_names"]

/-- A decoded response. -/
abbrev Response (Number : Type) := Value String Number

variable {Number : Type}

/-- A number of players, or nothing. -/
def isCount : Response Number → Bool
  | .number _ | .null => true
  | _ => false

variable (toLower : String → String)

mutual

/-- `rejectSensitiveFields`, with the members in the order of the iteration. -/
def rejectSensitiveFields : Response Number → Except Failure Unit
  | .object members => rejectMembers members
  | .array items => rejectItems items
  | _ => pure ()

def rejectMembers : List (String × Response Number) → Except Failure Unit
  | [] => pure ()
  | (key, child) :: members => do
    refuse (toLower key = "players" ∧ isCount child = false)
      (newError .scopeDenied "player identities are forbidden at the agent boundary")
    refuse (forbidden (toLower key))
      (newError .scopeDenied "target response contains a field forbidden at the agent boundary")
    rejectSensitiveFields child
    rejectMembers members

def rejectItems : List (Response Number) → Except Failure Unit
  | [] => pure ()
  | child :: items => do
    rejectSensitiveFields child
    rejectItems items

end

/-- A member that may pass, apart from what is inside it. -/
def Admissible (entry : String × Response Number) : Prop :=
  (toLower entry.1 = "players" → isCount entry.2 = true) ∧ ¬ forbidden (toLower entry.1)

/-- The entry is a member of an object in the response, at any depth. -/
inductive Inside (entry : String × Response Number) : Response Number → Prop
  | here {members} (isMember : entry ∈ members) : Inside entry (.object members)
  | member {members} (other : String × Response Number) (isMember : other ∈ members)
      (inside : Inside entry other.2) : Inside entry (.object members)
  | item {items} (child : Response Number) (isItem : child ∈ items)
      (inside : Inside entry child) : Inside entry (.array items)

variable {toLower}

theorem rejectItems_eq_ok {items : List (Response Number)} :
    rejectItems toLower items = .ok () ↔
      ∀ child ∈ items, rejectSensitiveFields toLower child = .ok () := by
  induction items with
  | nil => simp [rejectItems]
  | cons child items hypothesis =>
    rw [rejectItems, then_eq_ok, hypothesis, List.forall_mem_cons]

theorem rejectMembers_eq_ok {members : List (String × Response Number)} :
    rejectMembers toLower members = .ok () ↔ ∀ entry ∈ members,
      Admissible toLower entry ∧ rejectSensitiveFields toLower entry.2 = .ok () := by
  induction members with
  | nil => simp [rejectMembers]
  | cons entry members hypothesis =>
    simp only [rejectMembers, refuse_bind_eq_ok, then_eq_ok, hypothesis, List.forall_mem_cons,
      Admissible, not_and, Bool.not_eq_false, and_assoc]

/-- A response passes exactly when every member in it, at any depth and in any order, may. -/
theorem passes_iff_admissible (toLower : String → String) (response : Response Number) :
    rejectSensitiveFields toLower response = .ok () ↔
      ∀ entry, Inside entry response → Admissible toLower entry := by
  induction response using Value.induction with
  | null | bool | number | string =>
    exact ⟨fun _ _ inside => (nomatch inside), fun _ => by simp [rejectSensitiveFields]⟩
  | array items hypothesis =>
    rw [rejectSensitiveFields, rejectItems_eq_ok]
    constructor
    · rintro passes entry (_ | _ | ⟨child, isItem, inside⟩)
      exact (hypothesis child isItem).mp (passes child isItem) entry inside
    · exact fun admissible child isItem => (hypothesis child isItem).mpr
        fun entry inside => admissible entry (.item child isItem inside)
  | object members hypothesis =>
    rw [rejectSensitiveFields, rejectMembers_eq_ok]
    constructor
    · rintro passes entry (isMember | ⟨other, isMember, inside⟩)
      · exact (passes entry isMember).1
      · exact (hypothesis other isMember).mp (passes other isMember).2 entry inside
    · exact fun admissible other isMember => ⟨admissible other (.here isMember),
        (hypothesis other isMember).mpr
          fun entry inside => admissible entry (.member other isMember inside)⟩

end GuardedAgentRunner.Boundary
