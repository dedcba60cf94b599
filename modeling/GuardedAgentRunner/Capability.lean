/-
This file models the capability scopes of the legacy Python runner and the policy
engine that judges a tool call by one. A scope carries a hash of its canonical
payload; a later scope may replace an earlier one if a syntactic test says that it
is a subset. The hash covers the last rule for an action and the decision takes the
first, so scopes with one hash need not decide alike.
-/

import Mathlib.Data.List.Induction
import Mathlib.Data.List.Sort
import GuardedAgentRunner.Library.Fallible
import GuardedAgentRunner.Library.JsonText

namespace GuardedAgentRunner

namespace Legacy

open Fallible JsonText

/-! ### Values -/

/-- A number of the runner: an integer, or a float with its value and the literal it is printed
as. -/
inductive Number where
  | int (value : Int)
  | float (value : Rat) (literal : Numeral)

/-- A value as it comes from JSON. -/
abbrev Value := JsonText.Value String Number

/-- A dictionary, in the order of insertion. -/
abbrev Dict := List (String × Value)

namespace Number

def value : Number → Rat
  | .int value => value
  | .float value _ => value

def numeral : Number → Numeral
  | .int value => .ofInt value
  | .float _ literal => literal

end Number

/-- The value of a number or of a boolean, which is one in arithmetic. -/
def numeric : Value → Option Rat
  | .bool value => some (if value then 1 else 0)
  | .number value => some value.value
  | _ => none

mutual

/-- `==`. -/
def same : Value → Value → Bool
  | .null, .null => true
  | .string first, .string second => first = second
  | .array first, .array second => sameItems first second
  | .object first, .object second =>
    first.length = second.length && sameMembers first second
  | first, second =>
    match numeric first, numeric second with
    | some first, some second => first = second
    | _, _ => false

def sameItems : List Value → List Value → Bool
  | [], [] => true
  | first :: moreFirst, second :: moreSecond => same first second && sameItems moreFirst moreSecond
  | _, _ => false

/-- Every member of the first dictionary stands in the second. -/
def sameMembers : Dict → Dict → Bool
  | [], _ => true
  | (name, value) :: members, second =>
    (match second.lookup name with
      | some other => same value other
      | none => false) && sameMembers members second

end

/-- Set a member: in its place if the name is there, at the end otherwise. -/
def Dict.set {Item : Type} (name : String) (value : Item) :
    List (String × Item) → List (String × Item)
  | [] => [(name, value)]
  | (other, old) :: members =>
    if other = name then (other, value) :: members else (other, old) :: Dict.set name value members

mutual

/-- `sort_keys=True`. -/
def sortKeys : Value → Value
  | .array items => .array (sortItems items)
  | .object members =>
    .object ((sortMembers members).mergeSort fun first second => first.1 ≤ second.1)
  | value => value

def sortItems : List Value → List Value
  | [] => []
  | item :: items => sortKeys item :: sortItems items

def sortMembers : Dict → Dict
  | [] => []
  | (name, value) :: members => (name, sortKeys value) :: sortMembers members

end

/-- `ensure_ascii=True`: all characters outside the printable ones of ASCII are escaped. -/
def ascii : Style where
  long character := (character.toNat < 0x20 || 0x7e < character.toNat) && character ∉ shortEscapes
  controls character control notShort := by
    rw [Bool.and_eq_true, Bool.or_eq_true]
    exact ⟨Or.inl (decide_eq_true control), decide_eq_true notShort⟩
  others := forall_mem_of_all (by decide)

/-- `canonical_json`. -/
def canonicalJson (value : Value) : String :=
  String.ofList (write ascii ((sortKeys value).map id Number.numeral))

/-! ### Scopes -/

inductive ApprovalMode where
  | auto
  | required
deriving DecidableEq, Repr

namespace ApprovalMode

/-- The value of the enumeration. -/
def text : ApprovalMode → String
  | .auto => "auto"
  | .required => "required"

/-- The table `strength` of `is_subset_of`. -/
def strength : ApprovalMode → Nat
  | .auto => 0
  | .required => 1

end ApprovalMode

structure ApprovalRule where
  action : String
  mode : ApprovalMode
deriving DecidableEq, Repr

structure CapabilityScope where
  allowedServices : List String
  allowedActions : List String
  approvalPolicy : List ApprovalRule
  version : Int
  hash : String
deriving DecidableEq, Repr

/-- `sorted` on strings. -/
def sortedTexts (texts : List String) : List String := texts.mergeSort (· ≤ ·)

/-- The functions of the runtime that the runner uses without looking into them: the hexadecimal
SHA-256 of a text, `str` and `str.lower`. -/
structure Runtime where
  sha256 : String → String
  str : Value → String
  lower : String → String

namespace CapabilityScope

variable (runtime : Runtime) (scope : CapabilityScope)

/-- `canonical_payload`. -/
def canonicalPayload : Value :=
  .object
    [("allowed_actions", .array ((sortedTexts scope.allowedActions).map .string)),
      ("allowed_services", .array ((sortedTexts scope.allowedServices).map .string)),
      ("approval_policy", .object
        ((scope.approvalPolicy.mergeSort fun first second => first.action ≤ second.action).foldl
          (fun members rule => Dict.set rule.action (.string rule.mode.text) members) [])),
      ("version", .number (.int scope.version))]

/-- `computed_hash`. -/
def computedHash : String := runtime.sha256 (canonicalJson scope.canonicalPayload)

/-- `mode_for`: the mode of the first rule for the action. -/
def modeFor (action : String) : Option ApprovalMode :=
  (scope.approvalPolicy.find? fun rule => rule.action = action).map (·.mode)

/-- The comparison of the modes of one action. -/
def keepsMode (previous : CapabilityScope) (action : String) : Bool :=
  match previous.modeFor action, scope.modeFor action with
  | some old, some new => old.strength ≤ new.strength
  | _, _ => false

/-- `is_subset_of`. -/
def isSubsetOf (previous : CapabilityScope) : Bool :=
  previous.version ≤ scope.version &&
    scope.allowedServices.all (· ∈ previous.allowedServices) &&
    scope.allowedActions.all (· ∈ previous.allowedActions) &&
    scope.allowedActions.all (scope.keepsMode previous)

end CapabilityScope

/-- What a Python function raises. -/
inductive Error where
  | valueError (text : String)
  | scopeExpansion (text : String)
  | runtimeError (text : String)
  | attributeError
  | invalidRunTransition (text : String)
  | notFound (text : String)
  | conflict (text : String)
  | executionDenied (text : String)
  | executionTimedOut (text : String)
  | other (name text : String)
deriving DecidableEq, Repr

section Integrity

variable (runtime : Runtime)

/-- `assert_scope_integrity`. -/
def assertScopeIntegrity (scope : CapabilityScope) : Except Error Unit :=
  refuse (scope.hash = "" ∨ scope.hash ≠ scope.computedHash runtime)
    (.valueError "Capability scope hash is missing or invalid")

/-- `assert_no_scope_expansion`. -/
def assertNoScopeExpansion (newScope oldScope : CapabilityScope) : Except Error Unit := do
  assertScopeIntegrity runtime newScope
  refuse (newScope.isSubsetOf oldScope = false)
    (.scopeExpansion "Capability scope may shrink but must never expand")

end Integrity

/-! ### Tool calls -/

inductive ActionStatus where
  | pending
  | waitingApproval
  | approved
  | skipped
  | denied
  | running
  | succeeded
  | failed
  | stale
deriving DecidableEq, Repr

structure ToolCall where
  id : String
  action : String
  args : Dict
  purpose : Option String
  status : ActionStatus
  result : Value
  failureReason : Option String

/-- `resource`. -/
def ToolCall.resource (call : ToolCall) : Option String :=
  match call.args.lookup "service" with
  | some (.string service) => some service
  | _ => none

/-! ### The policy engine -/

inductive PolicyDecision where
  | allowAuto
  | requireApproval
  | denyOutOfScope
  | denyUnknownAction
  | denyInvalidArguments
  | denyInvalidScope
  | denyInternalError
deriving DecidableEq, Repr

/-- The value of the enumeration. -/
def PolicyDecision.text : PolicyDecision → String
  | .allowAuto => "ALLOW_AUTO"
  | .requireApproval => "REQUIRE_APPROVAL"
  | .denyOutOfScope => "DENY_OUT_OF_SCOPE"
  | .denyUnknownAction => "DENY_UNKNOWN_ACTION"
  | .denyInvalidArguments => "DENY_INVALID_ARGUMENTS"
  | .denyInvalidScope => "DENY_INVALID_SCOPE"
  | .denyInternalError => "DENY_INTERNAL_ERROR"

structure PolicyResult where
  decision : PolicyDecision
  reason : String
deriving DecidableEq, Repr

/-- `KNOWN_ACTIONS`. -/
def knownActions : List String := ["service_status", "read_log", "restart_service"]

/-- An optional text in an f-string. -/
def shown : Option String → String
  | some text => text
  | none => "None"

/-- The check of `lines`: an integer, and no boolean, from 1 to 1000. -/
def linesInRange : Option Value → Bool
  | some (.number (.int lines)) => 1 ≤ lines && lines ≤ 1000
  | _ => false

/-- `_validate_args`: the error, if any. -/
def validateArgs (call : ToolCall) : Option String :=
  let expected := if call.action ≠ "read_log" then ["service"] else ["lines", "service"]
  if ¬ ((∀ member ∈ call.args, member.1 ∈ expected) ∧
      ∀ name ∈ expected, (call.args.lookup name).isSome = true) then
    some ("Expected exact arguments: " ++
      if call.action ≠ "read_log" then "['service']" else "['lines', 'service']")
  else if call.resource = none ∨ call.resource = some "" then
    some "service must be a non-empty string"
  else if call.action = "read_log" ∧ linesInRange (call.args.lookup "lines") = false then
    some "lines must be an integer between 1 and 1000"
  else none

structure PolicyEngine where
  forceFailure : Bool

namespace PolicyEngine

variable (runtime : Runtime) (engine : PolicyEngine) (call : ToolCall)

/-- The part of `evaluate` after the integrity of the scope has been checked. -/
def judge (scope : CapabilityScope) : PolicyResult :=
  if call.action ∉ knownActions then ⟨.denyUnknownAction, "Unknown action: " ++ call.action⟩
  else if call.action ∉ scope.allowedActions then
    ⟨.denyOutOfScope, "Action is outside capability scope: " ++ call.action⟩
  else
    match validateArgs call with
    | some reason => ⟨.denyInvalidArguments, reason⟩
    | none =>
      if ∀ resource ∈ call.resource, resource ∉ scope.allowedServices then
        ⟨.denyOutOfScope, "Resource is outside capability scope: " ++ shown call.resource⟩
      else
        match scope.modeFor call.action with
        | some .auto => ⟨.allowAuto, "Low-risk action"⟩
        | some .required => ⟨.requireApproval, "Privileged action requires exact human approval"⟩
        | none => ⟨.denyInvalidScope, "Approval policy is missing; default deny"⟩

/-- `evaluate`. -/
def evaluate (scope : Option CapabilityScope) : Except Error PolicyResult := do
  refuse (engine.forceFailure = true) (.runtimeError "Injected policy service failure")
  match scope with
  | none => pure ⟨.denyInvalidScope, "Required capability scope is missing"⟩
  | some scope =>
    match assertScopeIntegrity runtime scope with
    | .error (.valueError text) => pure ⟨.denyInvalidScope, text⟩
    | .error error => throw error
    | .ok () => pure (judge call scope)

/-- `safe_evaluate`. -/
def safeEvaluate (scope : Option CapabilityScope) : PolicyResult :=
  match engine.evaluate runtime call scope with
  | .ok result => result
  | .error _ => ⟨.denyInternalError, "Policy evaluation failed; default deny"⟩

end PolicyEngine

/-! ### What a positive decision requires -/

variable {runtime : Runtime} {engine : PolicyEngine} {call : ToolCall}
  {scope newScope oldScope : CapabilityScope} {mode : ApprovalMode} {action : String}
  {Item : Type}

/-- What the policy engine has checked of a call that it does not deny. -/
structure Permitted (call : ToolCall) (scope : CapabilityScope) (mode : ApprovalMode) : Prop where
  known : call.action ∈ knownActions
  action : call.action ∈ scope.allowedActions
  args : validateArgs call = none
  service : ∃ resource, call.resource = some resource ∧ resource ∈ scope.allowedServices
  mode : scope.modeFor call.action = some mode

/-- The positive decision for a mode. -/
def ApprovalMode.decision : ApprovalMode → PolicyDecision
  | .auto => .allowAuto
  | .required => .requireApproval

theorem judge_eq_iff :
    (PolicyEngine.judge call scope).decision = mode.decision ↔ Permitted call scope mode := by
  unfold PolicyEngine.judge
  constructor
  · intro decided
    split at decided
    · cases mode <;> exact nomatch decided
    rename_i known
    split at decided
    · cases mode <;> exact nomatch decided
    rename_i listed
    split at decided
    · cases mode <;> exact nomatch decided
    rename_i valid
    split at decided
    · cases mode <;> exact nomatch decided
    rename_i inside
    push Not at inside
    split at decided
    · rename_i isAuto
      cases mode with
      | auto => exact ⟨not_not.mp known, not_not.mp listed, valid, inside, isAuto⟩
      | required => exact nomatch decided
    · rename_i isRequired
      cases mode with
      | auto => exact nomatch decided
      | required => exact ⟨not_not.mp known, not_not.mp listed, valid, inside, isRequired⟩
    · cases mode <;> exact nomatch decided
  · rintro ⟨known, listed, valid, ⟨resource, isResource, inside⟩, isMode⟩
    have someInside : ¬ ∀ resource ∈ call.resource, resource ∉ scope.allowedServices :=
      fun outside => outside resource isResource inside
    rw [if_neg (not_not.mpr known), if_neg (not_not.mpr listed), valid]
    dsimp only
    rw [if_neg someInside, isMode]
    cases mode <;> rfl

/-- The engine allows a call exactly if it is not forced to fail, the scope is intact and the call
is permitted. -/
theorem evaluate_eq_iff :
    (∃ result, engine.evaluate runtime call (some scope) = .ok result ∧
      result.decision = mode.decision) ↔
      engine.forceFailure = false ∧ assertScopeIntegrity runtime scope = .ok () ∧
        Permitted call scope mode := by
  unfold PolicyEngine.evaluate
  constructor
  · rintro ⟨result, evaluated, decided⟩
    obtain ⟨working, judged⟩ := (refuse_bind_eq_ok _ _).mp evaluated
    refine ⟨Bool.eq_false_iff.mpr working, ?_⟩
    dsimp only at judged
    split at judged
    · obtain rfl := Except.ok.inj judged
      cases mode <;> exact nomatch decided
    · exact nomatch judged
    · rename_i intact
      obtain rfl := Except.ok.inj judged
      exact ⟨intact, judge_eq_iff.mp decided⟩
  · rintro ⟨working, intact, permitted⟩
    refine ⟨PolicyEngine.judge call scope, ?_, judge_eq_iff.mpr permitted⟩
    refine (refuse_bind_eq_ok _ _).mpr ⟨Bool.eq_false_iff.mp working, ?_⟩
    dsimp only
    rw [intact]
    rfl

/-! ### Subsets -/

theorem keepsMode_eq_true (keeps : newScope.keepsMode oldScope action = true)
    (isMode : newScope.modeFor action = some mode) :
    ∃ old : ApprovalMode, oldScope.modeFor action = some old ∧ old.strength ≤ mode.strength := by
  unfold CapabilityScope.keepsMode at keeps
  split at keeps
  · rename_i old new isOld isNew
    obtain rfl := Option.mem_unique isNew isMode
    exact ⟨old, isOld, of_decide_eq_true keeps⟩
  · exact nomatch keeps

/-- A call that the later of two scopes permits is permitted by the earlier one, with a mode that
is no stronger. -/
theorem Permitted.of_subset (subset : newScope.isSubsetOf oldScope = true)
    (permitted : Permitted call newScope mode) :
    ∃ old : ApprovalMode, old.strength ≤ mode.strength ∧ Permitted call oldScope old := by
  simp only [CapabilityScope.isSubsetOf, Bool.and_eq_true, List.all_eq_true,
    decide_eq_true_eq] at subset
  obtain ⟨⟨⟨-, services⟩, actions⟩, modes⟩ := subset
  obtain ⟨resource, isResource, inside⟩ := permitted.service
  obtain ⟨old, isOld, weaker⟩ := keepsMode_eq_true (modes _ permitted.action) permitted.mode
  exact ⟨old, weaker, permitted.known, actions _ permitted.action, permitted.args,
    ⟨resource, isResource, services resource inside⟩, isOld⟩

/-! ### What the hash says -/

/-- A stable sort keeps the order of the items with one key. -/
theorem filter_sorted (key : Item → String) (items : List Item) (chosen : String) :
    (items.mergeSort fun first second => key first ≤ key second).filter
        (fun item => key item = chosen) = items.filter fun item => key item = chosen := by
  have inOrder : (items.filter fun item => key item = chosen).Pairwise
      fun first second => decide (key first ≤ key second) = true := by
    refine List.pairwise_of_forall_mem_list fun first isFirst second isSecond => ?_
    rw [of_decide_eq_true (List.mem_filter.mp isFirst).2,
      of_decide_eq_true (List.mem_filter.mp isSecond).2]
    exact decide_eq_true (String.le_refl chosen)
  have kept := (List.sublist_mergeSort (by simpa using fun _ _ _ => String.le_trans)
    (by simpa using fun _ _ => String.le_total _ _) inOrder List.filter_sublist).filter
      fun item => decide (key item = chosen)
  rw [List.filter_filter] at kept
  simp only [Bool.and_self] at kept
  exact (kept.eq_of_length ((List.mergeSort_perm ..).symm.filter _).length_eq).symm

theorem find_set (name chosen : String) (value : Item) (members : List (String × Item)) :
    (Dict.set name value members).find? (fun member => member.1 = chosen) =
      if name = chosen then some (name, value)
      else members.find? fun member => member.1 = chosen := by
  induction members with
  | nil => simp [Dict.set, List.find?_cons]; split <;> simp_all
  | cons member members hypothesis =>
    obtain ⟨other, old⟩ := member
    rw [Dict.set]
    by_cases isName : other = name
    · subst isName
      simp only [if_true, List.find?_cons]
      split <;> simp_all
    · rw [if_neg isName, List.find?_cons, hypothesis, List.find?_cons]
      by_cases isChosen : other = chosen
      · subst isChosen
        simp [Ne.symm isName]
      · simp [isChosen]

namespace CapabilityScope

/-- The last rule for an action. -/
def lastRule (scope : CapabilityScope) (action : String) : Option ApprovalRule :=
  (scope.approvalPolicy.filter fun rule => rule.action = action).getLast?

/-- The first rule for an action, which decides, and the last one, which is hashed, differ. -/
def Shadows (scope : CapabilityScope) (action : String) : Prop :=
  scope.modeFor action ≠ (scope.lastRule action).map (·.mode)

end CapabilityScope

theorem find_rules (rules : List ApprovalRule) (action : String) :
    (rules.foldl (fun (members : Dict) rule => Dict.set rule.action (.string rule.mode.text) members)
        []).find? (fun member => member.1 = action) =
      (rules.filter fun rule => rule.action = action).getLast?.map
        fun rule => (rule.action, .string rule.mode.text) := by
  induction rules using List.reverseRecOn with
  | nil => rfl
  | append_singleton rules rule hypothesis =>
    rw [List.foldl_append, List.filter_append, List.foldl_cons, List.foldl_nil, find_set,
      hypothesis]
    by_cases isRule : rule.action = action <;> simp [isRule]

/-- The printed form of a value. -/
abbrev printedValue (value : Value) : Printed := (sortKeys value).map id Number.numeral

theorem find_printed (members : Dict) (action : String) :
    (Value.mapMembers id Number.numeral ((sortMembers members).mergeSort
      fun first second => first.1 ≤ second.1)).find? (fun member => member.1 = action) =
      (members.find? fun member => member.1 = action).map
        fun member => (member.1, printedValue member.2) := by
  have mapped : ∀ items : Dict, Value.mapMembers id Number.numeral items =
      items.map fun member => (member.1, member.2.map id Number.numeral) := by
    intro items
    induction items with
    | nil => rfl
    | cons item items hypothesis => exact congrArg (_ :: ·) hypothesis
  have sorted : sortMembers members = members.map fun member => (member.1, sortKeys member.2) := by
    induction members with
    | nil => rfl
    | cons item items hypothesis => exact congrArg (_ :: ·) hypothesis
  rw [mapped, List.find?_map, Function.comp_def, ← List.head?_filter, filter_sorted,
    List.head?_filter, sorted, List.find?_map, Option.map_map]
  rfl

theorem printed_texts (texts : List String) :
    Value.mapItems id Number.numeral (sortItems (texts.map .string)) = texts.map .string := by
  induction texts with
  | nil => rfl
  | cons text texts hypothesis => exact congrArg (_ :: ·) hypothesis

theorem printed_payload (scope : CapabilityScope) :
    printedValue scope.canonicalPayload =
      .object [("allowed_actions", .array ((sortedTexts scope.allowedActions).map .string)),
        ("allowed_services", .array ((sortedTexts scope.allowedServices).map .string)),
        ("approval_policy", printedValue (.object
          ((scope.approvalPolicy.mergeSort fun first second => first.action ≤ second.action).foldl
            (fun members rule => Dict.set rule.action (.string rule.mode.text) members) []))),
        ("version", .number (.ofInt scope.version))] := by
  rw [printedValue, CapabilityScope.canonicalPayload, sortKeys, List.mergeSort_of_pairwise]
  · simp only [sortMembers, sortKeys, Value.map, Value.mapMembers, printed_texts, id]
    rfl
  · have names : ["allowed_actions", "allowed_services", "approval_policy", "version"].Pairwise
        fun first second => decide (first ≤ second) = true := by decide
    exact List.Pairwise.of_map Prod.fst (fun _ _ => id) names

/-- Scopes with one hash list the same actions and services, and agree on the last rules. -/
structure SameContents (first second : CapabilityScope) : Prop where
  actions : ∀ action, action ∈ first.allowedActions ↔ action ∈ second.allowedActions
  services : ∀ service, service ∈ first.allowedServices ↔ service ∈ second.allowedServices
  modes : ∀ action, (first.lastRule action).map (·.mode) = (second.lastRule action).map (·.mode)

theorem mem_iff_of_sortedTexts {first second : List String}
    (same : sortedTexts first = sortedTexts second) (text : String) :
    text ∈ first ↔ text ∈ second := by
  rw [← (List.mergeSort_perm first _).mem_iff, ← (List.mergeSort_perm second _).mem_iff]
  exact Eq.to_iff (congrArg (text ∈ ·) same)

theorem sameContents_of_hash {first second : CapabilityScope}
    (injective : Function.Injective runtime.sha256)
    (sameHash : first.computedHash runtime = second.computedHash runtime) :
    SameContents first second := by
  have printed : printedValue first.canonicalPayload = printedValue second.canonicalPayload :=
    write_injective (String.ofList_injective (injective sameHash))
  rw [printed_payload, printed_payload] at printed
  simp only [Value.object.injEq, List.cons.injEq, Prod.mk.injEq, Value.array.injEq, true_and,
    and_true] at printed
  obtain ⟨actions, services, policy, -⟩ := printed
  have strings : Function.Injective (Value.string : String → Printed) :=
    fun _ _ => Value.string.inj
  refine ⟨mem_iff_of_sortedTexts (strings.list_map actions),
    mem_iff_of_sortedTexts (strings.list_map services), fun action => ?_⟩
  have found := congrArg (List.find? fun member => member.1 = action) (Value.object.inj policy)
  rw [find_printed, find_printed, find_rules, find_rules, filter_sorted, filter_sorted] at found
  have modes := congrArg (Option.map Prod.snd) found
  simp only [Option.map_map] at modes
  have texts : Function.Injective fun mode : ApprovalMode => printedValue (.string mode.text) := by
    intro first second
    cases first <;> cases second <;> simp [printedValue, sortKeys, Value.map, ApprovalMode.text]
  refine Option.map_injective texts ?_
  simpa only [Option.map_map, Function.comp_def, CapabilityScope.lastRule] using modes

theorem modeFor_eq_head (scope : CapabilityScope) (action : String) :
    scope.modeFor action =
      (scope.approvalPolicy.filter fun rule => rule.action = action).head?.map (·.mode) := by
  rw [List.head?_filter]
  rfl

/-- With equal last rules the modes of an action agree exactly if both scopes shadow it or none. -/
theorem modeFor_eq_iff {first second : CapabilityScope} (same : SameContents first second)
    (action : String) :
    first.modeFor action = second.modeFor action ↔
      (first.Shadows action ↔ second.Shadows action) := by
  have modes := same.modes action
  unfold CapabilityScope.Shadows
  rw [← modes]
  unfold CapabilityScope.lastRule at modes ⊢
  rw [modeFor_eq_head, modeFor_eq_head]
  generalize first.approvalPolicy.filter (fun rule => rule.action = action) = firstRules at *
  generalize second.approvalPolicy.filter (fun rule => rule.action = action) = secondRules at *
  cases firstRules with
  | nil => cases secondRules <;> simp_all
  | cons firstRule firstRules =>
    cases secondRules with
    | nil => simp_all
    | cons secondRule secondRules =>
      obtain ⟨_, firstMode⟩ := firstRule
      obtain ⟨_, secondMode⟩ := secondRule
      simp only [List.head?_cons, Option.map_some, List.getLast?_cons]
      generalize ((firstRules.getLast?).getD _).mode = lastMode
      cases firstMode <;> cases secondMode <;> cases lastMode <;> decide

/-- A call of the action on the service, with the arguments that are expected. -/
def expectedCall (action service : String) : ToolCall where
  id := "call"
  action := action
  args := if action = "read_log" then [("service", .string service), ("lines", .number (.int 1))]
    else [("service", .string service)]
  purpose := none
  status := .pending
  result := .null
  failureReason := none

theorem validateArgs_expectedCall {service : String} (known : action ∈ knownActions)
    (named : service ≠ "") :
    validateArgs (expectedCall action service) = none ∧
      (expectedCall action service).resource = some service := by
  simp only [knownActions, List.mem_cons, List.not_mem_nil, or_false] at known
  rcases known with rfl | rfl | rfl <;>
    simp [validateArgs, expectedCall, ToolCall.resource, named, linesInRange, List.lookup_cons]

/-- The decision of `evaluate` for a scope. -/
def PolicyEngine.decision (engine : PolicyEngine) (runtime : Runtime) (call : ToolCall)
    (scope : CapabilityScope) : Except Error PolicyDecision :=
  (engine.evaluate runtime call (some scope)).map (·.decision)

theorem decision_of_intact (intact : assertScopeIntegrity runtime scope = .ok ()) :
    engine.decision runtime call scope =
      if engine.forceFailure = true then
        .error (.runtimeError "Injected policy service failure")
      else .ok (PolicyEngine.judge call scope).decision := by
  unfold PolicyEngine.decision PolicyEngine.evaluate
  dsimp only
  rw [intact]
  cases engine.forceFailure <;> rfl

/-- Some call of the action gets as far as the approval rules. -/
def CapabilityScope.Reaches (scope : CapabilityScope) (action : String) : Prop :=
  action ∈ knownActions ∧ action ∈ scope.allowedActions ∧
    ∃ service ∈ scope.allowedServices, service ≠ ""

theorem resource_ne_empty (valid : validateArgs call = none) : call.resource ≠ some "" := by
  intro empty
  simp only [validateArgs, ite_eq_iff, reduceCtorEq, and_false, false_or] at valid
  exact valid.2.1 (Or.inr empty)

variable {first second : CapabilityScope}

theorem judge_congr (same : SameContents first second)
    (modes : first.Reaches call.action →
      first.modeFor call.action = second.modeFor call.action) :
    (PolicyEngine.judge call first).decision = (PolicyEngine.judge call second).decision := by
  unfold PolicyEngine.judge
  simp only [← same.actions, ← same.services]
  by_cases known : call.action ∈ knownActions
  swap
  · rw [if_pos known, if_pos known]
  by_cases listed : call.action ∈ first.allowedActions
  swap
  · rw [if_pos listed, if_pos listed]
  rw [if_neg (not_not.mpr known), if_neg (not_not.mpr known), if_neg (not_not.mpr listed),
    if_neg (not_not.mpr listed)]
  cases valid : validateArgs call with
  | some reason => rfl
  | none =>
    dsimp only
    split
    · rfl
    rename_i inside
    push Not at inside
    obtain ⟨service, isService, offered⟩ := inside
    have named : service ≠ "" := fun empty => resource_ne_empty valid (empty ▸ isService)
    rw [modes ⟨known, listed, service, offered, named⟩]

theorem modeFor_of_decisions (same : SameContents first second)
    (judged : ∀ call, (PolicyEngine.judge call first).decision =
      (PolicyEngine.judge call second).decision) (reaches :
    first.Reaches action) : first.modeFor action = second.modeFor action := by
  obtain ⟨known, listed, service, offered, named⟩ := reaches
  obtain ⟨valid, isService⟩ := validateArgs_expectedCall known named
  have permitted : ∀ mode, Permitted (expectedCall action service) first mode ↔
      Permitted (expectedCall action service) second mode := by
    intro mode
    rw [← judge_eq_iff, ← judge_eq_iff, judged]
  refine Option.ext fun mode => ⟨fun isMode => ?_, fun isMode => ?_⟩
  · exact ((permitted mode).mp ⟨known, listed, valid, ⟨service, isService, offered⟩, isMode⟩).mode
  · exact ((permitted mode).mpr ⟨known, (same.actions _).mp listed, valid,
      ⟨service, isService, (same.services _).mp offered⟩, isMode⟩).mode

/-- Two sealed scopes with one hash decide alike on every call exactly if every action that a call
can get through with is shadowed in both or in none. -/
theorem decisions_agree_iff (runtime : Runtime) (injective : Function.Injective runtime.sha256)
    (nonempty : ∀ text, runtime.sha256 text ≠ "") (first second : CapabilityScope)
    (sameHash : first.computedHash runtime = second.computedHash runtime)
    (firstSealed : first.hash = first.computedHash runtime)
    (secondSealed : second.hash = second.computedHash runtime) :
    (∀ (engine : PolicyEngine) (call : ToolCall),
      engine.decision runtime call first = engine.decision runtime call second) ↔
      ∀ action, first.Reaches action → (first.Shadows action ↔ second.Shadows action) := by
  have same := sameContents_of_hash injective sameHash
  have intact : ∀ scope : CapabilityScope, scope.hash = scope.computedHash runtime →
      assertScopeIntegrity runtime scope = .ok () := by
    intro scope isSealed
    refine (refuse_eq_ok _ _ _).mpr ?_
    rintro (empty | broken)
    · exact nonempty _ (isSealed.symm.trans empty)
    · exact broken isSealed
  have firstIntact := intact first firstSealed
  have secondIntact := intact second secondSealed
  constructor
  · intro agree action reaches
    refine (modeFor_eq_iff same action).mp (modeFor_of_decisions same (fun call => ?_) reaches)
    have agreed := agree ⟨false⟩ call
    rw [decision_of_intact firstIntact, decision_of_intact secondIntact] at agreed
    exact Except.ok.inj agreed
  · intro alike engine call
    rw [decision_of_intact firstIntact, decision_of_intact secondIntact,
      judge_congr same fun reaches => (modeFor_eq_iff same _).mpr (alike _ reaches)]

/-- A runtime whose hash is a marked text. -/
def markedRuntime : Runtime where
  sha256 text := "sha256:" ++ text
  str _ := ""
  lower text := text

/-- A sealed scope with the rules for a restart of the database. -/
def ruledScope (modes : List ApprovalMode) : CapabilityScope :=
  let draft : CapabilityScope :=
    { allowedServices := ["postgresql"]
      allowedActions := ["restart_service"]
      approvalPolicy := modes.map fun mode => ⟨"restart_service", mode⟩
      version := 1
      hash := "" }
  { draft with hash := draft.computedHash markedRuntime }

theorem computedHash_ruledScope (mode : ApprovalMode) :
    (ruledScope [mode, .required]).computedHash markedRuntime =
      (ruledScope [.required]).computedHash markedRuntime := by
  have sorted : ∀ modes : List ApprovalMode,
      ((ruledScope modes).approvalPolicy.mergeSort fun first second =>
        first.action ≤ second.action) = (ruledScope modes).approvalPolicy := by
    intro modes
    refine List.mergeSort_of_pairwise (List.pairwise_map.mpr ?_)
    exact List.pairwise_of_forall fun _ _ => decide_eq_true (String.le_refl _)
  unfold CapabilityScope.computedHash CapabilityScope.canonicalPayload
  rw [sorted, sorted]
  rfl

theorem injective_markedRuntime : Function.Injective markedRuntime.sha256 :=
  fun _ _ same => (String.append_right_inj _).mp same

theorem markedRuntime_ne_empty (text : String) : markedRuntime.sha256 text ≠ "" :=
  fun empty => nomatch (String.append_eq_empty_iff.mp empty).1

theorem ruledScope_intact (modes : List ApprovalMode) :
    assertScopeIntegrity markedRuntime (ruledScope modes) = .ok () := by
  refine (refuse_eq_ok _ _ _).mpr ?_
  rintro (empty | broken)
  · exact markedRuntime_ne_empty _ empty
  · exact broken rfl

theorem shadowed_rule_decides :
    Function.Injective markedRuntime.sha256 ∧
    (ruledScope [.auto, .required]).computedHash markedRuntime =
      (ruledScope [.required]).computedHash markedRuntime ∧
    PolicyEngine.decision ⟨false⟩ markedRuntime (expectedCall "restart_service" "postgresql")
      (ruledScope [.auto, .required]) = .ok .allowAuto ∧
    PolicyEngine.decision ⟨false⟩ markedRuntime (expectedCall "restart_service" "postgresql")
      (ruledScope [.required]) = .ok .requireApproval := by
  refine ⟨injective_markedRuntime, computedHash_ruledScope .auto, ?_, ?_⟩
  · rw [decision_of_intact (ruledScope_intact _)]
    rfl
  · rw [decision_of_intact (ruledScope_intact _)]
    rfl

theorem decisions_agree_of_repeated :
    PolicyEngine.decision ⟨false⟩ markedRuntime (expectedCall "restart_service" "postgresql")
        (ruledScope [.required, .required]) =
      PolicyEngine.decision ⟨false⟩ markedRuntime (expectedCall "restart_service" "postgresql")
        (ruledScope [.required]) := by
  refine (decisions_agree_iff markedRuntime injective_markedRuntime markedRuntime_ne_empty _ _
    (computedHash_ruledScope .required) rfl rfl).mpr (fun action _ => ?_) _ _
  simp only [CapabilityScope.Shadows, CapabilityScope.modeFor, CapabilityScope.lastRule, ruledScope]
  by_cases isRestart : "restart_service" = action <;> simp [isRestart]

end Legacy

end GuardedAgentRunner
