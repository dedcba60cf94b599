/-
This file models the errors of the runner: the stable vocabulary of error codes,
the typed exception that carries one, and the untyped errors that reach the
runner from the JSON encoder, from SQLite, from an expired context and from the
adapters. The code of an untyped error is `JOURNAL_UNAVAILABLE`.
-/

import Mathlib.Data.String.Defs
import GuardedAgentRunner.Library.Fallible

namespace GuardedAgentRunner

/-- The machine-facing error vocabulary. A code that is read from a record may be any text. -/
inductive ErrorCode where
  | unsupportedEnvironment
  | unsupportedTransition
  | scopeDenied
  | approvalRequired
  | approvalExpired
  | approvalRevoked
  | intentStale
  | preconditionUnavailable
  | targetBusy
  | targetBlockedUnknown
  | idempotencyConflict
  | backupNotReady
  | dispatchOutcomeUnknown
  | verificationInconclusive
  | recoveryUnsafe
  | externalIntervention
  | journalUnavailable
  | clockUnsafe
  | invalidIntentDigest
  | notFound
  | invalidRequest
  | other (text : String)
  deriving DecidableEq, Repr

/-- The text of an error code. -/
def ErrorCode.text : ErrorCode → String
  | .unsupportedEnvironment => "UNSUPPORTED_ENVIRONMENT"
  | .unsupportedTransition => "UNSUPPORTED_PLUGIN_TRANSITION"
  | .scopeDenied => "SCOPE_DENIED"
  | .approvalRequired => "APPROVAL_REQUIRED"
  | .approvalExpired => "APPROVAL_EXPIRED"
  | .approvalRevoked => "APPROVAL_REVOKED"
  | .intentStale => "INTENT_STALE"
  | .preconditionUnavailable => "PRECONDITION_UNAVAILABLE"
  | .targetBusy => "TARGET_BUSY"
  | .targetBlockedUnknown => "TARGET_BLOCKED_UNKNOWN"
  | .idempotencyConflict => "IDEMPOTENCY_CONFLICT"
  | .backupNotReady => "BACKUP_NOT_READY"
  | .dispatchOutcomeUnknown => "DISPATCH_OUTCOME_UNKNOWN"
  | .verificationInconclusive => "VERIFICATION_INCONCLUSIVE"
  | .recoveryUnsafe => "RECOVERY_UNSAFE"
  | .externalIntervention => "EXTERNAL_INTERVENTION"
  | .journalUnavailable => "JOURNAL_UNAVAILABLE"
  | .clockUnsafe => "CLOCK_UNSAFE"
  | .invalidIntentDigest => "INVALID_INTENT_DIGEST"
  | .notFound => "NOT_FOUND"
  | .invalidRequest => "INVALID_REQUEST"
  | .other text => text

/-- A Go error: the runner's typed exception, the error of an expired context, or any other
error with its text. -/
inductive Failure where
  | exception (code : ErrorCode) (message : String)
  | contextDone
  | other (message : String)
  deriving DecidableEq, Repr

namespace Failure

/-- `Error()`. -/
def text : Failure → String
  | .exception code message => code.text ++ ": " ++ message
  | .contextDone => "context deadline exceeded"
  | .other message => message

/-- `CodeOf` on a present error. -/
def codeOf : Failure → ErrorCode
  | .exception code _ => code
  | .contextDone => .journalUnavailable
  | .other _ => .journalUnavailable

/-- `translateWriteError` on a present error. -/
def translateWriteError (failure : Failure) : Failure :=
  .exception .journalUnavailable failure.text

/-- `sql.ErrNoRows`. -/
def noRows : Failure := .other "sql: no rows in result set"

/-- The error SQLite reports for a violated primary key or unique index. -/
def constraintFailed : Failure := .other "constraint failed: UNIQUE constraint failed"

/-- The error `json.Marshal` reports for an instant outside the years 0 through 9999. -/
def yearOutOfRange : Failure :=
  .other "json: error calling MarshalJSON for type *time.Time: year outside of range [0,9999]"

end Failure

/-- `domain.NewError`. -/
abbrev newError (code : ErrorCode) (message : String) : Failure := .exception code message

end GuardedAgentRunner
