/-
  The audit trail: JSON metadata, the events of `application::audit`, and the redaction that the
  persistence layer runs over the metadata before a row is written.

  An audit row here has no id, time, request id or correlation id: nothing modelled reads them.
  The fields of an object stand in the order in which the `json!` of the source lists them.

  `sanitizeJsonValue` is the one place where redaction happens; the events come before it and know
  nothing of it.  So what an event reports and what its row shows are two questions: the first is
  answered by the constructors below, the second by `EduStell.Trail.Redaction`.
-/
import EduStell.Domain.Persistence
import Mathlib.Data.List.Infix

namespace EduStell

/-! ## JSON values

  Only what the code does with JSON is modelled: build it, write numbers and ids into it, walk it.
  -/

/-- `serde_json::Value`; a number is kept as its text. -/
inductive Value
  | null
  | bool (b : Bool)
  | number (literal : String)
  | string (s : String)
  | array (items : List Value)
  | object (fields : List (String × Value))

namespace Value

/-- A number of 64 bits, as JSON writes it: in decimal. -/
def ofInt64 (n : Int64) : Value := number (toString n)

/-- An id in a JSON value is its hyphenated text. -/
def ofUuid (u : Uuid) : Value := string u.hyphenated

/-- `None` is written as `null`. -/
def ofOption {α : Type} (f : α → Value) : Option α → Value
  | some a => f a
  | none => null

end Value

/-! ## Redaction

  The test of a key looks at the key in lower case, and for six of its words at any part of it.
  It does not look at the value: a flag that only says whether a reference was given is replaced
  as well, when its name contains a sensitive word. -/

/-- `str::contains` -/
def contains (s sub : String) : Bool := decide (sub.toList <:+: s.toList)

/-- `is_sensitive_key`: six of the words make every key sensitive that contains them, in upper or
    lower case; the three last names have to be the whole key. -/
def isSensitiveKey (key : String) : Bool :=
  let normalized := key.toLower
  contains normalized "password" ||
    contains normalized "secret" ||
    contains normalized "token" ||
    contains normalized "authorization" ||
    contains normalized "payout_reference" ||
    contains normalized "provider_reference" ||
    normalized = "external_reference" ||
    normalized = "decision_notes" ||
    normalized = "review_notes"

mutual

/-- `sanitize_json_value`: objects and arrays are walked through, other values stay. -/
def sanitizeJsonValue : Value → Value
  | .object fields => .object (sanitizeFields fields)
  | .array items => .array (sanitizeItems items)
  | other => other

/-- The elements of an array, one by one. -/
def sanitizeItems : List Value → List Value
  | [] => []
  | item :: items => sanitizeJsonValue item :: sanitizeItems items

/-- The fields of an object: the value under a sensitive key is replaced whole, and never looked at.
    -/
def sanitizeFields : List (String × Value) → List (String × Value)
  | [] => []
  | (key, value) :: fields =>
    (key, if isSensitiveKey key then .string "[REDACTED]" else sanitizeJsonValue value)
      :: sanitizeFields fields

end

/-! ## Audit rows and events

  An event is typed, a row of the log is text.  The functions below are the constructors of the
  source, with the metadata that each of them builds. -/

/-- A row of `audit_logs`, as far as the code chooses it: the database adds the id and the time. -/
structure AuditLog where
  actorUserId : Option Uuid
  entityType : String
  entityId : Option Uuid
  action : String
  metadata : Value

/-- `sanitize_audit_log`: what a repository stores instead of the row that it is given. -/
def sanitizeAuditLog (auditLog : AuditLog) : AuditLog :=
  { auditLog with metadata := sanitizeJsonValue auditLog.metadata }

/-- `AuditEntityType`: the entities that the modelled events are about. -/
inductive AuditEntityType
  | contribution | payoutRequest | school | scholarshipAward
  deriving DecidableEq, Repr

/-- `AuditEntityType::as_str`, the text that the column `entity_type` holds. -/
def AuditEntityType.asStr : AuditEntityType → String
  | contribution => "contribution"
  | payoutRequest => "payout_request"
  | school => "school"
  | scholarshipAward => "scholarship_award"

/-- `AuditAction`: the actions that the modelled events record. -/
inductive AuditAction
  | contributionRecorded
  | contributionStatusChanged
  | payoutRequested
  | payoutApproved
  | payoutRejected
  | payoutStatusChanged
  | schoolVerified
  | scholarshipDecision
  deriving DecidableEq, Repr

/-- `AuditAction::as_str`, the text that the column `action` holds. -/
def AuditAction.asStr : AuditAction → String
  | contributionRecorded => "contribution.recorded"
  | contributionStatusChanged => "contribution.status_changed"
  | payoutRequested => "payout.requested"
  | payoutApproved => "payout.approved"
  | payoutRejected => "payout.rejected"
  | payoutStatusChanged => "payout.status_changed"
  | schoolVerified => "school.verified"
  | scholarshipDecision => "scholarship.decision"

/-- `AuditEvent`: a row of the log whose entity and action are still typed. -/
structure AuditEvent where
  actorUserId : Option Uuid
  entityType : AuditEntityType
  entityId : Option Uuid
  action : AuditAction
  metadata : Value

namespace AuditEvent

/-- `AuditEvent::contribution_recorded`: the intent as it is stored. -/
def contributionRecorded (actorUserId : Uuid) (contribution : Contribution) : AuditEvent where
  actorUserId := some actorUserId
  entityType := .contribution
  entityId := some contribution.id
  action := .contributionRecorded
  metadata := .object [
    ("vault_id", .ofUuid contribution.vaultId),
    ("contributor_user_id", .ofUuid contribution.contributorUserId),
    ("amount_minor", .ofInt64 contribution.amount.amountMinor),
    ("currency", .string contribution.amount.currency.asStr),
    ("source_type", .string (asStr contribution.sourceType)),
    ("status", .string (asStr contribution.status))]

/-- `AuditEvent::contribution_status_changed`: of the external reference it is only told whether
    there is one. -/
def contributionStatusChanged (actorUserId : Uuid) (contribution : Contribution)
    (toStatus : String) (externalReferencePresent : Bool) : AuditEvent where
  actorUserId := some actorUserId
  entityType := .contribution
  entityId := some contribution.id
  action := .contributionStatusChanged
  metadata := .object [
    ("vault_id", .ofUuid contribution.vaultId),
    ("from_status", .string (asStr contribution.status)),
    ("to_status", .string toStatus),
    ("external_reference_present", .bool externalReferencePresent)]

/-- `AuditEvent::payout_requested`; the service replaces the metadata by its own. -/
def payoutRequested (actorUserId : Uuid) (payout : PayoutRequest) : AuditEvent where
  actorUserId := some actorUserId
  entityType := .payoutRequest
  entityId := some payout.id
  action := .payoutRequested
  metadata := .object [
    ("vault_id", .ofUuid payout.vaultId),
    ("milestone_id", .ofUuid payout.milestoneId),
    ("school_id", .ofUuid payout.schoolId),
    ("amount_minor", .ofInt64 payout.amount.amountMinor),
    ("currency", .string payout.amount.currency.asStr),
    ("status", .string (asStr payout.status))]

/-- `AuditEvent::payout_decision`: approvals and rejections are actions of their own, the other four
    targets share one. -/
def payoutDecision (actorUserId : Uuid) (payout : PayoutRequest) (toStatus : String) :
    AuditEvent where
  actorUserId := some actorUserId
  entityType := .payoutRequest
  entityId := some payout.id
  action :=
    if toStatus = "approved" then .payoutApproved
    else if toStatus = "rejected" then .payoutRejected
    else .payoutStatusChanged
  metadata := .object [
    ("vault_id", .ofUuid payout.vaultId),
    ("milestone_id", .ofUuid payout.milestoneId),
    ("school_id", .ofUuid payout.schoolId),
    ("from_status", .string (asStr payout.status)),
    ("to_status", .string toStatus),
    ("review_notes_present", .bool ((payout.reviewNotes.map fun v => !v.isEmpty).getD false)),
    ("external_payout_reference_present", .bool payout.externalPayoutReference.isSome)]

/-- `AuditEvent::scholarship_decision`: it is about the award, not about its application. -/
def scholarshipDecision (actorUserId applicationId : Uuid) (award : ScholarshipAward)
    (pool : ScholarshipPool) : AuditEvent where
  actorUserId := some actorUserId
  entityType := .scholarshipAward
  entityId := some award.id
  action := .scholarshipDecision
  metadata := .object [
    ("application_id", .ofUuid applicationId),
    ("pool_id", .ofUuid pool.id),
    ("decision", .string (asStr award.status)),
    ("amount_minor", .ofInt64 award.amount.amountMinor),
    ("currency", .string award.amount.currency.asStr)]

/-- `AuditEvent::into_log`: the enumerations become text. -/
def intoLog (event : AuditEvent) : AuditLog where
  actorUserId := event.actorUserId
  entityType := event.entityType.asStr
  entityId := event.entityId
  action := event.action.asStr
  metadata := event.metadata

end AuditEvent
end EduStell
