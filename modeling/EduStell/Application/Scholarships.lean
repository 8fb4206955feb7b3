/-
  `application::scholarships`: pools and their funding, applications, decisions, and what becomes of
  an award.

  The workflow transactions of a decision and of an award transition are handed the pool balance as
  an ABSOLUTE value, computed here from a pool row that was read before they begin.

  The five kinds of input stand first, each with the fields of its source struct; then the
  operations, in the order in which an application passes through them: a pool is created and
  funded, applied to, the application is decided, and the award is disbursed or revoked.
-/
import EduStell.Application.Errors

namespace EduStell

open Txn Program Scholarships Persistence

/-- `From<ScholarshipRuleViolation>`: the conversion decides which violation is which answer. -/
instance : IntoServiceError ScholarshipRuleViolation where
  into value := match value with
    | .forbidden => .forbidden
    | .childProfileAccessDenied => .forbidden
    | .poolClosed => .conflict value.toString
    | .insufficientPoolBalance => .conflict value.toString
    | .invalidAwardTransition => .conflict value.toString
    | .missingDisbursementTarget => .conflict value.toString
    | .amountMustBePositive => .validation value.toString
    | .currencyMismatch => .validation value.toString
    | .geographyRestricted => .validation value.toString
    | .educationLevelRestricted => .validation value.toString
    | .schoolRestricted => .validation value.toString
    | .categoryRestricted => .validation value.toString

/-- `CreateScholarshipPoolInput`: a restriction that is left out restricts nothing. -/
structure CreateScholarshipPoolInput where
  name : String
  description : Option String
  currency : Currency
  geographyRestriction : Option String
  educationLevelRestriction : Option String
  schoolIdRestriction : Option Uuid
  categoryRestriction : Option String

/-- `FundScholarshipPoolInput`; the idempotency key is the client's choice. -/
structure FundScholarshipPoolInput where
  poolId : Uuid
  amountMinor : Int64
  currency : Currency
  externalReference : Option String
  idempotencyKey : String

/-- `CreateScholarshipApplicationInput`: what the restrictions of the pool are held against. -/
structure CreateScholarshipApplicationInput where
  poolId : Uuid
  childProfileId : Uuid
  studentCountry : Option String
  educationLevel : Option String
  schoolId : Option Uuid
  category : Option String
  notes : Option String

/-- `DecideScholarshipApplicationInput`: one body for approvals and rejections. -/
structure DecideScholarshipApplicationInput where
  applicationId : Uuid
  amountMinor : Int64
  currency : Currency
  decisionNotes : Option String

/-- `UpdateScholarshipAwardInput`: one body for disbursements and revocations. -/
structure UpdateScholarshipAwardInput where
  awardId : Uuid
  decisionNotes : Option String
  linkedPayoutRequestId : Option Uuid
  linkedVaultId : Option Uuid

/-- `sanitize_optional`: trimmed, and absent when nothing is left. -/
def sanitizeOptional (value : Option String) : Option String :=
  value.bind fun item => if (trim item).isEmpty then none else some (trim item)

/-- An audit row of the scholarship services that is not made from an event. -/
def scholarshipAudit (actorUserId : Uuid) (action : String) (entityId : Uuid) (metadata : Value) :
    AuditLog where
  actorUserId := some actorUserId
  entityType := "scholarship"
  entityId := some entityId
  action := action
  metadata := metadata

/-! ## Pools

  Pools of one owner are independent of each other.  A contribution raises the balance under the
  lock of the pool, so concurrent ones add up. -/

/-- `create_scholarship_pool`: a pool begins open and empty. -/
def createScholarshipPool (newId : Uuid) (actor : AuthenticatedUser)
    (input : CreateScholarshipPoolInput) : Tx ScholarshipError ScholarshipPool := do
  failIf (¬(actor.role = .donor ∨ actor.role = .platformAdmin)) .forbidden
  failIf (trim input.name).isEmpty (.validation "name is required")
  let availableFunds ← ofExcept ((Money.new 0 input.currency).mapError .validation)
  let pool : ScholarshipPool := {
    id := newId
    ownerUserId := actor.userId
    name := input.name
    description := sanitizeOptional input.description
    status := .open
    availableFunds := availableFunds
    geographyRestriction := sanitizeOptional input.geographyRestriction
    educationLevelRestriction := sanitizeOptional input.educationLevelRestriction
    schoolIdRestriction := input.schoolIdRestriction
    categoryRestriction := sanitizeOptional input.categoryRestriction }
  let audit := scholarshipAudit actor.userId "scholarship_pool.created" pool.id (.object [
    ("owner_user_id", .ofUuid pool.ownerUserId),
    ("currency", .string pool.availableFunds.currency.asStr),
    ("geography_restriction", .ofOption .string pool.geographyRestriction),
    ("education_level_restriction", .ofOption .string pool.educationLevelRestriction),
    ("school_id_restriction", .ofOption .ofUuid pool.schoolIdRestriction),
    ("category_restriction", .ofOption .string pool.categoryRestriction)])
  workflow (createPoolWithAudit pool audit)

/-- `fund_scholarship_pool`: the key is not looked up; a repeated one violates the unique index. -/
def fundScholarshipPool (newId : Uuid) (actor : AuthenticatedUser)
    (input : FundScholarshipPoolInput) :
    Tx ScholarshipError (ScholarshipPool × DonorContribution) := do
  check (canFundPool actor.role)
  check (validatePositiveAmount input.amountMinor)
  let pool ← okOr (← select fun s => s.pools.find input.poolId) .notFound
  check (validatePoolIsOpen pool)
  check (validateCurrency pool.availableFunds.currency.asStr input.currency.asStr)
  let amount ← ofExcept ((Money.new input.amountMinor input.currency).mapError .validation)
  let contribution : DonorContribution := {
    id := newId
    poolId := pool.id
    donorUserId := actor.userId
    amount := amount
    status := .confirmed
    externalReference := sanitizeOptional input.externalReference
    idempotencyKey := some input.idempotencyKey }
  let audit := scholarshipAudit actor.userId "scholarship_pool.funded" pool.id (.object [
    ("donor_user_id", .ofUuid actor.userId),
    ("amount_minor", .ofInt64 contribution.amount.amountMinor),
    ("currency", .string contribution.amount.currency.asStr),
    ("external_reference_present", .bool contribution.externalReference.isSome)])
  workflow (fundPoolWithAudit contribution audit)

/-! ## Applications

  The restrictions of the pool are met at the time of the application; nothing checks them again
  at the decision. -/

/-- `create_scholarship_application`: where the application is silent, the education level is that
    of the child.  The restrictions see the texts as they came in, the row holds them sanitized.

    In the order of the source: the role, the pool and whether it is open, the child and the right
    to it, the restrictions. -/
def createScholarshipApplication (newId : Uuid) (actor : AuthenticatedUser)
    (input : CreateScholarshipApplicationInput) : Tx ScholarshipError ScholarshipApplication := do
  check (canApply actor.role)
  let pool ← okOr (← select fun s => s.pools.find input.poolId) .notFound
  check (validatePoolIsOpen pool)
  let child ← okOr (← select fun s => s.childProfiles.find input.childProfileId) .notFound
  check (validateChildProfileAccess actor.role actor.userId child.ownerUserId)
  let educationLevel := input.educationLevel.or child.educationLevel
  -- the raw texts are checked, the sanitized ones are stored
  check (validatePoolRestrictions pool input.studentCountry educationLevel input.schoolId
    input.category)
  let application : ScholarshipApplication := {
    id := newId
    poolId := pool.id
    applicantUserId := actor.userId
    childProfileId := child.id
    studentCountry := sanitizeOptional input.studentCountry
    educationLevel := sanitizeOptional educationLevel
    schoolId := input.schoolId
    category := sanitizeOptional input.category
    status := .submitted
    notes := sanitizeOptional input.notes }
  let audit := scholarshipAudit actor.userId "scholarship_application.submitted" application.id
    (.object [
      ("pool_id", .ofUuid application.poolId),
      ("child_profile_id", .ofUuid application.childProfileId),
      ("student_country", .ofOption .string application.studentCountry),
      ("education_level", .ofOption .string application.educationLevel),
      ("school_id", .ofOption .ofUuid application.schoolId),
      ("category", .ofOption .string application.category)])
  workflow (createApplicationWithAudit application audit)

/-! ## Decisions

  The application and its pool are read without a lock, and everything is decided on these two
  rows: the status of the award, its amount, and the balance that the pool is going to have.  By
  the time the transaction begins the new balance is a number. -/

/-- `ScholarshipReviewDecision`: the three rows as the transaction leaves them. -/
structure ScholarshipReviewDecision where
  application : ScholarshipApplication
  award : ScholarshipAward
  pool : ScholarshipPool

/-- `From<ScholarshipReviewDecisionResult>`: field by field. -/
def ScholarshipReviewDecision.ofResult (value : ScholarshipReviewDecisionResult) :
    ScholarshipReviewDecision :=
  ⟨value.application, value.award, value.pool⟩

/-- `decision_notes.as_ref().map(|v| !v.is_empty()).unwrap_or(false)` -/
def notesPresent (notes : Option String) : Bool := (notes.map fun v => !v.isEmpty).getD false

/-- `approve_application`: status and balance are checked in rows that were read without a lock, and
    the new balance is that read less the amount.

    In the order of the source: the role, the amount, the application and whether it is open, its
    pool, the currency, the balance.  The new balance is computed here, by a subtraction that the
    check before it keeps from wrapping. -/
def approveApplication (newId : Uuid) (actor : AuthenticatedUser)
    (input : DecideScholarshipApplicationInput) :
    Tx ScholarshipError ScholarshipReviewDecision := do
  check (canReview actor.role)
  check (validatePositiveAmount input.amountMinor)
  let application ← okOr (← select fun s => s.applications.find input.applicationId) .notFound
  check (validateApplicationReviewable application.status)
  let pool ← okOr (← select fun s => s.pools.find application.poolId) .notFound
  check (validateCurrency pool.availableFunds.currency.asStr input.currency.asStr)
  -- the balance of this read decides, and is the one that the new balance is computed from
  check (ensurePoolBalance pool.availableFunds.amountMinor input.amountMinor)
  let amount ← ofExcept ((Money.new input.amountMinor input.currency).mapError .validation)
  let award : ScholarshipAward := {
    id := newId
    applicationId := application.id
    decidedBy := actor.userId
    amount := amount
    status := .approved
    decisionNotes := sanitizeOptional input.decisionNotes
    linkedPayoutRequestId := none
    linkedVaultId := none }
  let audit :=
    { (AuditEvent.scholarshipDecision actor.userId application.id award pool).intoLog with
      action := "scholarship_application.approved"
      metadata := .object [
        ("pool_id", .ofUuid application.poolId),
        ("award_id", .ofUuid award.id),
        ("decision", .string "approved"),
        ("amount_minor", .ofInt64 award.amount.amountMinor),
        ("currency", .string award.amount.currency.asStr),
        ("decision_notes_present", .bool (notesPresent award.decisionNotes))] }
  let result ← workflow (decideApplicationWithAudit application.id
    (asStr ScholarshipApplicationStatus.approved) award
    (pool.availableFunds.amountMinor - input.amountMinor) audit)
  return .ofResult result

/-- `reject_application`: the balance is written back as it was read. An amount of zero and any
    currency are accepted, since no money moves. -/
def rejectApplication (newId : Uuid) (actor : AuthenticatedUser)
    (input : DecideScholarshipApplicationInput) :
    Tx ScholarshipError ScholarshipReviewDecision := do
  check (canReview actor.role)
  let application ← okOr (← select fun s => s.applications.find input.applicationId) .notFound
  check (validateApplicationReviewable application.status)
  let pool ← okOr (← select fun s => s.pools.find application.poolId) .notFound
  let amount ← ofExcept ((Money.new input.amountMinor input.currency).mapError .validation)
  let award : ScholarshipAward := {
    id := newId
    applicationId := application.id
    decidedBy := actor.userId
    amount := amount
    status := .rejected
    decisionNotes := sanitizeOptional input.decisionNotes
    linkedPayoutRequestId := none
    linkedVaultId := none }
  let audit :=
    { (AuditEvent.scholarshipDecision actor.userId application.id award pool).intoLog with
      action := "scholarship_application.rejected"
      metadata := .object [
        ("pool_id", .ofUuid application.poolId),
        ("award_id", .ofUuid award.id),
        ("decision", .string "rejected"),
        ("decision_notes_present", .bool (notesPresent award.decisionNotes))] }
  -- what was read is written back, whatever has happened to the pool since
  let result ← workflow (decideApplicationWithAudit application.id
    (asStr ScholarshipApplicationStatus.rejected) award pool.availableFunds.amountMinor audit)
  return .ofResult result

/-! ## Awards

  A disbursement moves no money of the pool; a revocation gives the amount back.  Both hand the
  transaction an absolute balance. -/

/-- `decision_notes.as_ref().map(|v| !v.trim().is_empty()).unwrap_or(false)` -/
def trimmedNotesPresent (notes : Option String) : Bool :=
  (notes.map fun v => !(trim v).isEmpty).getD false

/-- `disburse_award`: the money has left the pool with the approval, so the balance is written back
    as it was read.

    The transition asks for one of the two links in the request, whatever links the row has; then
    the application and its pool are looked up, for the balance that is handed on. -/
def disburseAward (actor : AuthenticatedUser) (input : UpdateScholarshipAwardInput) :
    Tx ScholarshipError ScholarshipReviewDecision := do
  check (canReview actor.role)
  let award ← okOr (← select fun s => s.awards.find input.awardId) .notFound
  let target ← check (validateAwardTransition award.status .disburse input.linkedPayoutRequestId
    input.linkedVaultId)
  let application ← okOr (← select fun s => s.applications.find award.applicationId) .notFound
  let pool ← okOr (← select fun s => s.pools.find application.poolId) .notFound
  let audit := scholarshipAudit actor.userId "scholarship_award.disbursed" award.id (.object [
    ("pool_id", .ofUuid pool.id),
    ("linked_payout_request_id", .ofOption .ofUuid input.linkedPayoutRequestId),
    ("linked_vault_id", .ofOption .ofUuid input.linkedVaultId),
    ("decision_notes_present", .bool (trimmedNotesPresent input.decisionNotes))])
  -- what was read is written back, whatever has happened to the pool since
  let result ← workflow (transitionAwardWithAudit award.id (asStr target)
    input.linkedPayoutRequestId input.linkedVaultId pool.availableFunds.amountMinor audit)
  return .ofResult result

/-- `revoke_award`: the amount goes back to the pool.  The transition lets a revoked award through,
    so a second revocation returns the amount again. -/
def revokeAward (actor : AuthenticatedUser) (input : UpdateScholarshipAwardInput) :
    Tx ScholarshipError ScholarshipReviewDecision := do
  check (canReview actor.role)
  let award ← okOr (← select fun s => s.awards.find input.awardId) .notFound
  let target ← check (validateAwardTransition award.status .revoke input.linkedPayoutRequestId
    input.linkedVaultId)
  let application ← okOr (← select fun s => s.applications.find award.applicationId) .notFound
  let pool ← okOr (← select fun s => s.pools.find application.poolId) .notFound
  -- the amount of the award, whether or not it was given back before
  let restoredBalance := pool.availableFunds.amountMinor + award.amount.amountMinor
  let audit := scholarshipAudit actor.userId "scholarship_award.revoked" award.id (.object [
    ("pool_id", .ofUuid pool.id),
    ("decision_notes_present", .bool (trimmedNotesPresent input.decisionNotes))])
  let result ← workflow (transitionAwardWithAudit award.id (asStr target)
    award.linkedPayoutRequestId award.linkedVaultId restoredBalance audit)
  return .ofResult result

end EduStell
