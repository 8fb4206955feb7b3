/-
  `application::payouts`: requesting a payout, looking payouts up, and reviewing one.

  The six review steps are one function with the transition and its audit action as parameters, as
  in the source; the id of a new payout is a parameter too.

  None of the reads before a transaction takes a lock.  So the status, the funds and the school
  that a review has looked at may have changed when its transaction begins, and the transaction
  asks only whether the row has the target status by then.
-/
import EduStell.Application.Errors

namespace EduStell

open Txn Program Payouts Persistence

/-- `From<PayoutRuleViolation>`: the conversion decides which violation is which answer. -/
instance : IntoServiceError PayoutRuleViolation where
  into value := match value with
    | .unauthorizedRequester => .forbidden
    | .unauthorizedReviewer => .forbidden
    | .invalidStatusTransition _ _ => .conflict value.toString
    | .insufficientAvailableFunds => .conflict value.toString
    | .schoolNotVerified => .conflict value.toString
    | .amountMustBePositive => .validation value.toString
    | .milestoneDoesNotBelongToVault => .validation value.toString
    | .milestoneNotPayable => .validation value.toString
    | .currencyMismatch => .validation value.toString

/-! ## Requesting a payout

  The funds are checked against the vault as it is read here, without a lock, and nothing is
  locked in it before the approval. -/

/-- `CreatePayoutRequestInput`; the idempotency key is the client's choice. -/
structure CreatePayoutRequestInput where
  vaultId : Uuid
  milestoneId : Uuid
  schoolId : Uuid
  amountMinor : Int64
  currency : Currency
  idempotencyKey : String
  deriving DecidableEq

/-- `ReviewPayoutInput`: one body for the six review steps. -/
structure ReviewPayoutInput where
  payoutId : Uuid
  reviewNotes : Option String
  externalPayoutReference : Option String

/-- `find_by_idempotency_key`. -/
def payoutByIdempotencyKey (s : Db) (key : String) : Option PayoutRequest :=
  s.payouts.rows.find? fun p => p.idempotencyKey = some key

/-- Is the payout stored under the key the one that is asked for? -/
def samePayoutRequest (existing : PayoutRequest) (actorUserId : Uuid)
    (input : CreatePayoutRequestInput) : Bool :=
  existing.vaultId = input.vaultId && existing.milestoneId = input.milestoneId &&
    existing.schoolId = input.schoolId && existing.requestedBy = actorUserId &&
    existing.amount.amountMinor = input.amountMinor && existing.amount.currency = input.currency

/-- `create_payout_request`: role and amount are checked before the key is looked up, everything
    else after it.

    Vault, milestone and school are looked up by reads of their own and then checked, in the order
    of the source; the funds of the vault come last. -/
def createPayoutRequest (newId : Uuid) (actor : AuthenticatedUser)
    (input : CreatePayoutRequestInput) : Tx PayoutError PayoutRequest := do
  check (validateRequesterRole actor.role)
  check (validatePayoutAmount input.amountMinor)
  -- no lock: two calls with one key may both find it free here
  match ← select fun s => payoutByIdempotencyKey s input.idempotencyKey with
  | some existing =>
    if samePayoutRequest existing actor.userId input then return existing
    fail (.conflict "idempotency key already used for a different payout request")
  | none =>
    let vault ← okOr (← select fun s => s.vaults.find input.vaultId) .notFound
    failIf (vault.ownerUserId ≠ actor.userId) .forbidden
    let milestone ← okOr (← select fun s => s.milestones.find input.milestoneId) .notFound
    let school ← okOr (← select fun s => s.schools.find input.schoolId) .notFound
    check (validateMilestoneAssociation milestone.vaultId input.vaultId)
    check (validateMilestonePayable milestone.status)
    check (validateCurrencyMatch input.currency.asStr vault.currency)
    check (validateSchoolVerified school.verificationStatus)
    -- nothing is locked in the vault before the approval
    check (ensureAvailableFunds vault.totalContributedMinor vault.totalLockedMinor
      vault.totalDisbursedMinor input.amountMinor)
    let amount ← ofExcept ((Money.new input.amountMinor input.currency).mapError .validation)
    let payout : PayoutRequest := {
      id := newId
      vaultId := input.vaultId
      milestoneId := input.milestoneId
      schoolId := input.schoolId
      requestedBy := actor.userId
      amount := amount
      idempotencyKey := some input.idempotencyKey
      status := .pending
      reviewNotes := none
      externalPayoutReference := none
      reviewedBy := none }
    let audit := { (AuditEvent.payoutRequested actor.userId payout).intoLog with
      metadata := .object [
        ("vault_id", .ofUuid vault.id),
        ("milestone_id", .ofUuid milestone.id),
        ("school_id", .ofUuid school.id),
        ("school_verification_status", .string (asStr school.verificationStatus)),
        ("amount_minor", .ofInt64 payout.amount.amountMinor),
        ("currency", .string payout.amount.currency.asStr),
        ("status", .string (asStr payout.status))] }
    workflow (createRequestWithAudit payout audit)

/-! ## Looking payouts up

  Access goes by the requester for one payout, and by the owner of the vault for the list. -/

/-- `get_payout`: for whoever requested it, and for administrators. -/
def getPayout (actor : AuthenticatedUser) (payoutId : Uuid) : Tx PayoutError PayoutRequest := do
  let payout ← okOr (← select fun s => s.payouts.find payoutId) .notFound
  failIf (actor.userId ≠ payout.requestedBy ∧ actor.role ≠ .platformAdmin) .forbidden
  return payout

/-- `list_by_vault`, but for the order of the rows. -/
def payoutsByVault (s : Db) (vaultId : Uuid) : List PayoutRequest :=
  s.payouts.rows.filter fun p => p.vaultId = vaultId

/-- `list_vault_payouts`: for the owner of the vault, and for administrators. -/
def listVaultPayouts (actor : AuthenticatedUser) (vaultId : Uuid) :
    Tx PayoutError (List PayoutRequest) := do
  let vault ← okOr (← select fun s => s.vaults.find vaultId) .notFound
  failIf (actor.userId ≠ vault.ownerUserId ∧ actor.role ≠ .platformAdmin) .forbidden
  select fun s => payoutsByVault s vaultId

/-! ## Reviewing

  Everything that is decided, is decided on rows read before the transaction; the funds are asked
  for an approval only, and the school has to be verified for the approval and whatever comes
  after it. -/

/-- The action that the audit row of a review step is given. -/
def PayoutTransition.auditAction : PayoutTransition → String
  | moveToReview => "payout.review_started"
  | approve => "payout.approved"
  | reject => "payout.rejected"
  | markProcessing => "payout.processing_started"
  | complete => "payout.completed"
  | fail => "payout.failed"

/-- The transitions that ask for a verified school. -/
def PayoutTransition.needsVerifiedSchool : PayoutTransition → Bool
  | approve | markProcessing | complete | fail => true
  | moveToReview | reject => false

/-- The audit row of a review step; its metadata takes the place of that of the event. -/
def reviewAudit (actorUserId : Uuid) (payout : PayoutRequest) (vault : SavingsVault)
    (milestone : Milestone) (school : School) (targetStatus : PayoutStatus)
    (input : ReviewPayoutInput) (auditAction : String) : AuditLog :=
  let updatedPreview : PayoutRequest := { payout with
    status := targetStatus
    reviewNotes := input.reviewNotes
    externalPayoutReference := input.externalPayoutReference }
  { (AuditEvent.payoutDecision actorUserId updatedPreview (asStr targetStatus)).intoLog with
    action := auditAction
    metadata := .object [
      ("vault_id", .ofUuid vault.id),
      ("milestone_id", .ofUuid milestone.id),
      ("school_id", .ofUuid school.id),
      ("school_verification_status", .string (asStr school.verificationStatus)),
      ("from_status", .string (asStr payout.status)),
      ("to_status", .string (asStr targetStatus)),
      ("review_notes_present",
        .bool ((input.reviewNotes.map fun v => !(trim v).isEmpty).getD false)),
      ("external_payout_reference_present", .bool input.externalPayoutReference.isSome)] }

/-- `review_transition`: the rules are asked with rows that no lock protects; what is locked later
    is not asked again.

    School, milestone and vault are looked up for every transition that is no repeat, and the
    milestone is checked for every one; the school and the funds are checked only for the
    transitions that need them. -/
def reviewTransition (actor : AuthenticatedUser) (input : ReviewPayoutInput)
    (transition : PayoutTransition) (auditAction : String) : Tx PayoutError PayoutRequest := do
  check (validateReviewerRole actor.role)
  let payout ← okOr (← select fun s => s.payouts.find input.payoutId) .notFound
  let targetStatus ← check (validateTransition payout.status transition)
  -- a repeat, as far as this read can tell
  if payout.status = targetStatus then return payout
  let school ← okOr (← select fun s => s.schools.find payout.schoolId) .notFound
  let milestone ← okOr (← select fun s => s.milestones.find payout.milestoneId) .notFound
  let vault ← okOr (← select fun s => s.vaults.find payout.vaultId) .notFound
  check (validateMilestoneAssociation milestone.vaultId payout.vaultId)
  check (validateMilestonePayable milestone.status)
  checkIf transition.needsVerifiedSchool (validateSchoolVerified school.verificationStatus)
  -- the funds are those of the vault as it was read, not as it will be locked
  checkIf (transition = .approve) (ensureAvailableFunds vault.totalContributedMinor
    vault.totalLockedMinor vault.totalDisbursedMinor payout.amount.amountMinor)
  let audit := reviewAudit actor.userId payout vault milestone school targetStatus input auditAction
  let result ← workflow (transitionWithAudit payout.id (asStr targetStatus) actor.userId
    input.reviewNotes input.externalPayoutReference audit)
  return result.payout

/-- `move_payout_to_review`: no money moves. -/
def movePayoutToReview (actor : AuthenticatedUser) (input : ReviewPayoutInput) :
    Tx PayoutError PayoutRequest :=
  reviewTransition actor input .moveToReview "payout.review_started"

/-- `approve_payout`: the amount is locked in the vault. -/
def approvePayout (actor : AuthenticatedUser) (input : ReviewPayoutInput) :
    Tx PayoutError PayoutRequest :=
  reviewTransition actor input .approve "payout.approved"

/-- `reject_payout`: nothing has been locked yet. -/
def rejectPayout (actor : AuthenticatedUser) (input : ReviewPayoutInput) :
    Tx PayoutError PayoutRequest :=
  reviewTransition actor input .reject "payout.rejected"

/-- `mark_payout_processing`: the amount stays locked. -/
def markPayoutProcessing (actor : AuthenticatedUser) (input : ReviewPayoutInput) :
    Tx PayoutError PayoutRequest :=
  reviewTransition actor input .markProcessing "payout.processing_started"

/-- `complete_payout`: the locked amount is disbursed. -/
def completePayout (actor : AuthenticatedUser) (input : ReviewPayoutInput) :
    Tx PayoutError PayoutRequest :=
  reviewTransition actor input .complete "payout.completed"

/-- `fail_payout`: the locked amount is released. -/
def failPayout (actor : AuthenticatedUser) (input : ReviewPayoutInput) :
    Tx PayoutError PayoutRequest :=
  reviewTransition actor input .fail "payout.failed"

end EduStell
