/-
  `application::contributions`: recording an intent, and settling it (confirm, fail, reverse).

  The three settlements are one function with the transition as a parameter, as in the source; the
  id of a new contribution is a parameter too.

  What is checked when: an intent is checked against the vault, and then looked up by its key; a
  settlement is checked against the row as it was read, and the transaction locks the row and
  reads it again.  Between the two reads another call may have settled it.
-/
import EduStell.Application.Errors

namespace EduStell

open Txn Program Contributions Persistence

/-- `From<ContributionRuleViolation>`: the conversion decides which violation is which answer. -/
instance : IntoServiceError ContributionRuleViolation where
  into value := match value with
    | .unauthorizedContributor => .forbidden
    | .unauthorizedSettlementActor => .forbidden
    | .invalidStatusTransition _ _ => .conflict value.toString
    | .amountMustBePositive => .validation value.toString
    | .currencyMismatch => .validation value.toString

/-! ## Recording an intent

  Role, amount, vault, access and currency are checked in the order of the source.  The key is
  looked up after them, in a read of its own, so two requests with one key may both find it free. -/

/-- `RecordContributionIntentInput`; the idempotency key is the client's choice. -/
structure RecordContributionIntentInput where
  vaultId : Uuid
  amountMinor : Int64
  currency : Currency
  sourceType : ContributionSourceType
  externalReference : Option String
  idempotencyKey : String
  deriving DecidableEq

/-- `SettlementInput`: the reference of the payment may come with the settlement. -/
structure SettlementInput where
  contributionId : Uuid
  externalReference : Option String

/-- `ensure_same_intent`: a key stands for one intent.  External references are not compared. -/
def ensureSameIntent (existing : Contribution) (actorUserId : Uuid)
    (input : RecordContributionIntentInput) : Except ContributionError Unit :=
  if existing.vaultId ≠ input.vaultId ∨ existing.contributorUserId ≠ actorUserId ∨
      existing.amount.amountMinor ≠ input.amountMinor ∨ existing.amount.currency ≠ input.currency ∨
      existing.sourceType ≠ input.sourceType then
    .error (.conflict "idempotency key already used for a different contribution intent")
  else .ok ()

/-- `find_by_idempotency_key`. -/
def contributionByIdempotencyKey (s : Db) (key : String) : Option Contribution :=
  s.contributions.rows.find? fun c => c.idempotencyKey = some key

/-- `record_contribution_intent`: every check is made before the key is looked up, so a repeat is
    refused too once a check fails.

    In the order of the source: the role, the amount, the vault, the right to it, the currency; then
    the key.  A contribution under the key is the answer if it is the same intent, and a conflict if
    it is not; otherwise the row is built and handed to the repository with its audit row. -/
def recordContributionIntent (newId : Uuid) (actor : AuthenticatedUser)
    (input : RecordContributionIntentInput) : Tx ContributionError Contribution := do
  failIf (¬(actor.role = .parent ∨ actor.role = .contributor)) .forbidden
  check (validateContributionAmount input.amountMinor)
  let vault ← okOr (← select fun s => s.vaults.find input.vaultId) .notFound
  let isExplicitContributor ← select fun s => s.vaultContributors.any fun item =>
    item.vaultId = input.vaultId && item.contributorUserId = actor.userId
  check (canViewOrFundVault actor.role actor.userId vault.ownerUserId isExplicitContributor)
  check (validateContributionCurrency input.currency.asStr vault.currency)
  -- no lock: two calls with one key may both find it free here
  match ← select fun s => contributionByIdempotencyKey s input.idempotencyKey with
  | some existing =>
    ofExcept (ensureSameIntent existing actor.userId input)
    return existing
  | none =>
    let amount ← ofExcept ((Money.new input.amountMinor input.currency).mapError .validation)
    let contribution : Contribution := {
      id := newId
      vaultId := input.vaultId
      contributorUserId := actor.userId
      amount := amount
      status := .pending
      sourceType := input.sourceType
      externalReference := input.externalReference
      idempotencyKey := some input.idempotencyKey }
    let audit := { (AuditEvent.contributionRecorded actor.userId contribution).intoLog with
      metadata := .object [
        ("vault_id", .ofUuid contribution.vaultId),
        ("contributor_user_id", .ofUuid contribution.contributorUserId),
        ("amount_minor", .ofInt64 contribution.amount.amountMinor),
        ("currency", .string contribution.amount.currency.asStr),
        ("source_type", .string (asStr contribution.sourceType)),
        ("status", .string (asStr contribution.status)),
        ("idempotency_key", .string input.idempotencyKey)] }
    workflow (createIntentWithAudit contribution audit)

/-! ## Settling

  A contribution that is in the target status already is answered without a transaction.
  Everything else goes through `settle_with_audit`, which computes the new total under the lock of
  the vault. -/

/-- The action that the audit row of a settlement is given. -/
def ContributionTransition.auditAction : ContributionTransition → String
  | confirm => "contribution.confirmed"
  | fail => "contribution.failed"
  | reverse => "contribution.reversed"

/-- The audit row of a settlement: the event of a change of status under an action of its own. -/
def settlementAudit (actorUserId : Uuid) (current : Contribution)
    (targetStatus : ContributionStatus) (externalReferencePresent : Bool) (auditAction : String) :
    AuditLog :=
  { (AuditEvent.contributionStatusChanged actorUserId current (asStr targetStatus)
      externalReferencePresent).intoLog with action := auditAction }

/-- `settle_contribution`: a contribution that has the target status already is answered as it is,
    with no transaction and no audit row.

    In the order of the source: the role, the row, the transition by its status; then either the row
    as it is, or the transaction.  The transaction is handed the id and the target, and not the row
    that was checked. -/
def settleContribution (actor : AuthenticatedUser) (input : SettlementInput)
    (transition : ContributionTransition) (auditAction : String) :
    Tx ContributionError Contribution := do
  check (canSettleContribution actor.role)
  let current ← okOr (← select fun s => s.contributions.find input.contributionId) .notFound
  let targetStatus ← check (validateTransition current.status transition)
  -- a repeat, as far as this read can tell
  if current.status = targetStatus then return current
  let audit := settlementAudit actor.userId current targetStatus input.externalReference.isSome
    auditAction
  -- the transaction reads the row again, and does not ask for the transition again
  let result ← workflow
    (settleWithAudit current.id (asStr targetStatus) actor.userId input.externalReference audit)
  return result.contribution

/-- `confirm_contribution`: the money comes into the vault. -/
def confirmContribution (actor : AuthenticatedUser) (input : SettlementInput) :
    Tx ContributionError Contribution :=
  settleContribution actor input .confirm "contribution.confirmed"

/-- `fail_contribution`: it never comes. -/
def failContribution (actor : AuthenticatedUser) (input : SettlementInput) :
    Tx ContributionError Contribution :=
  settleContribution actor input .fail "contribution.failed"

/-- `reverse_contribution`: it is taken out again. -/
def reverseContribution (actor : AuthenticatedUser) (input : SettlementInput) :
    Tx ContributionError Contribution :=
  settleContribution actor input .reverse "contribution.reversed"

end EduStell
