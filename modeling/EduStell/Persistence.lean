/-
  The workflow repositories of `infrastructure::persistence::repos`: one database transaction each.

  What PostgreSQL adds to the code is spelled out where it happens:

  1. an INSERT checks the CHECK constraints of its table, then locks and checks the entries of its
     unique indexes, in the order of the indexes; code 23505 becomes `Conflict`, every other
     database error `Repository` (`map_err`);
  2. an UPDATE locks the row it finds and sets columns of its latest committed version; where the
     source asks for exactly one row (`fetch_one`), finding none is an error;
  3. `RETURNING` reads the written row back: the currency column is text and is parsed again, so
     a currency that is no currency fails the statement;
  4. an early return drops the transaction, which rolls it back.

  Amounts are added and subtracted as `i64` of a release build: they wrap.

  The functions keep the order of the source: the locks first, as it takes them, then the checks
  that it makes under the locks, then the writes, the audit row, and the COMMIT.  Where a check is
  missing under the lock that was made before it, this is how the source is.
-/
import EduStell.Database
import EduStell.Domain.Payouts
import EduStell.Domain.Scholarships
import EduStell.Txn.Outcomes

namespace EduStell

open Txn Program

/-- `application::repos::PersistenceError` -/
inductive PersistenceError
  | notFound
  | conflict (message : String)
  | validation (message : String)
  | repository (message : String)
  deriving DecidableEq, Repr

namespace PersistenceError

/-- `sqlx::Error::RowNotFound` -/
def rowNotFound : PersistenceError :=
  repository "no rows returned by a query that expected to return at least one row"

/-- Code 23514. -/
def checkViolation (table constraint : String) : PersistenceError :=
  repository ("error returned from database: new row for relation \"" ++ table
    ++ "\" violates check constraint \"" ++ constraint ++ "\"")

/-- Code 23505. -/
def uniqueViolation (constraint : String) : PersistenceError :=
  conflict ("duplicate key value violates unique constraint \"" ++ constraint ++ "\"")

end PersistenceError

namespace Persistence

/-- `parse_money`: a currency or an amount that cannot be read is an error of the repository. -/
def parseMoney (amountMinor : Int64) (currency : String) : Except PersistenceError Money := do
  let currency ← (Currency.parse currency).mapError .repository
  (Money.new amountMinor currency).mapError .repository

/-- `parse_status`: a status that cannot be read is an error of the repository. -/
def parseStatus (α : Type) [StringEnum α] (value : String) : Except PersistenceError α :=
  (StringEnum.parse α value).mapError .repository

/-- A status that was written by the code can be read. -/
@[simp] theorem parseStatus_asStr {α : Type} [StringEnum α] (a : α) :
    parseStatus α (asStr a) = .ok a := by
  rw [parseStatus, StringEnum.parse_asStr]; rfl

/-- The money that a stored amount is read back as. -/
def storedMoney (money : Money) : Except PersistenceError Money :=
  parseMoney money.amountMinor money.currency.asStr

/-- Reading back changes neither the amount nor the text of the currency. -/
theorem storedMoney_ok {money m : Money} (h : storedMoney money = .ok m) :
    m.amountMinor = money.amountMinor ∧ m.currency.asStr = money.currency.asStr := by
  rw [storedMoney, parseMoney] at h
  cases hc : Currency.parse money.currency.asStr with
  | error e => rw [hc] at h; cases h
  | ok c =>
    rw [hc] at h
    have hnew : Money.new money.amountMinor c = .ok ⟨money.amountMinor, c, money.nonneg⟩ :=
      Money.new_of_nonneg money.nonneg c
    simp only [Except.mapError, Bind.bind, Except.bind, hnew] at h
    cases h
    exact ⟨rfl, Currency.asStr_of_parse hc⟩

/-- Money in a currency that was parsed is read back as it is. -/
theorem storedMoney_of_parsed {money : Money} {text : String}
    (h : Currency.parse text = .ok money.currency) : storedMoney money = .ok money := by
  have htext : money.currency.asStr = text := Currency.asStr_of_parse h
  have hnew : Money.new money.amountMinor money.currency = .ok money :=
    Money.new_of_nonneg money.nonneg money.currency
  rw [storedMoney, parseMoney, htext, h]
  exact congrArg (Except.mapError PersistenceError.repository) hnew

/-- Money whose currency was read from a column is stored and read back as it is. -/
theorem eq_of_storedMoney {money m : Money} {text : String}
    (h : Currency.parse text = .ok money.currency) (hm : storedMoney money = .ok m) : m = money := by
  rw [storedMoney_of_parsed h] at hm
  exact (Except.ok.inj hm).symm

/-- What is read back is what its text parses to. -/
theorem storedMoney_parsed {money m : Money} (h : storedMoney money = .ok m) :
    Currency.parse m.currency.asStr = .ok m.currency := by
  rw [(storedMoney_ok h).2]
  rw [storedMoney, parseMoney] at h
  cases hc : Currency.parse money.currency.asStr with
  | error e => rw [hc] at h; cases h
  | ok c =>
    rw [hc] at h
    have hnew : Money.new money.amountMinor c = .ok ⟨money.amountMinor, c, money.nonneg⟩ :=
      Money.new_of_nonneg money.nonneg c
    simp only [Except.mapError, Bind.bind, Except.bind, hnew] at h
    cases h
    rfl

/-! ## Shared statements

  Each is used by several repositories.  An UPDATE of totals takes absolute values, which the
  service or the transaction has computed; whether they are up to date is not its business. -/

/-- Lock the index entry of a new row and fail where it is taken. -/
def insertUnique (r : Resource) (taken : Content r → Bool) (constraint : String) :
    Tx PersistenceError Unit := do
  let entry ← forUpdate r
  failIf (taken entry) (.uniqueViolation constraint)

/-- The same for an index over `idempotency_key`, in which a NULL has no entry. -/
def insertUniqueKey (key : Option String) (entry : String → Resource)
    (taken : ∀ k, Content (entry k) → Bool) (constraint : String) : Tx PersistenceError Unit :=
  match key with
  | some k => insertUnique (entry k) (taken k) constraint
  | none => pure ()

/-- The audit row of a transaction, sanitized; it is committed or dropped with the rest. -/
def appendAuditLog (auditLog : AuditLog) : Tx PersistenceError Unit :=
  execute (.insertAuditLog (sanitizeAuditLog auditLog))

/-- `UPDATE savings_vaults SET total_contributed_minor`: an absolute value, which the CHECK refuses
    if it is negative. -/
def updateVaultTotals (vault : SavingsVault) (totalContributedMinor : Int64) :
    Tx PersistenceError SavingsVault :=
  if h : 0 ≤ totalContributedMinor then do
    execute (.setVaultTotals vault.id totalContributedMinor h)
    return vault.setTotals totalContributedMinor h
  else fail (.checkViolation "savings_vaults" "savings_vaults_total_contributed_minor_check")

/-- `UPDATE savings_vaults SET total_locked_minor, total_disbursed_minor`, with a CHECK for each. -/
def updateVaultLockedAndDisbursed (vault : SavingsVault)
    (totalLockedMinor totalDisbursedMinor : Int64) : Tx PersistenceError SavingsVault :=
  if hl : 0 ≤ totalLockedMinor then
    if hd : 0 ≤ totalDisbursedMinor then do
      execute (.setVaultLocked vault.id totalLockedMinor totalDisbursedMinor hl hd)
      return vault.setLockedAndDisbursed totalLockedMinor totalDisbursedMinor hl hd
    else fail (.checkViolation "savings_vaults" "savings_vaults_total_disbursed_minor_check")
  else fail (.checkViolation "savings_vaults" "savings_vaults_total_locked_minor_check")

/-- One UPDATE in a transaction of its own: its WHERE clause is evaluated on the snapshot of the
    statement, and again on the row once it is locked.

    The version that is expected comes with the request; the caller has read it with the row.  The
    two reads of the row here are the two times at which PostgreSQL looks at it: without a lock it
    finds out which row to wait for, and with the lock whether the row still matches. -/
def updateBalances (id : Uuid) (totalContributedMinor totalLockedMinor expectedVersion : Int64) :
    Tx PersistenceError Unit := do
  beginTx
  let snapshot ← okOr (← select fun s => s.vaults.find id) (.conflict "vault version mismatch")
  failIf (snapshot.version ≠ expectedVersion.toInt) (.conflict "vault version mismatch")
  -- the UPDATE has waited for the row: READ COMMITTED evaluates the WHERE clause again
  let vault ← okOr (← forUpdate (.vault id)) (.conflict "vault version mismatch")
  failIf (vault.version ≠ expectedVersion.toInt) (.conflict "vault version mismatch")
  if hc : 0 ≤ totalContributedMinor then
    if hl : 0 ≤ totalLockedMinor then do
      execute (.setVaultBalances vault.id totalContributedMinor totalLockedMinor hc hl)
      commitTx
      return ()
    else fail (.checkViolation "savings_vaults" "savings_vaults_total_locked_minor_check")
  else fail (.checkViolation "savings_vaults" "savings_vaults_total_contributed_minor_check")

/-- The row that `insert_ledger_entry` binds: its balance is the vault's total after the update. -/
def ledgerEntry (vault : SavingsVault) (contribution : Contribution) (actorUserId : Uuid)
    (entryType : VaultLedgerEntryType) (externalReference : Option String) : VaultLedgerEntry where
  vaultId := vault.id
  contributionId := some contribution.id
  actorUserId := some actorUserId
  entryType := entryType
  amount := contribution.amount
  balanceAfterMinor := vault.totalContributedMinor
  externalReference := externalReference
  contributionStatus := contribution.status
  balance_nonneg := vault.contributed_nonneg

/-- `INSERT INTO vault_ledger_entries`, with the balance that the vault has after the change. -/
def insertLedgerEntry (vault : SavingsVault) (contribution : Contribution) (actorUserId : Uuid)
    (entryType : VaultLedgerEntryType) (externalReference : Option String) :
    Tx PersistenceError VaultLedgerEntry := do
  let entry := ledgerEntry vault contribution actorUserId entryType externalReference
  execute (.insertLedgerEntry entry)
  return entry

/-- The balance column of a pool is set to an absolute value. -/
def updatePoolFunds (pool : ScholarshipPool) (availableFundsMinor : Int64) :
    Tx PersistenceError ScholarshipPool :=
  if h : 0 ≤ availableFundsMinor then do
    execute (.setPoolFunds pool.id availableFundsMinor h)
    return pool.setFunds availableFundsMinor h
  else fail (.checkViolation "scholarship_pools" "scholarship_pools_available_funds_minor_check")

/-! ## Contributions

  The status is computed by the service, the balance by the transaction: `settleVault` reads the
  vault under its lock and adds to or subtracts from the total of that row. -/

/-- `create_intent_with_audit`: the row under a fresh id and a fresh key, and its audit row.

    Nothing is read that is not locked by an INSERT: the two index entries decide whether the row
    may come in, and the vault is not touched. -/
def createIntentWithAudit (contribution : Contribution) (auditLog : AuditLog) :
    Tx PersistenceError Contribution := do
  beginTx
  -- PostgreSQL checks a new row before it makes its index entries
  failIf (contribution.amount.amountMinor ≤ 0)
    (.checkViolation "contributions" "contributions_amount_minor_check")
  insertUnique (.contribution contribution.id) Option.isSome "contributions_pkey"
  insertUniqueKey contribution.idempotencyKey .contributionKey (fun _ taken => taken)
    "contributions_idempotency_key_key"
  let amount ← ofExcept (storedMoney contribution.amount)
  let contribution := { contribution with amount := amount }
  execute (.insertContribution contribution)
  appendAuditLog auditLog
  commitTx
  return contribution

/-- `ContributionSettlementResult`: no entry where no money has moved. -/
structure ContributionSettlementResult where
  contribution : Contribution
  ledgerEntry : Option VaultLedgerEntry
  vault : SavingsVault

/-- The `match` on the target status in `settle_with_audit`.

    A confirmation whose sum wraps to a negative number is stopped by the CHECK of the table; a
    reversal is stopped by the guard in front of it.  The entry is made from the vault as it is
    AFTER the update. -/
def settleVault (vault : SavingsVault) (contribution : Contribution) (actorUserId : Uuid) :
    ContributionStatus → Tx PersistenceError (SavingsVault × Option VaultLedgerEntry)
  | .confirmed => do
    let vault ← updateVaultTotals vault
      (vault.totalContributedMinor + contribution.amount.amountMinor)
    let entry ← insertLedgerEntry vault contribution actorUserId .contributionConfirmed
      contribution.externalReference
    return (vault, some entry)
  | .reversed => do
    failIf (vault.totalContributedMinor < contribution.amount.amountMinor)
      (.conflict "vault balance would become negative")
    let vault ← updateVaultTotals vault
      (vault.totalContributedMinor - contribution.amount.amountMinor)
    let entry ← insertLedgerEntry vault contribution actorUserId .contributionReversed
      contribution.externalReference
    return (vault, some entry)
  -- no money moves
  | .failed => return (vault, none)
  | .pending => return (vault, none)

/-- `settle_with_audit`: the status, the balance, the ledger entry and the audit row are one commit.
    The transition itself was checked by the service, against a row that was read before.

    The locks are those of the contribution and of its vault, in this order on both branches.  What
    is read under them is the status, for the one question whether it is the target already, and the
    total. -/
def settleWithAudit (contributionId : Uuid) (status : String) (actorUserId : Uuid)
    (externalReference : Option String) (auditLog : AuditLog) :
    Tx PersistenceError ContributionSettlementResult := do
  beginTx
  let row ← forUpdate (.contribution contributionId)
  let contribution ← okOr row .notFound
  let targetStatus ← ofExcept (parseStatus ContributionStatus status)
  -- another call has taken the transition in the meantime: nothing is written
  if contribution.status = targetStatus then
    let vault ← okOr (← forUpdate (.vault contribution.vaultId)) .notFound
    rollbackTx
    return ⟨contribution, none, vault⟩
  let vault ← okOr (← forUpdate (.vault contribution.vaultId)) .notFound
  -- the status that is overwritten is whatever the locked row has
  execute (.settleContribution contribution.id targetStatus externalReference)
  let contribution := contribution.settle targetStatus externalReference
  let (vault, ledgerEntry) ← settleVault vault contribution actorUserId targetStatus
  appendAuditLog auditLog
  commitTx
  return ⟨contribution, ledgerEntry, vault⟩

/-! ## Schools

  One UPDATE and one audit row.  Nothing is compared with the status that the school had. -/

/-- `verify_with_audit`; a school that has the status already is written again. -/
def verifyWithAudit (schoolId : Uuid) (verificationStatus : String) (verifiedBy : Uuid)
    (auditLog : AuditLog) : Tx PersistenceError School := do
  beginTx
  let school ← okOr (← forUpdate (.school schoolId)) .rowNotFound
  let status ← ofExcept (parseStatus SchoolVerificationStatus verificationStatus)
  execute (.verifySchool school.id status verifiedBy)
  appendAuditLog auditLog
  commitTx
  return school.verify status verifiedBy

/-! ## Payouts

  As for contributions, the balances are computed from the locked vault.  The TARGET status is an
  argument, and the row that is locked is not asked whether it may go there. -/

/-- `create_request_with_audit`: the row under a fresh id and a fresh key, and its audit row. -/
def createRequestWithAudit (payout : PayoutRequest) (auditLog : AuditLog) :
    Tx PersistenceError PayoutRequest := do
  beginTx
  failIf (payout.amount.amountMinor ≤ 0)
    (.checkViolation "payout_requests" "payout_requests_amount_minor_check")
  insertUnique (.payout payout.id) Option.isSome "payout_requests_pkey"
  insertUniqueKey payout.idempotencyKey .payoutKey (fun _ taken => taken)
    "idx_payout_requests_idempotency_key"
  let amount ← ofExcept (storedMoney payout.amount)
  let payout := { payout with amount := amount }
  execute (.insertPayout payout)
  appendAuditLog auditLog
  commitTx
  return payout

/-- `PayoutTransitionResult`: payout and vault as the transaction leaves them. -/
structure PayoutTransitionResult where
  payout : PayoutRequest
  vault : SavingsVault

/-- The `match` on the target status in `transition_with_audit`.

    An approval adds to the lock without asking what is available.  A completion moves the amount
    from locked to disbursed, under a guard; a failure takes it from the lock only if it is there.
    -/
def transitionVault (vault : SavingsVault) (payout : PayoutRequest) :
    PayoutStatus → Tx PersistenceError SavingsVault
  | .approved =>
    updateVaultLockedAndDisbursed vault (vault.totalLockedMinor + payout.amount.amountMinor)
      vault.totalDisbursedMinor
  | .completed => do
    failIf (vault.totalLockedMinor < payout.amount.amountMinor)
      (.conflict "vault locked balance underflow")
    updateVaultLockedAndDisbursed vault (vault.totalLockedMinor - payout.amount.amountMinor)
      (vault.totalDisbursedMinor + payout.amount.amountMinor)
  | .failed =>
    -- a lock smaller than the amount is not released
    if vault.totalLockedMinor ≥ payout.amount.amountMinor then
      updateVaultLockedAndDisbursed vault (vault.totalLockedMinor - payout.amount.amountMinor)
        vault.totalDisbursedMinor
    else return vault
  | .rejected => return vault
  | .pending => return vault
  | .underReview => return vault
  | .processing => return vault

/-- `transition_with_audit`: the status, the balances and the audit row are one commit.  The
    transition itself was checked by the service, against a row that was read before.

    As in a settlement, two locks in a fixed order, and one question about the status.  The
    reviewer, the notes and the reference go into the row along with the status. -/
def transitionWithAudit (payoutId : Uuid) (status : String) (actorUserId : Uuid)
    (reviewNotes externalPayoutReference : Option String) (auditLog : AuditLog) :
    Tx PersistenceError PayoutTransitionResult := do
  beginTx
  let payout ← okOr (← forUpdate (.payout payoutId)) .notFound
  let targetStatus ← ofExcept (parseStatus PayoutStatus status)
  -- another call has taken the transition in the meantime: nothing is written
  if payout.status = targetStatus then
    let vault ← okOr (← forUpdate (.vault payout.vaultId)) .notFound
    rollbackTx
    return ⟨payout, vault⟩
  let vault ← okOr (← forUpdate (.vault payout.vaultId)) .notFound
  -- the status that is overwritten is whatever the locked row has
  execute (.reviewPayout payout.id targetStatus reviewNotes externalPayoutReference actorUserId)
  let payout := payout.review targetStatus reviewNotes externalPayoutReference actorUserId
  let vault ← transitionVault vault payout targetStatus
  appendAuditLog auditLog
  commitTx
  return ⟨payout, vault⟩

/-! ## Scholarships

  The pool is different.  Funding adds to the balance of the locked row, but a decision and an
  award transition write the balance that the service has computed from an earlier read. -/

/-- `create_pool_with_audit`: the row and its audit row. -/
def createPoolWithAudit (pool : ScholarshipPool) (auditLog : AuditLog) :
    Tx PersistenceError ScholarshipPool := do
  beginTx
  insertUnique (.pool pool.id) Option.isSome "scholarship_pools_pkey"
  let availableFunds ← ofExcept (storedMoney pool.availableFunds)
  let pool := { pool with availableFunds := availableFunds }
  execute (.insertPool pool)
  appendAuditLog auditLog
  commitTx
  return pool

/-- `fund_pool_with_audit`: the new balance is computed from the locked row, so no contribution is
    lost.

    The balance is written before the row of the donation is checked and inserted, so a donation
    whose key is taken has already changed the balance in its transaction; the error drops the
    transaction. -/
def fundPoolWithAudit (contribution : DonorContribution) (auditLog : AuditLog) :
    Tx PersistenceError (ScholarshipPool × DonorContribution) := do
  beginTx
  let pool ← okOr (← forUpdate (.pool contribution.poolId)) .notFound
  let updatedPool ← updatePoolFunds pool
    (pool.availableFunds.amountMinor + contribution.amount.amountMinor)
  -- from here on an error drops the new balance with the rest
  failIf (contribution.amount.amountMinor ≤ 0)
    (.checkViolation "donor_contributions" "donor_contributions_amount_minor_check")
  insertUnique (.donorContribution contribution.id) Option.isSome "donor_contributions_pkey"
  insertUniqueKey contribution.idempotencyKey .donorContributionKey (fun _ taken => taken)
    "donor_contributions_idempotency_key_key"
  let amount ← ofExcept (storedMoney contribution.amount)
  let contribution := { contribution with amount := amount }
  execute (.insertDonorContribution contribution)
  appendAuditLog auditLog
  commitTx
  return (updatedPool, contribution)

/-- `create_application_with_audit`: the row and its audit row; nothing keeps a child from applying
    twice. -/
def createApplicationWithAudit (application : ScholarshipApplication) (auditLog : AuditLog) :
    Tx PersistenceError ScholarshipApplication := do
  beginTx
  insertUnique (.application application.id) Option.isSome "scholarship_applications_pkey"
  execute (.insertApplication application)
  appendAuditLog auditLog
  commitTx
  return application

/-- `ScholarshipReviewDecisionResult`: the three rows as the transaction leaves them. -/
structure ScholarshipReviewDecisionResult where
  application : ScholarshipApplication
  award : ScholarshipAward
  pool : ScholarshipPool

/-- `decide_application_with_audit`: neither the status of the application nor the balance of the
    pool is looked at again, and the balance is set to the value that the service has computed.

    Application, pool and award are locked in this order.  The award is inserted for a rejection as
    well; its application may already have one, since no index forbids it. -/
def decideApplicationWithAudit (applicationId : Uuid) (applicationStatus : String)
    (award : ScholarshipAward) (poolAvailableFundsMinor : Int64) (auditLog : AuditLog) :
    Tx PersistenceError ScholarshipReviewDecisionResult := do
  beginTx
  let application ← okOr (← forUpdate (.application applicationId)) .rowNotFound
  let status ← ofExcept (parseStatus ScholarshipApplicationStatus applicationStatus)
  -- the application may have been decided since the service has read it
  execute (.setApplicationStatus application.id status)
  let application := application.setStatus status
  let pool ← okOr (← forUpdate (.pool application.poolId)) .rowNotFound
  -- the balance of the row that is locked here is not looked at
  let pool ← updatePoolFunds pool poolAvailableFundsMinor
  insertUnique (.award award.id) Option.isSome "scholarship_awards_pkey"
  let amount ← ofExcept (storedMoney award.amount)
  let award := { award with amount := amount }
  execute (.insertAward award)
  appendAuditLog auditLog
  commitTx
  return ⟨application, award, pool⟩

/-- `transition_award_with_audit`: the balance is again the value that the service has computed.

    The award and the pool are locked.  Which pool it is depends on the application, which is read
    in between; no request changes the pool of an application. -/
def transitionAwardWithAudit (awardId : Uuid) (status : String)
    (linkedPayoutRequestId linkedVaultId : Option Uuid) (poolAvailableFundsMinor : Int64)
    (auditLog : AuditLog) : Tx PersistenceError ScholarshipReviewDecisionResult := do
  beginTx
  let award ← okOr (← forUpdate (.award awardId)) .rowNotFound
  let status ← ofExcept (parseStatus ScholarshipAwardStatus status)
  execute (.transitionAward award.id status linkedPayoutRequestId linkedVaultId)
  let award := award.transition status linkedPayoutRequestId linkedVaultId
  -- the application row is read without a lock
  let application ← okOr (← select fun s => s.applications.find award.applicationId) .rowNotFound
  let pool ← okOr (← forUpdate (.pool application.poolId)) .rowNotFound
  -- as in a decision, the balance of the locked row is not looked at
  let pool ← updatePoolFunds pool poolAvailableFundsMinor
  appendAuditLog auditLog
  commitTx
  return ⟨application, award, pool⟩

/-! ## How the shared statements go on

  The rules of `Ends` for these statements, so that the proofs about the repositories walk through
  them without opening them: each names its errors in the order of the checks. -/

section

variable {β : Type} {E : Session Db Resource Write → Db → β → Prop}
  {N : Session Db Resource Write → Db → Except PersistenceError β → Prop}
  {l : Session Db Resource Write} {s : Db}

/-- An insert that found its primary key free. -/
theorem eq_none_of_free {α : Type} {o : Option α} (h : o.isSome = false) : o = none :=
  Option.isNone_iff_eq_none.mp (Option.isSome_eq_false_iff.mp h)

/-- An insert under a unique entry: it is refused, or the entry is locked and free. -/
theorem ends_insertUnique {r : Resource} {taken : Content r → Bool} {constraint : String}
    {k : Unit → Tx PersistenceError β}
    (htaken : taken (Store.get (l.view s) r) = true →
      N (l.lock r) s (.error (.uniqueViolation constraint)))
    (hfree : taken (Store.get (l.view s) r) = false → Ends (k ()) E N (l.lock r) s) :
    Ends (insertUnique r taken constraint >>= k) E N l s := by
  rw [insertUnique, bind_assoc]
  refine Ends.forUpdate (Ends.failIf htaken fun h => hfree ?_)
  simpa using h

/-- The same for an entry that may be absent: a NULL violates no unique index. -/
theorem ends_insertUniqueKey {key : Option String} {entry : String → Resource}
    {taken : ∀ k, Content (entry k) → Bool} {constraint : String}
    {k : Unit → Tx PersistenceError β}
    (htaken : ∀ x, key = some x → taken x (Store.get (l.view s) (entry x)) = true →
      N (l.lock (entry x)) s (.error (.uniqueViolation constraint)))
    (hfree : ∀ x, key = some x → taken x (Store.get (l.view s) (entry x)) = false →
      Ends (k ()) E N (l.lock (entry x)) s)
    (hnull : key = none → Ends (k ()) E N l s) :
    Ends (insertUniqueKey key entry taken constraint >>= k) E N l s := by
  cases key with
  | none => exact hnull rfl
  | some x => exact ends_insertUnique (htaken x rfl) (hfree x rfl)

/-- A new total is refused by its CHECK, or it is written to the vault that is locked. -/
theorem ends_updateVaultTotals {vault : SavingsVault} {total : Int64}
    {k : SavingsVault → Tx PersistenceError β} (hlock : .vault vault.id ∈ l.locks)
    (herr : ¬ 0 ≤ total → N l s (.error
      (.checkViolation "savings_vaults" "savings_vaults_total_contributed_minor_check")))
    (hok : ∀ h, Ends (k (vault.setTotals total h)) E N
      (l.write (.setVaultTotals vault.id total h)) s) :
    Ends (updateVaultTotals vault total >>= k) E N l s := by
  rw [updateVaultTotals]
  split
  · rename_i h
    rw [bind_assoc]
    refine Ends.execute ?_ (hok h)
    intro r hr
    have hvault : r = .vault vault.id := hr
    rw [hvault]; exact hlock
  · exact Ends.fail (herr ‹_›)

/-- Two new totals: either CHECK may refuse, the first one first. -/
theorem ends_updateVaultLockedAndDisbursed {vault : SavingsVault} {locked disbursed : Int64}
    {k : SavingsVault → Tx PersistenceError β} (hlock : .vault vault.id ∈ l.locks)
    (hlocked : ¬ 0 ≤ locked → N l s (.error
      (.checkViolation "savings_vaults" "savings_vaults_total_locked_minor_check")))
    (hdisbursed : 0 ≤ locked → ¬ 0 ≤ disbursed → N l s (.error
      (.checkViolation "savings_vaults" "savings_vaults_total_disbursed_minor_check")))
    (hok : ∀ hl hd, Ends (k (vault.setLockedAndDisbursed locked disbursed hl hd)) E N
      (l.write (.setVaultLocked vault.id locked disbursed hl hd)) s) :
    Ends (updateVaultLockedAndDisbursed vault locked disbursed >>= k) E N l s := by
  rw [updateVaultLockedAndDisbursed]
  split
  · rename_i hl
    split
    · rename_i hd
      rw [bind_assoc]
      refine Ends.execute ?_ (hok hl hd)
      intro r hr
      have hvault : r = .vault vault.id := hr
      rw [hvault]; exact hlock
    · exact Ends.fail (hdisbursed hl ‹_›)
  · exact Ends.fail (hlocked ‹_›)

/-- A new balance is refused by its CHECK, or it is written to the pool that is locked. -/
theorem ends_updatePoolFunds {pool : ScholarshipPool} {funds : Int64}
    {k : ScholarshipPool → Tx PersistenceError β} (hlock : .pool pool.id ∈ l.locks)
    (herr : ¬ 0 ≤ funds → N l s (.error
      (.checkViolation "scholarship_pools" "scholarship_pools_available_funds_minor_check")))
    (hok : ∀ h, Ends (k (pool.setFunds funds h)) E N (l.write (.setPoolFunds pool.id funds h)) s) :
    Ends (updatePoolFunds pool funds >>= k) E N l s := by
  rw [updatePoolFunds]
  split
  · rename_i h
    rw [bind_assoc]
    refine Ends.execute ?_ (hok h)
    intro r hr
    have hpool : r = .pool pool.id := hr
    rw [hpool]; exact hlock
  · exact Ends.fail (herr ‹_›)

end

end Persistence
end EduStell
