/-
  `application::blockchain` over its repositories: handing a contribution to the chain, and bringing
  it in line with what the chain says of it later.

  The facade opens no transaction of its own.  A repository call is a transaction of one statement, a
  settlement is the transaction of the contribution service, and whoever dies between two of them
  leaves the first behind.  The two sides of the database are put side by side (`World`): what the
  services work on, and what the facade adds.

  A panic ends a request as an error does, and is told apart from one in `Failure`.

  Two answers of the facade are worth a second look.  A call whose key has a record is answered
  from that record, without a look at the contribution that the record is of.  And the submitter
  is called before the record is written, so the unique index of the records comes too late to
  stop a call.
-/
import EduStell.Chain.Store
import EduStell.Requests
import EduStell.Txn.Product

namespace EduStell.Chain

open Txn Program

/-! ## Repositories

  The statements of the three repositories.  The lookups are plain SELECTs, and the only locks are
  those of the INSERTs and of the UPDATE itself. -/

/-- A transaction of the facade's own tables. -/
abbrev ChainTx (ε α : Type) : Type := Program ChainDb Content Write ε α

/-- A row of a unique index: its lock, and the error of PostgreSQL when the entry is taken. -/
def insertUnique (r : Resource) (taken : Content r → Bool) (constraint : String) :
    ChainTx PersistenceError Unit := do
  let entry ← forUpdate r
  failIf (taken entry) (.uniqueViolation constraint)

/-- INSERT of a reference; its id and its entry have to be new. -/
def createExternalReference (reference : ExternalReference) :
    ChainTx PersistenceError ExternalReference := do
  beginTx
  insertUnique (.externalReference reference.id) Option.isSome "external_references_pkey"
  insertUnique
    (.externalReferenceEntry reference.entityType reference.entityId reference.referenceKind)
    (fun taken => taken) "external_references_entity_type_entity_id_reference_kind_key"
  execute (.insertExternalReference reference)
  commitTx
  return reference

/-- The name of the last index is cut to what PostgreSQL keeps of a name. -/
def createTransactionRecord (record : BlockchainTransactionRecord) :
    ChainTx PersistenceError BlockchainTransactionRecord := do
  let row := { record with nextRetryAt := record.nextRetryAt.map DateTime.toTimestamptz }
  beginTx
  insertUnique (.transactionRecord row.id) Option.isSome "blockchain_transaction_records_pkey"
  insertUnique (.transactionRecordKey row.idempotencyKey) (fun taken => taken)
    "blockchain_transaction_records_idempotency_key_key"
  insertUnique (.transactionRecordEntry row.entityType row.entityId row.operationKind)
    (fun taken => taken) "blockchain_transaction_record_entity_type_entity_id_operati_key"
  execute (.insertTransactionRecord row)
  commitTx
  return row

/-- UPDATE of a record; it fails if the row is not there. -/
def updateTransactionRecord (record : BlockchainTransactionRecord) :
    ChainTx PersistenceError BlockchainTransactionRecord := do
  beginTx
  let row ← okOr (← forUpdate (.transactionRecord record.id)) .rowNotFound
  execute (.updateTransactionRecord record)
  commitTx
  return row.set record

/-- Plain SELECT of the record with a key. -/
def transactionRecordByIdempotencyKey (idempotencyKey : String) (s : ChainDb) :
    Option BlockchainTransactionRecord :=
  s.transactionRecords.rows.find? fun r => r.idempotencyKey = idempotencyKey

/-- Plain SELECT of the record about an entity. -/
def transactionRecordByEntity (entityType : ExternalReferenceEntityType) (entityId : Uuid)
    (operationKind : String) (s : ChainDb) : Option BlockchainTransactionRecord :=
  s.transactionRecords.rows.find? fun r => r.IsFor entityType entityId operationKind

/-- Plain SELECT of the reference of a kind to an entity. -/
def findOneReference (entityType : ExternalReferenceEntityType) (entityId : Uuid)
    (referenceKind : ExternalReferenceKind) (s : ChainDb) : Option ExternalReference :=
  s.externalReferences.rows.find? fun r =>
    r.entityType = entityType ∧ r.entityId = entityId ∧ r.referenceKind = referenceKind

/-! ## Errors

  Each layer has its error type, and the facade wraps the other two.  A panic is not an error of
  the facade, so it is told apart. -/

/-- The errors of the facade. -/
inductive BlockchainFacadeError
  | validation (message : String)
  | forbidden
  | notFound
  | conflict (message : String)
  | unavailable (message : String)
  | rejected (message : String)
  | repository (message : String)
  deriving DecidableEq, Repr

namespace BlockchainFacadeError

/-- `From<PersistenceError>` -/
def ofPersistence : PersistenceError → BlockchainFacadeError
  | .notFound => notFound
  | .conflict message => conflict message
  | .validation message => validation message
  | .repository message => repository message

/-- `From<BlockchainError>` -/
def ofBlockchain (value : BlockchainError) : BlockchainFacadeError :=
  match value.code with
  | .validation => validation value.message
  | .unauthorized => forbidden
  | .notFound => notFound
  | .conflict => conflict value.message
  | .submissionRejected | .insufficientFunds | .signatureRequired => rejected value.message
  | .timeout | .rateLimited | .unavailable | .internal => unavailable value.message

/-- `From<ContributionError>` -/
def ofContribution : ContributionError → BlockchainFacadeError
  | .validation message => validation message
  | .forbidden => forbidden
  | .notFound => notFound
  | .conflict message => conflict message
  | .repository message => repository message

end BlockchainFacadeError

/-- How a request ends that does not answer. -/
inductive Failure
  | facade (e : BlockchainFacadeError)
  | service (e : ServiceError)
  | panicked
  deriving DecidableEq, Repr

/-! ## The facade among the services

  A program of one side of the database is lifted to both by `inl` or `inr`; between two calls
  nothing is locked. -/

/-- The tables of the workflows and those of the facade. -/
abbrev World : Type := Db × ChainDb

/-- A request that may work on both. -/
abbrev Facade (α : Type) : Type :=
  Program World (Sum.elim EduStell.Content Content) (EduStell.Write ⊕ Write) Failure α

section

variable {α : Type}

/-- A repository call of the facade. -/
def repository (p : ChainTx PersistenceError α) : Facade α :=
  call (p.inr.mapError fun e => .facade (.ofPersistence e))

/-- A call of the contribution service. -/
def contributionService (p : Tx ContributionError α) : Facade α :=
  call (p.inl.mapError fun e => .facade (.ofContribution e))

/-- What a client of the chain answers. -/
def ofClient (r : Except BlockchainError α) : Facade α :=
  ofExcept (r.mapError fun e => .facade (.ofBlockchain e))

end

/-! ## `blockchain_reference_attached`

  The preview of the value is made while the event is built, that is before the row of the event
  is written and after that of the reference. -/

/-- `&value[..n]`, where `n` is the start of a character or the end. -/
def takeBytes : Nat → List Char → Option (List Char)
  | 0, _ => some []
  | _ + 1, [] => none
  | n + 1, c :: cs => if c.utf8Size ≤ n + 1 then (c :: ·) <$> takeBytes (n + 1 - c.utf8Size) cs else none

/-- `&value[n..]`, where `n` is the start of a character or the end. -/
def dropBytes : Nat → List Char → Option (List Char)
  | 0, cs => some cs
  | _ + 1, [] => none
  | n + 1, c :: cs => if c.utf8Size ≤ n + 1 then dropBytes (n + 1 - c.utf8Size) cs else none

/-- `none` is the panic of a slice that starts or ends inside a character. -/
def previewValue (value : String) : Option String :=
  if value.utf8ByteSize ≤ 12 then some value
  else do
    let head ← takeBytes 6 value.toList
    let tail ← dropBytes (value.utf8ByteSize - 4) value.toList
    return String.ofList head ++ "..." ++ String.ofList tail

/-- `AuditEvent::blockchain_reference_attached`, as `into_log` gives it on. -/
def blockchainReferenceAttached (actorUserId : Option Uuid) (reference : ExternalReference) :
    Option AuditLog := do
  let preview ← previewValue reference.value
  return {
    actorUserId := actorUserId
    entityType := "external_reference"
    entityId := some reference.id
    action := "blockchain.reference_attached"
    metadata := .object [
      ("entity_type", .string reference.entityType.asStr),
      ("entity_id", .ofUuid reference.entityId),
      ("reference_kind", .string reference.referenceKind.asStr),
      ("reference_preview", .string preview)] }

/-- `AuditService::record`: no constraint of `audit_logs` is modelled, so the insert cannot fail. -/
def recordAudit (auditLog : AuditLog) : Facade Unit := do
  beginTx
  execute (.inl (.insertAuditLog (sanitizeAuditLog auditLog)))
  commitTx

/-! ## Submitting a contribution

  The steps, in the order of the source:

  1. the contribution, its vault and the contract of the vault are looked up;
  2. a record under the idempotency key, if there is one, is the answer;
  3. otherwise the transaction is prepared and handed to the submitter;
  4. its record is written, then the reference to its hash, then the event. -/

/-- What a contribution is submitted with. -/
structure SubmitContributionOnchainInput where
  contributionId : Uuid
  idempotencyKey : String
  signingBoundary : SigningBoundary

/-- The ids that a submission draws. -/
structure SubmitDraw where
  contractReferenceId : Uuid
  recordId : Uuid
  hashReferenceId : Uuid

/-- What a submission is answered with; without a `submittedTransaction` it has answered from its
    record. -/
structure ContributionOnchainSubmission where
  contribution : Contribution
  processingRecord : BlockchainTransactionRecord
  preparedTransaction : PreparedTransaction
  submittedTransaction : Option SubmittedTransaction

/-- The `operation_kind` of a record that is about funding a vault. -/
def vaultContribution : String := "vault_contribution"

/-- The reference to the contract of a vault; the column of the vault stands in where there is none.
    -/
def findContractReference (newId : Uuid) (vault : SavingsVault) (s : ChainDb) :
    Option ExternalReference :=
  match findOneReference .savingsVault vault.id .sorobanContractId s with
  | some reference => some reference
  | none => vault.externalContractRef.map fun existing => {
      id := newId
      entityType := .savingsVault
      entityId := vault.id
      referenceKind := .sorobanContractId
      value := existing
      metadata := .object [("source", .string "legacy_vault_column")] }

/-- The call of the vault contract that funds it. -/
def buildPreparedTransaction (provider : Provider) (contribution : Contribution)
    (contractReference : ExternalReference) (signingBoundary : SigningBoundary)
    (operationId : String) : Except BlockchainError PreparedTransaction :=
  provider.prepareVaultCall {
    operationId := operationId
    contractId := contractReference.value
    method := "fund_vault"
    args := [
      .text contribution.vaultId.hyphenated,
      .integer contribution.amount.amountMinor,
      .text contribution.amount.currency.asStr]
    amount := some contribution.amount
    signingBoundary := signingBoundary }

/-- The call counts from the moment it is made, whatever the submitter answers. -/
def submitTransaction (provider : Provider) (contributionId : Uuid)
    (request : TransactionSubmissionRequest) : Facade SubmittedTransaction := do
  execute (.inr (.submitTransaction ⟨contributionId, request⟩))
  commitTx
  ofClient (provider.submitTransaction request)

/-- Three calls after each other: the reference, its preview for the audit, and the audit row. The
    preview cuts the value by bytes, and panics inside of a character.

    The reference and the audit row are two transactions, and the preview is computed between them,
    so a panic there leaves the reference without its audit row. -/
def storeTxHashReference (newId : Uuid) (actorUserId : Option Uuid) (contributionId : Uuid)
    (txHash : String) : Facade Unit := do
  let reference ← repository (createExternalReference {
    id := newId
    entityType := .contribution
    entityId := contributionId
    referenceKind := .transactionHash
    value := txHash
    metadata := .object [] })
  let auditLog ← okOr (blockchainReferenceAttached actorUserId reference) .panicked
  recordAudit auditLog

/-- The record that a submission writes once the submitter has answered. -/
def submittedRecord (newId : Uuid) (contribution : Contribution) (vault : SavingsVault)
    (contractReference : ExternalReference) (idempotencyKey : String)
    (submitted : SubmittedTransaction) : BlockchainTransactionRecord where
  id := newId
  entityType := .contribution
  entityId := contribution.id
  operationKind := vaultContribution
  idempotencyKey := idempotencyKey
  status := .submitted
  txHash := some submitted.txHash
  attemptCount := 1
  lastErrorCode := none
  lastErrorMessage := none
  nextRetryAt := none
  metadata := .object [
    ("vault_id", .ofUuid vault.id),
    ("contract_id", .string contractReference.value),
    ("amount_minor", .ofInt64 contribution.amount.amountMinor),
    ("currency", .string contribution.amount.currency.asStr)]

/-- A key that is known is answered from its record, without a look at the contribution that it was
    recorded for. Otherwise the submitter is called before the record is written.

    Between the lookup of the key and the call of the submitter nothing is written, and between the
    call and the record nothing is locked: a second call with the same key, or one whose record
    cannot be inserted, has the submitter called again. -/
def submitContributionOnchain (provider : Provider) (draw : SubmitDraw)
    (input : SubmitContributionOnchainInput) : Facade ContributionOnchainSubmission := do
  let contribution ← okOr (← select fun w => w.1.contributions.find input.contributionId)
    (.facade .notFound)
  let vault ← okOr (← select fun w => w.1.vaults.find contribution.vaultId) (.facade .notFound)
  let contractReference ← okOr
    (← select fun w => findContractReference draw.contractReferenceId vault w.2) (.facade .notFound)
  -- neither of the two keys of the records is locked here
  match ← select fun w => transactionRecordByIdempotencyKey input.idempotencyKey w.2 with
  | some existing =>
    let prepared ← ofClient (buildPreparedTransaction provider contribution contractReference
      input.signingBoundary existing.idempotencyKey)
    return {
      contribution := contribution
      processingRecord := existing
      preparedTransaction := prepared
      submittedTransaction := none }
  | none =>
    let prepared ← ofClient (buildPreparedTransaction provider contribution contractReference
      input.signingBoundary input.idempotencyKey)
    let submitted ← submitTransaction provider contribution.id {
      operationId := input.idempotencyKey
      preparedTransaction := prepared
      authorization := input.signingBoundary }
    -- the record of another key of the same contribution is met here, after the call
    let record ← repository (createTransactionRecord (submittedRecord draw.recordId contribution
      vault contractReference input.idempotencyKey submitted))
    storeTxHashReference draw.hashReferenceId (some contribution.contributorUserId) contribution.id
      submitted.txHash
    return {
      contribution := contribution
      processingRecord := record
      preparedTransaction := prepared
      submittedTransaction := some submitted }

/-! ## Reconciling it

  The record is looked up by the contribution.  Its status plays no part in what follows: not in
  the question to the chain, and not in what is made of the answer. -/

/-- The actor under whom a reconciliation settles. -/
def systemAdminActor (userId : Uuid) : AuthenticatedUser := ⟨userId, .platformAdmin⟩

/-- What a status makes of the record. -/
def BlockchainTransactionRecord.observe (record : BlockchainTransactionRecord) (now : DateTime)
    (status : TransactionStatus) : BlockchainTransactionRecord :=
  match status.state with
  | .succeeded => { record with
      status := .confirmed
      lastErrorCode := none
      lastErrorMessage := none
      nextRetryAt := none }
  | .failed => { record with
      status := if status.retryable then .retryScheduled else .failed
      lastErrorCode := status.errorCode
      lastErrorMessage := status.errorMessage
      nextRetryAt := if status.retryable then some now else none }
  | .pending | .unknown => { record with status := .submitted }

/-- The settlement that a status asks for. -/
def settleObserved (actor : AuthenticatedUser) (input : SettlementInput)
    (status : TransactionStatus) : Facade (Option Contribution) :=
  match status.state with
  | .succeeded => some <$> contributionService (confirmContribution actor input)
  | .failed =>
    if status.retryable then pure none
    else some <$> contributionService (failContribution actor input)
  | .pending | .unknown => pure none

/-- The contribution is settled first and the record updated after it, in transactions of their own.
    -/
def reconcileContributionTransaction (provider : Provider) (now : DateTime)
    (systemActorUserId contributionId : Uuid) : Facade (Option Contribution) := do
  match ← select fun w => transactionRecordByEntity .contribution contributionId vaultContribution w.2
    with
  | none => return none
  | some record =>
    let txHash ← okOr record.txHash
      (.facade (.conflict "blockchain transaction record missing tx hash"))
    let status ← ofClient (provider.lookupTransactionStatus ⟨txHash⟩)
    -- a transaction of the contribution service, committed before the record is updated
    let contribution ← settleObserved (systemAdminActor systemActorUserId)
      ⟨contributionId, record.txHash⟩ status
    let _ ← repository (updateTransactionRecord (record.observe now status))
    return contribution

/-! ## Requests

  The workflow requests are requests of the facade too, so a run mixes them in any order. -/

/-- Every request of the facade comes with what its clients answer while it is served. -/
inductive Request
  | submit (provider : Provider) (draw : SubmitDraw) (input : SubmitContributionOnchainInput)
  | reconcile (provider : Provider) (now : DateTime) (systemActorUserId contributionId : Uuid)
  | service (q : EduStell.Request)

/-- What a request of the facade is answered with. -/
inductive Answer
  | submission (x : ContributionOnchainSubmission)
  | reconciled (x : Option Contribution)
  | service (b : Response)

/-- The request as a program; the workflow requests run next to the facade as they are. -/
def Request.program : Request → Facade Answer
  | .submit provider draw input => .submission <$> submitContributionOnchain provider draw input
  | .reconcile provider now systemActorUserId contributionId =>
    .reconciled <$> reconcileContributionTransaction provider now systemActorUserId contributionId
  | .service q => .service <$> q.program.inl.mapError .service

/-- Requests served one after another. -/
def World.after (w : World) (qs : List Request) : World := Serial.run Request.program w qs

end EduStell.Chain
