/-
  The tables of the blockchain facade, `external_references` and `blockchain_transaction_records`,
  and what has been handed to the submitter.

  * A record is unique by its idempotency key AND by (entity_type, entity_id, operation_kind): two
    indexes, of which the facade reads the first before it submits (`EduStell.Chain.Service`).
  * `submissions` is not a table: it lists the calls of `submit_transaction`, which no rollback takes
    back.  It stands here so that a statement of the facade can be said to add to it.

  Records change by one UPDATE, which takes seven columns from the record in memory, whoever has
  written the row since it was read; references are only inserted.
-/
import EduStell.Audit
import EduStell.Chain.Provider
import EduStell.Txn.Program

namespace EduStell.Chain

open Txn

/-! ## Rows

  The two tables, with the texts of their enumerations. -/

/-- What an external reference or a transaction record is about. -/
inductive ExternalReferenceEntityType
  | walletAccount | savingsVault | contribution | payoutRequest
  deriving DecidableEq, Repr

/-- The name of the type in the database. -/
def ExternalReferenceEntityType.asStr : ExternalReferenceEntityType → String
  | walletAccount => "wallet_account"
  | savingsVault => "savings_vault"
  | contribution => "contribution"
  | payoutRequest => "payout_request"

/-- The names that the type is parsed from. -/
instance : StringEnum ExternalReferenceEntityType where
  name := "ExternalReferenceEntityType"
  variants := [.walletAccount, .savingsVault, .contribution, .payoutRequest]
  asStr := ExternalReferenceEntityType.asStr
  find_asStr a := by cases a <;> decide

/-- What an external reference refers to. -/
inductive ExternalReferenceKind
  | stellarAccountId | sorobanContractId | transactionHash
  deriving DecidableEq, Repr

/-- The name of the kind in the database. -/
def ExternalReferenceKind.asStr : ExternalReferenceKind → String
  | stellarAccountId => "stellar_account_id"
  | sorobanContractId => "soroban_contract_id"
  | transactionHash => "transaction_hash"

/-- The names that the kind is parsed from. -/
instance : StringEnum ExternalReferenceKind where
  name := "ExternalReferenceKind"
  variants := [.stellarAccountId, .sorobanContractId, .transactionHash]
  asStr := ExternalReferenceKind.asStr
  find_asStr a := by cases a <;> decide

/-- The status of a transaction record. -/
inductive BlockchainTransactionStatus
  | pending | submitted | confirmed | failed | retryScheduled
  deriving DecidableEq, Repr

/-- The name of the status in the database. -/
def BlockchainTransactionStatus.asStr : BlockchainTransactionStatus → String
  | pending => "pending"
  | submitted => "submitted"
  | confirmed => "confirmed"
  | failed => "failed"
  | retryScheduled => "retry_scheduled"

/-- The names that the status is parsed from. -/
instance : StringEnum BlockchainTransactionStatus where
  name := "BlockchainTransactionStatus"
  variants := [.pending, .submitted, .confirmed, .failed, .retryScheduled]
  asStr := BlockchainTransactionStatus.asStr
  find_asStr a := by cases a <;> decide

/-- A row of `external_references`. -/
structure ExternalReference where
  id : Uuid
  entityType : ExternalReferenceEntityType
  entityId : Uuid
  referenceKind : ExternalReferenceKind
  value : String
  metadata : Value

/-- A row of `blockchain_transaction_records`. -/
structure BlockchainTransactionRecord where
  id : Uuid
  entityType : ExternalReferenceEntityType
  entityId : Uuid
  operationKind : String
  idempotencyKey : String
  status : BlockchainTransactionStatus
  txHash : Option String
  attemptCount : Int32
  lastErrorCode : Option String
  lastErrorMessage : Option String
  nextRetryAt : Option DateTime
  metadata : Value

/-- A reference is found by its id. -/
instance : Keyed ExternalReference Uuid := ⟨ExternalReference.id⟩
/-- A record is found by its id. -/
instance : Keyed BlockchainTransactionRecord Uuid := ⟨BlockchainTransactionRecord.id⟩

/-- The record is about this operation of this entity. -/
def BlockchainTransactionRecord.IsFor (r : BlockchainTransactionRecord)
    (entityType : ExternalReferenceEntityType) (entityId : Uuid) (operationKind : String) : Prop :=
  r.entityType = entityType ∧ r.entityId = entityId ∧ r.operationKind = operationKind

/-- Whether a record is about an entity can be decided. -/
instance (r : BlockchainTransactionRecord) (entityType : ExternalReferenceEntityType)
    (entityId : Uuid) (operationKind : String) :
    Decidable (r.IsFor entityType entityId operationKind) :=
  inferInstanceAs (Decidable (_ ∧ _))

/-- A call of `submit_transaction`, and the contribution for which it was made. -/
structure Submission where
  contributionId : Uuid
  request : TransactionSubmissionRequest

/-! ## Tables

  Three things can be locked for a record: its id, its idempotency key, and the triple of entity
  type, entity and kind of operation. -/

/-- The tables of the facade, and the calls that have been made to the submitter. -/
structure ChainDb where
  externalReferences : Table ExternalReference
  transactionRecords : Table BlockchainTransactionRecord
  submissions : List Submission

/-- What a transaction can lock: a row by its id, or the entry of a unique index. -/
inductive Resource
  | externalReference (id : Uuid)
  | externalReferenceEntry (entityType : ExternalReferenceEntityType) (entityId : Uuid)
    (referenceKind : ExternalReferenceKind)
  | transactionRecord (id : Uuid)
  | transactionRecordKey (idempotencyKey : String)
  | transactionRecordEntry (entityType : ExternalReferenceEntityType) (entityId : Uuid)
    (operationKind : String)
  deriving DecidableEq

/-- What a lock returns: the row, or whether the entry is taken. -/
@[reducible] def Content : Resource → Type
  | .externalReference _ => Option ExternalReference
  | .externalReferenceEntry _ _ _ => Bool
  | .transactionRecord _ => Option BlockchainTransactionRecord
  | .transactionRecordKey _ => Bool
  | .transactionRecordEntry _ _ _ => Bool

/-- The content of a resource in the tables. -/
def ChainDb.content (s : ChainDb) : (r : Resource) → Content r
  | .externalReference id => s.externalReferences.find id
  | .externalReferenceEntry entityType entityId kind => s.externalReferences.any fun x =>
    x.entityType = entityType ∧ x.entityId = entityId ∧ x.referenceKind = kind
  | .transactionRecord id => s.transactionRecords.find id
  | .transactionRecordKey key => s.transactionRecords.any fun x => x.idempotencyKey = key
  | .transactionRecordEntry entityType entityId kind =>
    s.transactionRecords.any fun x => x.IsFor entityType entityId kind

/-- The columns that `update` sets, taken from `record`. -/
def BlockchainTransactionRecord.set (r record : BlockchainTransactionRecord) :
    BlockchainTransactionRecord :=
  { r with
    status := record.status
    txHash := record.txHash
    attemptCount := record.attemptCount
    lastErrorCode := record.lastErrorCode
    lastErrorMessage := record.lastErrorMessage
    nextRetryAt := record.nextRetryAt.map DateTime.toTimestamptz
    metadata := record.metadata }

/-- The statements of the facade; `submitTransaction` is the call outside of the database. -/
inductive Write
  | insertExternalReference (row : ExternalReference)
  | insertTransactionRecord (row : BlockchainTransactionRecord)
  | updateTransactionRecord (record : BlockchainTransactionRecord)
  | submitTransaction (submission : Submission)

namespace Write

/-- What a statement does to the tables. -/
def apply : Write → ChainDb → ChainDb
  | insertExternalReference row, s =>
    { s with externalReferences := s.externalReferences.insert row }
  | insertTransactionRecord row, s =>
    { s with transactionRecords := s.transactionRecords.insert row }
  | updateTransactionRecord record, s =>
    { s with
      transactionRecords :=
        s.transactionRecords.modify record.id (fun r => r.set record) fun _ h => h }
  | submitTransaction submission, s => { s with submissions := s.submissions ++ [submission] }

/-- What a statement changes: its row and, for an INSERT, the index entries. -/
def Touches : Write → Resource → Prop
  | insertExternalReference row, r => r = .externalReference row.id ∨
    r = .externalReferenceEntry row.entityType row.entityId row.referenceKind
  | insertTransactionRecord row, r => r = .transactionRecord row.id ∨
    r = .transactionRecordKey row.idempotencyKey ∨
    r = .transactionRecordEntry row.entityType row.entityId row.operationKind
  | updateTransactionRecord record, r => r = .transactionRecord record.id
  | submitTransaction _, _ => False

/-- A statement leaves the content outside its footprint alone. -/
theorem content_of_not_touches {w : Write} {r : Resource} {s : ChainDb} (h : ¬ w.Touches r) :
    (w.apply s).content r = s.content r := by
  cases w with
  | insertExternalReference row =>
    cases r with
    | externalReference id' => exact Table.find_insert_ne _ _ fun he => h (.inl (he ▸ rfl))
    | externalReferenceEntry entityType entityId kind =>
      refine Table.any_insert_of_not _ _ (decide_eq_false fun he => h (.inr ?_))
      rw [he.1, he.2.1, he.2.2]
    | _ => rfl
  | insertTransactionRecord row =>
    cases r with
    | transactionRecord id' => exact Table.find_insert_ne _ _ fun he => h (.inl (he ▸ rfl))
    | transactionRecordKey key =>
      exact Table.any_insert_of_not _ _ (decide_eq_false fun he => h (.inr (.inl (he ▸ rfl))))
    | transactionRecordEntry entityType entityId kind =>
      refine Table.any_insert_of_not _ _ (decide_eq_false fun he => h (.inr (.inr ?_)))
      rw [he.1, he.2.1, he.2.2]
    | _ => rfl
  | updateTransactionRecord record =>
    cases r with
    | transactionRecord id' =>
      exact Table.find_modify_ne _ (ne_of_apply_ne Resource.transactionRecord h) _
        fun _ hk => by exact hk
    | transactionRecordKey key => exact Table.any_modify _ _ _ (fun _ hk => by exact hk) fun _ => rfl
    | transactionRecordEntry entityType entityId kind =>
      exact Table.any_modify _ _ _ (fun _ hk => by exact hk) fun _ => rfl
    | _ => rfl
  | submitTransaction submission => cases r <;> rfl

/-- What a statement makes of its footprint depends on the footprint alone. -/
theorem content_congr {w : Write} {s s' : ChainDb}
    (h : ∀ r, w.Touches r → s.content r = s'.content r) {r : Resource} (hr : w.Touches r) :
    (w.apply s).content r = (w.apply s').content r := by
  cases w with
  | insertExternalReference row =>
    have hid := h _ (.inl rfl)
    rcases hr with rfl | rfl
    · exact Table.find_insert_congr _ hid
    · exact Table.any_insert_congr _ hid (h _ (.inr rfl))
  | insertTransactionRecord row =>
    have hid := h _ (.inl rfl)
    rcases hr with rfl | rfl | rfl
    · exact Table.find_insert_congr _ hid
    · exact Table.any_insert_congr _ hid (h _ (.inr (.inl rfl)))
    · exact Table.any_insert_congr _ hid (h _ (.inr (.inr rfl)))
  | updateTransactionRecord record =>
    cases hr
    exact Table.find_modify_congr (h _ rfl) _ fun _ hk => by exact hk
  | submitTransaction submission => exact hr.elim

end Write

/-- The statements and locks of the facade as a store. -/
instance : Store ChainDb Content Write where
  get := ChainDb.content
  apply := Write.apply
  touches := Write.Touches
  get_of_not_touches := Write.content_of_not_touches
  get_congr h _ hr := Write.content_congr h hr

end EduStell.Chain
