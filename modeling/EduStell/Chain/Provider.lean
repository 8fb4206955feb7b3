/-
  The `blockchain` crate: what the facade asks of the chain and what it is told.

  The three traits that the facade calls are one record of functions here, `Provider`.  They stand
  for an outside service: nothing is assumed of their answers, and each request comes with its own,
  so an answer may be an error and may change between two calls.  `StellarSorobanAdapter` is the one
  implementation that the crate has, a stub.
-/
import EduStell.Shared

namespace EduStell.Chain

/-- The networks that a transaction can be for. -/
inductive BlockchainNetwork
  | stellar | soroban
  deriving DecidableEq, Repr

/-- Who signs a transaction. -/
inductive SigningBoundary
  | platformCustodied (keyReference : String)
  | userControlled (accountId : String)
  | preSignedEnvelope (envelopeXdr : String)
  deriving DecidableEq, Repr

/-- An argument of a contract call. -/
inductive ContractArgument
  | address (value : String)
  | integer (value : Int64)
  | unsigned (value : UInt64)
  | text (value : String)

/-- A call of the contract of a vault. -/
structure VaultContractCallRequest where
  operationId : String
  contractId : String
  method : String
  args : List ContractArgument
  amount : Option Money
  signingBoundary : SigningBoundary

/-- A transaction that is ready to be signed. -/
structure PreparedTransaction where
  operationId : String
  network : BlockchainNetwork
  sourceAccountId : String
  contractId : Option String
  unsignedEnvelopeXdr : String
  signingBoundary : SigningBoundary
  deriving DecidableEq, Repr

/-- What is handed to the submitter. -/
structure TransactionSubmissionRequest where
  operationId : String
  preparedTransaction : PreparedTransaction
  authorization : SigningBoundary
  deriving DecidableEq, Repr

/-- What is known of a transaction on its network. -/
inductive TransactionState
  | pending | succeeded | failed | unknown
  deriving DecidableEq, Repr

/-- The submitter's answer. -/
structure SubmittedTransaction where
  operationId : String
  txHash : String
  state : TransactionState
  submittedAt : DateTime

/-- What the status of a transaction is asked by. -/
structure TransactionStatusRequest where
  txHash : String

/-- The part of a status that the facade reads. -/
structure TransactionStatus where
  state : TransactionState
  retryable : Bool
  errorCode : Option String
  errorMessage : Option String

/-- The kinds of errors that a client reports. -/
inductive BlockchainErrorCode
  | validation
  | unauthorized
  | notFound
  | conflict
  | insufficientFunds
  | signatureRequired
  | submissionRejected
  | timeout
  | rateLimited
  | unavailable
  | internal
  deriving DecidableEq, Repr

/-- An error of a client. -/
structure BlockchainError where
  code : BlockchainErrorCode
  message : String

/-- `VaultContractClient`, `TransactionSubmitter` and `TransactionStatusLookup`, as they answer while
    one request is served. -/
structure Provider where
  prepareVaultCall : VaultContractCallRequest → Except BlockchainError PreparedTransaction
  submitTransaction : TransactionSubmissionRequest → Except BlockchainError SubmittedTransaction
  lookupTransactionStatus : TransactionStatusRequest → Except BlockchainError TransactionStatus

/-! ## The adapter

  The adapter answers from the request alone.  It stands for no chain: its look at a transaction
  never tells more than that nothing is known. -/

/-- The adapter for Stellar and Soroban. -/
structure StellarSorobanAdapter where
  network : BlockchainNetwork := .soroban
  stubMode : Bool := true

/-- `char::is_ascii_alphanumeric`. -/
def isAsciiAlphanumeric (ch : Char) : Bool :=
  ('a' ≤ ch && ch ≤ 'z') || ('A' ≤ ch && ch ≤ 'Z') || ('0' ≤ ch && ch ≤ '9')

/-- Every other character becomes a hyphen. -/
def sanitizeIdentifier (value : String) : String :=
  String.ofList (value.toList.map fun ch => if isAsciiAlphanumeric ch then ch else '-')

namespace StellarSorobanAdapter

/-- Only the stub is there. -/
def ensureStubMode (self : StellarSorobanAdapter) : Except BlockchainError Unit :=
  if self.stubMode then .ok ()
  else .error ⟨.unavailable, "live Stellar/Soroban RPC calls are not implemented yet"⟩

/-- A transaction whose envelope the stub makes up from the request. -/
def prepareVaultCall (self : StellarSorobanAdapter) (request : VaultContractCallRequest) :
    Except BlockchainError PreparedTransaction := do
  self.ensureStubMode
  let sourceAccountId := match request.signingBoundary with
    | .platformCustodied keyReference => keyReference
    | .userControlled accountId => accountId
    | .preSignedEnvelope _ => "presigned-envelope"
  return {
    operationId := request.operationId
    network := self.network
    sourceAccountId := sourceAccountId
    contractId := some request.contractId
    unsignedEnvelopeXdr := "AAAA-stubbed-xdr"
    signingBoundary := request.signingBoundary }

/-- A hash that the stub makes up from the operation. -/
def submitTransaction (self : StellarSorobanAdapter) (now : DateTime)
    (request : TransactionSubmissionRequest) : Except BlockchainError SubmittedTransaction := do
  self.ensureStubMode
  return {
    operationId := request.operationId
    txHash := "stub-tx-" ++ sanitizeIdentifier request.operationId
    state := .pending
    submittedAt := now }

/-- The stub knows no outcome. -/
def lookupTransactionStatus (self : StellarSorobanAdapter) (_ : TransactionStatusRequest) :
    Except BlockchainError TransactionStatus := do
  self.ensureStubMode
  return { state := .pending, retryable := true, errorCode := none, errorMessage := none }

/-- The adapter as the provider of the facade. -/
def provider (self : StellarSorobanAdapter) (now : DateTime) : Provider where
  prepareVaultCall := self.prepareVaultCall
  submitTransaction := self.submitTransaction now
  lookupTransactionStatus := self.lookupTransactionStatus

end StellarSorobanAdapter
end EduStell.Chain
