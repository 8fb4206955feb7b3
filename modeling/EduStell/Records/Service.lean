/-
  `application::savings` and `application::kyc` over their repositories: creating plans and
  milestones, adding contributors, reviewing identities.

  These services write a row, and then its audit row: two calls of two repositories, each a statement
  of its own on the connection pool.  `register` of the auth service (`EduStell.Auth.Service`) does
  the same, and stores a session after that.

  What a statement returns is read back after it has been committed.  The foreign keys to rows that
  the service has just found hold; where nothing was looked up, the statement checks.

  Every call of a service may be cut off by a fault between two statements
  (`EduStell.Txn.Faults`).  What a cut leaves behind is the subject of `EduStell.Records.Endings`.
-/
import EduStell.Application.Scholarships
import EduStell.Records.Store
import EduStell.Txn.Faults

namespace EduStell.Records

open Txn Program Persistence

/-! ## Repositories

  Each is a transaction of one statement.  An upsert is one statement as well, and takes the lock
  of the row that it meets. -/

/-- A row lock of the record tables. -/
def lockRecord {ε : Type} (r : Resource) : Tx ε (Content r) :=
  forUpdate (Sum.inr r : Auth.Resource ⊕ Resource)

/-- The row lock of a user. -/
def lockUser {ε : Type} (userId : Uuid) : Tx ε (Option Auth.UserRow) :=
  forUpdate (Sum.inl (.user userId) : Auth.Resource ⊕ Resource)

/-- Code 23503. -/
def foreignKeyViolation (table constraint : String) : PersistenceError :=
  .repository ("error returned from database: insert or update on table \"" ++ table
    ++ "\" violates foreign key constraint \"" ++ constraint ++ "\"")

/-- A row of a unique index: its lock, and the error of PostgreSQL when the entry is taken. -/
def insertUnique (r : Resource) (taken : Content r → Bool) (constraint : String) :
    Tx PersistenceError Unit := do
  let entry ← lockRecord r
  failIf (taken entry = true) (.uniqueViolation constraint)

/-- `REFERENCES users(id)` -/
def referenceUser (userId : Uuid) (table constraint : String) : Tx PersistenceError Unit := do
  let user ← lockUser userId
  failIf (user.isNone = true) (foreignKeyViolation table constraint)

/-- `SavingsPlanRepository::create` -/
def insertPlan (plan : SavingsPlanRow) : Tx PersistenceError SavingsPlanRow := do
  beginTx
  insertUnique (.plan plan.id) Option.isSome "savings_plans_pkey"
  execute (.inr (.insertPlan plan))
  commitTx
  -- `RETURNING` is read back after the statement has been committed
  let targetAmount ← ofExcept (storedMoney plan.targetAmount)
  return { plan with targetAmount := targetAmount }

/-- `MilestoneRepository::create`; both amounts are stored under the currency of the target. -/
def insertMilestone (milestone : MilestoneRecord) : Tx PersistenceError MilestoneRecord := do
  beginTx
  failIf (milestone.targetAmount.amountMinor ≤ 0)
    (.checkViolation "milestones" "milestones_target_amount_minor_check")
  insertUnique (.milestone milestone.id) Option.isSome "milestones_pkey"
  execute (.inr (.insertMilestone milestone))
  commitTx
  let targetAmount ← ofExcept (storedMoney milestone.targetAmount)
  let fundedAmount ← ofExcept
    (parseMoney milestone.fundedAmount.amountMinor milestone.targetAmount.currency.asStr)
  return { milestone with targetAmount := targetAmount, fundedAmount := fundedAmount }

/-- `VaultRepository::add_contributor` -/
def insertVaultContributor (contributor : VaultContributorRow) :
    Tx PersistenceError VaultContributorRow := do
  beginTx
  insertUnique (.vaultContributor contributor.id) Option.isSome "vault_contributors_pkey"
  insertUnique (.vaultContributorEntry contributor.vaultId contributor.contributorUserId)
    (fun taken => taken) "vault_contributors_vault_id_contributor_user_id_key"
  referenceUser contributor.contributorUserId "vault_contributors"
    "vault_contributors_contributor_user_id_fkey"
  execute (.inr (.insertVaultContributor contributor))
  commitTx
  return contributor

/-- `KycRepository::upsert`: `INSERT … ON CONFLICT (user_id) DO UPDATE`. -/
def upsertKycProfile (profile : KycProfileRow) : Tx PersistenceError KycProfileRow := do
  beginTx
  match ← lockRecord (.kycProfile profile.userId) with
  | some row =>
    execute (.inr (.reviewKycProfile profile))
    commitTx
    return row.review profile
  | none =>
    -- no conflict on the user, so the row is inserted and its constraints are checked
    insertUnique (.kycProfileId profile.id) (fun taken => taken) "kyc_profiles_pkey"
    referenceUser profile.userId "kyc_profiles" "kyc_profiles_user_id_fkey"
    execute (.inr (.insertKycProfile profile))
    commitTx
    return profile

/-- `AuditService::record` -/
def recordAudit {ε : Type} (auditLog : AuditLog) : Tx ε Unit := do
  beginTx
  execute (.inl (.insertAuditLog (sanitizeAuditLog auditLog)))
  commitTx

/-! ## `application::savings`

  Every function looks something up, binds a row, writes it and records an event; the checks come
  before the first write. -/

/-- The errors of the savings service. -/
inductive SavingsError
  | validation (message : String)
  | forbidden
  | notFound
  | repository (message : String)
  deriving DecidableEq, Repr

/-- A conflict becomes a validation error here. -/
def SavingsError.ofPersistence : PersistenceError → SavingsError
  | .notFound => .notFound
  | .conflict message => .validation message
  | .validation message => .validation message
  | .repository message => .repository message

/-- What a plan is created from. -/
structure CreatePlanInput where
  childProfileId : Uuid
  name : String
  description : Option String
  targetAmountMinor : Int64
  currency : Currency

/-- What a milestone is created from. -/
structure CreateMilestoneInput where
  vaultId : Uuid
  title : String
  description : Option String
  dueDate : NaiveDate
  targetAmountMinor : Int64
  currency : Currency
  payoutType : PayoutType

/-- What a contributor is added from. -/
structure AddContributorInput where
  vaultId : Uuid
  contributorUserId : Uuid
  roleLabel : String

/-- The row that is bound. -/
def planRow (newId : Uuid) (actor : AuthenticatedUser) (input : CreatePlanInput)
    (targetAmount : Money) : SavingsPlanRow where
  id := newId
  childProfileId := input.childProfileId
  ownerUserId := actor.userId
  name := trim input.name
  description := sanitizeOptional input.description
  targetAmount := targetAmount
  status := .draft

/-- The child has to be the parent's own. The plan is stored in one call and audited in the next.

    The check of the child is made on a row that is read before; the INSERT and the audit row are
    two transactions, with a place for a fault before each. -/
def createPlan (newId : Uuid) (actor : AuthenticatedUser) (input : CreatePlanInput) :
    Tx SavingsError SavingsPlanRow := do
  failIf (actor.role ≠ .parent) .forbidden
  failIf ((trim input.name).isEmpty = true) (.validation "name is required")
  let child ← okOr (← select fun w => w.2.childProfiles.find input.childProfileId) .notFound
  failIf (child.ownerUserId ≠ actor.userId) .forbidden
  let targetAmount ← ofExcept
    ((Money.new input.targetAmountMinor input.currency).mapError .validation)
  let saved ← (insertPlan (planRow newId actor input targetAmount)).mapError .ofPersistence
  -- a second call: the plan is committed by now
  recordAudit (AuditEvent.planCreated actor.userId saved.toSavingsPlan)
  return saved

/-- The row that is bound. -/
def milestoneRow (newId : Uuid) (input : CreateMilestoneInput)
    (targetAmount fundedAmount : Money) : MilestoneRecord where
  id := newId
  vaultId := input.vaultId
  title := trim input.title
  description := sanitizeOptional input.description
  dueDate := input.dueDate
  targetAmount := targetAmount
  fundedAmount := fundedAmount
  payoutType := input.payoutType
  status := .planned

/-- The vault has to be the actor's own and of the same currency. The milestone is stored in one
    call and audited in the next.

    The funded amount is zero, in a currency that is made from the text of the vault's column; it is
    stored under the currency of the target all the same. -/
def createMilestone (newId : Uuid) (actor : AuthenticatedUser) (input : CreateMilestoneInput) :
    Tx SavingsError MilestoneRecord := do
  let vault ← okOr (← select fun w => w.2.vaults.find input.vaultId) .notFound
  failIf (vault.ownerUserId ≠ actor.userId) .forbidden
  failIf ((trim input.title).isEmpty = true) (.validation "title is required")
  failIf (vault.currency ≠ input.currency.asStr) (.validation "milestone currency must match vault")
  let targetAmount ← ofExcept
    ((Money.new input.targetAmountMinor input.currency).mapError .validation)
  let fundedAmount ← ofExcept ((Money.new 0 (.fiat vault.currency)).mapError .validation)
  let saved ← (insertMilestone (milestoneRow newId input targetAmount fundedAmount)).mapError
    .ofPersistence
  -- a second call: the milestone is committed by now
  recordAudit (AuditEvent.milestoneCreated actor.userId saved.toMilestoneRow)
  return saved

/-- The row that is bound. -/
def contributorRow (newId : Uuid) (input : AddContributorInput) : VaultContributorRow where
  id := newId
  vaultId := input.vaultId
  contributorUserId := input.contributorUserId
  roleLabel := trim input.roleLabel

/-- The vault has to be the actor's own. The contributor is stored in one call and audited in the
    next. -/
def addContributor (newId : Uuid) (actor : AuthenticatedUser) (input : AddContributorInput) :
    Tx SavingsError VaultContributorRow := do
  let vault ← okOr (← select fun w => w.2.vaults.find input.vaultId) .notFound
  failIf (vault.ownerUserId ≠ actor.userId) .forbidden
  failIf ((trim input.roleLabel).isEmpty = true) (.validation "role_label is required")
  let saved ← (insertVaultContributor (contributorRow newId input)).mapError .ofPersistence
  -- a second call: the contributor is committed by now
  recordAudit (AuditEvent.contributorAdded actor.userId saved)
  return saved

/-! ## `application::kyc`

  The status before is read in a call of its own, before the upsert. -/

/-- The errors of the KYC service. -/
inductive KycError
  | validation (message : String)
  | forbidden
  | repository (message : String)
  deriving DecidableEq, Repr

/-- A profile that is not found becomes a validation error here. -/
def KycError.ofPersistence : PersistenceError → KycError
  | .notFound => .validation "profile not found"
  | .conflict message => .validation message
  | .validation message => .validation message
  | .repository message => .repository message

/-- What a profile is updated from. -/
structure UpdateKycStatusInput where
  userId : Uuid
  status : KycStatus
  providerReference : Option String

/-- The row that is bound, over the profile that exists. -/
def kycRow (newId : Uuid) (now : DateTime) (input : UpdateKycStatusInput)
    (existing : Option KycProfileRow) : KycProfileRow where
  id := (existing.map fun x => x.id).getD newId
  userId := input.userId
  status := input.status
  providerReference := input.providerReference
  reviewedAt := some now.toTimestamptz

/-- The status before is read in a call of its own, and the event is recorded only if the status is
    another one than it was then.

    The profile that is read decides three things: the id of the row that is bound, the status
    before, and so whether an event is recorded.  The upsert does not look at it. -/
def updateKycStatus (newId : Uuid) (now : DateTime) (actor : AuthenticatedUser)
    (input : UpdateKycStatusInput) : Tx KycError KycProfileRow := do
  failIf (actor.role ≠ .platformAdmin) .forbidden
  let existing ← select fun w => w.2.kycProfiles.find input.userId
  let previousStatus := existing.map fun x => x.status
  let saved ← (upsertKycProfile (kycRow newId now input existing)).mapError .ofPersistence
  if previousStatus ≠ some saved.status then
    recordAudit (AuditEvent.kycStatusChanged (some actor.userId) saved.toKycProfile previousStatus)
    return saved
  else return saved

/-! ## Calls

  A call comes with the faults that it meets.  What other services do in between is a call of its
  own kind, `elsewhere`. -/

/-- A call of a service, with what fails on its way; `elsewhere` is what other services make of the
    tables that these only read, and the events that they record. -/
inductive Call
  | createPlan (newId : Uuid) (actor : AuthenticatedUser) (input : CreatePlanInput)
    (faults : Nat → Option SavingsError)
  | createMilestone (newId : Uuid) (actor : AuthenticatedUser) (input : CreateMilestoneInput)
    (faults : Nat → Option SavingsError)
  | addContributor (newId : Uuid) (actor : AuthenticatedUser) (input : AddContributorInput)
    (faults : Nat → Option SavingsError)
  | updateKycStatus (newId : Uuid) (now : DateTime) (actor : AuthenticatedUser)
    (input : UpdateKycStatusInput) (faults : Nat → Option KycError)
  | register (env : Auth.Env) (now : DateTime) (userDraw : Auth.UserDraw) (draw : Auth.SessionDraw)
    (input : Auth.RegisterInput) (faults : Nat → Option Auth.AuthError)
  | elsewhere (childProfiles : Table ChildProfile) (vaults : Table SavingsVault)
    (refreshTokens : Table RefreshSession) (events : List AuditLog)

/-- Is the call answered `Ok`, and what is the database after it? -/
def answered {ε α : Type} (r : Except ε α × World) : Bool × World := (r.1.isOk, r.2)

/-- A call is served: its program with the faults put in, or what is done elsewhere. -/
def Call.serve : Call → World → Bool × World
  | .createPlan newId actor input faults, w =>
    answered (((Records.createPlan newId actor input).faulty faults 0).serve w)
  | .createMilestone newId actor input faults, w =>
    answered (((Records.createMilestone newId actor input).faulty faults 0).serve w)
  | .addContributor newId actor input faults, w =>
    answered (((Records.addContributor newId actor input).faulty faults 0).serve w)
  | .updateKycStatus newId now actor input faults, w =>
    answered (((Records.updateKycStatus newId now actor input).faulty faults 0).serve w)
  | .register env now userDraw draw input faults, w =>
    answered ((((Auth.register env now userDraw draw input).inl : Tx _ _).faulty faults 0).serve w)
  | .elsewhere childProfiles vaults refreshTokens events, w =>
    (true, { w.1 with refreshTokens := refreshTokens, audit := w.1.audit ++ events },
      { w.2 with childProfiles := childProfiles, vaults := vaults })

/-- The world after a call. -/
def Call.next (q : Call) (w : World) : World := (q.serve w).2

end EduStell.Records
