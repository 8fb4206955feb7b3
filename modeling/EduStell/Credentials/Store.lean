/-
  The table `achievement_credentials` and what stands around it, with the queries that the credential
  service runs.

  A credential row has the columns that its audit event reports and the ones that the service reads
  besides.  The insert and the audit row are one transaction, so an insert that a constraint refuses
  leaves the tables as they were: `createWithAudit` answers with new tables or with an error.

  `createWithAudit` asks the constraints in the order of PostgreSQL, and the queries are functions
  of the tables, with the order of their rows as the source asks for it.
-/
import EduStell.Application.Errors
import EduStell.Trail.Events
import EduStell.Txn.Listing

namespace EduStell.Credentials

open Txn

/-! ## Rows

  A row has every column that the payload, the lists or the audit event use. -/

/-- A row of `child_profiles`. -/
structure ChildProfileRow extends ChildProfile where
  createdAt : DateTime

/-- A row of `achievement_credentials`. -/
structure CredentialRow extends AchievementCredential where
  title : String
  description : Option String
  issuedByUserId : Uuid
  issuanceNotes : Option String
  attestationHash : String
  attestationAnchorNetwork : Option String
  createdAt : DateTime

/-- A child profile is found by its id. -/
instance : Keyed ChildProfileRow Uuid := ⟨fun child => child.id⟩
/-- `achievement_credentials_pkey`. -/
instance : Keyed CredentialRow Uuid := ⟨fun credential => credential.id⟩

/-- The tables that credentials need; of the users only their ids. -/
structure CredentialDb where
  childProfiles : Table ChildProfileRow
  schools : Table School
  userIds : List Uuid
  credentials : Table CredentialRow
  audit : List AuditLog

/-! ## Constraints

  The CHECKs of the table, its unique indexes and its foreign keys, and what an INSERT answers
  when one of them refuses the row. -/

/-- `achievement_credentials_anchor_requires_network` -/
def anchorRequiresNetwork (attestationAnchor attestationAnchorNetwork : Option String) : Bool :=
  match attestationAnchor, attestationAnchorNetwork with
  | none, _ => true
  | some _, none => false
  | some _, some network => 0 < network.length

/-- `achievement_credentials_attestation_hash_len` -/
def attestationHashLen (attestationHash : String) : Bool := 32 ≤ attestationHash.length

/-- Code 23503. -/
def foreignKeyViolation (column : String) : PersistenceError :=
  .repository ("error returned from database: insert or update on table " ++
    "\"achievement_credentials\" violates foreign key constraint \"achievement_credentials_" ++
    column ++ "_fkey\"")

/-- Checks come first, then the unique indexes, then the foreign keys. -/
def createWithAudit (credential : CredentialRow) (now : DateTime) (auditLog : AuditLog)
    (s : CredentialDb) : Except PersistenceError (CredentialRow × CredentialDb) :=
  let row := { credential with createdAt := now.toTimestamptz }
  if !anchorRequiresNetwork row.attestationAnchor row.attestationAnchorNetwork then
    .error (.checkViolation "achievement_credentials"
      "achievement_credentials_anchor_requires_network")
  else if !attestationHashLen row.attestationHash then
    .error (.checkViolation "achievement_credentials"
      "achievement_credentials_attestation_hash_len")
  else if (s.credentials.find row.id).isSome then
    .error (.uniqueViolation "achievement_credentials_pkey")
  else if s.credentials.any fun r => r.credentialRef = row.credentialRef then
    .error (.uniqueViolation "achievement_credentials_credential_ref_key")
  else if (s.childProfiles.find row.childProfileId).isNone then
    .error (foreignKeyViolation "child_profile_id")
  else if row.recipientUserId.any fun id => id ∉ s.userIds then
    .error (foreignKeyViolation "recipient_user_id")
  else if row.schoolId.any fun id => (s.schools.find id).isNone then
    .error (foreignKeyViolation "school_id")
  else if row.issuedByUserId ∉ s.userIds then
    .error (foreignKeyViolation "issued_by_user_id")
  else
    .ok (row, { s with
      credentials := s.credentials.insert row
      audit := s.audit ++ [sanitizeAuditLog auditLog] })

/-! ## Queries

  `ORDER BY` is a stable sort here, and `LIMIT` a prefix. -/

/-- The children of a guardian, the latest first. -/
def listByOwner (ownerUserId : Uuid) (s : CredentialDb) : List ChildProfileRow :=
  orderByDesc (fun child => child.createdAt)
    (s.childProfiles.rows.filter fun child => child.ownerUserId = ownerUserId)

/-- `achievement_date DESC, created_at DESC` -/
def CredentialRow.achieved (c : CredentialRow) : NaiveDate ×ₗ DateTime :=
  toLex (c.achievementDate, c.createdAt)

/-- The credentials of a child, the latest achievement first. -/
def listByChildProfile (childProfileId : Uuid) (s : CredentialDb) : List CredentialRow :=
  orderByDesc CredentialRow.achieved
    (s.credentials.rows.filter fun c => c.childProfileId = childProfileId)

/-- The credentials that a student has received, the latest achievement first. -/
def listByRecipient (recipientUserId : Uuid) (s : CredentialDb) : List CredentialRow :=
  orderByDesc CredentialRow.achieved
    (s.credentials.rows.filter fun c => c.recipientUserId = some recipientUserId)

/-- The credentials that a user has issued, the latest issuance first. -/
def listByIssuer (issuedByUserId : Uuid) (s : CredentialDb) : List CredentialRow :=
  orderByDesc CredentialRow.createdAt
    (s.credentials.rows.filter fun c => c.issuedByUserId = issuedByUserId)

/-- The credentials that were issued last. -/
def listRecent (limit : Nat) (s : CredentialDb) : List CredentialRow :=
  (orderByDesc CredentialRow.createdAt s.credentials.rows).take limit

end EduStell.Credentials
