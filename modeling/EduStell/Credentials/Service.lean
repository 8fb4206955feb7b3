/-
  `application::credentials`: issuing a credential, listing credentials and getting one.

  The clock, the ids that are drawn, the text of a JSON value and SHA-256 are inputs.
-/
import EduStell.Auth.Claims
import EduStell.Credentials.Store

namespace EduStell.Credentials

open Txn

/-- The credential service has the errors of the other services. -/
abbrev CredentialError := ServiceError

/-- What a credential is issued from. -/
structure IssueCredentialInput where
  childProfileId : Uuid
  recipientUserId : Option Uuid
  schoolId : Option Uuid
  achievementType : AchievementCredentialType
  title : String
  description : Option String
  achievementDate : NaiveDate
  issuanceNotes : Option String
  evidenceUri : Option String
  attestationAnchor : Option String
  attestationAnchorNetwork : Option String
  metadata : Value

/-- What a list of credentials is narrowed to. -/
structure CredentialListFilter where
  childProfileId : Option Uuid := none
  issuedByMe : Bool := false

/-- What an issuance draws, and the two times that it is given: when it asks, and when the row is
    written. -/
structure IssueDraw where
  id : Uuid
  credentialRef : Uuid
  now : DateTime
  insertedAt : DateTime

/-- `serde_json::Value::to_string`, and the SHA-256 of a text in hexadecimal digits. -/
structure Digest where
  text : Value → String
  sha256 : String → String

/-! ## Issuing

  The child, the issuer and the input are checked in this order.  The hash is taken of the
  request, and the row is written from the request too. -/

/-- An administrator issues for any school or for none, a school's administrator for a verified one.
    -/
def validateIssuer (actor : AuthenticatedUser) (schoolId : Option Uuid) (s : CredentialDb) :
    Except CredentialError Unit :=
  match actor.role with
  | .platformAdmin => .ok ()
  | .schoolAdmin =>
    match schoolId with
    | none => .error (.validation "school_id is required when issuing as school_admin")
    | some schoolId =>
      match s.schools.find schoolId with
      | none => .error .notFound
      | some school =>
        if school.verificationStatus ≠ .verified then
          .error (.conflict "school must be verified before issuing credentials")
        else .ok ()
  | .parent | .contributor | .student | .donor => .error .forbidden

/-- The error for an anchor without a network. -/
def networkRequired : CredentialError :=
  .validation "attestation_anchor_network is required when attestation_anchor is set"

/-- The anchor and its network are compared as they were sent; blank ones are stored as none. -/
def validateInput (input : IssueCredentialInput) (child : ChildProfile) :
    Except CredentialError Unit :=
  if (trim input.title).isEmpty then .error (.validation "title is required")
  else if input.recipientUserId = some child.ownerUserId then
    .error (.validation "recipient_user_id must identify the student, not the guardian")
  else if input.attestationAnchor.isSome && input.attestationAnchorNetwork.isNone then
    .error networkRequired
  else .ok ()

/-- What is hashed of a credential. The anchor is not a part of it. -/
def canonicalPayload (credentialRef : Uuid) (input : IssueCredentialInput)
    (issuedByUserId : Uuid) : Value :=
  .object [
    ("credential_ref", .ofUuid credentialRef),
    ("child_profile_id", .ofUuid input.childProfileId),
    ("recipient_user_id", .ofOption .ofUuid input.recipientUserId),
    ("school_id", .ofOption .ofUuid input.schoolId),
    ("achievement_type", .string input.achievementType.asStr),
    ("title", .string (trim input.title)),
    ("description", .ofOption .string (sanitizeOptional input.description)),
    ("achievement_date", .string input.achievementDate.iso),
    ("issued_by_user_id", .ofUuid issuedByUserId),
    ("issuance_notes", .ofOption .string (sanitizeOptional input.issuanceNotes)),
    ("evidence_uri", .ofOption .string (sanitizeOptional input.evidenceUri)),
    ("metadata", input.metadata)]

/-- The hash that attests the credential. -/
def buildAttestationHash (digest : Digest) (credentialRef : Uuid) (input : IssueCredentialInput)
    (issuedByUserId : Uuid) : String :=
  digest.sha256 (digest.text (canonicalPayload credentialRef input issuedByUserId))

/-- The row that an issuance asks to insert. -/
def issuedCredential (digest : Digest) (draw : IssueDraw) (actor : AuthenticatedUser)
    (input : IssueCredentialInput) : CredentialRow where
  id := draw.id
  credentialRef := draw.credentialRef
  childProfileId := input.childProfileId
  recipientUserId := input.recipientUserId
  schoolId := input.schoolId
  achievementType := input.achievementType
  status := .issued
  title := trim input.title
  description := sanitizeOptional input.description
  achievementDate := input.achievementDate
  issuedByUserId := actor.userId
  issuedByRole := actor.role.asStr
  issuanceNotes := sanitizeOptional input.issuanceNotes
  evidenceUri := sanitizeOptional input.evidenceUri
  attestationHash := buildAttestationHash digest draw.credentialRef input actor.userId
  attestationMethod := "sha256"
  attestationAnchor := sanitizeOptional input.attestationAnchor
  attestationAnchorNetwork := sanitizeOptional input.attestationAnchorNetwork
  metadata := input.metadata
  createdAt := draw.now

/-- The checks, the hash, and one transaction for the row and its audit row.

    The child and the issuer are checked before the input.  The row is built from the input and the
    draws alone, so it can be compared with another one without running the service again. -/
def issueCredential (digest : Digest) (draw : IssueDraw) (actor : AuthenticatedUser)
    (input : IssueCredentialInput) (s : CredentialDb) :
    Except CredentialError (CredentialRow × CredentialDb) := do
  let some child := s.childProfiles.find input.childProfileId | .error .notFound
  validateIssuer actor input.schoolId s
  validateInput input child.toChildProfile
  let credential := issuedCredential digest draw actor input
  let audit := AuditEvent.achievementCredentialIssued actor.userId credential.toAchievementCredential
  (createWithAudit credential draw.insertedAt audit s).mapError .ofPersistence

/-! ## Listing and getting

  Each role has its own selection in the list and its own guard in the lookup, and the filters are
  not open to every role. -/

/-- What is listed for the role, before it is sorted. -/
def listedItems (actor : AuthenticatedUser) (filter : CredentialListFilter) (s : CredentialDb) :
    Except CredentialError (List CredentialRow) :=
  match actor.role with
  | .parent =>
    match filter.childProfileId with
    | some childProfileId =>
      match s.childProfiles.find childProfileId with
      | none => .error .notFound
      | some child =>
        if child.ownerUserId ≠ actor.userId then .error .forbidden
        else .ok (listByChildProfile childProfileId s)
    | none => .ok ((listByOwner actor.userId s).flatMap fun child => listByChildProfile child.id s)
  | .student =>
    if filter.childProfileId.isSome || filter.issuedByMe then .error .forbidden
    else .ok (listByRecipient actor.userId s)
  | .schoolAdmin =>
    if filter.childProfileId.isSome then .error .forbidden
    else .ok (listByIssuer actor.userId s)
  | .platformAdmin =>
    if filter.issuedByMe then .ok (listByIssuer actor.userId s)
    else match filter.childProfileId with
      | some childProfileId => .ok (listByChildProfile childProfileId s)
      | none => .ok (listRecent 200 s)
  | .contributor | .donor => .error .forbidden

/-- Sorted by achievement; neighbours with one id count once.

    The rows of several children come one list after another; they are sorted together, and the sort
    is stable, so the same row twice would be two neighbours. -/
def listCredentials (actor : AuthenticatedUser) (filter : CredentialListFilter) (s : CredentialDb) :
    Except CredentialError (List CredentialRow) := do
  let items ← listedItems actor filter s
  return dedupByKey (fun c => c.id) (orderByDesc CredentialRow.achieved items)

/-- The same rights as in the list, row by row.

    A row that is not there is `notFound` for everybody, before any right is asked. -/
def getCredential (actor : AuthenticatedUser) (credentialId : Uuid) (s : CredentialDb) :
    Except CredentialError CredentialRow :=
  match s.credentials.find credentialId with
  | none => .error .notFound
  | some credential =>
    match actor.role with
    | .platformAdmin => .ok credential
    | .student =>
      if credential.recipientUserId = some actor.userId then .ok credential else .error .forbidden
    | .schoolAdmin =>
      if credential.issuedByUserId = actor.userId then .ok credential else .error .forbidden
    | .parent =>
      match s.childProfiles.find credential.childProfileId with
      | none => .error .notFound
      | some child =>
        if child.ownerUserId = actor.userId then .ok credential else .error .forbidden
    | .contributor | .donor => .error .forbidden

end EduStell.Credentials
