/-
  The audit events that the services build, and what is left of them in the trail.

  `AuditedOperation` lists every place where a service builds an audit row, with the rows and inputs
  that it has in hand there.  The services with a model of their own build their rows in line
  (`EduStell.Trail.Rows` says that what they write is in this list); of the others, which plan
  savings, review identities, create schools and issue credentials, only this part is here.

  The matcher of the redaction works on substrings, and catches one key that is no secret:
  `external_payout_reference_present` contains `payout_reference`.

  The result is an equivalence over the whole list: of all these events the redaction changes
  those of a review of a payout, and no others (`redaction_keeps_iff`).
-/
import EduStell.Auth.Service
import EduStell.Chain.Service
import EduStell.Dates
import EduStell.Scenario
import EduStell.Trail.Redaction

namespace EduStell

open Txn Value

/-! ## Rows of the services that are here for their events only

  Each has the columns that its event tells, and the texts under which its enumerations are
  written. -/

/-- The status of a KYC profile. -/
inductive KycStatus
  | pending | underReview | approved | rejected
  deriving DecidableEq, Repr

/-- The name of the status in the database. -/
def KycStatus.asStr : KycStatus → String
  | pending => "pending"
  | underReview => "under_review"
  | approved => "approved"
  | rejected => "rejected"

/-- The status of a savings plan. -/
inductive PlanStatus
  | draft | active | paused | completed | cancelled
  deriving DecidableEq, Repr

/-- The name of the status in the database. -/
def PlanStatus.asStr : PlanStatus → String
  | draft => "draft"
  | active => "active"
  | paused => "paused"
  | completed => "completed"
  | cancelled => "cancelled"

/-- What a milestone is paid out for. -/
inductive PayoutType
  | tuition | examFee | deposit | supplies
  deriving DecidableEq, Repr

/-- The name of the type in the database. -/
def PayoutType.asStr : PayoutType → String
  | tuition => "tuition"
  | examFee => "exam_fee"
  | deposit => "deposit"
  | supplies => "supplies"

/-- How a school is paid. -/
inductive SchoolPayoutMethod
  | stellar | bankTransfer | mobileMoney | fiatOfframp | manual
  deriving DecidableEq, Repr

/-- The name of the method in the database. -/
def SchoolPayoutMethod.asStr : SchoolPayoutMethod → String
  | stellar => "stellar"
  | bankTransfer => "bank_transfer"
  | mobileMoney => "mobile_money"
  | fiatOfframp => "fiat_offramp"
  | manual => "manual"

/-- What a credential attests. -/
inductive AchievementCredentialType
  | scholarshipRecipient | feeFullyFunded | academicExcellence | attendanceRecognition
  deriving DecidableEq, Repr

/-- The name of the type in the database. -/
def AchievementCredentialType.asStr : AchievementCredentialType → String
  | scholarshipRecipient => "scholarship_recipient"
  | feeFullyFunded => "fee_fully_funded"
  | academicExcellence => "academic_excellence"
  | attendanceRecognition => "attendance_recognition"

/-- The status of a credential. -/
inductive AchievementCredentialStatus
  | issued | revoked
  deriving DecidableEq, Repr

/-- The name of the status in the database. -/
def AchievementCredentialStatus.asStr : AchievementCredentialStatus → String
  | issued => "issued"
  | revoked => "revoked"

/-- The columns of a KYC profile that its event tells. -/
structure KycProfile where
  id : Uuid
  userId : Uuid
  status : KycStatus
  providerReference : Option String

/-- The columns of a plan that its event tells. -/
structure SavingsPlan where
  id : Uuid
  childProfileId : Uuid
  ownerUserId : Uuid
  targetAmount : Money
  status : PlanStatus

/-- A milestone with the columns that its event reports. -/
structure MilestoneRow extends Milestone where
  dueDate : NaiveDate
  targetAmount : Money
  payoutType : PayoutType

/-- A contributor of a vault with the columns that the event reports. -/
structure VaultContributorRow extends VaultContributor where
  id : Uuid
  roleLabel : String

/-- A school with the columns that its creation reports, and the one that it does not. -/
structure SchoolRow extends School where
  displayName : String
  country : String
  payoutMethod : SchoolPayoutMethod
  payoutReference : String

/-- The columns of a credential that its event tells. -/
structure AchievementCredential where
  id : Uuid
  credentialRef : Uuid
  childProfileId : Uuid
  recipientUserId : Option Uuid
  schoolId : Option Uuid
  achievementType : AchievementCredentialType
  status : AchievementCredentialStatus
  achievementDate : NaiveDate
  issuedByRole : String
  evidenceUri : Option String
  attestationMethod : String
  attestationAnchor : Option String
  metadata : Value

/-! ## The builders of these services, as `into_log` gives them on

  One function for each builder of the source.  The metadata is the whole of it, key by key, since
  it is the keys that the redaction looks at. -/

namespace AuditEvent

/-- A change of a KYC status, with the status before. -/
def kycStatusChanged (actorUserId : Option Uuid) (profile : KycProfile)
    (previousStatus : Option KycStatus) : AuditLog where
  actorUserId := actorUserId
  entityType := "kyc_profile"
  entityId := some profile.id
  action := "kyc.status_changed"
  metadata := .object [
    ("user_id", .ofUuid profile.userId),
    ("from_status", .ofOption (.string ·.asStr) previousStatus),
    ("to_status", .string profile.status.asStr)]

/-- A plan was created. -/
def planCreated (actorUserId : Uuid) (plan : SavingsPlan) : AuditLog where
  actorUserId := some actorUserId
  entityType := "savings_plan"
  entityId := some plan.id
  action := "savings_plan.created"
  metadata := .object [
    ("child_profile_id", .ofUuid plan.childProfileId),
    ("owner_user_id", .ofUuid plan.ownerUserId),
    ("target_amount_minor", .ofInt64 plan.targetAmount.amountMinor),
    ("currency", .string plan.targetAmount.currency.asStr),
    ("status", .string plan.status.asStr)]

/-- A milestone was created. -/
def milestoneCreated (actorUserId : Uuid) (milestone : MilestoneRow) : AuditLog where
  actorUserId := some actorUserId
  entityType := "milestone"
  entityId := some milestone.id
  action := "milestone.created"
  metadata := .object [
    ("vault_id", .ofUuid milestone.vaultId),
    ("due_date", .string milestone.dueDate.iso),
    ("target_amount_minor", .ofInt64 milestone.targetAmount.amountMinor),
    ("currency", .string milestone.targetAmount.currency.asStr),
    ("payout_type", .string milestone.payoutType.asStr)]

/-- A contributor was added to a vault. -/
def contributorAdded (actorUserId : Uuid) (contributor : VaultContributorRow) : AuditLog where
  actorUserId := some actorUserId
  entityType := "vault_contributor"
  entityId := some contributor.id
  action := "vault_contributor.added"
  metadata := .object [
    ("vault_id", .ofUuid contributor.vaultId),
    ("contributor_user_id", .ofUuid contributor.contributorUserId),
    ("role_label", .string contributor.roleLabel)]

/-- A school was verified, or not. -/
def schoolVerified (actorUserId : Uuid) (school : SchoolRow) : AuditLog where
  actorUserId := some actorUserId
  entityType := "school"
  entityId := some school.id
  action := "school.verified"
  metadata := .object [
    ("verification_status", .string (asStr school.verificationStatus)),
    ("country", .string school.country),
    ("payout_method", .string school.payoutMethod.asStr)]

/-- A credential was issued; of the evidence and the anchor the event tells only whether there is
    one. -/
def achievementCredentialIssued (actorUserId : Uuid) (credential : AchievementCredential) :
    AuditLog where
  actorUserId := some actorUserId
  entityType := "achievement_credential"
  entityId := some credential.id
  action := "achievement_credential.issued"
  metadata := .object [
    ("credential_ref", .ofUuid credential.credentialRef),
    ("child_profile_id", .ofUuid credential.childProfileId),
    ("recipient_user_id", .ofOption .ofUuid credential.recipientUserId),
    ("school_id", .ofOption .ofUuid credential.schoolId),
    ("achievement_type", .string credential.achievementType.asStr),
    ("status", .string credential.status.asStr),
    ("achievement_date", .string credential.achievementDate.iso),
    ("issued_by_role", .string credential.issuedByRole),
    ("attestation_method", .string credential.attestationMethod),
    ("attestation_anchor_present", .bool credential.attestationAnchor.isSome),
    ("evidence_uri_present", .bool credential.evidenceUri.isSome)]

end AuditEvent

/-! ## Every place where an event is built

  The list is the domain of the statement below: an operation with the rows and inputs that its
  service has in hand, and the row it hands on, if it builds one. -/

/-- A service that builds an audit row, with what it has in hand there. -/
inductive AuditedOperation
  | recordContributionIntent (actor : AuthenticatedUser) (contribution : Contribution)
    (idempotencyKey : String)
  | settleContribution (actor : AuthenticatedUser) (current : Contribution)
    (targetStatus : ContributionStatus) (input : SettlementInput) (auditAction : String)
  | createPayoutRequest (actor : AuthenticatedUser) (payout : PayoutRequest) (vault : SavingsVault)
    (milestone : Milestone) (school : School)
  | reviewPayout (actor : AuthenticatedUser) (payout : PayoutRequest) (vault : SavingsVault)
    (milestone : Milestone) (school : School) (targetStatus : PayoutStatus)
    (input : ReviewPayoutInput) (auditAction : String)
  | createScholarshipPool (actor : AuthenticatedUser) (pool : ScholarshipPool)
  | fundScholarshipPool (actor : AuthenticatedUser) (pool : ScholarshipPool)
    (contribution : DonorContribution)
  | createScholarshipApplication (actor : AuthenticatedUser) (application : ScholarshipApplication)
  | approveApplication (actor : AuthenticatedUser) (application : ScholarshipApplication)
    (award : ScholarshipAward) (pool : ScholarshipPool)
  | rejectApplication (actor : AuthenticatedUser) (application : ScholarshipApplication)
    (award : ScholarshipAward) (pool : ScholarshipPool)
  | disburseAward (actor : AuthenticatedUser) (award : ScholarshipAward) (pool : ScholarshipPool)
    (input : UpdateScholarshipAwardInput)
  | revokeAward (actor : AuthenticatedUser) (award : ScholarshipAward) (pool : ScholarshipPool)
    (input : UpdateScholarshipAwardInput)
  | createSchool (actor : AuthenticatedUser) (school : SchoolRow)
  | verifySchool (actor : AuthenticatedUser) (input : VerifySchoolInput)
  | updateKycStatus (actor : AuthenticatedUser) (saved : KycProfile)
    (previousStatus : Option KycStatus)
  | issueCredential (actor : AuthenticatedUser) (credential : AchievementCredential)
  | createPlan (actor : AuthenticatedUser) (saved : SavingsPlan)
  | createMilestone (actor : AuthenticatedUser) (saved : MilestoneRow)
  | addContributor (actor : AuthenticatedUser) (saved : VaultContributorRow)
  | attachReference (actorUserId : Option Uuid) (reference : Chain.ExternalReference)

/-- The audit row that the service hands to the repository, if it builds one. -/
def AuditedOperation.audit : AuditedOperation → Option AuditLog
  | recordContributionIntent actor contribution idempotencyKey =>
    some { (AuditEvent.contributionRecorded actor.userId contribution).intoLog with
      metadata := .object [
        ("vault_id", .ofUuid contribution.vaultId),
        ("contributor_user_id", .ofUuid contribution.contributorUserId),
        ("amount_minor", .ofInt64 contribution.amount.amountMinor),
        ("currency", .string contribution.amount.currency.asStr),
        ("source_type", .string (asStr contribution.sourceType)),
        ("status", .string (asStr contribution.status)),
        ("idempotency_key", .string idempotencyKey)] }
  | settleContribution actor current targetStatus input auditAction =>
    some (settlementAudit actor.userId current targetStatus input.externalReference.isSome
      auditAction)
  | createPayoutRequest actor payout vault milestone school =>
    some { (AuditEvent.payoutRequested actor.userId payout).intoLog with
      metadata := .object [
        ("vault_id", .ofUuid vault.id),
        ("milestone_id", .ofUuid milestone.id),
        ("school_id", .ofUuid school.id),
        ("school_verification_status", .string (asStr school.verificationStatus)),
        ("amount_minor", .ofInt64 payout.amount.amountMinor),
        ("currency", .string payout.amount.currency.asStr),
        ("status", .string (asStr payout.status))] }
  | reviewPayout actor payout vault milestone school targetStatus input auditAction =>
    some (reviewAudit actor.userId payout vault milestone school targetStatus input auditAction)
  | createScholarshipPool actor pool =>
    some (scholarshipAudit actor.userId "scholarship_pool.created" pool.id (.object [
      ("owner_user_id", .ofUuid pool.ownerUserId),
      ("currency", .string pool.availableFunds.currency.asStr),
      ("geography_restriction", .ofOption .string pool.geographyRestriction),
      ("education_level_restriction", .ofOption .string pool.educationLevelRestriction),
      ("school_id_restriction", .ofOption .ofUuid pool.schoolIdRestriction),
      ("category_restriction", .ofOption .string pool.categoryRestriction)]))
  | fundScholarshipPool actor pool contribution =>
    some (scholarshipAudit actor.userId "scholarship_pool.funded" pool.id (.object [
      ("donor_user_id", .ofUuid actor.userId),
      ("amount_minor", .ofInt64 contribution.amount.amountMinor),
      ("currency", .string contribution.amount.currency.asStr),
      ("external_reference_present", .bool contribution.externalReference.isSome)]))
  | createScholarshipApplication actor application =>
    some (scholarshipAudit actor.userId "scholarship_application.submitted" application.id (.object [
      ("pool_id", .ofUuid application.poolId),
      ("child_profile_id", .ofUuid application.childProfileId),
      ("student_country", .ofOption .string application.studentCountry),
      ("education_level", .ofOption .string application.educationLevel),
      ("school_id", .ofOption .ofUuid application.schoolId),
      ("category", .ofOption .string application.category)]))
  | approveApplication actor application award pool =>
    some { (AuditEvent.scholarshipDecision actor.userId application.id award pool).intoLog with
      action := "scholarship_application.approved"
      metadata := .object [
        ("pool_id", .ofUuid application.poolId),
        ("award_id", .ofUuid award.id),
        ("decision", .string "approved"),
        ("amount_minor", .ofInt64 award.amount.amountMinor),
        ("currency", .string award.amount.currency.asStr),
        ("decision_notes_present", .bool (notesPresent award.decisionNotes))] }
  | rejectApplication actor application award pool =>
    some { (AuditEvent.scholarshipDecision actor.userId application.id award pool).intoLog with
      action := "scholarship_application.rejected"
      metadata := .object [
        ("pool_id", .ofUuid application.poolId),
        ("award_id", .ofUuid award.id),
        ("decision", .string "rejected"),
        ("decision_notes_present", .bool (notesPresent award.decisionNotes))] }
  | disburseAward actor award pool input =>
    some (scholarshipAudit actor.userId "scholarship_award.disbursed" award.id (.object [
      ("pool_id", .ofUuid pool.id),
      ("linked_payout_request_id", .ofOption .ofUuid input.linkedPayoutRequestId),
      ("linked_vault_id", .ofOption .ofUuid input.linkedVaultId),
      ("decision_notes_present", .bool (trimmedNotesPresent input.decisionNotes))]))
  | revokeAward actor award pool input =>
    some (scholarshipAudit actor.userId "scholarship_award.revoked" award.id (.object [
      ("pool_id", .ofUuid pool.id),
      ("decision_notes_present", .bool (trimmedNotesPresent input.decisionNotes))]))
  | createSchool actor school =>
    some { AuditEvent.schoolVerified actor.userId school with
      action := "school.created"
      metadata := .object [
        ("display_name", .string school.displayName),
        ("country", .string school.country),
        ("payout_method", .string school.payoutMethod.asStr),
        ("verification_status", .string (asStr school.verificationStatus))] }
  | verifySchool actor input =>
    let event : AuditEvent := {
      actorUserId := some actor.userId
      entityType := .school
      entityId := some input.schoolId
      action := .schoolVerified
      metadata := .object [("verification_status", .string (asStr input.verificationStatus))] }
    some { event.intoLog with action := "school.verification_status_changed" }
  | updateKycStatus actor saved previousStatus =>
    if previousStatus ≠ some saved.status then
      some (AuditEvent.kycStatusChanged (some actor.userId) saved previousStatus)
    else none
  | issueCredential actor credential =>
    some (AuditEvent.achievementCredentialIssued actor.userId credential)
  | createPlan actor saved => some (AuditEvent.planCreated actor.userId saved)
  | createMilestone actor saved => some (AuditEvent.milestoneCreated actor.userId saved)
  | addContributor actor saved => some (AuditEvent.contributorAdded actor.userId saved)
  | attachReference actorUserId reference => Chain.blockchainReferenceAttached actorUserId reference

/-- The event of a review step of a payout. -/
def AuditedOperation.IsReview : AuditedOperation → Prop
  | reviewPayout .. => True
  | _ => False

/-- Whether an operation is a review can be decided. -/
instance (op : AuditedOperation) : Decidable op.IsReview := by
  cases op <;> unfold AuditedOperation.IsReview <;> infer_instance

/-! ## What the redaction leaves of them

  An event is a flat object, so it is enough to look at its keys.  One list holds all keys that
  the matcher leaves alone, and the event of a review has one that is not among them. -/

/-- The keys of the events that are no secret to the matcher. -/
def plainKeys : List String := [
  "achievement_date", "achievement_type", "amount_minor", "application_id",
  "attestation_anchor_present", "attestation_method", "award_id", "category", "category_restriction",
  "child_profile_id", "contributor_user_id", "country", "credential_ref", "currency", "decision",
  "decision_notes_present", "display_name", "donor_user_id", "due_date", "education_level",
  "education_level_restriction", "entity_id", "entity_type", "evidence_uri_present",
  "external_reference_present", "from_status", "geography_restriction", "idempotency_key",
  "issued_by_role", "linked_payout_request_id", "linked_vault_id", "milestone_id", "owner_user_id",
  "payout_method", "payout_type", "pool_id", "recipient_user_id", "reference_kind",
  "reference_preview", "review_notes_present", "role_label", "school_id", "school_id_restriction",
  "school_verification_status", "source_type", "status", "student_country", "target_amount_minor",
  "to_status", "user_id", "vault_id", "verification_status"]

/-- The matcher leaves every key in the list. -/
theorem plainKeys_safe : ∀ key ∈ plainKeys, isSensitiveKey key = false := by
  decide +kernel

namespace Value

/-- Neither an array nor an object. -/
def IsScalar : Value → Prop
  | array _ => False
  | object _ => False
  | _ => True

/-- A text is a scalar. -/
@[simp] theorem isScalar_string (s : String) : (string s).IsScalar := trivial
/-- A truth value is a scalar. -/
@[simp] theorem isScalar_bool (b : Bool) : (bool b).IsScalar := trivial
/-- An id is a scalar, the text that it is written as. -/
@[simp] theorem isScalar_ofUuid (u : Uuid) : (ofUuid u).IsScalar := trivial
/-- A number is a scalar. -/
@[simp] theorem isScalar_ofInt64 (n : Int64) : (ofInt64 n).IsScalar := trivial

/-- An optional scalar is a scalar: `null` if there is none. -/
@[simp] theorem isScalar_ofOption {α : Type} (f : α → Value) (h : ∀ a, (f a).IsScalar)
    (o : Option α) : (ofOption f o).IsScalar := by
  cases o with
  | none => trivial
  | some a => exact h a

/-- The redaction leaves a scalar as it is. -/
theorem IsScalar.sanitize {v : Value} (h : v.IsScalar) : sanitizeJsonValue v = v := by
  cases v <;> first | rfl | exact h.elim

end Value

/-- A flat object under plain keys is kept as it is. -/
theorem sanitize_flat {fields : List (String × Value)}
    (h : ∀ field ∈ fields, field.1 ∈ plainKeys ∧ field.2.IsScalar) :
    sanitizeJsonValue (.object fields) = .object fields := by
  have hfields : ∀ field ∈ fields, sanitizeField field = field := by
    intro field hfield
    obtain ⟨hkey, hscalar⟩ := h field hfield
    rw [sanitizeField, plainKeys_safe _ hkey, if_neg Bool.false_ne_true, hscalar.sanitize]
  rw [sanitizeJsonValue, sanitizeFields_eq, List.map_congr_left hfields, List.map_id']

namespace AuditedOperation

variable {op : AuditedOperation} {log : AuditLog}

/-- Every event but that of a review is flat and under plain keys. -/
theorem sanitize_audit (h : op.audit = some log) (hreview : ¬ op.IsReview) :
    sanitizeJsonValue log.metadata = log.metadata := by
  -- the metadata is flat, and none of its keys is sensitive, so nothing is redacted
  cases op with
  | reviewPayout => exact absurd trivial hreview
  -- without a change there is no row to speak of
  | updateKycStatus actor saved previousStatus =>
    simp only [audit] at h
    split at h
    · cases h
      exact sanitize_flat (by simp [plainKeys])
    · cases h
  -- the preview must be cut without a panic for a row to exist
  | attachReference actorUserId reference =>
    simp only [audit, Chain.blockchainReferenceAttached] at h
    cases hpreview : Chain.previewValue reference.value with
    | none => rw [hpreview] at h; cases h
    | some preview =>
      rw [hpreview] at h
      cases h
      exact sanitize_flat (by simp [plainKeys])
  | _ =>
    cases h
    exact sanitize_flat (by simp [plainKeys])

/-- The event of a review loses whether there is an external payout reference. -/
theorem sanitize_audit_review (h : op.audit = some log) (hreview : op.IsReview) :
    sanitizeJsonValue log.metadata ≠ log.metadata := by
  cases op with
  | reviewPayout actor payout vault milestone school targetStatus input auditAction =>
    cases h
    intro hsame
    let st : Step := .field 7 "external_payout_reference_present"
    have hsensitive : st.Sensitive := by
      show isSensitiveKey "external_payout_reference_present" = true
      decide +kernel
    have hopen : Open [] := by simp [Open]
    have hmasked := at?_sanitize_sensitive hopen hsensitive
      (reviewAudit actor.userId payout vault milestone school targetStatus input auditAction).metadata
    rw [hsame] at hmasked
    -- there stands a flag, and not the mask
    have hflag : (reviewAudit actor.userId payout vault milestone school targetStatus input
        auditAction).metadata.at? ([] ++ [st]) =
        some (.bool input.externalPayoutReference.isSome) := rfl
    rw [hflag] at hmasked
    cases hmasked
  | _ => exact hreview.elim

/-- **The redaction keeps an event as the service built it if and only if it is not that of a review
    step of a payout.**

    The metadata of a review says whether there is an external payout reference, under a key that
    contains a sensitive word, so the flag is masked.  The keys of all other events are in
    `plainKeys`, and none of these is sensitive. -/
theorem redaction_keeps_iff (h : op.audit = some log) :
    (sanitizeAuditLog log).metadata = log.metadata ↔ ¬ op.IsReview :=
  ⟨fun hsame hreview => sanitize_audit_review h hreview hsame, sanitize_audit h⟩

end AuditedOperation

section

open Scenario

/-- A payout of 60 that is being processed. -/
def Scenario.processed : PayoutRequest where
  id := 2
  vaultId := 100
  milestoneId := 101
  schoolId := 102
  requestedBy := 1
  amount := ⟨60, usd, by decide⟩
  idempotencyKey := some "2"
  status := .processing
  reviewNotes := none
  externalPayoutReference := none
  reviewedBy := some 9

/-- The review that completes it, with the reference of the transfer. -/
def Scenario.completion : AuditedOperation :=
  .reviewPayout admin processed vault ⟨101, 100, .planned⟩ ⟨102, .verified, none⟩ .completed
    ⟨2, none, some "wire-1"⟩ "payout.completed"

/-- The service records that there is a reference, and the trail does not say so. -/
theorem completion_redacted : ∃ log, completion.audit = some log ∧
    log.metadata.at? [.field 7 "external_payout_reference_present"] = some (.bool true) ∧
    (sanitizeAuditLog log).metadata ≠ log.metadata :=
  ⟨_, rfl, rfl, @AuditedOperation.sanitize_audit_review completion _ rfl trivial⟩

/-- The verification of a school is kept as it is. -/
theorem redaction_keeps_verification : ∃ log,
    (AuditedOperation.verifySchool admin ⟨102, .verified⟩).audit = some log ∧
    (sanitizeAuditLog log).metadata = log.metadata :=
  ⟨_, rfl, (AuditedOperation.redaction_keeps_iff rfl).mpr
    (fun h : (AuditedOperation.verifySchool admin ⟨102, .verified⟩).IsReview => h)⟩

end

end EduStell
