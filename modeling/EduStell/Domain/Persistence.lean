/-
  The records of `domain::persistence` and `domain::auth`, as far as the modelled services use them.

  Left out of every record: `created_at`, `updated_at`, `reviewed_at` (set by the database or a
  trigger, read by no decision), the columns that no modelled function reads (a vault's plan, status
  and wallet, a milestone's title, amounts and dates, a school's names, country and payout data, a
  child's name and birth date), and the ids of ledger and audit rows.

  A record carries the CHECK constraints of its table as fields: the three totals of a vault are
  never negative, and neither is an amount of money (`Money`) or a ledger balance.

  Each record comes with its key (`Keyed`), and each enumeration with the texts of its column
  (`StringEnum`), of which it is proved once that what is stored is read back.
-/
import EduStell.Shared
import EduStell.Txn.Table

namespace EduStell

open Txn (Keyed)

/-! ## Enumerations with a text form

  Nine enumerations of the source are made by one macro.  Here they are instances of one class:
  the list of variants is the parser, and that each variant is found by its text is a field,
  decided once for each enumeration. -/

/-- What the macro `string_enum!` generates: the variants, their texts, and the parser that looks a
    text up among them. -/
class StringEnum (α : Type) where
  name : String
  variants : List α
  asStr : α → String
  find_asStr : ∀ a, variants.find? (fun b => asStr b = asStr a) = some a

export StringEnum (asStr)

/-- `FromStr` of a stored enumeration: the variant with this text, or an error that names the type.
    -/
def StringEnum.parse (α : Type) [StringEnum α] (value : String) : Except String α :=
  match (StringEnum.variants (α := α)).find? (fun a => asStr a = value) with
  | some a => .ok a
  | none => .error ("invalid " ++ StringEnum.name α)

/-- What is stored is read back. -/
@[simp] theorem StringEnum.parse_asStr {α : Type} [StringEnum α] (a : α) :
    StringEnum.parse α (asStr a) = .ok a := by
  rw [StringEnum.parse, StringEnum.find_asStr]

/-- Two variants never share a text. -/
theorem StringEnum.asStr_injective {α : Type} [StringEnum α] {a b : α} (h : asStr a = asStr b) :
    a = b := by
  have hb := StringEnum.parse_asStr b
  rw [← h, StringEnum.parse_asStr] at hb
  exact Except.ok.inj hb

/-- `MilestoneStatus`: money is paid for a milestone until it is paid in full or cancelled. -/
inductive MilestoneStatus
  | planned | funded | partiallyPaid | paid | cancelled
  deriving DecidableEq, Repr

/-- The text that the column `milestones.status` holds. -/
def MilestoneStatus.asStr : MilestoneStatus → String
  | planned => "planned"
  | funded => "funded"
  | partiallyPaid => "partially_paid"
  | paid => "paid"
  | cancelled => "cancelled"

/-- The texts that a `MilestoneStatus` is parsed from. -/
instance : StringEnum MilestoneStatus where
  name := "MilestoneStatus"
  variants := [.planned, .funded, .partiallyPaid, .paid, .cancelled]
  asStr := MilestoneStatus.asStr
  find_asStr a := by cases a <;> decide

/-- `SchoolVerificationStatus`: money goes to a school only while it is verified. -/
inductive SchoolVerificationStatus
  | pending | verified | rejected
  deriving DecidableEq, Repr

/-- The text that the column `schools.verification_status` holds. -/
def SchoolVerificationStatus.asStr : SchoolVerificationStatus → String
  | pending => "pending"
  | verified => "verified"
  | rejected => "rejected"

/-- The texts that a `SchoolVerificationStatus` is parsed from. -/
instance : StringEnum SchoolVerificationStatus where
  name := "SchoolVerificationStatus"
  variants := [.pending, .verified, .rejected]
  asStr := SchoolVerificationStatus.asStr
  find_asStr a := by cases a <;> decide

/-- `ContributionStatus`: the amount counts in the vault from `confirmed` until `reversed`. -/
inductive ContributionStatus
  | pending | confirmed | failed | reversed
  deriving DecidableEq, Repr

/-- The text that the column `contributions.status` holds. -/
def ContributionStatus.asStr : ContributionStatus → String
  | pending => "pending"
  | confirmed => "confirmed"
  | failed => "failed"
  | reversed => "reversed"

/-- The texts that a `ContributionStatus` is parsed from. -/
instance : StringEnum ContributionStatus where
  name := "ContributionStatus"
  variants := [.pending, .confirmed, .failed, .reversed]
  asStr := ContributionStatus.asStr
  find_asStr a := by cases a <;> decide

/-- `ContributionSourceType`: how the money comes. -/
inductive ContributionSourceType
  | fiat | usdc | manual
  deriving DecidableEq, Repr

/-- The text that the column `contributions.source_type` holds. -/
def ContributionSourceType.asStr : ContributionSourceType → String
  | fiat => "fiat"
  | usdc => "usdc"
  | manual => "manual"

/-- The texts that a `ContributionSourceType` is parsed from. -/
instance : StringEnum ContributionSourceType where
  name := "ContributionSourceType"
  variants := [.fiat, .usdc, .manual]
  asStr := ContributionSourceType.asStr
  find_asStr a := by cases a <;> decide

/-- `PayoutStatus`: the amount is locked in the vault from `approved` until `completed` or `failed`. -/
inductive PayoutStatus
  | pending | underReview | approved | rejected | processing | completed | failed
  deriving DecidableEq, Repr

/-- The text that the column `payout_requests.status` holds. -/
def PayoutStatus.asStr : PayoutStatus → String
  | pending => "pending"
  | underReview => "under_review"
  | approved => "approved"
  | rejected => "rejected"
  | processing => "processing"
  | completed => "completed"
  | failed => "failed"

/-- The texts that a `PayoutStatus` is parsed from. -/
instance : StringEnum PayoutStatus where
  name := "PayoutStatus"
  variants := [.pending, .underReview, .approved, .rejected, .processing, .completed, .failed]
  asStr := PayoutStatus.asStr
  find_asStr a := by cases a <;> decide

/-- `ScholarshipPoolStatus`: a closed pool takes neither money nor applications. -/
inductive ScholarshipPoolStatus
  | «open» | closed
  deriving DecidableEq, Repr

/-- The text that the column `scholarship_pools.status` holds. -/
def ScholarshipPoolStatus.asStr : ScholarshipPoolStatus → String
  | «open» => "open"
  | closed => "closed"

/-- The texts that a `ScholarshipPoolStatus` is parsed from. -/
instance : StringEnum ScholarshipPoolStatus where
  name := "ScholarshipPoolStatus"
  variants := [.open, .closed]
  asStr := ScholarshipPoolStatus.asStr
  find_asStr a := by cases a <;> decide

/-- `ScholarshipApplicationStatus`: the first two wait for a decision. -/
inductive ScholarshipApplicationStatus
  | submitted | underReview | approved | rejected
  deriving DecidableEq, Repr

/-- The text that the column `scholarship_applications.status` holds. -/
def ScholarshipApplicationStatus.asStr : ScholarshipApplicationStatus → String
  | submitted => "submitted"
  | underReview => "under_review"
  | approved => "approved"
  | rejected => "rejected"

/-- The texts that a `ScholarshipApplicationStatus` is parsed from. -/
instance : StringEnum ScholarshipApplicationStatus where
  name := "ScholarshipApplicationStatus"
  variants := [.submitted, .underReview, .approved, .rejected]
  asStr := ScholarshipApplicationStatus.asStr
  find_asStr a := by cases a <;> decide

/-- `ScholarshipAwardStatus`: an award is stored as approved or rejected, and only an approved one goes
    on. -/
inductive ScholarshipAwardStatus
  | approved | rejected | disbursed | revoked
  deriving DecidableEq, Repr

/-- The text that the column `scholarship_awards.status` holds. -/
def ScholarshipAwardStatus.asStr : ScholarshipAwardStatus → String
  | approved => "approved"
  | rejected => "rejected"
  | disbursed => "disbursed"
  | revoked => "revoked"

/-- The texts that a `ScholarshipAwardStatus` is parsed from. -/
instance : StringEnum ScholarshipAwardStatus where
  name := "ScholarshipAwardStatus"
  variants := [.approved, .rejected, .disbursed, .revoked]
  asStr := ScholarshipAwardStatus.asStr
  find_asStr a := by cases a <;> decide

/-- `DonorContributionStatus`: stored as `confirmed`, and no service changes it. -/
inductive DonorContributionStatus
  | confirmed | reversed
  deriving DecidableEq, Repr

/-- The text that the column `donor_contributions.status` holds. -/
def DonorContributionStatus.asStr : DonorContributionStatus → String
  | confirmed => "confirmed"
  | reversed => "reversed"

/-- The texts that a `DonorContributionStatus` is parsed from. -/
instance : StringEnum DonorContributionStatus where
  name := "DonorContributionStatus"
  variants := [.confirmed, .reversed]
  asStr := DonorContributionStatus.asStr
  find_asStr a := by cases a <;> decide

/-! ## Actors

  An actor is what the access token says; the services look at the id and the role, and never at
  the user's row. -/

/-- `UserRole`: what every check of access starts from. -/
inductive UserRole
  | parent | contributor | student | schoolAdmin | donor | platformAdmin
  deriving DecidableEq, Repr

/-- `AuthenticatedUser`: who sends a request, as the access token tells it. -/
structure AuthenticatedUser where
  userId : Uuid
  role : UserRole
  deriving DecidableEq

/-! ## Rows

  The CHECK constraints of a table are fields of its record.  So a service that builds a row has
  to show that the row can be stored, or to fail as PostgreSQL does. -/

/-- `ChildProfile`: whose child it is, and the level that an application falls back to. -/
structure ChildProfile where
  id : Uuid
  ownerUserId : Uuid
  educationLevel : Option String

/-- `version` counts the writes of the row; its `BIGINT` limit is out of reach and not modelled. -/
structure SavingsVault where
  id : Uuid
  ownerUserId : Uuid
  currency : String
  totalContributedMinor : Int64
  totalLockedMinor : Int64
  totalDisbursedMinor : Int64
  externalContractRef : Option String
  version : Nat
  contributed_nonneg : 0 ≤ totalContributedMinor
  locked_nonneg : 0 ≤ totalLockedMinor
  disbursed_nonneg : 0 ≤ totalDisbursedMinor

/-- `VaultContributor`: a user who may pay into a vault that is not his. -/
structure VaultContributor where
  vaultId : Uuid
  contributorUserId : Uuid

/-- `Milestone`: the vault it belongs to, and whether it can still be paid. -/
structure Milestone where
  id : Uuid
  vaultId : Uuid
  status : MilestoneStatus

/-- `Contribution`: money that is promised to a vault, and what has become of it. -/
structure Contribution where
  id : Uuid
  vaultId : Uuid
  contributorUserId : Uuid
  amount : Money
  status : ContributionStatus
  sourceType : ContributionSourceType
  externalReference : Option String
  idempotencyKey : Option String

/-- `School`: whether money may be paid to it, and who has verified that. -/
structure School where
  id : Uuid
  verificationStatus : SchoolVerificationStatus
  verifiedBy : Option Uuid

/-- `PayoutRequest`: money that is to go from a vault to a school for a milestone. -/
structure PayoutRequest where
  id : Uuid
  vaultId : Uuid
  milestoneId : Uuid
  schoolId : Uuid
  requestedBy : Uuid
  amount : Money
  idempotencyKey : Option String
  status : PayoutStatus
  reviewNotes : Option String
  externalPayoutReference : Option String
  reviewedBy : Option Uuid

/-- `ScholarshipPool`: the balance and the four restrictions that an application has to meet. -/
structure ScholarshipPool where
  id : Uuid
  ownerUserId : Uuid
  name : String
  description : Option String
  status : ScholarshipPoolStatus
  availableFunds : Money
  geographyRestriction : Option String
  educationLevelRestriction : Option String
  schoolIdRestriction : Option Uuid
  categoryRestriction : Option String

/-- `ScholarshipApplication`: a child, put forward for an award of a pool. -/
structure ScholarshipApplication where
  id : Uuid
  poolId : Uuid
  applicantUserId : Uuid
  childProfileId : Uuid
  studentCountry : Option String
  educationLevel : Option String
  schoolId : Option Uuid
  category : Option String
  status : ScholarshipApplicationStatus
  notes : Option String

/-- `ScholarshipAward`: the decision of an application, and later what it has been paid with. -/
structure ScholarshipAward where
  id : Uuid
  applicationId : Uuid
  decidedBy : Uuid
  amount : Money
  status : ScholarshipAwardStatus
  decisionNotes : Option String
  linkedPayoutRequestId : Option Uuid
  linkedVaultId : Option Uuid

/-- `DonorContribution`: money that has been given to a pool. -/
structure DonorContribution where
  id : Uuid
  poolId : Uuid
  donorUserId : Uuid
  amount : Money
  status : DonorContributionStatus
  externalReference : Option String
  idempotencyKey : Option String

/-! ## Primary keys

  A table asks for a key, and for nothing else of its rows. -/

/-- `child_profiles_pkey`. -/
instance : Keyed ChildProfile Uuid := ⟨ChildProfile.id⟩
/-- `savings_vaults_pkey`. -/
instance : Keyed SavingsVault Uuid := ⟨SavingsVault.id⟩
/-- A user is a contributor of a vault at most once. -/
instance : Keyed VaultContributor (Uuid × Uuid) := ⟨fun x => (x.vaultId, x.contributorUserId)⟩
/-- `milestones_pkey`. -/
instance : Keyed Milestone Uuid := ⟨Milestone.id⟩
/-- `contributions_pkey`. -/
instance : Keyed Contribution Uuid := ⟨Contribution.id⟩
/-- `schools_pkey`. -/
instance : Keyed School Uuid := ⟨School.id⟩
/-- `payout_requests_pkey`. -/
instance : Keyed PayoutRequest Uuid := ⟨PayoutRequest.id⟩
/-- `scholarship_pools_pkey`. -/
instance : Keyed ScholarshipPool Uuid := ⟨ScholarshipPool.id⟩
/-- `scholarship_applications_pkey`. -/
instance : Keyed ScholarshipApplication Uuid := ⟨ScholarshipApplication.id⟩
/-- `scholarship_awards_pkey`. -/
instance : Keyed ScholarshipAward Uuid := ⟨ScholarshipAward.id⟩
/-- `donor_contributions_pkey`. -/
instance : Keyed DonorContribution Uuid := ⟨DonorContribution.id⟩

end EduStell
