/-
  The tables that are written one statement at a time: plans, milestones, contributors of a vault and
  KYC profiles, next to those of the auth service (`EduStell.Auth.Store`), which hold the users and
  the audit trail.

  The services here only read child profiles and vaults.

  The profile of a user is found by the user, and its id is an index of its own besides; the other
  tables are found by their ids, and a user contributes to a vault once.
-/
import EduStell.Trail.Events
import EduStell.Txn.Product

namespace EduStell.Records

open Txn

/-! ## Rows

  The columns that are written by these services; a milestone of `EduStell.Domain.Persistence` is
  only what payouts look at. -/

/-- A row of `savings_plans`. -/
structure SavingsPlanRow extends SavingsPlan where
  name : String
  description : Option String

/-- A row of `milestones`. -/
structure MilestoneRecord extends MilestoneRow where
  title : String
  description : Option String
  fundedAmount : Money

/-- A row of `kyc_profiles`. -/
structure KycProfileRow extends KycProfile where
  reviewedAt : Option DateTime

/-- `savings_plans_pkey`. -/
instance : Keyed SavingsPlanRow Uuid := ⟨fun x => x.id⟩
/-- `milestones_pkey`. -/
instance : Keyed MilestoneRecord Uuid := ⟨fun x => x.id⟩
/-- `vault_contributors_pkey`. -/
instance : Keyed VaultContributorRow Uuid := ⟨fun x => x.id⟩

/-- `user_id UUID NOT NULL UNIQUE` -/
instance : Keyed KycProfileRow Uuid := ⟨fun x => x.userId⟩

/-! ## The store

  Next to the tables of the auth service, in one product. -/

/-- The tables that these services read and write. -/
structure RecordsDb where
  childProfiles : Table ChildProfile
  vaults : Table SavingsVault
  plans : Table SavingsPlanRow
  milestones : Table MilestoneRecord
  vaultContributors : Table VaultContributorRow
  kycProfiles : Table KycProfileRow

/-- Rows under their keys, and entries of the secondary unique indexes. -/
inductive Resource
  | plan (id : Uuid)
  | milestone (id : Uuid)
  | vaultContributor (id : Uuid)
  | vaultContributorEntry (vaultId contributorUserId : Uuid)
  | kycProfile (userId : Uuid)
  | kycProfileId (id : Uuid)
  deriving DecidableEq

/-- What a lock returns: the row, or whether the entry is taken. -/
@[reducible] def Content : Resource → Type
  | .plan _ => Option SavingsPlanRow
  | .milestone _ => Option MilestoneRecord
  | .vaultContributor _ => Option VaultContributorRow
  | .vaultContributorEntry _ _ => Bool
  | .kycProfile _ => Option KycProfileRow
  | .kycProfileId _ => Bool

/-- The content of a resource in the tables. -/
def RecordsDb.content (s : RecordsDb) : (r : Resource) → Content r
  | .plan id => s.plans.find id
  | .milestone id => s.milestones.find id
  | .vaultContributor id => s.vaultContributors.find id
  | .vaultContributorEntry vaultId contributorUserId =>
    s.vaultContributors.any fun x => x.vaultId = vaultId && x.contributorUserId = contributorUserId
  | .kycProfile userId => s.kycProfiles.find userId
  | .kycProfileId id => s.kycProfiles.any fun x => x.id = id

/-- `SET status = EXCLUDED.status, provider_reference = …, reviewed_at = …` -/
def KycProfileRow.review (x excluded : KycProfileRow) : KycProfileRow :=
  { x with
    status := excluded.status
    providerReference := excluded.providerReference
    reviewedAt := excluded.reviewedAt }

/-- The statements of these services. -/
inductive Write
  | insertPlan (row : SavingsPlanRow)
  | insertMilestone (row : MilestoneRecord)
  | insertVaultContributor (row : VaultContributorRow)
  | insertKycProfile (row : KycProfileRow)
  | reviewKycProfile (excluded : KycProfileRow)

namespace Write

/-- What a statement does to the tables. -/
def apply : Write → RecordsDb → RecordsDb
  | insertPlan row, s => { s with plans := s.plans.insert row }
  | insertMilestone row, s => { s with milestones := s.milestones.insert row }
  | insertVaultContributor row, s =>
    { s with vaultContributors := s.vaultContributors.insert row }
  | insertKycProfile row, s => { s with kycProfiles := s.kycProfiles.insert row }
  | reviewKycProfile excluded, s =>
    { s with kycProfiles :=
        s.kycProfiles.modify excluded.userId (fun x => x.review excluded) fun _ h => h }

/-- What a statement changes. -/
def Touches : Write → Resource → Prop
  | insertPlan row, r => r = .plan row.id
  | insertMilestone row, r => r = .milestone row.id
  | insertVaultContributor row, r => r = .vaultContributor row.id ∨
    r = .vaultContributorEntry row.vaultId row.contributorUserId
  | insertKycProfile row, r => r = .kycProfile row.userId ∨ r = .kycProfileId row.id
  | reviewKycProfile excluded, r => r = .kycProfile excluded.userId

/-- A statement leaves the content outside its footprint alone. -/
theorem content_of_not_touches {w : Write} {r : Resource} {s : RecordsDb} (h : ¬ w.Touches r) :
    (w.apply s).content r = s.content r := by
  cases w with
  | insertPlan row =>
    cases r with
    | plan id => exact Table.find_insert_ne _ _ fun he => h (he ▸ rfl)
    | _ => rfl
  | insertMilestone row =>
    cases r with
    | milestone id => exact Table.find_insert_ne _ _ fun he => h (he ▸ rfl)
    | _ => rfl
  | insertVaultContributor row =>
    cases r with
    | vaultContributor id => exact Table.find_insert_ne _ _ fun he => h (.inl (he ▸ rfl))
    | vaultContributorEntry vaultId contributorUserId =>
      refine Table.any_insert_of_not _ _ ?_
      by_contra hentry
      simp only [Bool.not_eq_false, Bool.and_eq_true, decide_eq_true_eq] at hentry
      obtain ⟨rfl, rfl⟩ := hentry
      exact h (.inr rfl)
    | _ => rfl
  | insertKycProfile row =>
    cases r with
    | kycProfile userId => exact Table.find_insert_ne _ _ fun he => h (.inl (he ▸ rfl))
    | kycProfileId id =>
      exact Table.any_insert_of_not _ _ (decide_eq_false fun he => h (.inr (he ▸ rfl)))
    | _ => rfl
  | reviewKycProfile excluded =>
    cases r with
    | kycProfile userId =>
      exact Table.find_modify_ne _ (ne_of_apply_ne Resource.kycProfile h) _ fun _ hk => by exact hk
    | kycProfileId id => exact Table.any_modify _ _ _ (fun _ hk => by exact hk) fun _ => rfl
    | _ => rfl

/-- What a statement makes of its footprint depends on the footprint alone. -/
theorem content_congr {w : Write} {s s' : RecordsDb}
    (h : ∀ r, w.Touches r → s.content r = s'.content r) {r : Resource} (hr : w.Touches r) :
    (w.apply s).content r = (w.apply s').content r := by
  cases w with
  | insertPlan row => cases hr; exact Table.find_insert_congr _ (h _ rfl)
  | insertMilestone row => cases hr; exact Table.find_insert_congr _ (h _ rfl)
  | insertVaultContributor row =>
    have hid := h _ (.inl rfl)
    rcases hr with rfl | rfl
    · exact Table.find_insert_congr _ hid
    · exact Table.any_insert_congr _ hid (h _ (.inr rfl))
  | insertKycProfile row =>
    have hid := h _ (.inl rfl)
    rcases hr with rfl | rfl
    · exact Table.find_insert_congr _ hid
    · exact Table.any_insert_congr _ hid (h _ (.inr rfl))
  | reviewKycProfile excluded =>
    cases hr
    exact Table.find_modify_congr (h _ rfl) _ fun _ hk => by exact hk

end Write

/-- The statements and locks of the record tables as a store. -/
instance : Store RecordsDb Content Write where
  get := RecordsDb.content
  apply := Write.apply
  touches := Write.Touches
  get_of_not_touches := Write.content_of_not_touches
  get_congr h _ hr := Write.content_congr h hr

/-- Both sides of the database. -/
abbrev World : Type := Auth.AuthDb × RecordsDb

/-- A transaction that may work on the auth tables and on the record tables. -/
abbrev Tx (ε α : Type) : Type :=
  Program World (Sum.elim Auth.Content Content) (Auth.Write ⊕ Write) ε α

end EduStell.Records
