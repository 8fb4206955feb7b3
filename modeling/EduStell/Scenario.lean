/-
  Rows to run the services on: one family, one school, one vault, one scholarship pool.

  The general theorems speak of any database; the runs that show their hypotheses to be met, or a
  guarantee to be missing, all start from the few rows below.

  Amounts and ids are small numbers, so that a run can be read; no general result depends on it.
-/
import EduStell.Requests

namespace EduStell

open Txn

namespace Scenario

/-- No rows at all. -/
def empty : Db where
  childProfiles := .empty
  vaults := .empty
  vaultContributors := .empty
  milestones := .empty
  schools := .empty
  contributions := .empty
  payouts := .empty
  pools := .empty
  applications := .empty
  awards := .empty
  donorContributions := .empty
  ledger := []
  audit := []

/-- A table of one row. -/
def row {α κ : Type} [Keyed α κ] (x : α) : Table α := ⟨[x], List.nodup_singleton _⟩

/-- Who settles and reviews. -/
def admin : AuthenticatedUser := ⟨9, .platformAdmin⟩

/-- The owner of the vault. -/
def parent : AuthenticatedUser := ⟨1, .parent⟩

/-- The currency of everything in the runs. -/
def usd : Currency := .fiat "USD"

/-- The vault of the parent, before the first contribution. -/
def vault : SavingsVault where
  id := 100
  ownerUserId := 1
  currency := "USD"
  totalContributedMinor := 0
  totalLockedMinor := 0
  totalDisbursedMinor := 0
  externalContractRef := none
  version := 0
  contributed_nonneg := by decide
  locked_nonneg := by decide
  disbursed_nonneg := by decide

/-- A family with a vault, a milestone and a verified school, and no request yet. -/
def family : Db := { empty with
  vaults := row vault
  milestones := row ⟨101, 100, .planned⟩
  schools := row ⟨102, .verified, none⟩ }

/-- Contribution `id` of `amount` to the vault. -/
def record (id : Uuid) (amount : Int64) : Request :=
  .record id parent ⟨100, amount, usd, .fiat, none, toString id.toNat⟩

/-- Payout `id` of `amount` from the vault. -/
def payout (id : Uuid) (amount : Int64) : Request :=
  .createPayout id parent ⟨100, 101, 102, amount, usd, toString id.toNat⟩

/-- A settlement without an external reference. -/
def settle (tr : ContributionTransition) (id : Uuid) : Request := .settle tr admin ⟨id, none⟩

/-- A review step without notes. -/
def review (tr : PayoutTransition) (id : Uuid) : Request := .review tr admin ⟨id, none, none⟩

/-! ## Scholarships

  Each of the functions below is one request of the scholarship service, with the values that do
  not matter to a run filled in. -/

/-- Who funds the pools. -/
def donor : AuthenticatedUser := ⟨2, .donor⟩

/-- A child of the parent, the vault an award is paid into, and no pool yet. -/
def pupil : Db := { empty with
  childProfiles := row ⟨103, 1, none⟩
  vaults := row vault }

/-- Pool `id`, without restrictions. -/
def createPool (id : Uuid) : Request := .createPool id donor ⟨"pool", none, usd, none, none, none, none⟩

/-- Donor contribution `id` of `amount`. -/
def fundPool (id poolId : Uuid) (amount : Int64) : Request :=
  .fundPool id donor ⟨poolId, amount, usd, none, toString id.toNat⟩

/-- Application `id` for the child. -/
def apply (id poolId : Uuid) : Request :=
  .createApplication id parent ⟨poolId, 103, none, none, none, none, none⟩

/-- Award `id` of `amount`. -/
def approve (id applicationId : Uuid) (amount : Int64) : Request :=
  .approve id admin ⟨applicationId, amount, usd, none⟩

/-- The award is paid into the vault. -/
def disburse (awardId : Uuid) : Request := .disburse admin ⟨awardId, none, none, some 100⟩

/-- The award is taken back. -/
def revoke (awardId : Uuid) : Request := .revoke admin ⟨awardId, none, none, none⟩

/-! ## Interleaved runs

  A slot that runs undisturbed takes its statements one after another; events beyond its end do
  nothing, so `n` need not be exact. -/

/-- Slot `i` serves `q` to its end (at most `n` statements), undisturbed. -/
def alone (i : Nat) (q : Request) (n : Nat) : List Happening := .call i q :: List.replicate n (.step i)

end Scenario
end EduStell
