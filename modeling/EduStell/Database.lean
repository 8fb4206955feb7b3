/-
  The PostgreSQL schema as a transactional store: the tables of the modelled services, what a
  transaction can lock in them, and the write statements of the workflow repositories.

  * A row is locked by its primary key; an INSERT also locks its entry in every other unique index
    (`idempotency_key`), which is how a second insert of the same key waits for the first.
  * A `Write` is one SQL statement.  UPDATEs name the columns they set, so that a row keeps the
    others; the CHECK constraints of the columns they set are arguments of the statement.
  * `audit_logs` and `vault_ledger_entries` are append-only lists in commit order.

  Foreign keys are not modelled.  No modelled request deletes a row, so a reference that held goes on
  holding; but an id that a request body brings along and that no row ever had (the school a pool or
  an application names, the payout and the vault a disbursement links) is stored here where PostgreSQL
  refuses the statement with 23503.  The refusal rolls back: every committed state of the code is one
  of the model, which has more.

  The order of the module is that of a schema: the tables, the resources that can be locked, what
  a lock returns (`Db.content`), the statements with their effect (`Write.apply`), and the
  footprint of each (`Write.Touches`).  Two lemmas make it a `Store`: a statement leaves alone
  what is outside its footprint, and inside of it depends on nothing else.
-/
import EduStell.Audit
import EduStell.Domain.Contributions
import EduStell.Txn.Program

namespace EduStell

open Txn

/-- The database. -/
structure Db where
  childProfiles : Table ChildProfile
  vaults : Table SavingsVault
  vaultContributors : Table VaultContributor
  milestones : Table Milestone
  schools : Table School
  contributions : Table Contribution
  payouts : Table PayoutRequest
  pools : Table ScholarshipPool
  applications : Table ScholarshipApplication
  awards : Table ScholarshipAward
  donorContributions : Table DonorContribution
  ledger : List VaultLedgerEntry
  audit : List AuditLog

/-! ## What can be locked

  The index entries are resources of their own: two inserts with the same idempotency key have
  different primary keys, and it is the entry that makes the second one wait and fail. -/

/-- What a statement can wait for: a row by its primary key, or the entry of a unique index. No
    index joins the awards of one application, so two of them do not wait for each other. -/
inductive Resource
  | vault (id : Uuid)
  | school (id : Uuid)
  | contribution (id : Uuid)
  | contributionKey (key : String)
  | payout (id : Uuid)
  | payoutKey (key : String)
  | pool (id : Uuid)
  | application (id : Uuid)
  | award (id : Uuid)
  | donorContribution (id : Uuid)
  | donorContributionKey (key : String)
  deriving DecidableEq

/-- What the holder of a lock sees: the row, or for an index entry whether it is taken. -/
@[reducible] def Content : Resource → Type
  | .vault _ => Option SavingsVault
  | .school _ => Option School
  | .contribution _ => Option Contribution
  | .contributionKey _ => Bool
  | .payout _ => Option PayoutRequest
  | .payoutKey _ => Bool
  | .pool _ => Option ScholarshipPool
  | .application _ => Option ScholarshipApplication
  | .award _ => Option ScholarshipAward
  | .donorContribution _ => Option DonorContribution
  | .donorContributionKey _ => Bool

/-- What the holder of a lock looks at: the row, or whether the index has the entry. -/
def Db.content (s : Db) : (r : Resource) → Content r
  | .vault id => s.vaults.find id
  | .school id => s.schools.find id
  | .contribution id => s.contributions.find id
  | .contributionKey key => s.contributions.any fun c => c.idempotencyKey = some key
  | .payout id => s.payouts.find id
  | .payoutKey key => s.payouts.any fun p => p.idempotencyKey = some key
  | .pool id => s.pools.find id
  | .application id => s.applications.find id
  | .award id => s.awards.find id
  | .donorContribution id => s.donorContributions.find id
  | .donorContributionKey key => s.donorContributions.any fun c => c.idempotencyKey = some key

/-! ## What the UPDATE statements make of a row

`COALESCE($n, column)` is `Option.or`. -/

/-- The three totals of a vault have a CHECK each; whoever writes one has to show that it holds. -/
def SavingsVault.setTotals (v : SavingsVault) (totalContributedMinor : Int64)
    (h : 0 ≤ totalContributedMinor) : SavingsVault :=
  { v with
    totalContributedMinor := totalContributedMinor, version := v.version + 1,
    contributed_nonneg := h }

/-- A payout moves money between these two columns, or out of the first. -/
def SavingsVault.setLockedAndDisbursed (v : SavingsVault)
    (totalLockedMinor totalDisbursedMinor : Int64) (hl : 0 ≤ totalLockedMinor)
    (hd : 0 ≤ totalDisbursedMinor) : SavingsVault :=
  { v with
    totalLockedMinor := totalLockedMinor, totalDisbursedMinor := totalDisbursedMinor,
    version := v.version + 1, locked_nonneg := hl, disbursed_nonneg := hd }

/-- The columns that `update_balances` sets. -/
def SavingsVault.setBalances (v : SavingsVault) (totalContributedMinor totalLockedMinor : Int64)
    (hc : 0 ≤ totalContributedMinor) (hl : 0 ≤ totalLockedMinor) : SavingsVault :=
  { v with
    totalContributedMinor := totalContributedMinor, totalLockedMinor := totalLockedMinor,
    version := v.version + 1, contributed_nonneg := hc, locked_nonneg := hl }

/-- The status, and the reference if one is given: `COALESCE(new, old)`. -/
def Contribution.settle (c : Contribution) (status : ContributionStatus)
    (externalReference : Option String) : Contribution :=
  { c with status := status, externalReference := externalReference.or c.externalReference }

/-- The status of a school, and who has set it. -/
def School.verify (x : School) (status : SchoolVerificationStatus) (verifiedBy : Uuid) : School :=
  { x with verificationStatus := status, verifiedBy := some verifiedBy }

/-- The status of a payout; notes and reference stay where none are given. -/
def PayoutRequest.review (p : PayoutRequest) (status : PayoutStatus)
    (reviewNotes externalPayoutReference : Option String) (reviewedBy : Uuid) : PayoutRequest :=
  { p with
    status := status, reviewNotes := reviewNotes.or p.reviewNotes,
    externalPayoutReference := externalPayoutReference.or p.externalPayoutReference,
    reviewedBy := some reviewedBy }

/-- The balance of a pool; its currency stays. -/
def ScholarshipPool.setFunds (x : ScholarshipPool) (availableFundsMinor : Int64)
    (h : 0 ≤ availableFundsMinor) : ScholarshipPool :=
  { x with availableFunds := ⟨availableFundsMinor, x.availableFunds.currency, h⟩ }

/-- The only column of an application that is ever written again. -/
def ScholarshipApplication.setStatus (x : ScholarshipApplication)
    (status : ScholarshipApplicationStatus) : ScholarshipApplication :=
  { x with status := status }

/-- The status of an award; a link stays where none is given. -/
def ScholarshipAward.transition (x : ScholarshipAward) (status : ScholarshipAwardStatus)
    (linkedPayoutRequestId linkedVaultId : Option Uuid) : ScholarshipAward :=
  { x with
    status := status,
    linkedPayoutRequestId := linkedPayoutRequestId.or x.linkedPayoutRequestId,
    linkedVaultId := linkedVaultId.or x.linkedVaultId }

/-! ## Write statements

  A statement carries what PostgreSQL has checked when it succeeds: the new totals of a vault come
  with proofs that they are not negative.  A statement whose CHECK fails is not written at all,
  and the program that sends it ends with an error (`EduStell.Persistence`). -/

/-- One INSERT or UPDATE.  The proofs that it carries are the CHECK constraints of the columns that
    it sets, so a statement that violates one is not a `Write`: the code that sends it fails. -/
inductive Write
  | setVaultTotals (id : Uuid) (totalContributedMinor : Int64) (h : 0 ≤ totalContributedMinor)
  | setVaultLocked (id : Uuid) (totalLockedMinor totalDisbursedMinor : Int64)
    (hl : 0 ≤ totalLockedMinor) (hd : 0 ≤ totalDisbursedMinor)
  | setVaultBalances (id : Uuid) (totalContributedMinor totalLockedMinor : Int64)
    (hc : 0 ≤ totalContributedMinor) (hl : 0 ≤ totalLockedMinor)
  | verifySchool (id : Uuid) (status : SchoolVerificationStatus) (verifiedBy : Uuid)
  | insertContribution (row : Contribution)
  | settleContribution (id : Uuid) (status : ContributionStatus) (externalReference : Option String)
  | insertPayout (row : PayoutRequest)
  | reviewPayout (id : Uuid) (status : PayoutStatus)
    (reviewNotes externalPayoutReference : Option String) (reviewedBy : Uuid)
  | insertPool (row : ScholarshipPool)
  | setPoolFunds (id : Uuid) (availableFundsMinor : Int64) (h : 0 ≤ availableFundsMinor)
  | insertApplication (row : ScholarshipApplication)
  | setApplicationStatus (id : Uuid) (status : ScholarshipApplicationStatus)
  | insertAward (row : ScholarshipAward)
  | transitionAward (id : Uuid) (status : ScholarshipAwardStatus)
    (linkedPayoutRequestId linkedVaultId : Option Uuid)
  | insertDonorContribution (row : DonorContribution)
  | insertLedgerEntry (row : VaultLedgerEntry)
  | insertAuditLog (row : AuditLog)

namespace Write

/-- What the statement makes of the tables.  An UPDATE of a row that is not there changes nothing.
    -/
def apply : Write → Db → Db
  | setVaultTotals id total h, s =>
    { s with vaults := s.vaults.modify id (fun v => v.setTotals total h) fun _ h => h }
  | setVaultLocked id locked disbursed hl hd, s =>
    { s with
      vaults :=
        s.vaults.modify id (fun v => v.setLockedAndDisbursed locked disbursed hl hd) fun _ h => h }
  | setVaultBalances id contributed locked hc hl, s =>
    { s with
      vaults := s.vaults.modify id (fun v => v.setBalances contributed locked hc hl) fun _ h => h }
  | verifySchool id status verifiedBy, s =>
    { s with schools := s.schools.modify id (fun x => x.verify status verifiedBy) fun _ h => h }
  | insertContribution row, s => { s with contributions := s.contributions.insert row }
  | settleContribution id status ref, s =>
    { s with contributions := s.contributions.modify id (fun c => c.settle status ref) fun _ h => h }
  | insertPayout row, s => { s with payouts := s.payouts.insert row }
  | reviewPayout id status notes ref reviewer, s =>
    { s with
      payouts := s.payouts.modify id (fun p => p.review status notes ref reviewer) fun _ h => h }
  | insertPool row, s => { s with pools := s.pools.insert row }
  | setPoolFunds id funds h, s =>
    { s with pools := s.pools.modify id (fun x => x.setFunds funds h) fun _ h => h }
  | insertApplication row, s => { s with applications := s.applications.insert row }
  | setApplicationStatus id status, s =>
    { s with applications := s.applications.modify id (fun x => x.setStatus status) fun _ h => h }
  | insertAward row, s => { s with awards := s.awards.insert row }
  | transitionAward id status payout vault, s =>
    { s with awards := s.awards.modify id (fun x => x.transition status payout vault) fun _ h => h }
  | insertDonorContribution row, s =>
    { s with donorContributions := s.donorContributions.insert row }
  | insertLedgerEntry row, s => { s with ledger := s.ledger ++ [row] }
  | insertAuditLog row, s => { s with audit := s.audit ++ [row] }

/-- The lockable content that a statement changes. -/
def Touches : Write → Resource → Prop
  | setVaultTotals id _ _, r => r = .vault id
  | setVaultLocked id _ _ _ _, r => r = .vault id
  | setVaultBalances id _ _ _ _, r => r = .vault id
  | verifySchool id _ _, r => r = .school id
  | insertContribution row, r =>
    r = .contribution row.id ∨ ∃ key, row.idempotencyKey = some key ∧ r = .contributionKey key
  | settleContribution id _ _, r => r = .contribution id
  | insertPayout row, r =>
    r = .payout row.id ∨ ∃ key, row.idempotencyKey = some key ∧ r = .payoutKey key
  | reviewPayout id _ _ _ _, r => r = .payout id
  | insertPool row, r => r = .pool row.id
  | setPoolFunds id _ _, r => r = .pool id
  | insertApplication row, r => r = .application row.id
  | setApplicationStatus id _, r => r = .application id
  | insertAward row, r => r = .award row.id
  | transitionAward id _ _ _, r => r = .award id
  | insertDonorContribution row, r =>
    r = .donorContribution row.id ∨
      ∃ key, row.idempotencyKey = some key ∧ r = .donorContributionKey key
  | insertLedgerEntry _, _ => False
  | insertAuditLog _, _ => False

end Write

/-! ## The store

  The instance of `Store` rests on two facts about every statement: content outside its footprint
  stays, and what it makes of its footprint depends on the footprint alone.  The general theory of
  sessions and locks needs nothing else of the schema. -/

/-- Different locks of one kind are locks of different ids. -/
theorem ne_of_not_eq {r : Uuid → Resource} {id id' : Uuid} (h : ¬ r id' = r id) : id' ≠ id :=
  fun he => h (he ▸ rfl)

/-- A statement leaves the content outside its footprint alone. -/
theorem Write.content_of_not_touches {w : Write} {r : Resource} {s : Db} (h : ¬ w.Touches r) :
    (w.apply s).content r = s.content r := by
  cases w with
  | setVaultTotals id total hv =>
    cases r with
    | vault id' => exact Table.find_modify_ne _ (ne_of_not_eq h) _ fun _ hk => by exact hk
    | _ => rfl
  | setVaultLocked id locked disbursed hl hd =>
    cases r with
    | vault id' => exact Table.find_modify_ne _ (ne_of_not_eq h) _ fun _ hk => by exact hk
    | _ => rfl
  | setVaultBalances id contributed locked hc hl =>
    cases r with
    | vault id' => exact Table.find_modify_ne _ (ne_of_not_eq h) _ fun _ hk => by exact hk
    | _ => rfl
  | verifySchool id status verifiedBy =>
    cases r with
    | school id' => exact Table.find_modify_ne _ (ne_of_not_eq h) _ fun _ hk => by exact hk
    | _ => rfl
  | insertContribution row =>
    cases r with
    | contribution id' => exact Table.find_insert_ne _ _ fun he => h (.inl (he ▸ rfl))
    | contributionKey key =>
      exact Table.any_insert_of_not _ _ (decide_eq_false fun he => h (.inr ⟨key, he, rfl⟩))
    | _ => rfl
  | settleContribution id status ref =>
    cases r with
    | contribution id' => exact Table.find_modify_ne _ (ne_of_not_eq h) _ fun _ hk => by exact hk
    | contributionKey key => exact Table.any_modify _ _ _ (fun _ hk => by exact hk) fun _ => rfl
    | _ => rfl
  | insertPayout row =>
    cases r with
    | payout id' => exact Table.find_insert_ne _ _ fun he => h (.inl (he ▸ rfl))
    | payoutKey key =>
      exact Table.any_insert_of_not _ _ (decide_eq_false fun he => h (.inr ⟨key, he, rfl⟩))
    | _ => rfl
  | reviewPayout id status notes ref reviewer =>
    cases r with
    | payout id' => exact Table.find_modify_ne _ (ne_of_not_eq h) _ fun _ hk => by exact hk
    | payoutKey key => exact Table.any_modify _ _ _ (fun _ hk => by exact hk) fun _ => rfl
    | _ => rfl
  | insertPool row =>
    cases r with
    | pool id' => exact Table.find_insert_ne _ _ fun he => h (he ▸ rfl)
    | _ => rfl
  | setPoolFunds id funds hf =>
    cases r with
    | pool id' => exact Table.find_modify_ne _ (ne_of_not_eq h) _ fun _ hk => by exact hk
    | _ => rfl
  | insertApplication row =>
    cases r with
    | application id' => exact Table.find_insert_ne _ _ fun he => h (he ▸ rfl)
    | _ => rfl
  | setApplicationStatus id status =>
    cases r with
    | application id' => exact Table.find_modify_ne _ (ne_of_not_eq h) _ fun _ hk => by exact hk
    | _ => rfl
  | insertAward row =>
    cases r with
    | award id' => exact Table.find_insert_ne _ _ fun he => h (he ▸ rfl)
    | _ => rfl
  | transitionAward id status payout vault =>
    cases r with
    | award id' => exact Table.find_modify_ne _ (ne_of_not_eq h) _ fun _ hk => by exact hk
    | _ => rfl
  | insertDonorContribution row =>
    cases r with
    | donorContribution id' => exact Table.find_insert_ne _ _ fun he => h (.inl (he ▸ rfl))
    | donorContributionKey key =>
      exact Table.any_insert_of_not _ _ (decide_eq_false fun he => h (.inr ⟨key, he, rfl⟩))
    | _ => rfl
  | insertLedgerEntry row => cases r <;> rfl
  | insertAuditLog row => cases r <;> rfl

/-- What a statement makes of its footprint depends on the footprint alone. -/
theorem Write.content_congr {w : Write} {s s' : Db}
    (h : ∀ r, w.Touches r → s.content r = s'.content r) {r : Resource} (hr : w.Touches r) :
    (w.apply s).content r = (w.apply s').content r := by
  cases w with
  | setVaultTotals id total hv =>
    cases hr
    exact Table.find_modify_congr (h _ rfl) _ fun _ hk => by exact hk
  | setVaultLocked id locked disbursed hl hd =>
    cases hr
    exact Table.find_modify_congr (h _ rfl) _ fun _ hk => by exact hk
  | setVaultBalances id contributed locked hc hl =>
    cases hr
    exact Table.find_modify_congr (h _ rfl) _ fun _ hk => by exact hk
  | verifySchool id status verifiedBy =>
    cases hr
    exact Table.find_modify_congr (h _ rfl) _ fun _ hk => by exact hk
  | insertContribution row =>
    have hid := h _ (.inl rfl)
    rcases hr with rfl | ⟨key, hkey, rfl⟩
    · exact Table.find_insert_congr _ hid
    · exact Table.any_insert_congr _ hid (h _ (.inr ⟨key, hkey, rfl⟩))
  | settleContribution id status ref =>
    cases hr
    exact Table.find_modify_congr (h _ rfl) _ fun _ hk => by exact hk
  | insertPayout row =>
    have hid := h _ (.inl rfl)
    rcases hr with rfl | ⟨key, hkey, rfl⟩
    · exact Table.find_insert_congr _ hid
    · exact Table.any_insert_congr _ hid (h _ (.inr ⟨key, hkey, rfl⟩))
  | reviewPayout id status notes ref reviewer =>
    cases hr
    exact Table.find_modify_congr (h _ rfl) _ fun _ hk => by exact hk
  | insertPool row => cases hr; exact Table.find_insert_congr _ (h _ rfl)
  | setPoolFunds id funds hf =>
    cases hr
    exact Table.find_modify_congr (h _ rfl) _ fun _ hk => by exact hk
  | insertApplication row => cases hr; exact Table.find_insert_congr _ (h _ rfl)
  | setApplicationStatus id status =>
    cases hr
    exact Table.find_modify_congr (h _ rfl) _ fun _ hk => by exact hk
  | insertAward row => cases hr; exact Table.find_insert_congr _ (h _ rfl)
  | transitionAward id status payout vault =>
    cases hr
    exact Table.find_modify_congr (h _ rfl) _ fun _ hk => by exact hk
  | insertDonorContribution row =>
    have hid := h _ (.inl rfl)
    rcases hr with rfl | ⟨key, hkey, rfl⟩
    · exact Table.find_insert_congr _ hid
    · exact Table.any_insert_congr _ hid (h _ (.inr ⟨key, hkey, rfl⟩))
  | insertLedgerEntry row => exact hr.elim
  | insertAuditLog row => exact hr.elim

/-- The tables are a store: a statement changes no more than its footprint, and reads no more than
    it for what it makes of it. -/
instance : Store Db Content Write where
  get := Db.content
  apply := Write.apply
  touches := Write.Touches
  get_of_not_touches := Write.content_of_not_touches
  get_congr h _ hr := Write.content_congr h hr

/-! ### What an UPDATE does to the row it meets -/

section Apply

variable {s : Db} {id : Uuid}

/-- The vault that is there is the vault that is changed. -/
theorem apply_setVaultTotals (v : SavingsVault) {total : Int64} {h : 0 ≤ total}
    (hv : s.vaults.find id = some v) : Store.apply (Write.setVaultTotals id total h) s
      = { s with vaults := s.vaults.replace (v.setTotals total h) } := by
  rw [← Table.modify_eq_replace hv (fun v => v.setTotals total h) fun _ hk => hk]; rfl

/-- Likewise the two columns of the payouts. -/
theorem apply_setVaultLocked (v : SavingsVault) {locked disbursed : Int64} {hl : 0 ≤ locked}
    {hd : 0 ≤ disbursed} (hv : s.vaults.find id = some v) :
    Store.apply (Write.setVaultLocked id locked disbursed hl hd) s
      = { s with vaults := s.vaults.replace (v.setLockedAndDisbursed locked disbursed hl hd) } := by
  rw [← Table.modify_eq_replace hv (fun v => v.setLockedAndDisbursed locked disbursed hl hd)
    fun _ hk => hk]; rfl

/-- Likewise the columns of `update_balances`. -/
theorem apply_setVaultBalances (v : SavingsVault) {contributed locked : Int64}
    {hc : 0 ≤ contributed} {hl : 0 ≤ locked} (hv : s.vaults.find id = some v) :
    Store.apply (Write.setVaultBalances id contributed locked hc hl) s
      = { s with vaults := s.vaults.replace (v.setBalances contributed locked hc hl) } := by
  rw [← Table.modify_eq_replace hv (fun v => v.setBalances contributed locked hc hl)
    fun _ hk => hk]; rfl

/-- The school that is there is the school that is changed. -/
theorem apply_verifySchool (x : School) {status : SchoolVerificationStatus} {verifiedBy : Uuid}
    (hx : s.schools.find id = some x) : Store.apply (Write.verifySchool id status verifiedBy) s
      = { s with schools := s.schools.replace (x.verify status verifiedBy) } := by
  rw [← Table.modify_eq_replace hx (fun x => x.verify status verifiedBy) fun _ hk => hk]; rfl

/-- The contribution that is there is the contribution that is settled. -/
theorem apply_settleContribution (c : Contribution) {status : ContributionStatus}
    {ref : Option String} (hc : s.contributions.find id = some c) :
    Store.apply (Write.settleContribution id status ref) s
      = { s with contributions := s.contributions.replace (c.settle status ref) } := by
  rw [← Table.modify_eq_replace hc (fun c => c.settle status ref) fun _ hk => hk]; rfl

/-- The payout that is there is the payout that is reviewed. -/
theorem apply_reviewPayout (p : PayoutRequest) {status : PayoutStatus} {notes ref : Option String}
    {reviewer : Uuid} (hp : s.payouts.find id = some p) :
    Store.apply (Write.reviewPayout id status notes ref reviewer) s
      = { s with payouts := s.payouts.replace (p.review status notes ref reviewer) } := by
  rw [← Table.modify_eq_replace hp (fun p => p.review status notes ref reviewer)
    fun _ hk => hk]; rfl

/-- The pool that is there is the pool whose balance is set. -/
theorem apply_setPoolFunds (x : ScholarshipPool) {funds : Int64} {h : 0 ≤ funds}
    (hx : s.pools.find id = some x) : Store.apply (Write.setPoolFunds id funds h) s
      = { s with pools := s.pools.replace (x.setFunds funds h) } := by
  rw [← Table.modify_eq_replace hx (fun x => x.setFunds funds h) fun _ hk => hk]; rfl

/-- The application that is there is the application that is decided. -/
theorem apply_setApplicationStatus (x : ScholarshipApplication)
    {status : ScholarshipApplicationStatus} (hx : s.applications.find id = some x) :
    Store.apply (Write.setApplicationStatus id status) s
      = { s with applications := s.applications.replace (x.setStatus status) } := by
  rw [← Table.modify_eq_replace hx (fun x => x.setStatus status) fun _ hk => hk]; rfl

/-- The award that is there is the award that goes on. -/
theorem apply_transitionAward (x : ScholarshipAward) {status : ScholarshipAwardStatus}
    {payout vault : Option Uuid} (hx : s.awards.find id = some x) :
    Store.apply (Write.transitionAward id status payout vault) s
      = { s with awards := s.awards.replace (x.transition status payout vault) } := by
  rw [← Table.modify_eq_replace hx (fun x => x.transition status payout vault) fun _ hk => hk]; rfl

end Apply

/-- The statements of the modelled services, as programs over this database. -/
abbrev Tx (ε α : Type) : Type := Program Db Content Write ε α

end EduStell
