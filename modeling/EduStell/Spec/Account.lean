/-
  The account behind a vault: its three totals as integers.

  An `Account` adds and subtracts exactly, knows no CHECK and no wrap-around, and is what the
  invariants of the savings side are stated over.  `VaultMove.account` and `FundsMove.account` are
  the link to the code: what a settlement or a review makes of the locked vault row, in wrapping
  `i64` under the CHECKs of the table, is the operation of the account.

  In this order: the operations of the account and what they keep (`Solvent.settle`,
  `Solvent.review`, `Fits.review`), the row as an account (`SavingsVault.account`), and the two
  links.  A result about totals is proved of the account, and carried over by the links.
-/
import EduStell.Spec.Review

namespace EduStell

open Txn

/-- The totals of a vault, as integers. -/
structure Account where
  contributed : Int
  locked : Int
  disbursed : Int

namespace Account

/-- What may still be promised to a school. -/
def available (a : Account) : Int := a.contributed - a.locked - a.disbursed

/-- What is promised or paid is backed by contributions. -/
def Solvent (a : Account) : Prop := a.locked + a.disbursed ≤ a.contributed

/-- Promises that fit in one word, solvent or not. -/
def Fits (a : Account) : Prop := a.locked + a.disbursed < 2 ^ 63

/-- Whether an account is solvent can be decided. -/
instance (a : Account) : Decidable a.Solvent := inferInstanceAs (Decidable (_ ≤ _))
/-- Whether its promises fit can be decided. -/
instance (a : Account) : Decidable a.Fits := inferInstanceAs (Decidable (_ < _))

/-- A contribution is settled. -/
def settle (a : Account) (amount : Int) : ContributionTransition → Account
  | .confirm => { a with contributed := a.contributed + amount }
  | .fail => a
  | .reverse => { a with contributed := a.contributed - amount }

/-- A payout takes a step of its review.  A lock that is smaller than the amount is not released. -/
def review (a : Account) (amount : Int) : PayoutTransition → Account
  | .approve => { a with locked := a.locked + amount }
  | .complete => { a with locked := a.locked - amount, disbursed := a.disbursed + amount }
  | .fail => if amount ≤ a.locked then { a with locked := a.locked - amount } else a
  | .moveToReview => a
  | .reject => a
  | .markProcessing => a

end Account

/-! ## What a contribution or a payout stands for in the account, by its status

  Each row stands for an amount in one of the totals, according to its status.  An edge of a
  status machine changes what the row stands for, and the operation of the account changes the
  total by the same amount: that is the whole arithmetic of the balance laws. -/

/-- The part of a contribution that counts as contributed. -/
def ContributionStatus.contributed (status : ContributionStatus) (amount : Int) : Int :=
  if status = .confirmed then amount else 0

/-- The part of a payout that is locked. -/
def PayoutStatus.locked (status : PayoutStatus) (amount : Int) : Int :=
  if status = .approved ∨ status = .processing then amount else 0

/-- The part of a payout that is disbursed. -/
def PayoutStatus.disbursed (status : PayoutStatus) (amount : Int) : Int :=
  if status = .completed then amount else 0

/-- No contribution counts below zero. -/
theorem ContributionStatus.contributed_nonneg {status : ContributionStatus} {amount : Int}
    (h : 0 ≤ amount) : 0 ≤ status.contributed amount := by
  rw [contributed]; split <;> omega

/-- No payout locks an amount below zero. -/
theorem PayoutStatus.locked_nonneg {status : PayoutStatus} {amount : Int} (h : 0 ≤ amount) :
    0 ≤ status.locked amount := by
  rw [locked]; split <;> omega

namespace Account

/-- Along an edge, settling moves the total by what the contribution stands for. -/
theorem settle_edge (a : Account) (amount : Int) {status : ContributionStatus}
    {tr : ContributionTransition} (h : Contributions.Edge status tr.targetStatus) :
    (a.settle amount tr).contributed =
      a.contributed + (tr.targetStatus.contributed amount - status.contributed amount) := by
  cases tr <;> cases status <;> first
    | exact absurd h (by decide)
    | simp [settle, ContributionTransition.targetStatus, ContributionStatus.contributed,
        Int.sub_eq_add_neg]

/-- Settling does not touch the other totals. -/
theorem settle_promises (a : Account) (amount : Int) (tr : ContributionTransition) :
    (a.settle amount tr).locked = a.locked ∧ (a.settle amount tr).disbursed = a.disbursed := by
  cases tr <;> exact ⟨rfl, rfl⟩

/-- Along an edge, a review moves the totals by what the payout stands for, given that a failing
    payout is covered by the lock. -/
theorem review_edge (a : Account) (amount : Int) {status : PayoutStatus} {tr : PayoutTransition}
    (h : Payouts.Edge status tr.targetStatus) (hcovered : tr = .fail → amount ≤ a.locked) :
    (a.review amount tr).locked =
      a.locked + (tr.targetStatus.locked amount - status.locked amount) ∧
    (a.review amount tr).disbursed =
      a.disbursed + (tr.targetStatus.disbursed amount - status.disbursed amount) := by
  cases tr with
  | fail =>
    have hle := hcovered rfl
    cases status <;> first
      | exact absurd h (by decide)
      | simp [review, hle, PayoutTransition.targetStatus, PayoutStatus.locked,
          PayoutStatus.disbursed, Int.sub_eq_add_neg]
  | _ =>
    cases status <;> first
      | exact absurd h (by decide)
      | simp [review, PayoutTransition.targetStatus, PayoutStatus.locked, PayoutStatus.disbursed,
          Int.sub_eq_add_neg]

/-- A review does not touch what was contributed. -/
theorem review_contributed (a : Account) (amount : Int) (tr : PayoutTransition) :
    (a.review amount tr).contributed = a.contributed := by
  cases tr <;> first | rfl | (simp only [review]; split <;> rfl)

/-- Only taking back more than is available makes an account insolvent... -/
theorem Solvent.settle {a : Account} (h : a.Solvent) {amount : Int} (ha : 0 ≤ amount)
    {tr : ContributionTransition} (hreverse : tr = .reverse → amount ≤ a.available) :
    (a.settle amount tr).Solvent := by
  cases tr with
  | confirm => simp only [Solvent, Account.settle] at *; omega
  | fail => exact h
  | reverse =>
    have hle := hreverse rfl
    simp only [Solvent, available, Account.settle] at *; omega

/-- ... or promising more than that. -/
theorem Solvent.review {a : Account} (h : a.Solvent) {amount : Int} (ha : 0 ≤ amount)
    {tr : PayoutTransition} (happrove : tr = .approve → amount ≤ a.available) :
    (a.review amount tr).Solvent := by
  cases tr with
  | approve =>
    have hle := happrove rfl
    simp only [Solvent, available, Account.review] at *; omega
  | complete => simp only [Solvent, Account.review] at *; omega
  | fail =>
    simp only [Account.review]
    split
    · simp only [Solvent] at *; omega
    · exact h
  | moveToReview => exact h
  | reject => exact h
  | markProcessing => exact h

/-- Promises that fit go on to fit, as long as no more is promised than is available. -/
theorem Fits.review {a : Account} (h : a.Fits) {amount : Int} (ha : 0 ≤ amount)
    {tr : PayoutTransition} (happrove : tr = .approve → amount ≤ a.available)
    (hcontributed : a.contributed < 2 ^ 63) : (a.review amount tr).Fits := by
  cases tr with
  | approve =>
    have hle := happrove rfl
    simp only [Fits, available, Account.review] at *; omega
  | complete => simp only [Fits, Account.review] at *; omega
  | fail =>
    simp only [Account.review]
    split
    · simp only [Fits] at *; omega
    · exact h
  | moveToReview => exact h
  | reject => exact h
  | markProcessing => exact h

end Account

/-- The account of a vault row. -/
def SavingsVault.account (v : SavingsVault) : Account :=
  ⟨v.totalContributedMinor.toInt, v.totalLockedMinor.toInt, v.totalDisbursedMinor.toInt⟩

/-- A solvent vault has promises that fit. -/
theorem SavingsVault.solvent_fits {v : SavingsVault} (h : v.account.Solvent) : v.account.Fits :=
  Int.lt_of_le_of_lt h (Int64.toInt_lt v.totalContributedMinor)

/-- **The funds check in wrapping arithmetic is the check of the account**, where the promises
    fit. -/
theorem SavingsVault.ensureAvailableFunds_iff {v : SavingsVault} (h : v.account.Fits)
    (amount : Int64) :
    Payouts.ensureAvailableFunds v.totalContributedMinor v.totalLockedMinor v.totalDisbursedMinor
      amount = .ok () ↔ amount.toInt ≤ v.account.available := by
  have hdiff := toInt_sub_sub_of_lt v.contributed_nonneg v.locked_nonneg v.disbursed_nonneg h
  have hle : v.totalContributedMinor - v.totalLockedMinor - v.totalDisbursedMinor ≥ amount ↔
      amount.toInt ≤ v.account.available := by
    rw [ge_iff_le, Int64.le_iff_toInt_le, hdiff]; rfl
  rw [← hle, Payouts.ensureAvailableFunds]
  split
  · rename_i henough
    exact iff_of_true rfl henough
  · rename_i hshort
    exact iff_of_false (fun he => by cases he) hshort

/-- The amount of money as an integer. -/
def Money.units (m : Money) : Int := m.amountMinor.toInt

/-- No money is below zero. -/
theorem Money.units_nonneg (m : Money) : 0 ≤ m.units := toInt_nonneg.mp m.nonneg

/-! ## Settlements

  The machine words of the row against the integers of the account.  Where the CHECK of the row
  holds, the wrapped sum is the sum, so a settlement that commits has done what the account does. -/

section

variable {actorUserId : Uuid} {vault vault' : SavingsVault} {row : Contribution}
  {tr : ContributionTransition} {entries : List VaultLedgerEntry}

/-- A settlement stays with its vault. -/
theorem VaultMove.id (h : VaultMove actorUserId vault row tr vault' entries) :
    vault'.id = vault.id := by
  cases h <;> rfl

/-- **A settlement of the row is a settlement of the account.** -/
theorem VaultMove.account (h : VaultMove actorUserId vault row tr vault' entries) :
    vault'.account = vault.account.settle row.amount.units tr := by
  cases h with
  | confirm h =>
    have hsum := toInt_add_of_nonneg vault.contributed_nonneg row.amount.nonneg h
    simp only [SavingsVault.account, SavingsVault.setTotals, Account.settle, Money.units, hsum]
  | fail => rfl
  | reverse hle h =>
    have hdiff := Int64.toInt_sub_of_le _ _ row.amount.nonneg hle
    simp only [SavingsVault.account, SavingsVault.setTotals, Account.settle, Money.units, hdiff]

/-- The kind of ledger entry that a settlement adds. -/
def ContributionTransition.entryType : ContributionTransition → Option VaultLedgerEntryType
  | confirm => some .contributionConfirmed
  | fail => none
  | reverse => some .contributionReversed

/-- The amount of a ledger entry, with its sign. -/
def VaultLedgerEntry.signed (e : VaultLedgerEntry) : Int :=
  match e.entryType with
  | .contributionConfirmed => e.amount.units
  | .contributionReversed => - e.amount.units

/-- The entry that a settlement adds: it tells the change of the total, and carries the new total. -/
structure EntryOf (tr : ContributionTransition) (row : Contribution) (vault vault' : SavingsVault)
    (e : VaultLedgerEntry) : Prop where
  kind : tr.entryType = some e.entryType
  vaultId : e.vaultId = vault.id
  contributionId : e.contributionId = some row.id
  amount : e.amount = row.amount
  balance : e.balanceAfterMinor = vault'.totalContributedMinor
  moved : vault'.account.contributed = vault.account.contributed + e.signed

/-- A failed contribution changes nothing of the vault, any other settlement adds one entry. -/
theorem VaultMove.entry (h : VaultMove actorUserId vault row tr vault' entries) :
    (tr = .fail ∧ entries = [] ∧ vault' = vault) ∨
    ∃ e, entries = [e] ∧ EntryOf tr row vault vault' e := by
  have haccount := congrArg Account.contributed h.account
  cases h with
  | confirm h => exact .inr ⟨_, rfl, rfl, rfl, rfl, rfl, rfl, haccount⟩
  | fail => exact .inl ⟨rfl, rfl, rfl⟩
  | reverse hle h => exact .inr ⟨_, rfl, rfl, rfl, rfl, rfl, rfl, haccount.trans Int.sub_eq_add_neg⟩

/-- A settlement that commits has not overflowed. -/
theorem VaultMove.no_overflow (h : VaultMove actorUserId vault row .confirm vault' entries) :
    vault.account.contributed + row.amount.units < 2 ^ 63 := by
  have hlt := Int64.toInt_lt vault'.totalContributedMinor
  have haccount := congrArg Account.contributed h.account
  simp only [Account.settle] at haccount
  rw [← haccount]
  exact hlt

section

variable {actor : AuthenticatedUser} {input : SettlementInput} {l : Sess} {s t : Db}
  {current : Contribution}

/-- A settlement stays in the vault of its contribution. -/
theorem SettledAs.vaultKey (h : SettledAs tr actor input l s t current row vault vault' entries) :
    vault'.id = row.vaultId :=
  h.move.id.trans (Table.find_some h.vaultLocked).2

/-- The vault row that a settlement leaves. -/
theorem SettledAs.vaultAfter (h : SettledAs tr actor input l s t current row vault vault' entries) :
    (l.view s).vaults.find row.vaultId = some vault' := by
  rw [h.view]
  exact Table.find_replace_self h.vaultLocked h.vaultKey

end

end

/-! ## Reviews

  The same for a review, which moves money between two totals or out of one.  The vault of a
  review is the one that its payout names, before and after. -/

section

variable {vault vault' : SavingsVault} {amount : Int64} {tr : PayoutTransition}

/-- A review stays with its vault. -/
theorem FundsMove.id (h : FundsMove vault amount tr vault') : vault'.id = vault.id := by
  cases h <;> rfl

/-- A review leaves what was contributed. -/
theorem FundsMove.contributed (h : FundsMove vault amount tr vault') :
    vault'.totalContributedMinor = vault.totalContributedMinor := by
  cases h <;> rfl

/-- **A review step of the row is a review step of the account.** -/
theorem FundsMove.account (ha : 0 ≤ amount) (h : FundsMove vault amount tr vault') :
    vault'.account = vault.account.review amount.toInt tr := by
  cases h with
  | moveToReview => rfl
  | reject => rfl
  | markProcessing => rfl
  | approve hl =>
    have hsum := toInt_add_of_nonneg vault.locked_nonneg ha hl
    simp only [SavingsVault.account, SavingsVault.setLockedAndDisbursed, Account.review, hsum]
  | complete hle hl hd =>
    have hdiff := Int64.toInt_sub_of_le _ _ ha hle
    have hsum := toInt_add_of_nonneg vault.disbursed_nonneg ha hd
    simp only [SavingsVault.account, SavingsVault.setLockedAndDisbursed, Account.review, hdiff, hsum]
  | fail hle hl =>
    have hdiff := Int64.toInt_sub_of_le _ _ ha hle
    have hle' := Int64.le_iff_toInt_le.mp hle
    simp only [SavingsVault.account, SavingsVault.setLockedAndDisbursed, Account.review, hdiff]
    exact (if_pos hle').symm
  | failShort hlt =>
    have hlt' := Int64.lt_iff_toInt_lt.mp hlt
    exact (if_neg (Int.not_le.mpr hlt')).symm

section

variable {actor : AuthenticatedUser} {input : ReviewPayoutInput} {l : Sess} {s : Db}
  {x : ReviewReads} {row : PayoutRequest}

/-- A review stays in the vault of its payout. -/
theorem ReviewedAs.vaultKey (h : ReviewedAs tr actor input l s x row vault vault') :
    vault'.id = row.vaultId :=
  h.move.id.trans (Table.find_some h.vaultLocked).2

/-- The vault row that a review leaves. -/
theorem ReviewedAs.vaultAfter (h : ReviewedAs tr actor input l s x row vault vault') :
    (l.view s).vaults.find row.vaultId = some vault' := by
  rw [h.view]
  exact Table.find_replace_self h.vaultLocked h.vaultKey

end

end

end EduStell
