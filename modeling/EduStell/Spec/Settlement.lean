/-
  Settling a contribution: every way a confirm, fail or reverse request can end.

  The request reads the contribution once without a lock (snapshot `t`), decides, and then runs
  `settleWithAudit`, which locks the contribution and its vault and reads both again.  So `Settled`
  speaks of TWO rows of the contribution: `current`, on which legality was decided, and `row`, which
  is rewritten.  Nothing in the code says that they have the same status.

  `VaultMove` has a case for each of the three transitions, and `SettleStopped` one for each way
  to end without a commit, with the error that is answered.
-/
import EduStell.Requests
import EduStell.Txn.Wrap

namespace EduStell

open Txn Program Contributions Persistence

variable {tr : ContributionTransition} {actor : AuthenticatedUser} {input : SettlementInput}

/-! ## What the ends are

  The three transitions differ in `VaultMove`: a confirmation adds to the total and a reversal
  takes from it, each with an entry in the ledger, and a failure touches neither. -/

/-- What the service has checked at its snapshot `t` when it begins the transaction. -/
structure SettleChecked (tr : ContributionTransition) (actor : AuthenticatedUser)
    (input : SettlementInput) (t : Db) (current : Contribution) : Prop where
  /-- Only an administrator settles. -/
  role : actor.role = .platformAdmin
  found : t.contributions.find input.contributionId = some current
  /-- The transition may be taken from the status that was read, -/
  legal : validateTransition current.status tr = .ok tr.targetStatus
  /-- and it changes that status. -/
  changes : current.status ≠ tr.targetStatus

/-- What was checked is an edge. -/
theorem SettleChecked.edge {t : Db} {current : Contribution}
    (h : SettleChecked tr actor input t current) : Edge current.status tr.targetStatus :=
  edge_of_ok h.legal h.changes

/-- The transaction has begun. -/
structure SettleBegun (tr : ContributionTransition) (actor : AuthenticatedUser)
    (input : SettlementInput) (l : Sess) (t : Db) (current : Contribution) : Prop extends
    SettleChecked tr actor input t current where
  began : l.began = true
  seen : l.seen = [t]

/-- What a settlement makes of the locked vault row, and the ledger entries it adds. -/
inductive VaultMove (actorUserId : Uuid) (vault : SavingsVault) (row : Contribution) :
    ContributionTransition → SavingsVault → List VaultLedgerEntry → Prop
  /-- The amount is added to the total and to the ledger. -/
  | confirm (h : 0 ≤ vault.totalContributedMinor + row.amount.amountMinor) :
    VaultMove actorUserId vault row .confirm
      (vault.setTotals (vault.totalContributedMinor + row.amount.amountMinor) h)
      [ledgerEntry (vault.setTotals (vault.totalContributedMinor + row.amount.amountMinor) h) row
        actorUserId .contributionConfirmed row.externalReference]
  /-- Neither the vault nor the ledger changes. -/
  | fail : VaultMove actorUserId vault row .fail vault []
  /-- The amount is taken from the total, if there is as much, and entered in the ledger. -/
  | reverse (hle : row.amount.amountMinor ≤ vault.totalContributedMinor)
    (h : 0 ≤ vault.totalContributedMinor - row.amount.amountMinor) :
    VaultMove actorUserId vault row .reverse
      (vault.setTotals (vault.totalContributedMinor - row.amount.amountMinor) h)
      [ledgerEntry (vault.setTotals (vault.totalContributedMinor - row.amount.amountMinor) h) row
        actorUserId .contributionReversed row.externalReference]

/-- The contribution row after the settlement. -/
def settledRow (tr : ContributionTransition) (input : SettlementInput) (row : Contribution) :
    Contribution :=
  row.settle tr.targetStatus input.externalReference

/-- A settlement that commits: the rows it read, the rows it leaves. -/
structure SettledAs (tr : ContributionTransition) (actor : AuthenticatedUser)
    (input : SettlementInput) (l : Sess) (s : Db) (t : Db) (current row : Contribution)
    (vault vault' : SavingsVault) (entries : List VaultLedgerEntry) : Prop where
  /-- What the service has checked, on the row that it has read. -/
  begun : SettleBegun tr actor input l t current
  /-- The row that is locked may be another one than was read. -/
  locked : s.contributions.find input.contributionId = some row
  /-- It is not in the target status: a repeat writes nothing. -/
  changes : row.status ≠ tr.targetStatus
  /-- The vault of the locked row. -/
  vaultLocked : s.vaults.find row.vaultId = some vault
  /-- What becomes of its total, and of its ledger. -/
  move : VaultMove actor.userId vault (settledRow tr input row) tr vault' entries
  locks : l.locks = [.vault row.vaultId, .contribution input.contributionId]
  /-- The commit rewrites both rows and adds the entries and the audit row, which was built
      before. -/
  view : l.view s = { s with
    contributions := s.contributions.replace (settledRow tr input row)
    vaults := s.vaults.replace vault'
    ledger := s.ledger ++ entries
    audit := s.audit ++ [sanitizeAuditLog (settlementAudit actor.userId current tr.targetStatus
      input.externalReference.isSome tr.auditAction)] }

/-- A settlement that commits and answers `a`. -/
def Settled (tr : ContributionTransition) (actor : AuthenticatedUser) (input : SettlementInput)
    (l : Sess) (s : Db) (a : Contribution) : Prop :=
  ∃ t current row vault vault' entries,
    SettledAs tr actor input l s t current row vault vault' entries ∧ a = settledRow tr input row

/-- A settlement that commits nothing. -/
inductive SettleStopped (tr : ContributionTransition) (actor : AuthenticatedUser)
    (input : SettlementInput) (l : Sess) (s : Db) : Except ServiceError Contribution → Prop
  /-- The actor is no administrator. -/
  | forbidden (began : l.began = false) (role : actor.role ≠ .platformAdmin) :
    SettleStopped tr actor input l s (.error .forbidden)
  /-- There is no such contribution. -/
  | missing {t : Db} (began : l.began = false) (seen : l.seen = [t])
    (found : t.contributions.find input.contributionId = none) :
    SettleStopped tr actor input l s (.error .notFound)
  /-- The transition may not be taken from the status that was read. -/
  | illegal {t : Db} {current : Contribution} {v : ContributionRuleViolation}
    (began : l.began = false) (seen : l.seen = [t])
    (found : t.contributions.find input.contributionId = some current)
    (refused : validateTransition current.status tr = .error v) :
    SettleStopped tr actor input l s (.error (IntoServiceError.into v))
  /-- The contribution is READ in the target status, and answered. -/
  | unchanged {t : Db} {current : Contribution} (began : l.began = false) (seen : l.seen = [t])
    (found : t.contributions.find input.contributionId = some current)
    (status : current.status = tr.targetStatus) : SettleStopped tr actor input l s (.ok current)
  /-- The contribution is LOCKED in the target status, and answered. -/
  | repeated {t : Db} {current row : Contribution} (begun : SettleBegun tr actor input l t current)
    (locked : s.contributions.find input.contributionId = some row)
    (status : row.status = tr.targetStatus) : SettleStopped tr actor input l s (.ok row)
  /-- The contribution that was read is not there. -/
  | gone {t : Db} {current : Contribution} (begun : SettleBegun tr actor input l t current)
    (locked : s.contributions.find input.contributionId = none) :
    SettleStopped tr actor input l s (.error .notFound)
  /-- Its vault is not there. -/
  | vaultGone {t : Db} {current row : Contribution} (begun : SettleBegun tr actor input l t current)
    (locked : s.contributions.find input.contributionId = some row)
    (vaultLocked : s.vaults.find row.vaultId = none) :
    SettleStopped tr actor input l s (.error .notFound)
  /-- The total would wrap, and its CHECK refuses. -/
  | overflow {t : Db} {current row : Contribution} {vault : SavingsVault}
    (begun : SettleBegun tr actor input l t current) (transition : tr = .confirm)
    (locked : s.contributions.find input.contributionId = some row)
    (changes : row.status ≠ tr.targetStatus)
    (vaultLocked : s.vaults.find row.vaultId = some vault) (held : .vault row.vaultId ∈ l.locks)
    (wraps : ¬ 0 ≤ vault.totalContributedMinor + row.amount.amountMinor) :
    SettleStopped tr actor input l s (.error (.ofPersistence
      (.checkViolation "savings_vaults" "savings_vaults_total_contributed_minor_check")))
  /-- The total is smaller than the amount. -/
  | negative {t : Db} {current row : Contribution} {vault : SavingsVault}
    (begun : SettleBegun tr actor input l t current) (transition : tr = .reverse)
    (locked : s.contributions.find input.contributionId = some row)
    (changes : row.status ≠ tr.targetStatus)
    (vaultLocked : s.vaults.find row.vaultId = some vault) (held : .vault row.vaultId ∈ l.locks)
    (short : vault.totalContributedMinor < row.amount.amountMinor) :
    SettleStopped tr actor input l s (.error (.conflict "vault balance would become negative"))

/-! ## Every end is one of these

  The transaction is judged under the checks of the service, which it does not repeat; so every
  end knows what was decided before, and on which row. -/

section

variable {s t : Db} {current : Contribution}

/-- The answer of the transaction, as the service passes it on. -/
def settleReply (r : Except PersistenceError ContributionSettlementResult) :
    Except ServiceError Contribution :=
  (r.mapError .ofPersistence).map (·.contribution)

/-- The transaction, begun after the checks of the service. -/
theorem settleWithAudit_ends (h : SettleChecked tr actor input t current) :
    Ends (settleWithAudit current.id (asStr tr.targetStatus) actor.userId input.externalReference
      (settlementAudit actor.userId current tr.targetStatus input.externalReference.isSome
        tr.auditAction))
      (fun l s r => Settled tr actor input l s r.contribution)
      (fun l s r => SettleStopped tr actor input l s (settleReply r)) (Session.init.saw t) s := by
  obtain ⟨-, hid⟩ := Table.find_some h.found
  rw [show current.id = input.contributionId from hid]
  refine Ends.beginTx (Ends.forUpdate (Ends.okOr (fun hnone => ?_) fun row hrow => ?_))
  · exact .gone ⟨h, rfl, rfl⟩ hnone
  refine Ends.ofExcept (fun e he => by simp at he) fun target htarget => ?_
  obtain rfl : tr.targetStatus = target := by simpa using htarget
  refine Ends.ite (fun hsame => ?_) fun hne => ?_
  · refine Ends.forUpdate (Ends.okOr (fun hnone => ?_) fun vault _ => ?_)
    · exact .vaultGone ⟨h, rfl, rfl⟩ hrow hnone
    · exact Ends.rollback (.repeated ⟨h, rfl, rfl⟩ hrow hsame)
  refine Ends.forUpdate (Ends.okOr (fun hnone => ?_) fun vault hvault => ?_)
  · exact .vaultGone ⟨h, rfl, rfl⟩ hrow hnone
  have hrowid : row.id = input.contributionId := (Table.find_some hrow).2
  have hvaultid : vault.id = row.vaultId := (Table.find_some hvault).2
  have hrow' : s.contributions.find row.id = some row := hrowid ▸ hrow
  have hvault' : s.vaults.find vault.id = some vault := hvaultid ▸ hvault
  refine Ends.execute (fun r hr => by rw [show r = _ from hr, hrowid]; simp [Session.lock]) ?_
  have hlock : Resource.vault vault.id ∈ [Resource.vault row.vaultId,
      Resource.contribution input.contributionId] := by
    rw [hvaultid]; exact List.mem_cons_self
  -- the three writes of each transition, and what they leave
  cases tr with
  | confirm =>
    simp only [ContributionTransition.targetStatus, settleVault, insertLedgerEntry, bind_assoc,
      pure_bind]
    refine ends_updateVaultTotals hlock (fun hwraps => ?_) fun htotal => ?_
    · exact .overflow ⟨h, rfl, rfl⟩ rfl hrow hne hvault List.mem_cons_self hwraps
    refine Ends.execute (fun _ hr => False.elim hr) ?_
    refine Ends.execute (fun _ hr => False.elim hr) (Ends.commit ?_)
    refine ⟨t, current, row, vault, _, _,
      ⟨⟨h, rfl, rfl⟩, hrow, hne, hvault, .confirm htotal, rfl, ?_⟩, rfl⟩
    simp only [Session.view_write, Session.view_lock, Session.view_begun, Session.view_saw,
      Session.view_init]
    rw [apply_settleContribution row hrow', apply_setVaultTotals vault]
    · rfl
    · exact hvault'
  | fail =>
    refine Ends.execute (fun _ hr => False.elim hr) (Ends.commit ?_)
    refine ⟨t, current, row, vault, _, _,
      ⟨⟨h, rfl, rfl⟩, hrow, hne, hvault, .fail, rfl, ?_⟩, rfl⟩
    simp only [Session.view_write, Session.view_lock, Session.view_begun, Session.view_saw,
      Session.view_init]
    rw [apply_settleContribution row hrow', Table.replace_self hvault', List.append_nil]
    rfl
  | reverse =>
    simp only [ContributionTransition.targetStatus, settleVault, insertLedgerEntry, bind_assoc,
      pure_bind]
    refine Ends.failIf (fun hshort => ?_) fun henough => ?_
    · exact .negative ⟨h, rfl, rfl⟩ rfl hrow hne hvault List.mem_cons_self hshort
    have hle := Int64.not_lt.mp henough
    refine ends_updateVaultTotals hlock (fun hwraps => ?_) fun htotal => ?_
    · exact absurd (nonneg_sub_of_le row.amount.nonneg hle) hwraps
    refine Ends.execute (fun _ hr => False.elim hr) ?_
    refine Ends.execute (fun _ hr => False.elim hr) (Ends.commit ?_)
    refine ⟨t, current, row, vault, _, _,
      ⟨⟨h, rfl, rfl⟩, hrow, hne, hvault, .reverse hle htotal, rfl, ?_⟩, rfl⟩
    simp only [Session.view_write, Session.view_lock, Session.view_begun, Session.view_saw,
      Session.view_init]
    rw [apply_settleContribution row hrow', apply_setVaultTotals vault]
    · rfl
    · exact hvault'

end

/-- **Every way a settlement can end.** -/
theorem settleContribution_outcomes :
    Outcomes (settleContribution actor input tr tr.auditAction) (Settled tr actor input)
      (SettleStopped tr actor input) := by
  intro s
  refine Ends.check (fun e he => ?_) fun _ hrole => ?_
  · rw [canSettleContribution] at he
    split at he
    · cases he
    · cases he; exact .forbidden rfl ‹_›
  have hadmin : actor.role = .platformAdmin := by
    rw [canSettleContribution] at hrole
    split at hrole
    · assumption
    · cases hrole
  refine Ends.select fun t => Ends.okOr (fun hnone => ?_) fun current hfound => ?_
  · exact .missing rfl rfl hnone
  refine Ends.check (fun e he => ?_) fun target htarget => ?_
  · exact .illegal rfl rfl hfound he
  obtain rfl := validateTransition_ok htarget
  refine Ends.ite (fun hsame => Ends.pure ?_) fun hne => ?_
  · exact .unchanged rfl rfl hfound hsame
  · exact Ends.mapError (settleWithAudit_ends ⟨hadmin, hfound, htarget, hne⟩)

end EduStell
