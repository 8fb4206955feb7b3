/-
  Nine workflow transactions are linearizable, whoever calls them and with whatever values.

  Each of them locks what it reads before it reads it: the row it is about, then the vault or the
  pool that holds the money, then the entries of the unique indexes.  `Atomic` is read off each
  program, statement by statement; `Linearization.exists_linearization` does the rest.

  Two transactions of the repositories are missing.  `transition_award_with_audit` reads the
  application of its award WITHOUT a lock, so the application in its answer may be older than its
  commit.  The schools' `create_with_audit` is not modelled: schools are there from the start.
-/
import EduStell.Integrity.Deadlock
import EduStell.Txn.Linearize

namespace EduStell

open Txn Program Persistence

/-- A call of a workflow repository, with any values.  Two calls are left out:
    `transition_award_with_audit`, for its read without a lock, and the schools' `create_with_audit`,
    which is not modelled. -/
inductive Transaction
  | createIntent (contribution : Contribution) (auditLog : AuditLog)
  | settle (contributionId : Uuid) (status : String) (actorUserId : Uuid)
    (externalReference : Option String) (auditLog : AuditLog)
  | verifySchool (schoolId : Uuid) (verificationStatus : String) (verifiedBy : Uuid)
    (auditLog : AuditLog)
  | createRequest (payout : PayoutRequest) (auditLog : AuditLog)
  | transition (payoutId : Uuid) (status : String) (actorUserId : Uuid)
    (reviewNotes externalPayoutReference : Option String) (auditLog : AuditLog)
  | createPool (pool : ScholarshipPool) (auditLog : AuditLog)
  | fundPool (contribution : DonorContribution) (auditLog : AuditLog)
  | createApplication (application : ScholarshipApplication) (auditLog : AuditLog)
  | decideApplication (applicationId : Uuid) (applicationStatus : String) (award : ScholarshipAward)
    (poolAvailableFundsMinor : Int64) (auditLog : AuditLog)

namespace Transaction

/-- What a call returns. -/
inductive Answer
  | intent (contribution : Contribution)
  | settlement (result : ContributionSettlementResult)
  | school (school : School)
  | request (payout : PayoutRequest)
  | transition (result : PayoutTransitionResult)
  | pool (pool : ScholarshipPool)
  | funded (result : ScholarshipPool × DonorContribution)
  | application (application : ScholarshipApplication)
  | decision (result : ScholarshipReviewDecisionResult)

/-- The transaction as a program of its repository. -/
def program : Transaction → Tx PersistenceError Answer
  | createIntent contribution log => .intent <$> createIntentWithAudit contribution log
  | settle id status actor ref log => .settlement <$> settleWithAudit id status actor ref log
  | verifySchool id status actor log => .school <$> verifyWithAudit id status actor log
  | createRequest payout log => .request <$> createRequestWithAudit payout log
  | transition id status actor notes ref log =>
    .transition <$> transitionWithAudit id status actor notes ref log
  | createPool pool log => .pool <$> createPoolWithAudit pool log
  | fundPool contribution log => .funded <$> fundPoolWithAudit contribution log
  | createApplication application log =>
    .application <$> createApplicationWithAudit application log
  | decideApplication id status award funds log =>
    .decision <$> decideApplicationWithAudit id status award funds log

/-! ## The shared statements

  The rows that they write are locked by the transaction that sends them. -/

section Shared

variable {held : List Resource}

/-- New totals of a vault whose lock is held. -/
theorem inside_updateVaultTotals {vault : SavingsVault} {total : Int64}
    {Q : SavingsVault → List Resource → Prop} (hheld : .vault vault.id ∈ held)
    (h : ∀ v, Q v held) : (updateVaultTotals vault total).Inside Q held := by
  unfold updateVaultTotals
  split
  · refine .execute ?_ (.pure (h _))
    rintro r rfl
    exact hheld
  · exact .fail

/-- New locked and disbursed amounts of a vault whose lock is held. -/
theorem inside_updateVaultLockedAndDisbursed {vault : SavingsVault} {locked disbursed : Int64}
    {Q : SavingsVault → List Resource → Prop} (hheld : .vault vault.id ∈ held)
    (h : ∀ v, Q v held) : (updateVaultLockedAndDisbursed vault locked disbursed).Inside Q held := by
  unfold updateVaultLockedAndDisbursed
  split
  · split
    · refine .execute ?_ (.pure (h _))
      rintro r rfl
      exact hheld
    · exact .fail
  · exact .fail

/-- New funds of a pool whose lock is held. -/
theorem inside_updatePoolFunds {pool : ScholarshipPool} {funds : Int64}
    {Q : ScholarshipPool → List Resource → Prop} (hheld : .pool pool.id ∈ held)
    (h : ∀ x, Q x held) : (updatePoolFunds pool funds).Inside Q held := by
  unfold updatePoolFunds
  split
  · refine .execute ?_ (.pure (h _))
    rintro r rfl
    exact hheld
  · exact .fail

/-- A unique index entry is locked by the INSERT that makes it. -/
theorem inside_insertUnique {r : Resource} {taken : Content r → Bool} {constraint : String}
    {Q : Unit → List Resource → Prop} (h : Q () (r :: held)) :
    (insertUnique r taken constraint).Inside Q held := by
  unfold insertUnique
  refine .forUpdate fun s => ?_
  show (Program.failIf _ _).Inside Q _
  unfold Program.failIf
  split
  · exact .fail
  · exact .pure h

/-- The same for an entry that there may be no key for. -/
theorem inside_insertUniqueKey {key : Option String} {entry : String → Resource}
    {taken : ∀ x, Content (entry x) → Bool} {constraint : String} {Q : Unit → List Resource → Prop}
    (h : ∀ held', (∀ r ∈ held, r ∈ held') → (∀ x, key = some x → entry x ∈ held') → Q () held') :
    (insertUniqueKey key entry taken constraint).Inside Q held := by
  cases key with
  | none => exact .pure (h held (fun _ hr => hr) fun _ hx => by cases hx)
  | some x =>
    refine inside_insertUnique (h _ (fun _ hr => List.mem_cons_of_mem _ hr) ?_)
    rintro _ ⟨⟩
    exact List.mem_cons_self

/-- What a settlement writes to the vault, whose lock is held. -/
theorem inside_settleVault {vault : SavingsVault} {contribution : Contribution} {actorUserId : Uuid}
    {target : ContributionStatus} {Q : SavingsVault × Option VaultLedgerEntry → List Resource → Prop}
    (hheld : .vault vault.id ∈ held) (h : ∀ v, Q v held) :
    (settleVault vault contribution actorUserId target).Inside Q held := by
  have hentry : ∀ (v : SavingsVault) (entryType : VaultLedgerEntryType),
      (do let entry ← insertLedgerEntry v contribution actorUserId entryType
            contribution.externalReference
          return (v, some entry)).Inside Q held := by
    intro v entryType
    exact .bind (.execute (fun _ hr => False.elim hr) (.pure (.pure (h _))))
  cases target with
  | confirmed => exact .bind (inside_updateVaultTotals hheld fun v => hentry v _)
  | reversed => exact .failIf fun _ => .bind (inside_updateVaultTotals hheld fun v => hentry v _)
  | failed => exact .pure (h _)
  | pending => exact .pure (h _)

/-- What a review writes to the vault, whose lock is held. -/
theorem inside_transitionVault {vault : SavingsVault} {payout : PayoutRequest}
    {target : PayoutStatus} {Q : SavingsVault → List Resource → Prop}
    (hheld : .vault vault.id ∈ held) (h : ∀ v, Q v held) :
    (transitionVault vault payout target).Inside Q held := by
  cases target with
  | approved => exact inside_updateVaultLockedAndDisbursed hheld h
  | completed => exact .failIf fun _ => inside_updateVaultLockedAndDisbursed hheld h
  | failed => exact .ite (inside_updateVaultLockedAndDisbursed hheld h) (.pure (h _))
  | rejected => exact .pure (h _)
  | pending => exact .pure (h _)
  | underReview => exact .pure (h _)
  | processing => exact .pure (h _)

/-- The audit row and the commit take no lock. -/
theorem sealed_tail {β : Type} {auditLog : AuditLog} {b : β} :
    (do appendAuditLog auditLog
        commitTx
        return b : Tx PersistenceError β).Sealed held :=
  .execute (fun _ hr => False.elim hr) .commitTx

end Shared

/-! ## The transactions

  Each walks its program once.  The branches, the repeated transition among them, end inside the
  same transaction. -/

/-- Nothing is read: the INSERT locks its row, and then the entry of the key. -/
theorem atomic_createIntent {contribution : Contribution} {log : AuditLog} :
    (createIntentWithAudit contribution log).Atomic := by
  refine .beginTx (.failIf fun _ => .bind (inside_insertUnique ?_))
  refine .bind (inside_insertUniqueKey fun held hmore hkeys => .ofExcept fun amount _ => ?_)
  refine .execute ?_ sealed_tail
  rintro r (rfl | ⟨key, hkey, rfl⟩)
  · exact hmore _ List.mem_cons_self
  · exact hkeys key hkey

/-- The contribution is locked, and then its vault. -/
theorem atomic_settle {id : Uuid} {status : String} {actor : Uuid} {ref : Option String}
    {log : AuditLog} : (settleWithAudit id status actor ref log).Atomic := by
  refine .beginTx (.forUpdate fun s => .okOr fun contribution hrow => ?_)
  have hid : contribution.id = id := (Table.find_some hrow).2
  refine .ofExcept fun target _ => .ite ?_ ?_
  · exact .forUpdate fun s => .okOr fun vault _ => .rollbackTx
  refine .forUpdate fun s => .okOr fun vault hvault => ?_
  have hvaultId : vault.id = contribution.vaultId := (Table.find_some hvault).2
  refine .execute ?_ (.bind (inside_settleVault ?_ fun v => sealed_tail))
  · rintro r rfl
    rw [hid]; simp
  · rw [hvaultId]; exact List.mem_cons_self

/-- The school is locked. -/
theorem atomic_verifySchool {id : Uuid} {status : String} {actor : Uuid} {log : AuditLog} :
    (verifyWithAudit id status actor log).Atomic := by
  refine .beginTx (.forUpdate fun s => .okOr fun school hrow => .ofExcept fun target _ => ?_)
  have hid : school.id = id := (Table.find_some hrow).2
  refine .execute ?_ sealed_tail
  rintro r rfl
  rw [hid]; exact List.mem_cons_self

/-- Nothing is read: the INSERT locks its row, and then the entry of the key. -/
theorem atomic_createRequest {payout : PayoutRequest} {log : AuditLog} :
    (createRequestWithAudit payout log).Atomic := by
  refine .beginTx (.failIf fun _ => .bind (inside_insertUnique ?_))
  refine .bind (inside_insertUniqueKey fun held hmore hkeys => .ofExcept fun amount _ => ?_)
  refine .execute ?_ sealed_tail
  rintro r (rfl | ⟨key, hkey, rfl⟩)
  · exact hmore _ List.mem_cons_self
  · exact hkeys key hkey

/-- The payout is locked, and then its vault. -/
theorem atomic_transition {id : Uuid} {status : String} {actor : Uuid} {notes ref : Option String}
    {log : AuditLog} : (transitionWithAudit id status actor notes ref log).Atomic := by
  refine .beginTx (.forUpdate fun s => .okOr fun payout hrow => ?_)
  have hid : payout.id = id := (Table.find_some hrow).2
  refine .ofExcept fun target _ => .ite ?_ ?_
  · exact .forUpdate fun s => .okOr fun vault _ => .rollbackTx
  refine .forUpdate fun s => .okOr fun vault hvault => ?_
  have hvaultId : vault.id = payout.vaultId := (Table.find_some hvault).2
  refine .execute ?_ (.bind (inside_transitionVault ?_ fun v => sealed_tail))
  · rintro r rfl
    rw [hid]; simp
  · rw [hvaultId]; exact List.mem_cons_self

/-- Nothing is read: the INSERT locks its row. -/
theorem atomic_createPool {pool : ScholarshipPool} {log : AuditLog} :
    (createPoolWithAudit pool log).Atomic := by
  refine .beginTx (.bind (inside_insertUnique (.ofExcept fun funds _ => ?_)))
  refine .execute ?_ sealed_tail
  rintro r rfl
  exact List.mem_cons_self

/-- The pool is locked before the donor contribution is inserted. -/
theorem atomic_fundPool {contribution : DonorContribution} {log : AuditLog} :
    (fundPoolWithAudit contribution log).Atomic := by
  refine .beginTx (.forUpdate fun s => .okOr fun pool hpool => ?_)
  have hid : pool.id = contribution.poolId := (Table.find_some hpool).2
  refine .bind (inside_updatePoolFunds (hid ▸ List.mem_cons_self) fun updated => ?_)
  refine .failIf fun _ => .bind (inside_insertUnique (.bind (inside_insertUniqueKey ?_)))
  intro held hmore hkeys
  refine .ofExcept fun amount _ => .execute ?_ sealed_tail
  rintro r (rfl | ⟨key, hkey, rfl⟩)
  · exact hmore _ List.mem_cons_self
  · exact hkeys key hkey

/-- Nothing is read: the INSERT locks its row. -/
theorem atomic_createApplication {application : ScholarshipApplication} {log : AuditLog} :
    (createApplicationWithAudit application log).Atomic := by
  refine .beginTx (.bind (inside_insertUnique (.execute ?_ sealed_tail)))
  rintro r rfl
  exact List.mem_cons_self

/-- The application is locked, and then the pool: it writes the funds that it was given, and not
    those that it finds. -/
theorem atomic_decideApplication {id : Uuid} {status : String} {award : ScholarshipAward}
    {funds : Int64} {log : AuditLog} :
    (decideApplicationWithAudit id status award funds log).Atomic := by
  refine .beginTx (.forUpdate fun s => .okOr fun application hrow => ?_)
  have hid : application.id = id := (Table.find_some hrow).2
  refine .ofExcept fun target _ => .execute ?_ ?_
  · rintro r rfl
    rw [hid]; exact List.mem_cons_self
  refine .forUpdate fun s => .okOr fun pool hpool => ?_
  have hpoolId : pool.id = application.poolId := (Table.find_some hpool).2
  refine .bind (inside_updatePoolFunds ?_ fun updated => .bind (inside_insertUnique ?_))
  · rw [hpoolId]; exact List.mem_cons_self
  refine .ofExcept fun amount _ => .execute ?_ sealed_tail
  rintro r rfl
  exact List.mem_cons_self

/-- **Every transaction is atomic.** -/
theorem atomic (q : Transaction) : q.program.Atomic := by
  cases q with
  | createIntent => exact atomic_createIntent.map
  | settle => exact atomic_settle.map
  | verifySchool => exact atomic_verifySchool.map
  | createRequest => exact atomic_createRequest.map
  | transition => exact atomic_transition.map
  | createPool => exact atomic_createPool.map
  | fundPool => exact atomic_fundPool.map
  | createApplication => exact atomic_createApplication.map
  | decideApplication => exact atomic_decideApplication.map

end Transaction

/-- **Every interleaving of these transactions is linearizable**: whatever connections are lost,
    the committed database is that of serving the transactions which took effect alone, one after
    another; each answer is the one the transaction gets at its place; and a transaction that is
    answered before another one is called has the earlier place.

    The order is found along the run: a transaction gets the next place when it ends.  All that is
    needed of the transactions is that they are `Atomic`. -/
theorem transactions_linearizable (s : Db) (es : List (Event Transaction Nat)) :
    ∃ order : List (Nat × Transaction), Linearization Transaction.program s es order :=
  Linearization.exists_linearization Transaction.atomic s es

end EduStell
