/-
  The five transactions that lock two rows or more never wait for each other in a circle.

  Each of them locks one row of its own kind first (a contribution, a payout, an application or an
  award) and then the vault or the pool that holds the money; funding a pool locks the pool alone.
  So the rows of the first kind rank below the vaults and the pools, on every branch: that of a
  repeat, which locks the vault only to read it, included.

  Whether two transactions can wait for each other is thereby a matter of their text, and not of a
  schedule: `orderly` is proved of each of them alone.
-/
import EduStell.Scenario
import EduStell.Txn.LockOrder

namespace EduStell

open Txn Program Persistence

/-- A transaction of one of the five kinds, on any rows and with any values. -/
inductive Workflow
  | settle (contributionId : Uuid) (status : String) (actorUserId : Uuid)
    (externalReference : Option String) (auditLog : AuditLog)
  | transition (payoutId : Uuid) (status : String) (actorUserId : Uuid)
    (reviewNotes externalPayoutReference : Option String) (auditLog : AuditLog)
  | fundPool (contribution : DonorContribution) (auditLog : AuditLog)
  | decideApplication (applicationId : Uuid) (applicationStatus : String) (award : ScholarshipAward)
    (poolAvailableFundsMinor : Int64) (auditLog : AuditLog)
  | transitionAward (awardId : Uuid) (status : String)
    (linkedPayoutRequestId linkedVaultId : Option Uuid) (poolAvailableFundsMinor : Int64)
    (auditLog : AuditLog)

namespace Workflow

/-- The transaction, without its answer. -/
def program : Workflow → Tx PersistenceError Unit
  | settle id status actor ref log => (fun _ => ()) <$> settleWithAudit id status actor ref log
  | transition id status actor notes ref log =>
    (fun _ => ()) <$> transitionWithAudit id status actor notes ref log
  | fundPool contribution log => (fun _ => ()) <$> fundPoolWithAudit contribution log
  | decideApplication id status award funds log =>
    (fun _ => ()) <$> decideApplicationWithAudit id status award funds log
  | transitionAward id status payout vault funds log =>
    (fun _ => ()) <$> transitionAwardWithAudit id status payout vault funds log

/-- The entries of unique indexes that a transaction makes for the row that it inserts. -/
def Inserts : Workflow → Resource → Prop
  | fundPool contribution _, r => r = .donorContribution contribution.id ∨
    ∃ key, contribution.idempotencyKey = some key ∧ r = .donorContributionKey key
  | decideApplication _ _ award _ _, r => r = .award award.id
  | _, _ => False

/-- The row locks: what is locked by SELECT ... FOR UPDATE or by UPDATE. -/
def RowLock (q : Workflow) (r : Resource) : Prop := ¬ q.Inserts r

/-- Vaults and pools come last. -/
def rank : Resource → Nat
  | .vault _ => 1
  | .pool _ => 1
  | _ => 0

variable {ok : List Resource → Resource → Prop} {held : List Resource}

/-! ## The shared statements

  Each shared statement writes a row whose lock is held, or takes the lock of an entry, which is
  no row lock. -/

/-- New totals of a vault whose lock is held. -/
theorem orderly_updateVaultTotals {vault : SavingsVault} {total : Int64}
    {Q : SavingsVault → List Resource → Prop}
    (hheld : .vault vault.id ∈ held) (h : ∀ v, Q v held) :
    (updateVaultTotals vault total).Orderly ok Q held := by
  rw [updateVaultTotals]
  split
  · refine .execute ?_ (h _)
    rintro r rfl
    exact hheld
  · trivial

/-- New locked and disbursed amounts of a vault whose lock is held. -/
theorem orderly_updateVaultLockedAndDisbursed {vault : SavingsVault} {locked disbursed : Int64}
    {Q : SavingsVault → List Resource → Prop}
    (hheld : .vault vault.id ∈ held) (h : ∀ v, Q v held) :
    (updateVaultLockedAndDisbursed vault locked disbursed).Orderly ok Q held := by
  rw [updateVaultLockedAndDisbursed]
  split
  · split
    · refine .execute ?_ (h _)
      rintro r rfl
      exact hheld
    · trivial
  · trivial

/-- New funds of a pool whose lock is held. -/
theorem orderly_updatePoolFunds {pool : ScholarshipPool} {funds : Int64}
    {Q : ScholarshipPool → List Resource → Prop}
    (hheld : .pool pool.id ∈ held) (h : ∀ x, Q x held) :
    (updatePoolFunds pool funds).Orderly ok Q held := by
  rw [updatePoolFunds]
  split
  · refine .execute ?_ (h _)
    rintro r rfl
    exact hheld
  · trivial

section

variable {β : Type} {Q : β → List Resource → Prop} {k : Unit → Tx PersistenceError β}

/-- A unique index entry, if it may be locked now. -/
theorem orderly_insertUnique {r : Resource} {taken : Content r → Bool} {constraint : String}
    (hok : ok held r) (h : (k ()).Orderly ok Q (r :: held)) :
    (insertUnique r taken constraint >>= k).Orderly ok Q held := by
  rw [insertUnique, bind_assoc]
  exact .forUpdate hok fun _ => .failIf fun _ => h

/-- The same for an entry that there may be no key for. -/
theorem orderly_insertUniqueKey {key : Option String} {entry : String → Resource}
    {taken : ∀ x, Content (entry x) → Bool} {constraint : String}
    (hok : ∀ x, key = some x → ok held (entry x))
    (h : ∀ held', (∀ r ∈ held, r ∈ held') → (∀ x, key = some x → entry x ∈ held') →
      (k ()).Orderly ok Q held') :
    (insertUniqueKey key entry taken constraint >>= k).Orderly ok Q held := by
  cases key with
  | none => exact h held (fun _ hr => hr) fun _ hx => by cases hx
  | some x =>
    refine orderly_insertUnique (hok x rfl) (h _ (fun _ hr => List.mem_cons_of_mem _ hr) ?_)
    rintro _ ⟨⟩
    exact List.mem_cons_self

end

/-- The audit row and the commit take no lock, and free all. -/
theorem orderly_tail {β : Type} {Q : β → List Resource → Prop} {auditLog : AuditLog} {b : β} (h : Q b []) :
    (do appendAuditLog auditLog
        commitTx
        return b : Tx PersistenceError β).Orderly ok Q held :=
  .execute (fun _ hr => False.elim hr) (.commitTx (.pure h))

/-- What a settlement writes to the vault, whose lock is held. -/
theorem orderly_settleVault {vault : SavingsVault} {contribution : Contribution}
    {actorUserId : Uuid} {target : ContributionStatus}
    {Q : SavingsVault × Option VaultLedgerEntry → List Resource → Prop}
    (hheld : .vault vault.id ∈ held) (h : ∀ v, Q v held) :
    (settleVault vault contribution actorUserId target).Orderly ok Q held := by
  have hentry : ∀ (v : SavingsVault) (entryType : VaultLedgerEntryType),
      (do let entry ← insertLedgerEntry v contribution actorUserId entryType
            contribution.externalReference
          return (v, some entry)).Orderly ok Q held :=
    fun v entryType => .bind (.execute (fun _ hr => False.elim hr) (.pure (.pure (h _))))
  cases target with
  | confirmed => exact .bind (orderly_updateVaultTotals hheld fun v => hentry v _)
  | reversed => exact .failIf fun _ => .bind (orderly_updateVaultTotals hheld fun v => hentry v _)
  | failed => exact .pure (h _)
  | pending => exact .pure (h _)

/-- What a review writes to the vault, whose lock is held. -/
theorem orderly_transitionVault {vault : SavingsVault} {payout : PayoutRequest}
    {target : PayoutStatus} {Q : SavingsVault → List Resource → Prop}
    (hheld : .vault vault.id ∈ held) (h : ∀ v, Q v held) :
    (transitionVault vault payout target).Orderly ok Q held := by
  cases target with
  | approved => exact orderly_updateVaultLockedAndDisbursed hheld h
  | completed => exact .failIf fun _ => orderly_updateVaultLockedAndDisbursed hheld h
  | failed => exact .ite (orderly_updateVaultLockedAndDisbursed hheld h) (.pure (h _))
  | rejected => exact .pure (h _)
  | pending => exact .pure (h _)
  | underReview => exact .pure (h _)
  | processing => exact .pure (h _)

/-! ## The five transactions

  Two lemmas about the order, for the first and the second row of a transaction; then the
  transactions, branch by branch. -/

/-- The first lock of a transaction. -/
theorem byRank_first {q : Workflow} {r : Resource} : System.ByRank RowLock rank q [] r :=
  fun _ _ hr => by cases hr

/-- The lock of a vault or a pool, after a row of the first kind. -/
theorem byRank_second {q : Workflow} {r r' : Resource} (hr : rank r' < rank r) :
    System.ByRank RowLock rank q [r'] r := by
  intro _ r'' hmem _
  rw [List.mem_singleton.mp hmem]
  exact .inr hr

/-- An index entry is not a row lock. -/
theorem byRank_entry {q : Workflow} {r : Resource} (hr : q.Inserts r) :
    System.ByRank RowLock rank q held r :=
  fun hcounted => absurd hr hcounted

/-- The contribution, then its vault. -/
theorem orderly_settle {id : Uuid} {status : String} {actor : Uuid} {ref : Option String}
    {log : AuditLog} : (settle id status actor ref log).program.Orderly
      (System.ByRank RowLock rank (settle id status actor ref log)) (fun _ _ => True) [] := by
  refine .map (.beginTx (.forUpdate byRank_first fun s => .okOr fun contribution hrow => ?_))
  have hid : contribution.id = id := (Table.find_some hrow).2
  refine .ofExcept fun target _ => .ite ?_ ?_
  · -- a repeat locks the vault too, and changes nothing
    exact .forUpdate (byRank_second Nat.zero_lt_one) fun s => .okOr fun vault _ =>
      .rollbackTx (.pure trivial)
  refine .forUpdate (byRank_second Nat.zero_lt_one) fun s => .okOr fun vault hvault => ?_
  have hvaultId : vault.id = contribution.vaultId := (Table.find_some hvault).2
  refine .execute ?_ (.bind (orderly_settleVault ?_ fun v => orderly_tail trivial))
  · rintro r rfl
    rw [hid]; simp
  · rw [hvaultId]; exact List.mem_cons_self

/-- The payout, then its vault. -/
theorem orderly_transition {id : Uuid} {status : String} {actor : Uuid} {notes ref : Option String}
    {log : AuditLog} : (transition id status actor notes ref log).program.Orderly
      (System.ByRank RowLock rank (transition id status actor notes ref log)) (fun _ _ => True) [] := by
  refine .map (.beginTx (.forUpdate byRank_first fun s => .okOr fun payout hrow => ?_))
  have hid : payout.id = id := (Table.find_some hrow).2
  refine .ofExcept fun target _ => .ite ?_ ?_
  · exact .forUpdate (byRank_second Nat.zero_lt_one) fun s => .okOr fun vault _ =>
      .rollbackTx (.pure trivial)
  refine .forUpdate (byRank_second Nat.zero_lt_one) fun s => .okOr fun vault hvault => ?_
  have hvaultId : vault.id = payout.vaultId := (Table.find_some hvault).2
  refine .execute ?_ (.bind (orderly_transitionVault ?_ fun v => orderly_tail trivial))
  · rintro r rfl
    rw [hid]; simp
  · rw [hvaultId]; exact List.mem_cons_self

/-- The pool; the entries that it makes for the new row are no row locks. -/
theorem orderly_fundPool {contribution : DonorContribution} {log : AuditLog} :
    (fundPool contribution log).program.Orderly
      (System.ByRank RowLock rank (fundPool contribution log)) (fun _ _ => True) [] := by
  refine .map (.beginTx (.forUpdate byRank_first fun s => .okOr fun pool hpool => ?_))
  have hid : pool.id = contribution.poolId := (Table.find_some hpool).2
  refine .bind (orderly_updatePoolFunds (hid ▸ List.mem_cons_self) fun updated => ?_)
  refine .failIf fun _ => orderly_insertUnique (byRank_entry (.inl rfl)) ?_
  refine orderly_insertUniqueKey (fun key hkey => byRank_entry (.inr ⟨key, hkey, rfl⟩)) ?_
  intro held hmore hkeys
  refine .ofExcept fun amount _ => .execute ?_ (orderly_tail trivial)
  rintro r (rfl | ⟨key, hkey, rfl⟩)
  · exact hmore _ List.mem_cons_self
  · exact hkeys key hkey

/-- The application, then its pool. -/
theorem orderly_decideApplication {id : Uuid} {status : String} {award : ScholarshipAward}
    {funds : Int64} {log : AuditLog} :
    (decideApplication id status award funds log).program.Orderly
      (System.ByRank RowLock rank (decideApplication id status award funds log))
      (fun _ _ => True) [] := by
  refine .map (.beginTx (.forUpdate byRank_first fun s => .okOr fun application hrow => ?_))
  have hid : application.id = id := (Table.find_some hrow).2
  refine .ofExcept fun target _ => .execute ?_ ?_
  · rintro r rfl
    rw [hid]; exact List.mem_cons_self
  refine .forUpdate (byRank_second Nat.zero_lt_one) fun s => .okOr fun pool hpool => ?_
  have hpoolId : pool.id = application.poolId := (Table.find_some hpool).2
  refine .bind (orderly_updatePoolFunds ?_ fun updated => ?_)
  · rw [hpoolId]; exact List.mem_cons_self
  refine orderly_insertUnique (byRank_entry rfl) ?_
  refine .ofExcept fun amount _ => .execute ?_ (orderly_tail trivial)
  rintro r rfl
  exact List.mem_cons_self

/-- The award, then the pool of its application. -/
theorem orderly_transitionAward {id : Uuid} {status : String} {payout vault : Option Uuid}
    {funds : Int64} {log : AuditLog} :
    (transitionAward id status payout vault funds log).program.Orderly
      (System.ByRank RowLock rank (transitionAward id status payout vault funds log))
      (fun _ _ => True) [] := by
  refine .map (.beginTx (.forUpdate byRank_first fun s => .okOr fun award hrow => ?_))
  have hid : award.id = id := (Table.find_some hrow).2
  refine .ofExcept fun target _ => .execute ?_ ?_
  · rintro r rfl
    rw [hid]; exact List.mem_cons_self
  -- the application is read without a lock
  refine .select fun s => .okOr fun application _ => ?_
  refine .forUpdate (byRank_second Nat.zero_lt_one) fun s => .okOr fun pool hpool => ?_
  have hpoolId : pool.id = application.poolId := (Table.find_some hpool).2
  refine .bind (orderly_updatePoolFunds ?_ fun updated => orderly_tail trivial)
  rw [hpoolId]; exact List.mem_cons_self

/-- **Every transaction locks by increasing rank**, and updates what it has locked. -/
theorem orderly (q : Workflow) :
    q.program.Orderly (System.ByRank RowLock rank q) (fun _ _ => True) [] := by
  cases q with
  | settle => exact orderly_settle
  | transition => exact orderly_transition
  | fundPool => exact orderly_fundPool
  | decideApplication => exact orderly_decideApplication
  | transitionAward => exact orderly_transitionAward

end Workflow

/-- The system after the events `es`, in which the requests are transactions of the five kinds. -/
def Workflow.after (s : Db) (es : List (Event Workflow Nat)) :
    System Db Content Write PersistenceError Unit Workflow Nat :=
  (System.start s).run Workflow.program es

/-- **No reachable state has a cycle of transactions that wait for each other's row locks**, however
    many of them there are, on whatever rows, in whatever order.

    A cycle would be a slot that waits for itself along `WaitsFor`.  Each transaction locks in the
    order of the ranks, so what a slot waits for ranks below what the next one waits for, and along
    a cycle the ranks would increase for ever. -/
theorem workflows_never_deadlock (s : Db) (es : List (Event Workflow Nat)) (i : Nat) :
    ¬ Relation.TransGen (System.WaitsFor Workflow.RowLock (Workflow.after s es)) i i :=
  (System.ordered_run Workflow.orderly s es).no_cycle i

end EduStell
