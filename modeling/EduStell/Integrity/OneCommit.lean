/-
  A request commits at most once, and one that is answered with an error has not committed.

  Both are read off the programs, as a script of `EduStell.Txn.History`: one rule for each shared
  statement, one lemma for each transaction of the repositories, and one for each service.  A commit
  adds one row to the trail (`commit_row`), so in a run the rows of the trail belong to different
  requests (`owners_nodup`).

  The proofs follow the programs and are alike: a guard or a lookup that fails has committed
  nothing, a statement commits nothing either, and behind the COMMIT there is only the answer.
-/
import EduStell.Scholarships.Funding
import EduStell.Trail.Rows

namespace EduStell

open Txn Program Persistence

/-! ## The script

  The script asks for one thing more than "at most one": an error comes before any commit. -/

/-- At most one commit, and none before an error. -/
def oneCommit {ε α : Type} : Script Write ε α where
  ok done := done.length ≤ 1
  answers done r := match r with
    | .ok _ => True
    | .error _ => done = []

section

variable {ε ε' α β : Type} {ws : List Write}

/-- Converted errors are errors. -/
theorem once_mapError {p : Tx ε' α} {g : ε' → ε} (h : p.Follows oneCommit [] ws) :
    (p.mapError g).Follows oneCommit [] ws := by
  refine Follows.mapError (h.mono (fun _ => id) fun done r => ?_)
  cases r <;> exact id

/-- An answer that is changed afterwards is an answer. -/
theorem once_map {p : Tx ε α} {f : α → β} (h : p.Follows oneCommit [] ws) :
    (f <$> p).Follows oneCommit [] ws := by
  refine Follows.map (h.mono (fun _ => id) fun done r => ?_)
  cases r <;> exact id

/-- The same for an answer that is changed by a last `return`. -/
theorem once_return {p : Tx ε α} {f : α → β} (h : p.Follows oneCommit [] ws) :
    (p >>= fun a => pure (f a)).Follows oneCommit [] ws :=
  once_map h

/-- The errors of a repository become errors of the service. -/
theorem once_workflow {p : Tx PersistenceError α} (h : p.Follows oneCommit [] ws) :
    (workflow p).Follows oneCommit [] ws :=
  once_mapError h

/-- A check that is made only in some cases. -/
theorem once_checkIf [IntoServiceError ε] {c : Prop} [Decidable c] {r : Except ε Unit}
    {k : Unit → Tx ServiceError β} (h : (k ()).Follows oneCommit [] ws) :
    (checkIf c r >>= k).Follows oneCommit [] ws := by
  rw [checkIf]
  split
  · exact Follows.ofExcept (fun _ => rfl) fun _ => h
  · exact h

end

/-! ## The transactions

  A transaction of a repository ends with its commit, or without one: by an early return, or by
  the rollback of a repeat. -/

section

variable {β : Type} {ws : List Write}

/-- New totals of a vault: a statement, or the CHECK refuses them. -/
theorem once_updateVaultTotals {vault : SavingsVault} {total : Int64}
    {k : SavingsVault → Tx PersistenceError β} (h : ∀ vault ws, (k vault).Follows oneCommit [] ws) :
    (updateVaultTotals vault total >>= k).Follows oneCommit [] ws := by
  rw [updateVaultTotals]
  split
  · rw [bind_assoc]
    exact Follows.execute (h _ _)
  · exact (rfl : ([] : List (List Write)) = [])

/-- New locked and disbursed amounts of a vault: a statement, or a CHECK refuses one of them. -/
theorem once_updateVaultLockedAndDisbursed {vault : SavingsVault} {locked disbursed : Int64}
    {k : SavingsVault → Tx PersistenceError β} (h : ∀ vault ws, (k vault).Follows oneCommit [] ws) :
    (updateVaultLockedAndDisbursed vault locked disbursed >>= k).Follows oneCommit [] ws := by
  rw [updateVaultLockedAndDisbursed]
  split
  · split
    · rw [bind_assoc]
      exact Follows.execute (h _ _)
    · exact (rfl : ([] : List (List Write)) = [])
  · exact (rfl : ([] : List (List Write)) = [])

/-- New funds of a pool: a statement, or the CHECK refuses them. -/
theorem once_updatePoolFunds {pool : ScholarshipPool} {funds : Int64}
    {k : ScholarshipPool → Tx PersistenceError β} (h : ∀ pool ws, (k pool).Follows oneCommit [] ws) :
    (updatePoolFunds pool funds >>= k).Follows oneCommit [] ws :=
  follows_updatePoolFunds rfl fun _ => h _ _

/-- The audit row, the COMMIT and the answer. -/
theorem once_tail {log : AuditLog} {b : β} :
    (appendAuditLog log >>= fun _ => commitTx >>= fun _ => pure b :
      Tx PersistenceError β).Follows oneCommit [] ws :=
  Follows.execute (Follows.commitTx (Nat.le_refl 1) trivial)

/-- What a settlement writes to the vault and to its ledger. -/
theorem once_settleVault {vault : SavingsVault} {contribution : Contribution} {actorUserId : Uuid}
    {status : ContributionStatus} {k : SavingsVault × Option VaultLedgerEntry → Tx PersistenceError β}
    (h : ∀ r ws, (k r).Follows oneCommit [] ws) :
    (settleVault vault contribution actorUserId status >>= k).Follows oneCommit [] ws := by
  simp only [settleVault]
  cases status with
  | confirmed =>
    simp only [insertLedgerEntry, bind_assoc, pure_bind]
    exact once_updateVaultTotals fun _ _ => Follows.execute (h _ _)
  | reversed =>
    simp only [insertLedgerEntry, bind_assoc, pure_bind]
    exact Follows.failIf rfl (once_updateVaultTotals fun _ _ => Follows.execute (h _ _))
  | failed => exact h _ _
  | pending => exact h _ _

/-- What a review writes to the vault. -/
theorem once_transitionVault {vault : SavingsVault} {payout : PayoutRequest} {status : PayoutStatus}
    {k : SavingsVault → Tx PersistenceError β} (h : ∀ vault ws, (k vault).Follows oneCommit [] ws) :
    (transitionVault vault payout status >>= k).Follows oneCommit [] ws := by
  cases status with
  | approved => exact once_updateVaultLockedAndDisbursed h
  | completed =>
    rw [transitionVault, bind_assoc]
    exact Follows.failIf rfl (once_updateVaultLockedAndDisbursed h)
  | failed =>
    rw [transitionVault]
    split
    · exact once_updateVaultLockedAndDisbursed h
    · exact h _ _
  | _ => exact h _ _

end

/-- The contribution, if its key is free, and the audit row. -/
theorem createIntent_once (contribution : Contribution) (auditLog : AuditLog) :
    (createIntentWithAudit contribution auditLog).Follows oneCommit [] [] := by
  refine Follows.beginTx (Follows.failIf rfl (follows_insertUnique rfl ?_))
  refine follows_insertUniqueKey rfl (Follows.ofExcept (fun _ => rfl) fun _ => ?_)
  exact Follows.execute once_tail

/-- The contribution, the vault with its ledger, and the audit row; a repeated settlement rolls
    back. -/
theorem settle_once (contributionId : Uuid) (status : String) (actorUserId : Uuid)
    (externalReference : Option String) (auditLog : AuditLog) :
    (settleWithAudit contributionId status actorUserId externalReference auditLog).Follows
      oneCommit [] [] := by
  refine Follows.beginTx (Follows.forUpdate fun row => Follows.okOr rfl fun contribution => ?_)
  refine Follows.ofExcept (fun _ => rfl) fun target => ?_
  split
  · -- a repeated transition is rolled back
    exact Follows.forUpdate fun _ => Follows.okOr rfl fun _ => trivial
  · refine Follows.forUpdate fun _ => Follows.okOr rfl fun vault => Follows.execute ?_
    exact once_settleVault fun _ _ => once_tail

/-- The school and the audit row, when the verification repeats an earlier one too. -/
theorem verify_once (schoolId : Uuid) (verificationStatus : String) (verifiedBy : Uuid)
    (auditLog : AuditLog) :
    (verifyWithAudit schoolId verificationStatus verifiedBy auditLog).Follows oneCommit [] [] := by
  refine Follows.beginTx (Follows.forUpdate fun row => Follows.okOr rfl fun school => ?_)
  exact Follows.ofExcept (fun _ => rfl) fun _ => Follows.execute once_tail

/-- The payout, if its key is free, and the audit row. -/
theorem createRequest_once (payout : PayoutRequest) (auditLog : AuditLog) :
    (createRequestWithAudit payout auditLog).Follows oneCommit [] [] := by
  refine Follows.beginTx (Follows.failIf rfl (follows_insertUnique rfl ?_))
  refine follows_insertUniqueKey rfl (Follows.ofExcept (fun _ => rfl) fun _ => ?_)
  exact Follows.execute once_tail

/-- The payout, the vault and the audit row; a repeated transition rolls back. -/
theorem transition_once (payoutId : Uuid) (status : String) (actorUserId : Uuid)
    (reviewNotes externalPayoutReference : Option String) (auditLog : AuditLog) :
    (transitionWithAudit payoutId status actorUserId reviewNotes externalPayoutReference
      auditLog).Follows oneCommit [] [] := by
  refine Follows.beginTx (Follows.forUpdate fun row => Follows.okOr rfl fun payout => ?_)
  refine Follows.ofExcept (fun _ => rfl) fun target => ?_
  split
  · -- a repeated transition is rolled back
    exact Follows.forUpdate fun _ => Follows.okOr rfl fun _ => trivial
  · refine Follows.forUpdate fun _ => Follows.okOr rfl fun vault => Follows.execute ?_
    exact once_transitionVault fun _ _ => once_tail

/-- The pool, if its id is free, and the audit row. -/
theorem createPool_once (pool : ScholarshipPool) (auditLog : AuditLog) :
    (createPoolWithAudit pool auditLog).Follows oneCommit [] [] := by
  refine Follows.beginTx (follows_insertUnique rfl (Follows.ofExcept (fun _ => rfl) fun _ => ?_))
  exact Follows.execute once_tail

/-- The pool, the donor contribution if its key is free, and the audit row. -/
theorem fundPool_once (contribution : DonorContribution) (auditLog : AuditLog) :
    (fundPoolWithAudit contribution auditLog).Follows oneCommit [] [] := by
  refine Follows.beginTx (Follows.forUpdate fun row => Follows.okOr rfl fun pool => ?_)
  refine once_updatePoolFunds fun _ _ => Follows.failIf rfl (follows_insertUnique rfl ?_)
  refine follows_insertUniqueKey rfl (Follows.ofExcept (fun _ => rfl) fun _ => ?_)
  exact Follows.execute once_tail

/-- The application, if its id is free, and the audit row. -/
theorem createApplication_once (application : ScholarshipApplication) (auditLog : AuditLog) :
    (createApplicationWithAudit application auditLog).Follows oneCommit [] [] :=
  Follows.beginTx (follows_insertUnique rfl (Follows.execute once_tail))

/-- The application, the pool, the award if its id is free, and the audit row. -/
theorem decideApplication_once (applicationId : Uuid) (applicationStatus : String)
    (award : ScholarshipAward) (funds : Int64) (auditLog : AuditLog) :
    (decideApplicationWithAudit applicationId applicationStatus award funds auditLog).Follows
      oneCommit [] [] := by
  refine Follows.beginTx (Follows.forUpdate fun row => Follows.okOr rfl fun application => ?_)
  refine Follows.ofExcept (fun _ => rfl) fun status => Follows.execute ?_
  refine Follows.forUpdate fun row => Follows.okOr rfl fun pool => once_updatePoolFunds fun _ _ => ?_
  refine follows_insertUnique rfl (Follows.ofExcept (fun _ => rfl) fun _ => ?_)
  exact Follows.execute once_tail

/-- The award, the pool and the audit row; the application is only read. -/
theorem transitionAward_once (awardId : Uuid) (status : String)
    (linkedPayoutRequestId linkedVaultId : Option Uuid) (funds : Int64) (auditLog : AuditLog) :
    (transitionAwardWithAudit awardId status linkedPayoutRequestId linkedVaultId funds
      auditLog).Follows oneCommit [] [] := by
  refine Follows.beginTx (Follows.forUpdate fun row => Follows.okOr rfl fun award => ?_)
  refine Follows.ofExcept (fun _ => rfl) fun status => Follows.execute ?_
  refine Follows.select fun s => Follows.okOr rfl fun application => ?_
  refine Follows.forUpdate fun row => Follows.okOr rfl fun pool => ?_
  exact once_updatePoolFunds fun _ _ => once_tail

/-! ## The services

  A service checks, reads, and calls one transaction last. -/

section

variable {newId : Uuid} {actor : AuthenticatedUser}

/-- Its reads and its checks, then one transaction. -/
theorem recordContributionIntent_once (input : RecordContributionIntentInput) :
    (recordContributionIntent newId actor input).Follows oneCommit [] [] := by
  refine Follows.failIf rfl (Follows.ofExcept (fun _ => rfl) fun _ => ?_)
  refine Follows.select fun s => Follows.okOr rfl fun vault => Follows.select fun s => ?_
  refine Follows.ofExcept (fun _ => rfl) fun _ => Follows.ofExcept (fun _ => rfl) fun _ => ?_
  refine Follows.select fun s => ?_
  split
  · exact Follows.ofExcept (fun _ => rfl) fun _ => trivial
  · refine Follows.ofExcept (fun _ => rfl) fun amount => ?_
    exact once_workflow (createIntent_once _ _)

/-- One transaction, after a lookup that may answer a repeated settlement at once. -/
theorem settleContribution_once (input : SettlementInput) (tr : ContributionTransition)
    (auditAction : String) :
    (settleContribution actor input tr auditAction).Follows oneCommit [] [] := by
  refine Follows.ofExcept (fun _ => rfl) fun _ => Follows.select fun s => ?_
  refine Follows.okOr rfl fun current => Follows.ofExcept (fun _ => rfl) fun target => ?_
  split
  · -- a repeated settlement does not get to its transaction
    exact trivial
  · exact once_return (once_workflow (settle_once _ _ _ _ _))

/-- Its reads and its checks, then one transaction. -/
theorem createPayoutRequest_once (input : CreatePayoutRequestInput) :
    (createPayoutRequest newId actor input).Follows oneCommit [] [] := by
  refine Follows.ofExcept (fun _ => rfl) fun _ => Follows.ofExcept (fun _ => rfl) fun _ => ?_
  refine Follows.select fun s => ?_
  split
  · split
    · exact trivial
    · exact (rfl : ([] : List (List Write)) = [])
  · refine Follows.select fun s => Follows.okOr rfl fun vault => Follows.failIf rfl ?_
    refine Follows.select fun s => Follows.okOr rfl fun milestone => ?_
    refine Follows.select fun s => Follows.okOr rfl fun school => ?_
    refine Follows.ofExcept (fun _ => rfl) fun _ => Follows.ofExcept (fun _ => rfl) fun _ => ?_
    refine Follows.ofExcept (fun _ => rfl) fun _ => Follows.ofExcept (fun _ => rfl) fun _ => ?_
    refine Follows.ofExcept (fun _ => rfl) fun _ => Follows.ofExcept (fun _ => rfl) fun amount => ?_
    exact once_workflow (createRequest_once _ _)

/-- One transaction, after a lookup that may answer a repeated transition at once. -/
theorem reviewTransition_once (input : ReviewPayoutInput) (tr : PayoutTransition)
    (auditAction : String) :
    (reviewTransition actor input tr auditAction).Follows oneCommit [] [] := by
  refine Follows.ofExcept (fun _ => rfl) fun _ => Follows.select fun s => ?_
  refine Follows.okOr rfl fun payout => Follows.ofExcept (fun _ => rfl) fun target => ?_
  split
  · exact trivial
  · refine Follows.select fun s => Follows.okOr rfl fun school => ?_
    refine Follows.select fun s => Follows.okOr rfl fun milestone => ?_
    refine Follows.select fun s => Follows.okOr rfl fun vault => ?_
    refine Follows.ofExcept (fun _ => rfl) fun _ => Follows.ofExcept (fun _ => rfl) fun _ => ?_
    exact once_checkIf (once_checkIf (once_return (once_workflow (transition_once _ _ _ _ _ _))))

/-- One transaction, and nothing else. -/
theorem verifySchool_once (input : VerifySchoolInput) :
    (verifySchool actor input).Follows oneCommit [] [] :=
  Follows.ofExcept (fun _ => rfl) fun _ => once_workflow (verify_once _ _ _ _)

/-- Its checks, then one transaction. -/
theorem createScholarshipPool_once (input : CreateScholarshipPoolInput) :
    (createScholarshipPool newId actor input).Follows oneCommit [] [] := by
  unfold createScholarshipPool
  -- the check is not to be evaluated
  generalize (trim input.name).isEmpty = blank
  refine Follows.failIf rfl (Follows.failIf rfl (Follows.ofExcept (fun _ => rfl) fun _ => ?_))
  exact once_workflow (createPool_once _ _)

/-- Its reads and its checks, then one transaction. -/
theorem fundScholarshipPool_once (input : FundScholarshipPoolInput) :
    (fundScholarshipPool newId actor input).Follows oneCommit [] [] := by
  refine Follows.ofExcept (fun _ => rfl) fun _ => Follows.ofExcept (fun _ => rfl) fun _ => ?_
  refine Follows.select fun s => Follows.okOr rfl fun pool => ?_
  refine Follows.ofExcept (fun _ => rfl) fun _ => Follows.ofExcept (fun _ => rfl) fun _ => ?_
  exact Follows.ofExcept (fun _ => rfl) fun amount => once_workflow (fundPool_once _ _)

/-- Its reads and its checks, then one transaction. -/
theorem createScholarshipApplication_once (input : CreateScholarshipApplicationInput) :
    (createScholarshipApplication newId actor input).Follows oneCommit [] [] := by
  refine Follows.ofExcept (fun _ => rfl) fun _ => Follows.select fun s => ?_
  refine Follows.okOr rfl fun pool => Follows.ofExcept (fun _ => rfl) fun _ => ?_
  refine Follows.select fun s => Follows.okOr rfl fun child => ?_
  refine Follows.ofExcept (fun _ => rfl) fun _ => Follows.ofExcept (fun _ => rfl) fun _ => ?_
  exact once_workflow (createApplication_once _ _)

/-- Its reads and its checks, then one transaction. -/
theorem approveApplication_once (input : DecideScholarshipApplicationInput) :
    (approveApplication newId actor input).Follows oneCommit [] [] := by
  refine Follows.ofExcept (fun _ => rfl) fun _ => Follows.ofExcept (fun _ => rfl) fun _ => ?_
  refine Follows.select fun s => Follows.okOr rfl fun application => ?_
  refine Follows.ofExcept (fun _ => rfl) fun _ => Follows.select fun s => ?_
  refine Follows.okOr rfl fun pool => Follows.ofExcept (fun _ => rfl) fun _ => ?_
  refine Follows.ofExcept (fun _ => rfl) fun _ => Follows.ofExcept (fun _ => rfl) fun amount => ?_
  exact once_return (once_workflow (decideApplication_once _ _ _ _ _))

/-- Its reads and its checks, then one transaction. -/
theorem rejectApplication_once (input : DecideScholarshipApplicationInput) :
    (rejectApplication newId actor input).Follows oneCommit [] [] := by
  refine Follows.ofExcept (fun _ => rfl) fun _ => Follows.select fun s => ?_
  refine Follows.okOr rfl fun application => Follows.ofExcept (fun _ => rfl) fun _ => ?_
  refine Follows.select fun s => Follows.okOr rfl fun pool => ?_
  refine Follows.ofExcept (fun _ => rfl) fun amount => ?_
  exact once_return (once_workflow (decideApplication_once _ _ _ _ _))

/-- Its reads and its checks, then one transaction. -/
theorem disburseAward_once (input : UpdateScholarshipAwardInput) :
    (disburseAward actor input).Follows oneCommit [] [] := by
  refine Follows.ofExcept (fun _ => rfl) fun _ => Follows.select fun s => ?_
  refine Follows.okOr rfl fun award => Follows.ofExcept (fun _ => rfl) fun target => ?_
  refine Follows.select fun s => Follows.okOr rfl fun application => ?_
  refine Follows.select fun s => Follows.okOr rfl fun pool => ?_
  exact once_return (once_workflow (transitionAward_once _ _ _ _ _ _))

/-- Its reads and its checks, then one transaction. -/
theorem revokeAward_once (input : UpdateScholarshipAwardInput) :
    (revokeAward actor input).Follows oneCommit [] [] := by
  refine Follows.ofExcept (fun _ => rfl) fun _ => Follows.select fun s => ?_
  refine Follows.okOr rfl fun award => Follows.ofExcept (fun _ => rfl) fun target => ?_
  refine Follows.select fun s => Follows.okOr rfl fun application => ?_
  refine Follows.select fun s => Follows.okOr rfl fun pool => ?_
  exact once_return (once_workflow (transitionAward_once _ _ _ _ _ _))

end

/-- **A request commits at most once**, and not at all if it is answered with an error. -/
theorem Request.once (q : Request) : q.program.Follows oneCommit [] [] := by
  cases q with
  | record newId actor input => exact once_map (recordContributionIntent_once input)
  | settle tr actor input =>
    rw [Request.program, settlement_eq]
    exact once_map (settleContribution_once input tr _)
  | createPayout newId actor input => exact once_map (createPayoutRequest_once input)
  | review tr actor input =>
    rw [Request.program, reviewStep_eq]
    exact once_map (reviewTransition_once input tr _)
  | verifySchool actor input => exact once_map (verifySchool_once input)
  | createPool newId actor input => exact once_map (createScholarshipPool_once input)
  | fundPool newId actor input => exact once_map (fundScholarshipPool_once input)
  | createApplication newId actor input => exact once_map (createScholarshipApplication_once input)
  | approve newId actor input => exact once_map (approveApplication_once input)
  | reject newId actor input => exact once_map (rejectApplication_once input)
  | disburse actor input => exact once_map (disburseAward_once input)
  | revoke actor input => exact once_map (revokeAward_once input)

/-! ## Commits and their rows

  In a run the script is one of the slots.  Commits, slots and rows of the trail then correspond
  one to one. -/

/-- Nothing is asked of a run, but each commit has its effect and its audit row. -/
def rowContract : Contract Request.program Request.EffectWith Request.Stops where
  outcomes := Request.audited
  inv _ := True
  rely _ _ := True
  arrivals _ := True
  cond _ _ _ := True
  refl _ := trivial
  trans _ _ := trivial
  keep _ _ _ _ _ := ⟨trivial, trivial⟩

/-- A commit adds one row to the stored trail, and its request persists it. -/
theorem commit_row (s : Db) (es : List Happening) {e : Happening}
    {c : Committed Db Resource Write Request Nat}
    (h : (Sys.after s es).commitOf e = some c) :
    ∃ log, c.request.Persists log ∧
      (c.session.view c.state).audit = c.state.audit ++ [log] := by
  have hwithin : rowContract.Within s es :=
    System.meets_allows (fun _ => trivial) (fun _ _ _ => trivial) _ _
  have hsound := rowContract.sound trivial hwithin
  obtain ⟨-, k, hslot⟩ := System.slot_of_commitOf h
  obtain ⟨hstate, -⟩ := System.db_next_some Request.program h
  obtain ⟨a, -, -, -, heffect, -⟩ :=
    (hsound.running c.slot c.request _ c.session hslot).commit trivial trivial
  rw [hstate]
  exact heffect.2

section

variable {s : Db} {es : List Happening}

/-- The slots of a run keep to the script. -/
theorem follows_once (s : Db) (es : List Happening) (i : Nat) :
    System.SlotFollows (fun _ => oneCommit) ((Sys.after s es).slots i)
      (System.commitsOf i ((System.start s).history Request.program es)) :=
  System.follows_run (fun _ => Nat.zero_le 1) Request.once s es i

/-- A request of a run has committed at most once. -/
theorem commitsOf_le (s : Db) (es : List Happening) (i : Nat) :
    (System.commitsOf i ((System.start s).history Request.program es)).length ≤ 1 := by
  have hfollows := follows_once s es i
  generalize System.commitsOf i _ = mine at hfollows ⊢
  generalize (Sys.after s es).slots i = slot at hfollows
  rw [← List.length_map fun c : Committed Db Resource Write Request Nat => c.session.writes]
  cases slot with
  | idle =>
    have hnone : mine = [] := hfollows
    rw [hnone]
    exact Nat.zero_le 1
  | running q p l => exact hfollows.2.1
  | finished q r l => exact hfollows.2.1
  | lost q => exact hfollows.2

/-- One that has been answered with an error has not committed. -/
theorem commitsOf_eq_nil {i : Nat} {q : Request} {e : ServiceError} {l : Sess}
    (h : (Sys.after s es).slots i = .finished q (.error e) l) :
    System.commitsOf i ((System.start s).history Request.program es) = [] := by
  have hfollows := follows_once s es i
  rw [h] at hfollows
  exact List.map_eq_nil_iff.mp hfollows.2.2

/-- The slots of the commits, one after the other. -/
def owners (s : Db) (es : List Happening) : List Nat :=
  ((System.start s).history Request.program es).map fun c => c.slot

/-- No request owns two rows of the trail. -/
theorem owners_nodup (s : Db) (es : List Happening) : (owners s es).Nodup := by
  rw [List.nodup_iff_count_le_one]
  intro i
  rw [owners, List.count_eq_countP, List.countP_map, List.countP_eq_length_filter]
  exact commitsOf_le s es i

/-- The owner of a row has not been answered with an error. -/
theorem not_failed_of_mem_owners {i : Nat} (hi : i ∈ owners s es) {q : Request}
    {e : ServiceError} {l : Sess} : (Sys.after s es).slots i ≠ .finished q (.error e) l := by
  intro hslot
  obtain ⟨c, hc, hci⟩ := List.mem_map.mp hi
  have hmem : c ∈ System.commitsOf i ((System.start s).history Request.program es) :=
    List.mem_filter.mpr ⟨hc, decide_eq_true hci⟩
  rw [commitsOf_eq_nil hslot] at hmem
  cases hmem

end

end EduStell
