/-
  The audit row of a transaction is the one that it is handed, redacted.

  `Audits P` allows a statement every write but an audit row without `P`.  A workflow transaction that
  is handed an audit row with `P` writes under `Audits P`, whatever else it does; `Outcomes.writes`
  carries this to its ends, and `audit_view` to the rows that a commit adds.

  `P` is a parameter, so that one walk through each transaction serves whatever is known of the
  row that it is handed; `EduStell.Trail.Rows` takes for it that the row is the one its request
  has built.
-/
import EduStell.Requests
import EduStell.Txn.Writes

namespace EduStell

open Txn Program Persistence

/-- A statement that writes no audit row, or one with `P`. -/
def Audits (P : AuditLog → Prop) (w : Write) : Prop := ∀ log, w = .insertAuditLog log → P log

variable {P : AuditLog → Prop}

/-! ## Shared statements

  The shared statements write rows of other tables; only `appendAuditLog` adds to the trail. -/

section

variable {ε : Type}

/-- A statement that is no audit row. -/
theorem writes_execute {w : Write} (h : ∀ log, w ≠ .insertAuditLog log) :
    (execute w : Tx ε Unit).WritesOnly (Audits P) :=
  .execute fun log hlog => absurd hlog (h log)

/-- The audit row is stored as the redaction leaves it. -/
theorem writes_appendAuditLog {auditLog : AuditLog} (h : P (sanitizeAuditLog auditLog)) :
    (appendAuditLog auditLog).WritesOnly (Audits P) := by
  refine .execute ?_
  rintro log ⟨rfl⟩
  exact h

/-- A unique index entry is only locked. -/
theorem writes_insertUnique (r : Resource) (taken : Content r → Bool) (constraint : String) :
    (insertUnique r taken constraint).WritesOnly (Audits P) :=
  (WritesOnly.forUpdate r).bind fun _ => .failIf _ _

/-- So is one that there may be no key for. -/
theorem writes_insertUniqueKey (key : Option String) (entry : String → Resource)
    (taken : ∀ k, Content (entry k) → Bool) (constraint : String) :
    (insertUniqueKey key entry taken constraint).WritesOnly (Audits P) := by
  cases key with
  | none => exact .pure ()
  | some k => exact writes_insertUnique _ _ _

/-- New totals are no audit row. -/
theorem writes_updateVaultTotals (vault : SavingsVault) (total : Int64) :
    (updateVaultTotals vault total).WritesOnly (Audits P) :=
  .dite (fun _ => (writes_execute (by simp)).bind fun _ => .pure _) fun _ => .fail _

/-- Nor are new locked and disbursed amounts. -/
theorem writes_updateVaultLockedAndDisbursed (vault : SavingsVault) (locked disbursed : Int64) :
    (updateVaultLockedAndDisbursed vault locked disbursed).WritesOnly (Audits P) :=
  .dite (fun _ => .dite (fun _ => (writes_execute (by simp)).bind fun _ => .pure _) fun _ => .fail _)
    fun _ => .fail _

/-- Nor is a ledger entry, which is a row of another table. -/
theorem writes_insertLedgerEntry (vault : SavingsVault) (contribution : Contribution)
    (actorUserId : Uuid) (entryType : VaultLedgerEntryType) (externalReference : Option String) :
    (insertLedgerEntry vault contribution actorUserId entryType externalReference).WritesOnly
      (Audits P) :=
  (writes_execute (by simp)).bind fun _ => .pure _

/-- Nor are new funds of a pool. -/
theorem writes_updatePoolFunds (pool : ScholarshipPool) (funds : Int64) :
    (updatePoolFunds pool funds).WritesOnly (Audits P) :=
  .dite (fun _ => (writes_execute (by simp)).bind fun _ => .pure _) fun _ => .fail _

end

/-! ## The workflow transactions

  One lemma for each transaction, all by the rules for the statements: the trail gets the row that
  the service has built, and no other. -/

section

variable {auditLog : AuditLog}

/-- The contribution, and the audit row that it was given. -/
theorem writes_createIntentWithAudit (contribution : Contribution)
    (h : P (sanitizeAuditLog auditLog)) :
    (createIntentWithAudit contribution auditLog).WritesOnly (Audits P) := by
  refine WritesOnly.beginTx.bind fun _ => (WritesOnly.failIf _ _).bind fun _ => ?_
  refine (writes_insertUnique _ _ _).bind fun _ => (writes_insertUniqueKey _ _ _ _).bind fun _ => ?_
  refine (WritesOnly.ofExcept _).bind fun _ => (writes_execute (by simp)).bind fun _ => ?_
  exact (writes_appendAuditLog h).bind fun _ => WritesOnly.commitTx.bind fun _ => .pure _

/-- The vault and its ledger, and no audit row of their own. -/
theorem writes_settleVault (vault : SavingsVault) (contribution : Contribution)
    (actorUserId : Uuid) (status : ContributionStatus) :
    (settleVault vault contribution actorUserId status).WritesOnly (Audits P) := by
  cases status with
  | confirmed =>
    exact (writes_updateVaultTotals _ _).bind fun _ =>
      (writes_insertLedgerEntry _ _ _ _ _).bind fun _ => .pure _
  | reversed =>
    exact (WritesOnly.failIf _ _).bind fun _ => (writes_updateVaultTotals _ _).bind fun _ =>
      (writes_insertLedgerEntry _ _ _ _ _).bind fun _ => .pure _
  | failed => exact .pure _
  | pending => exact .pure _

/-- The settlement, and the audit row that it was given. -/
theorem writes_settleWithAudit (contributionId : Uuid) (status : String) (actorUserId : Uuid)
    (externalReference : Option String) (h : P (sanitizeAuditLog auditLog)) :
    (settleWithAudit contributionId status actorUserId externalReference auditLog).WritesOnly
      (Audits P) := by
  refine WritesOnly.beginTx.bind fun _ => (WritesOnly.forUpdate _).bind fun _ => ?_
  refine (WritesOnly.okOr _ _).bind fun _ => (WritesOnly.ofExcept _).bind fun _ => ?_
  refine WritesOnly.ite ?_ ?_
  · refine (WritesOnly.forUpdate _).bind fun _ => (WritesOnly.okOr _ _).bind fun _ => ?_
    exact WritesOnly.rollbackTx.bind fun _ => .pure _
  refine (WritesOnly.forUpdate _).bind fun _ => (WritesOnly.okOr _ _).bind fun _ => ?_
  refine (writes_execute (by simp)).bind fun _ => (writes_settleVault _ _ _ _).bind fun _ => ?_
  exact (writes_appendAuditLog h).bind fun _ => WritesOnly.commitTx.bind fun _ => .pure _

/-- The verification, and the audit row that it was given. -/
theorem writes_verifyWithAudit (schoolId : Uuid) (verificationStatus : String) (verifiedBy : Uuid)
    (h : P (sanitizeAuditLog auditLog)) :
    (verifyWithAudit schoolId verificationStatus verifiedBy auditLog).WritesOnly (Audits P) := by
  refine WritesOnly.beginTx.bind fun _ => (WritesOnly.forUpdate _).bind fun _ => ?_
  refine (WritesOnly.okOr _ _).bind fun _ => (WritesOnly.ofExcept _).bind fun _ => ?_
  refine (writes_execute (by simp)).bind fun _ => (writes_appendAuditLog h).bind fun _ => ?_
  exact WritesOnly.commitTx.bind fun _ => .pure _

/-- The payout, and the audit row that it was given. -/
theorem writes_createRequestWithAudit (payout : PayoutRequest) (h : P (sanitizeAuditLog auditLog)) :
    (createRequestWithAudit payout auditLog).WritesOnly (Audits P) := by
  refine WritesOnly.beginTx.bind fun _ => (WritesOnly.failIf _ _).bind fun _ => ?_
  refine (writes_insertUnique _ _ _).bind fun _ => (writes_insertUniqueKey _ _ _ _).bind fun _ => ?_
  refine (WritesOnly.ofExcept _).bind fun _ => (writes_execute (by simp)).bind fun _ => ?_
  exact (writes_appendAuditLog h).bind fun _ => WritesOnly.commitTx.bind fun _ => .pure _

/-- The vault, and no audit row of its own. -/
theorem writes_transitionVault (vault : SavingsVault) (payout : PayoutRequest)
    (status : PayoutStatus) : (transitionVault vault payout status).WritesOnly (Audits P) := by
  cases status with
  | approved => exact writes_updateVaultLockedAndDisbursed _ _ _
  | completed =>
    exact (WritesOnly.failIf _ _).bind fun _ => writes_updateVaultLockedAndDisbursed _ _ _
  | failed => exact .ite (writes_updateVaultLockedAndDisbursed _ _ _) (.pure _)
  | rejected => exact .pure _
  | pending => exact .pure _
  | underReview => exact .pure _
  | processing => exact .pure _

/-- The review, and the audit row that it was given. -/
theorem writes_transitionWithAudit (payoutId : Uuid) (status : String) (actorUserId : Uuid)
    (reviewNotes externalPayoutReference : Option String) (h : P (sanitizeAuditLog auditLog)) :
    (transitionWithAudit payoutId status actorUserId reviewNotes externalPayoutReference
      auditLog).WritesOnly (Audits P) := by
  refine WritesOnly.beginTx.bind fun _ => (WritesOnly.forUpdate _).bind fun _ => ?_
  refine (WritesOnly.okOr _ _).bind fun _ => (WritesOnly.ofExcept _).bind fun _ => ?_
  refine WritesOnly.ite ?_ ?_
  · refine (WritesOnly.forUpdate _).bind fun _ => (WritesOnly.okOr _ _).bind fun _ => ?_
    exact WritesOnly.rollbackTx.bind fun _ => .pure _
  refine (WritesOnly.forUpdate _).bind fun _ => (WritesOnly.okOr _ _).bind fun _ => ?_
  refine (writes_execute (by simp)).bind fun _ => (writes_transitionVault _ _ _).bind fun _ => ?_
  exact (writes_appendAuditLog h).bind fun _ => WritesOnly.commitTx.bind fun _ => .pure _

/-- The pool, and the audit row that it was given. -/
theorem writes_createPoolWithAudit (pool : ScholarshipPool) (h : P (sanitizeAuditLog auditLog)) :
    (createPoolWithAudit pool auditLog).WritesOnly (Audits P) := by
  refine WritesOnly.beginTx.bind fun _ => (writes_insertUnique _ _ _).bind fun _ => ?_
  refine (WritesOnly.ofExcept _).bind fun _ => (writes_execute (by simp)).bind fun _ => ?_
  exact (writes_appendAuditLog h).bind fun _ => WritesOnly.commitTx.bind fun _ => .pure _

/-- The funding, and the audit row that it was given. -/
theorem writes_fundPoolWithAudit (contribution : DonorContribution)
    (h : P (sanitizeAuditLog auditLog)) :
    (fundPoolWithAudit contribution auditLog).WritesOnly (Audits P) := by
  refine WritesOnly.beginTx.bind fun _ => (WritesOnly.forUpdate _).bind fun _ => ?_
  refine (WritesOnly.okOr _ _).bind fun _ => (writes_updatePoolFunds _ _).bind fun _ => ?_
  refine (WritesOnly.failIf _ _).bind fun _ => (writes_insertUnique _ _ _).bind fun _ => ?_
  refine (writes_insertUniqueKey _ _ _ _).bind fun _ => (WritesOnly.ofExcept _).bind fun _ => ?_
  refine (writes_execute (by simp)).bind fun _ => (writes_appendAuditLog h).bind fun _ => ?_
  exact WritesOnly.commitTx.bind fun _ => .pure _

/-- The application, and the audit row that it was given. -/
theorem writes_createApplicationWithAudit (application : ScholarshipApplication)
    (h : P (sanitizeAuditLog auditLog)) :
    (createApplicationWithAudit application auditLog).WritesOnly (Audits P) := by
  refine WritesOnly.beginTx.bind fun _ => (writes_insertUnique _ _ _).bind fun _ => ?_
  refine (writes_execute (by simp)).bind fun _ => (writes_appendAuditLog h).bind fun _ => ?_
  exact WritesOnly.commitTx.bind fun _ => .pure _

/-- The decision with its award, and the audit row that it was given. -/
theorem writes_decideApplicationWithAudit (applicationId : Uuid) (applicationStatus : String)
    (award : ScholarshipAward) (poolAvailableFundsMinor : Int64)
    (h : P (sanitizeAuditLog auditLog)) :
    (decideApplicationWithAudit applicationId applicationStatus award poolAvailableFundsMinor
      auditLog).WritesOnly (Audits P) := by
  refine WritesOnly.beginTx.bind fun _ => (WritesOnly.forUpdate _).bind fun _ => ?_
  refine (WritesOnly.okOr _ _).bind fun _ => (WritesOnly.ofExcept _).bind fun _ => ?_
  refine (writes_execute (by simp)).bind fun _ => (WritesOnly.forUpdate _).bind fun _ => ?_
  refine (WritesOnly.okOr _ _).bind fun _ => (writes_updatePoolFunds _ _).bind fun _ => ?_
  refine (writes_insertUnique _ _ _).bind fun _ => (WritesOnly.ofExcept _).bind fun _ => ?_
  refine (writes_execute (by simp)).bind fun _ => (writes_appendAuditLog h).bind fun _ => ?_
  exact WritesOnly.commitTx.bind fun _ => .pure _

/-- The step of the award, and the audit row that it was given. -/
theorem writes_transitionAwardWithAudit (awardId : Uuid) (status : String)
    (linkedPayoutRequestId linkedVaultId : Option Uuid) (poolAvailableFundsMinor : Int64)
    (h : P (sanitizeAuditLog auditLog)) :
    (transitionAwardWithAudit awardId status linkedPayoutRequestId linkedVaultId
      poolAvailableFundsMinor auditLog).WritesOnly (Audits P) := by
  refine WritesOnly.beginTx.bind fun _ => (WritesOnly.forUpdate _).bind fun _ => ?_
  refine (WritesOnly.okOr _ _).bind fun _ => (WritesOnly.ofExcept _).bind fun _ => ?_
  refine (writes_execute (by simp)).bind fun _ => (WritesOnly.select _).bind fun _ => ?_
  refine (WritesOnly.okOr _ _).bind fun _ => (WritesOnly.forUpdate _).bind fun _ => ?_
  refine (WritesOnly.okOr _ _).bind fun _ => (writes_updatePoolFunds _ _).bind fun _ => ?_
  exact (writes_appendAuditLog h).bind fun _ => WritesOnly.commitTx.bind fun _ => .pure _

end

/-! ## What a commit adds to the trail

  From single statements to a commit: the trail grows by the rows that the session has written. -/

/-- The audit rows among the statements of a session. -/
def auditRows (ws : List Write) : List AuditLog :=
  ws.filterMap fun w => match w with
    | .insertAuditLog log => some log
    | _ => none

/-- A commit appends its audit rows, in the order in which it wrote them. -/
theorem audit_view (l : Sess) (s : Db) : (l.view s).audit = s.audit ++ auditRows l.writes := by
  rw [Session.view]
  induction l.writes generalizing s with
  | nil => exact (List.append_nil _).symm
  | cons w ws ih =>
    rw [List.foldl_cons, ih]
    cases w with
    | insertAuditLog log => exact List.append_assoc _ _ _
    | _ => rfl

/-- The audit rows among statements that all have the property. -/
theorem Audits.of_mem {ws : List Write} (h : ∀ w ∈ ws, Audits P w) :
    ∀ log ∈ auditRows ws, P log := by
  intro log hlog
  obtain ⟨w, hw, hrow⟩ := List.mem_filterMap.mp hlog
  cases w with
  | insertAuditLog row =>
    obtain rfl := Option.some.inj hrow
    exact h _ hw _ rfl
  | _ => cases hrow

end EduStell
