/-
  Reviewing a payout: every way one of the six review requests can end.

  The request reads the payout, its school, its milestone and its vault, each in a statement of its
  own and without a lock (snapshots `t₁` to `t₄`), decides, and then runs `transitionWithAudit`,
  which locks the payout and its vault and reads both again.  So there are two rows of the payout in
  `ReviewedAs`, the one on which legality was decided and the one that is rewritten, and two rows of
  the vault, the one on which the funds check was made and the one whose totals move.

  The proof that there are no other ends follows the program from its end to its beginning: the
  audit row and the commit (`reviewTail_ends`), the vault (`transitionVault_ends`), the
  transaction (`transitionWithAudit_ends`), and the service (`reviewTransition_ends`).
-/
import EduStell.Requests
import EduStell.Spec.Settlement

namespace EduStell

open Txn Program Payouts Persistence

variable {tr : PayoutTransition} {actor : AuthenticatedUser} {input : ReviewPayoutInput}

/-! ## What the ends are

  `ReviewedAs` is the commit.  An end without one is a stop, and `ReviewRefused` says in addition
  which check failed on which rows: it is what the questions about refusals are answered from. -/

/-- The rows that a review has read before its transaction, each with its snapshot. -/
structure ReviewReads where
  t₁ : Db
  t₂ : Db
  t₃ : Db
  t₄ : Db
  payout : PayoutRequest
  school : School
  milestone : Milestone
  vault : SavingsVault

/-- What the service has checked on these rows when it begins the transaction. -/
structure ReviewChecked (tr : PayoutTransition) (actor : AuthenticatedUser)
    (input : ReviewPayoutInput) (x : ReviewReads) : Prop where
  role : actor.role = .platformAdmin
  found : x.t₁.payouts.find input.payoutId = some x.payout
  legal : validateTransition x.payout.status tr = .ok tr.targetStatus
  changes : x.payout.status ≠ tr.targetStatus
  schoolFound : x.t₂.schools.find x.payout.schoolId = some x.school
  milestoneFound : x.t₃.milestones.find x.payout.milestoneId = some x.milestone
  vaultFound : x.t₄.vaults.find x.payout.vaultId = some x.vault
  verified : tr.needsVerifiedSchool → validateSchoolVerified x.school.verificationStatus = .ok ()
  funds : tr = .approve → ensureAvailableFunds x.vault.totalContributedMinor
    x.vault.totalLockedMinor x.vault.totalDisbursedMinor x.payout.amount.amountMinor = .ok ()

/-- What was checked is an edge. -/
theorem ReviewChecked.edge {x : ReviewReads} (h : ReviewChecked tr actor input x) :
    Edge x.payout.status tr.targetStatus :=
  edge_of_ok h.legal h.changes

/-- The transaction has begun. -/
structure ReviewBegun (tr : PayoutTransition) (actor : AuthenticatedUser)
    (input : ReviewPayoutInput) (l : Sess) (x : ReviewReads) : Prop extends
    ReviewChecked tr actor input x where
  began : l.began = true
  seen : l.seen = [x.t₄, x.t₃, x.t₂, x.t₁]

/-- What a review makes of the locked vault row. -/
inductive FundsMove (vault : SavingsVault) (amount : Int64) : PayoutTransition → SavingsVault → Prop
  | moveToReview : FundsMove vault amount .moveToReview vault
  /-- The amount is locked. -/
  | approve (hl : 0 ≤ vault.totalLockedMinor + amount) : FundsMove vault amount .approve
      (vault.setLockedAndDisbursed (vault.totalLockedMinor + amount) vault.totalDisbursedMinor hl
        vault.disbursed_nonneg)
  | reject : FundsMove vault amount .reject vault
  | markProcessing : FundsMove vault amount .markProcessing vault
  /-- The amount goes from the locked to the disbursed total. -/
  | complete (hle : amount ≤ vault.totalLockedMinor) (hl : 0 ≤ vault.totalLockedMinor - amount)
      (hd : 0 ≤ vault.totalDisbursedMinor + amount) : FundsMove vault amount .complete
      (vault.setLockedAndDisbursed (vault.totalLockedMinor - amount)
        (vault.totalDisbursedMinor + amount) hl hd)
  /-- The amount is released. -/
  | fail (hle : amount ≤ vault.totalLockedMinor) (hl : 0 ≤ vault.totalLockedMinor - amount) :
      FundsMove vault amount .fail
      (vault.setLockedAndDisbursed (vault.totalLockedMinor - amount) vault.totalDisbursedMinor hl
        vault.disbursed_nonneg)
  /-- Less than the amount is locked, and nothing is released. -/
  | failShort (hlt : vault.totalLockedMinor < amount) : FundsMove vault amount .fail vault

/-- The payout row after the review. -/
def reviewedRow (tr : PayoutTransition) (actor : AuthenticatedUser) (input : ReviewPayoutInput)
    (row : PayoutRequest) : PayoutRequest :=
  row.review tr.targetStatus input.reviewNotes input.externalPayoutReference actor.userId

/-- A review that commits: the rows it read, the rows it leaves. -/
structure ReviewedAs (tr : PayoutTransition) (actor : AuthenticatedUser)
    (input : ReviewPayoutInput) (l : Sess) (s : Db) (x : ReviewReads) (row : PayoutRequest)
    (vault vault' : SavingsVault) : Prop where
  /-- What the service has checked, on the rows that it has read. -/
  begun : ReviewBegun tr actor input l x
  /-- The row that is locked may be another one than was read. -/
  locked : s.payouts.find input.payoutId = some row
  /-- It is not in the target status: a repeat writes nothing. -/
  changes : row.status ≠ tr.targetStatus
  /-- The vault that the locked row names. -/
  vaultLocked : s.vaults.find row.vaultId = some vault
  /-- What becomes of its totals. -/
  move : FundsMove vault row.amount.amountMinor tr vault'
  locks : l.locks = [.vault row.vaultId, .payout input.payoutId]
  /-- The commit rewrites both rows and adds the audit row, which was built before. -/
  view : l.view s = { s with
    payouts := s.payouts.replace (reviewedRow tr actor input row)
    vaults := s.vaults.replace vault'
    audit := s.audit ++ [sanitizeAuditLog (reviewAudit actor.userId x.payout x.vault x.milestone
      x.school tr.targetStatus input tr.auditAction)] }

/-- A review that commits and answers `a`. -/
def Reviewed (tr : PayoutTransition) (actor : AuthenticatedUser) (input : ReviewPayoutInput)
    (l : Sess) (s : Db) (a : PayoutRequest) : Prop :=
  ∃ x row vault vault',
    ReviewedAs tr actor input l s x row vault vault' ∧ a = reviewedRow tr actor input row

/-- The errors with which the service refuses before it begins a transaction. -/
def ReviewRefusal (e : ServiceError) : Prop :=
  e = .forbidden ∨ e = .notFound ∨ ∃ v : PayoutRuleViolation, e = IntoServiceError.into v

/-- A review that commits nothing. -/
inductive ReviewStopped (tr : PayoutTransition) (actor : AuthenticatedUser)
    (input : ReviewPayoutInput) (l : Sess) (s : Db) : Except ServiceError PayoutRequest → Prop
  /-- One of the service's own checks. -/
  | refused {e : ServiceError} (began : l.began = false)
    (refusal : ReviewRefusal e) : ReviewStopped tr actor input l s (.error e)
  /-- The payout is READ in the target status, and answered. -/
  | unchanged {t : Db} {payout : PayoutRequest} (began : l.began = false) (seen : l.seen = [t])
    (found : t.payouts.find input.payoutId = some payout)
    (status : payout.status = tr.targetStatus) : ReviewStopped tr actor input l s (.ok payout)
  /-- The payout is LOCKED in the target status, and answered. -/
  | repeated {x : ReviewReads} {row : PayoutRequest} (begun : ReviewBegun tr actor input l x)
    (locked : s.payouts.find input.payoutId = some row) (status : row.status = tr.targetStatus) :
    ReviewStopped tr actor input l s (.ok row)
  /-- The payout that was read is not there. -/
  | gone {x : ReviewReads} (begun : ReviewBegun tr actor input l x)
    (locked : s.payouts.find input.payoutId = none) :
    ReviewStopped tr actor input l s (.error .notFound)
  /-- Its vault is not there. -/
  | vaultGone {x : ReviewReads} {row : PayoutRequest} (begun : ReviewBegun tr actor input l x)
    (locked : s.payouts.find input.payoutId = some row)
    (vaultLocked : s.vaults.find row.vaultId = none) :
    ReviewStopped tr actor input l s (.error .notFound)
  /-- The locked total would wrap, and its CHECK refuses. -/
  | lockedOverflow {x : ReviewReads} {row : PayoutRequest} {vault : SavingsVault}
    (begun : ReviewBegun tr actor input l x) (transition : tr = .approve)
    (locked : s.payouts.find input.payoutId = some row)
    (changes : row.status ≠ tr.targetStatus)
    (vaultLocked : s.vaults.find row.vaultId = some vault) (held : .vault row.vaultId ∈ l.locks)
    (wraps : ¬ 0 ≤ vault.totalLockedMinor + row.amount.amountMinor) :
    ReviewStopped tr actor input l s (.error (.ofPersistence
      (.checkViolation "savings_vaults" "savings_vaults_total_locked_minor_check")))
  /-- Less than the amount is locked. -/
  | underflow {x : ReviewReads} {row : PayoutRequest} {vault : SavingsVault}
    (begun : ReviewBegun tr actor input l x) (transition : tr = .complete)
    (locked : s.payouts.find input.payoutId = some row)
    (changes : row.status ≠ tr.targetStatus)
    (vaultLocked : s.vaults.find row.vaultId = some vault) (held : .vault row.vaultId ∈ l.locks)
    (short : vault.totalLockedMinor < row.amount.amountMinor) :
    ReviewStopped tr actor input l s (.error (.conflict "vault locked balance underflow"))
  /-- The disbursed total would wrap, and its CHECK refuses. -/
  | disbursedOverflow {x : ReviewReads} {row : PayoutRequest} {vault : SavingsVault}
    (begun : ReviewBegun tr actor input l x) (transition : tr = .complete)
    (locked : s.payouts.find input.payoutId = some row)
    (changes : row.status ≠ tr.targetStatus)
    (vaultLocked : s.vaults.find row.vaultId = some vault) (held : .vault row.vaultId ∈ l.locks)
    (wraps : ¬ 0 ≤ vault.totalDisbursedMinor + row.amount.amountMinor) :
    ReviewStopped tr actor input l s (.error (.ofPersistence
      (.checkViolation "savings_vaults" "savings_vaults_total_disbursed_minor_check")))

/-- Why the service refuses a review: the rows that it has read up to the check that fails. -/
inductive ReviewRefused (tr : PayoutTransition) (actor : AuthenticatedUser)
    (input : ReviewPayoutInput) (l : Sess) : ServiceError → Prop
  /-- The actor is no administrator. -/
  | role {v : PayoutRuleViolation} (refused : validateReviewerRole actor.role = .error v) :
    ReviewRefused tr actor input l (IntoServiceError.into v)
  /-- There is no such payout. -/
  | missing {t : Db} (seen : l.seen = [t]) (none : t.payouts.find input.payoutId = none) :
    ReviewRefused tr actor input l .notFound
  /-- The transition may not be taken from the status that was read. -/
  | illegal {t : Db} {payout : PayoutRequest} {v : PayoutRuleViolation} (seen : l.seen = [t])
    (found : t.payouts.find input.payoutId = some payout)
    (refused : validateTransition payout.status tr = .error v) :
    ReviewRefused tr actor input l (IntoServiceError.into v)
  | schoolMissing {t₁ t₂ : Db} {payout : PayoutRequest} (seen : l.seen = [t₂, t₁])
    (found : t₁.payouts.find input.payoutId = some payout)
    (none : t₂.schools.find payout.schoolId = none) : ReviewRefused tr actor input l .notFound
  | milestoneMissing {t₁ t₂ t₃ : Db} {payout : PayoutRequest} (seen : l.seen = [t₃, t₂, t₁])
    (found : t₁.payouts.find input.payoutId = some payout)
    (none : t₃.milestones.find payout.milestoneId = none) : ReviewRefused tr actor input l .notFound
  | vaultMissing {t₁ t₂ t₃ t₄ : Db} {payout : PayoutRequest} (seen : l.seen = [t₄, t₃, t₂, t₁])
    (found : t₁.payouts.find input.payoutId = some payout)
    (none : t₄.vaults.find payout.vaultId = none) : ReviewRefused tr actor input l .notFound
  /-- The milestone is of another vault, or is not to be paid any more. -/
  | milestone {x : ReviewReads} {v : PayoutRuleViolation} (seen : l.seen = [x.t₄, x.t₃, x.t₂, x.t₁])
    (found : x.t₁.payouts.find input.payoutId = some x.payout)
    (milestoneFound : x.t₃.milestones.find x.payout.milestoneId = some x.milestone)
    (refused : validateMilestoneAssociation x.milestone.vaultId x.payout.vaultId = .error v ∨
      validateMilestonePayable x.milestone.status = .error v) :
    ReviewRefused tr actor input l (IntoServiceError.into v)
  /-- The transition asks for a verified school. -/
  | unverified {x : ReviewReads} {v : PayoutRuleViolation} (seen : l.seen = [x.t₄, x.t₃, x.t₂, x.t₁])
    (transition : tr.needsVerifiedSchool)
    (found : x.t₁.payouts.find input.payoutId = some x.payout)
    (schoolFound : x.t₂.schools.find x.payout.schoolId = some x.school)
    (refused : validateSchoolVerified x.school.verificationStatus = .error v) :
    ReviewRefused tr actor input l (IntoServiceError.into v)
  /-- The approval asks for more than is available in the vault that was read. -/
  | funds {x : ReviewReads} {v : PayoutRuleViolation} (seen : l.seen = [x.t₄, x.t₃, x.t₂, x.t₁])
    (transition : tr = .approve) (found : x.t₁.payouts.find input.payoutId = some x.payout)
    (vaultFound : x.t₄.vaults.find x.payout.vaultId = some x.vault)
    (refused : ensureAvailableFunds x.vault.totalContributedMinor x.vault.totalLockedMinor
      x.vault.totalDisbursedMinor x.payout.amount.amountMinor = .error v) :
    ReviewRefused tr actor input l (IntoServiceError.into v)

/-- The error of a refused review is one of the known ones. -/
theorem ReviewRefused.refusal {l : Sess} {e : ServiceError} (h : ReviewRefused tr actor input l e) :
    ReviewRefusal e := by
  cases h with
  | role | illegal | milestone | unverified | funds => exact .inr (.inr ⟨_, rfl⟩)
  | missing | schoolMissing | milestoneMissing | vaultMissing => exact .inr (.inl rfl)

/-- A review that commits nothing; if it has not begun a transaction, with the reason. -/
structure ReviewEnded (tr : PayoutTransition) (actor : AuthenticatedUser) (input : ReviewPayoutInput)
    (l : Sess) (s : Db) (r : Except ServiceError PayoutRequest) : Prop where
  stopped : ReviewStopped tr actor input l s r
  reason : ∀ e, r = .error e → l.began = false → ReviewRefused tr actor input l e

/-- A refused review has begun no transaction. -/
theorem ReviewEnded.refused {l : Sess} {s : Db} {e : ServiceError} (hbegan : l.began = false)
    (h : ReviewRefused tr actor input l e) : ReviewEnded tr actor input l s (.error e) := by
  refine ⟨.refused hbegan h.refusal, ?_⟩
  intro e' he _
  cases he
  exact h

/-- A review that has begun its transaction was stopped in it. -/
theorem ReviewEnded.of_began {l : Sess} {s : Db} {r : Except ServiceError PayoutRequest}
    (hbegan : l.began = true) (h : ReviewStopped tr actor input l s r) :
    ReviewEnded tr actor input l s r := by
  refine ⟨h, ?_⟩
  intro _ _ hnot
  rw [hbegan] at hnot
  cases hnot

/-! ## Every end is one of these

  The program is walked through once, from its tail to its head: the audit row and the commit, the
  update of the vault, the transaction, the service. -/

/-- The answer of the transaction, as the service passes it on. -/
def reviewReply (r : Except PersistenceError PayoutTransitionResult) :
    Except ServiceError PayoutRequest :=
  (r.mapError .ofPersistence).map (·.payout)

/-- The tail of the transaction: the audit row and the commit. -/
theorem reviewTail_ends {l : Sess} {s : Db} {x : ReviewReads} {row : PayoutRequest}
    {vault vault' : SavingsVault} (hbegun : ReviewBegun tr actor input l x)
    (hlocked : s.payouts.find input.payoutId = some row) (hchanges : row.status ≠ tr.targetStatus)
    (hvault : s.vaults.find row.vaultId = some vault)
    (hmove : FundsMove vault row.amount.amountMinor tr vault')
    (hlocks : l.locks = [.vault row.vaultId, .payout input.payoutId])
    (hview : l.view s = { s with
      payouts := s.payouts.replace (reviewedRow tr actor input row)
      vaults := s.vaults.replace vault' }) :
    Ends (do
        appendAuditLog (reviewAudit actor.userId x.payout x.vault x.milestone x.school
          tr.targetStatus input tr.auditAction)
        commitTx
        return (⟨reviewedRow tr actor input row, vault'⟩ : PayoutTransitionResult))
      (fun l s r => Reviewed tr actor input l s r.payout)
      (fun l s r => ReviewEnded tr actor input l s (reviewReply r)) l s := by
  refine Ends.execute (fun _ hr => False.elim hr) (Ends.commit ?_)
  refine ⟨x, row, vault, vault', ⟨⟨hbegun.toReviewChecked, hbegun.began, hbegun.seen⟩, hlocked,
    hchanges, hvault, hmove, hlocks, ?_⟩, rfl⟩
  rw [Session.view_write, hview]
  rfl

/-- The vault update and the tail, once the payout row is written. -/
theorem transitionVault_ends {l : Sess} {s : Db} {x : ReviewReads} {row : PayoutRequest}
    {vault : SavingsVault} (hbegun : ReviewBegun tr actor input l x)
    (hlocked : s.payouts.find input.payoutId = some row) (hchanges : row.status ≠ tr.targetStatus)
    (hvault : s.vaults.find row.vaultId = some vault)
    (hlocks : l.locks = [.vault row.vaultId, .payout input.payoutId])
    (hview : l.view s = { s with payouts := s.payouts.replace (reviewedRow tr actor input row) }) :
    Ends (do
        let vault' ← transitionVault vault (reviewedRow tr actor input row) tr.targetStatus
        appendAuditLog (reviewAudit actor.userId x.payout x.vault x.milestone x.school
          tr.targetStatus input tr.auditAction)
        commitTx
        return (⟨reviewedRow tr actor input row, vault'⟩ : PayoutTransitionResult))
      (fun l s r => Reviewed tr actor input l s r.payout)
      (fun l s r => ReviewEnded tr actor input l s (reviewReply r)) l s := by
  have hvaultid : vault.id = row.vaultId := (Table.find_some hvault).2
  have hvault' : s.vaults.find vault.id = some vault := hvaultid ▸ hvault
  have hheld : Resource.vault row.vaultId ∈ l.locks := by rw [hlocks]; exact List.mem_cons_self
  have hlock : Resource.vault vault.id ∈ l.locks := hvaultid ▸ hheld
  -- either the vault stays, or its two sums are set
  have hstays : l.view s = { s with
      payouts := s.payouts.replace (reviewedRow tr actor input row)
      vaults := s.vaults.replace vault } := by
    rw [hview, Table.replace_self hvault']
  have hmoves : ∀ {locked disbursed : Int64} (hl : 0 ≤ locked) (hd : 0 ≤ disbursed),
      (l.write (.setVaultLocked vault.id locked disbursed hl hd)).view s = { s with
        payouts := s.payouts.replace (reviewedRow tr actor input row)
        vaults := s.vaults.replace (vault.setLockedAndDisbursed locked disbursed hl hd) } := by
    intro locked disbursed hl hd
    rw [Session.view_write, hview, apply_setVaultLocked vault]
    exact hvault'
  have hbegun' : ∀ w : Write, ReviewBegun tr actor input (l.write w) x := fun w =>
    ⟨hbegun.toReviewChecked, hbegun.began, hbegun.seen⟩
  cases tr with
  | moveToReview => exact reviewTail_ends hbegun hlocked hchanges hvault .moveToReview hlocks hstays
  | reject => exact reviewTail_ends hbegun hlocked hchanges hvault .reject hlocks hstays
  | markProcessing =>
    exact reviewTail_ends hbegun hlocked hchanges hvault .markProcessing hlocks hstays
  | approve =>
    refine ends_updateVaultLockedAndDisbursed hlock (fun hwraps => ?_)
      (fun _ hwraps => absurd vault.disbursed_nonneg hwraps) fun hl hd => ?_
    · exact .of_began hbegun.began (.lockedOverflow hbegun rfl hlocked hchanges hvault hheld hwraps)
    · exact reviewTail_ends (hbegun' _) hlocked hchanges hvault (.approve hl) hlocks (hmoves hl hd)
  | complete =>
    simp only [PayoutTransition.targetStatus, transitionVault, bind_assoc]
    refine Ends.failIf (fun hshort => ?_) fun henough => ?_
    · exact .of_began hbegun.began (.underflow hbegun rfl hlocked hchanges hvault hheld hshort)
    have hle := Int64.not_lt.mp henough
    refine ends_updateVaultLockedAndDisbursed hlock (fun hwraps => ?_) (fun _ hwraps => ?_)
      fun hl hd => ?_
    · exact absurd (nonneg_sub_of_le row.amount.nonneg hle) hwraps
    · exact .of_began hbegun.began (.disbursedOverflow hbegun rfl hlocked hchanges hvault hheld hwraps)
    · exact reviewTail_ends (hbegun' _) hlocked hchanges hvault (.complete hle hl hd) hlocks
        (hmoves hl hd)
  | fail =>
    refine Ends.bind_ite (fun hle => ?_) fun hlt => ?_
    · refine ends_updateVaultLockedAndDisbursed hlock (fun hwraps => ?_)
        (fun _ hwraps => absurd vault.disbursed_nonneg hwraps) fun hl hd => ?_
      · exact absurd (nonneg_sub_of_le row.amount.nonneg hle) hwraps
      · exact reviewTail_ends (hbegun' _) hlocked hchanges hvault (.fail hle hl) hlocks (hmoves hl hd)
    · exact reviewTail_ends hbegun hlocked hchanges hvault (.failShort (Int64.not_le.mp hlt)) hlocks
        hstays

/-- The transaction, begun after the checks of the service. -/
theorem transitionWithAudit_ends {s : Db} {x : ReviewReads} (h : ReviewChecked tr actor input x)
    {l : Sess} (hl : l = (((Session.init.saw x.t₁).saw x.t₂).saw x.t₃).saw x.t₄) :
    Ends (transitionWithAudit x.payout.id (asStr tr.targetStatus) actor.userId input.reviewNotes
      input.externalPayoutReference (reviewAudit actor.userId x.payout x.vault x.milestone x.school
        tr.targetStatus input tr.auditAction))
      (fun l s r => Reviewed tr actor input l s r.payout)
      (fun l s r => ReviewEnded tr actor input l s (reviewReply r)) l s := by
  subst hl
  rw [show x.payout.id = input.payoutId from (Table.find_some h.found).2]
  refine Ends.beginTx (Ends.forUpdate (Ends.okOr (fun hnone => ?_) fun row hrow => ?_))
  · exact .of_began rfl (.gone ⟨h, rfl, rfl⟩ hnone)
  refine Ends.ofExcept (fun e he => by simp at he) fun target htarget => ?_
  obtain rfl : tr.targetStatus = target := by simpa using htarget
  refine Ends.ite (fun hsame => ?_) fun hne => ?_
  · refine Ends.forUpdate (Ends.okOr (fun hnone => ?_) fun vault _ => ?_)
    · exact .of_began rfl (.vaultGone ⟨h, rfl, rfl⟩ hrow hnone)
    · exact Ends.rollback (.of_began rfl (.repeated ⟨h, rfl, rfl⟩ hrow hsame))
  refine Ends.forUpdate (Ends.okOr (fun hnone => ?_) fun vault hvault => ?_)
  · exact .of_began rfl (.vaultGone ⟨h, rfl, rfl⟩ hrow hnone)
  have hrowid : row.id = input.payoutId := (Table.find_some hrow).2
  have hrow' : s.payouts.find row.id = some row := hrowid ▸ hrow
  refine Ends.execute (fun r hr => by rw [show r = _ from hr, hrowid]; simp [Session.lock]) ?_
  refine transitionVault_ends ⟨h, rfl, rfl⟩ hrow hne hvault rfl ?_
  simp only [Session.view_write, Session.view_lock, Session.view_begun, Session.view_saw,
    Session.view_init]
  exact apply_reviewPayout row hrow'

/-- **Every way a review can end**, with the reasons of its refusals. -/
theorem reviewTransition_ends :
    Outcomes (reviewTransition actor input tr tr.auditAction) (Reviewed tr actor input)
      (ReviewEnded tr actor input) := by
  intro s
  refine Ends.check (fun e he => .refused rfl (.role he)) fun _ hrole => ?_
  have hadmin : actor.role = .platformAdmin := by
    rw [validateReviewerRole] at hrole
    split at hrole
    · assumption
    · cases hrole
  refine Ends.select fun t₁ => Ends.okOr (fun hnone => ?_) fun payout hpayout => ?_
  · exact .refused rfl (.missing rfl hnone)
  refine Ends.check (fun e he => .refused rfl (.illegal rfl hpayout he)) fun target htarget => ?_
  obtain rfl := validateTransition_ok htarget
  refine Ends.ite (fun hsame => Ends.pure ?_) fun hne => ?_
  · exact ⟨.unchanged rfl rfl hpayout hsame, fun e he => by cases he⟩
  refine Ends.select fun t₂ => Ends.okOr (fun hnone => ?_) fun school hschool => ?_
  · exact .refused rfl (.schoolMissing rfl hpayout hnone)
  refine Ends.select fun t₃ => Ends.okOr (fun hnone => ?_) fun milestone hmilestone => ?_
  · exact .refused rfl (.milestoneMissing rfl hpayout hnone)
  refine Ends.select fun t₄ => Ends.okOr (fun hnone => ?_) fun vault hvault => ?_
  · exact .refused rfl (.vaultMissing rfl hpayout hnone)
  let x : ReviewReads := ⟨t₁, t₂, t₃, t₄, payout, school, milestone, vault⟩
  refine Ends.check (fun e he => ?_) fun _ _ => Ends.check (fun e he => ?_) fun _ _ => ?_
  · exact .refused rfl (.milestone (x := x) rfl hpayout hmilestone (.inl he))
  · exact .refused rfl (.milestone (x := x) rfl hpayout hmilestone (.inr he))
  refine Ends.checkIf (fun e hneeds he => ?_) fun hverified =>
    Ends.checkIf (fun e happrove he => ?_) fun hfunds => ?_
  · exact .refused rfl (.unverified (x := x) rfl hneeds hpayout hschool he)
  · exact .refused rfl (.funds (x := x) rfl happrove hpayout hvault he)
  exact Ends.mapError (transitionWithAudit_ends (x := x)
    ⟨hadmin, hpayout, htarget, hne, hschool, hmilestone, hvault, hverified, hfunds⟩ rfl)

/-- Every review ends with the step taken, or is stopped. -/
theorem reviewTransition_outcomes :
    Outcomes (reviewTransition actor input tr tr.auditAction) (Reviewed tr actor input)
      (ReviewStopped tr actor input) :=
  reviewTransition_ends.weaken fun _ _ _ => ReviewEnded.stopped

end EduStell
