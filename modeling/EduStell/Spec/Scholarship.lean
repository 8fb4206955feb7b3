/-
  Pools, applications and awards: what a scholarship request leaves when it commits.

  Funding adds to the balance of the locked pool row.  A decision and an award transition write an
  ABSOLUTE balance, computed from a pool row that the service read in an earlier statement: so
  `DecidedAs` and `AwardMovedAs` speak of two rows of the pool, `pool` as it was read and
  `lockedPool` as it is when it is overwritten.

  Every service has two descriptions here: `…_ends` with all that it has checked, and `…_outcomes`
  with what the books of the pools need.
-/
import EduStell.Requests
import EduStell.Spec.Settlement

namespace EduStell

open Txn Program Scholarships Persistence

variable {newId : Uuid} {actor : AuthenticatedUser}

/-- The audit rows of the scholarship services. -/
def AuditLog.OfScholarship (log : AuditLog) : Prop :=
  log.entityType = "scholarship" ∨ log.entityType = "scholarship_award"

/-! ## Pools

  A pool begins empty.  A donor contribution adds its amount to the balance of the locked row, and
  stands in one commit with the new balance. -/

/-- A new pool, without funds. -/
structure PoolCreated (newId : Uuid) (l : Sess) (s : Db) (a : ScholarshipPool) : Prop where
  id : a.id = newId
  funds : a.availableFunds.amountMinor = 0
  parsed : Currency.parse a.availableFunds.currency.asStr = .ok a.availableFunds.currency
  fresh : s.pools.find newId = none
  view : ∃ log : AuditLog, log.OfScholarship ∧
    l.view s = { s with pools := s.pools.insert a, audit := s.audit ++ [log] }

/-- The new row. -/
def poolRow (newId : Uuid) (actor : AuthenticatedUser) (input : CreateScholarshipPoolInput)
    (availableFunds : Money) : ScholarshipPool where
  id := newId
  ownerUserId := actor.userId
  name := input.name
  description := sanitizeOptional input.description
  status := .open
  availableFunds := availableFunds
  geographyRestriction := sanitizeOptional input.geographyRestriction
  educationLevelRestriction := sanitizeOptional input.educationLevelRestriction
  schoolIdRestriction := input.schoolIdRestriction
  categoryRestriction := sanitizeOptional input.categoryRestriction

/-- A new pool, with all of its row. -/
structure PoolRecorded (newId : Uuid) (actor : AuthenticatedUser) (input : CreateScholarshipPoolInput)
    (l : Sess) (s : Db) (a : ScholarshipPool) : Prop extends PoolCreated newId l s a where
  row : ∃ availableFunds, a = poolRow newId actor input availableFunds

/-- A creation ends with a new pool, or is refused without one. -/
theorem createScholarshipPool_ends {input : CreateScholarshipPoolInput} :
    Outcomes (createScholarshipPool newId actor input) (PoolRecorded newId actor input) Refused := by
  intro s
  refine Ends.failIf (fun _ => ⟨_, rfl⟩) fun _ => Ends.failIf (fun _ => ⟨_, rfl⟩) fun _ => ?_
  refine Ends.ofExcept (fun _ _ => ⟨_, rfl⟩) fun amount hnew => ?_
  obtain ⟨_, rfl⟩ := Money.of_new (ok_of_mapError hnew)
  refine Ends.mapError_tail (Ends.beginTx ?_)
  refine ends_insertUnique (fun _ => ⟨_, rfl⟩) fun hfresh => ?_
  refine Ends.ofExcept (fun _ _ => ⟨_, rfl⟩) fun stored hstored => ?_
  obtain ⟨hamount, -⟩ := storedMoney_ok hstored
  refine Ends.execute (fun r hr => by rw [show r = _ from hr]; simp [Session.lock]) ?_
  refine Ends.execute (fun _ hr => False.elim hr) (Ends.commit ?_)
  exact ⟨⟨rfl, hamount, storedMoney_parsed hstored, eq_none_of_free hfresh, _, .inl rfl, rfl⟩, stored,
    rfl⟩

/-- The new pool, as far as the books of the pool go. -/
theorem createScholarshipPool_outcomes {input : CreateScholarshipPoolInput} :
    Outcomes (createScholarshipPool newId actor input) (PoolCreated newId) Refused :=
  createScholarshipPool_ends.mono (fun _ _ _ => PoolRecorded.toPoolCreated) fun _ _ _ h => h

/-- A funded pool: the locked balance grows by the amount of the new donor contribution. -/
structure PoolFunded (newId : Uuid) (input : FundScholarshipPoolInput) (l : Sess) (s : Db)
    (pool : ScholarshipPool) (donation : DonorContribution) : Prop where
  /-- The pool as it is locked. -/
  locked : s.pools.find input.poolId = some pool
  /-- The sum, which may wrap, passes the CHECK. -/
  nonneg : 0 ≤ pool.availableFunds.amountMinor + input.amountMinor
  positive : 0 < input.amountMinor
  id : donation.id = newId
  poolId : donation.poolId = input.poolId
  status : donation.status = .confirmed
  key : donation.idempotencyKey = some input.idempotencyKey
  amount : donation.amount.amountMinor = input.amountMinor
  fresh : s.donorContributions.find newId = none
  keyFree :
    s.donorContributions.any (fun c => c.idempotencyKey = some input.idempotencyKey) = false
  /-- The commit sets the balance and adds the donor contribution and the audit row. -/
  view : ∃ log : AuditLog, log.OfScholarship ∧ l.view s = { s with
    pools := s.pools.replace
      (pool.setFunds (pool.availableFunds.amountMinor + input.amountMinor) nonneg)
    donorContributions := s.donorContributions.insert donation
    audit := s.audit ++ [log] }

/-- A funded pool, with the currency that the service has checked on the pool that it read. -/
structure DonationRecorded (newId : Uuid) (input : FundScholarshipPoolInput) (l : Sess) (s : Db)
    (pool : ScholarshipPool) (donation : DonorContribution) : Prop extends
    PoolFunded newId input l s pool donation where
  read : ∃ t ∈ l.seen, ∃ read, t.pools.find input.poolId = some read ∧
    read.availableFunds.currency.asStr = input.currency.asStr
  currency : donation.amount.currency.asStr = input.currency.asStr
  parsed : Currency.parse donation.amount.currency.asStr = .ok donation.amount.currency

/-- A funding ends with the pool credited and a new donor contribution, or is refused without
    either. -/
theorem fundScholarshipPool_ends {input : FundScholarshipPoolInput} :
    Outcomes (fundScholarshipPool newId actor input)
      (fun l s a => ∃ pool, DonationRecorded newId input l s pool a.2) Refused := by
  intro s
  refine Ends.check (fun _ _ => ⟨_, rfl⟩) fun _ _ => Ends.check (fun _ _ => ⟨_, rfl⟩) fun _ hamount => ?_
  have hpos : 0 < input.amountMinor := by
    rw [validatePositiveAmount] at hamount
    split at hamount
    · assumption
    · cases hamount
  refine Ends.select fun t => Ends.okOr (fun _ => ⟨_, rfl⟩) fun read hread => ?_
  have hreadid : read.id = input.poolId := (Table.find_some hread).2
  refine Ends.check (fun _ _ => ⟨_, rfl⟩) fun _ _ => Ends.check (fun _ _ => ⟨_, rfl⟩) fun _ hcurrency => ?_
  have hsame : read.availableFunds.currency.asStr = input.currency.asStr := by
    rw [validateCurrency] at hcurrency
    split at hcurrency
    · assumption
    · cases hcurrency
  refine Ends.ofExcept (fun _ _ => ⟨_, rfl⟩) fun amount hnew => ?_
  obtain ⟨_, rfl⟩ := Money.of_new (ok_of_mapError hnew)
  refine Ends.mapError_tail (Ends.beginTx (Ends.forUpdate (Ends.okOr (fun _ => ⟨_, rfl⟩)
    fun pool hpool => ?_)))
  have hpool' : s.pools.find input.poolId = some pool := hreadid ▸ hpool
  have hid : pool.id = input.poolId := (Table.find_some hpool').2
  refine ends_updatePoolFunds ?_ (fun _ => ⟨_, rfl⟩) fun hnonneg => ?_
  · rw [hid, ← hreadid]; simp [Session.lock]
  refine Ends.failIf (fun _ => ⟨_, rfl⟩) fun _ => ends_insertUnique (fun _ => ⟨_, rfl⟩) fun hfresh => ?_
  refine ends_insertUniqueKey (fun _ _ _ => ⟨_, rfl⟩) (fun _ hkey hfree => ?_) fun hnull => by cases hnull
  obtain rfl := Option.some.inj hkey
  refine Ends.ofExcept (fun _ _ => ⟨_, rfl⟩) fun stored hstored => ?_
  obtain ⟨hamount', hcurrency'⟩ := storedMoney_ok hstored
  refine Ends.execute (fun r hr => ?_) (Ends.execute (fun _ hr => False.elim hr) (Ends.commit ?_))
  · rcases hr with rfl | ⟨key, hkey, rfl⟩
    · simp [Session.lock]
    · obtain rfl := Option.some.inj hkey
      simp [Session.lock]
  refine ⟨pool, ⟨hpool', hnonneg, hpos, rfl, hreadid, rfl, rfl, hamount', eq_none_of_free hfresh,
    hfree, ?_⟩, ⟨t, ?_, read, hread, hsame⟩, hcurrency', storedMoney_parsed hstored⟩
  case refine_2 => simp [Session.saw, Session.lock, Session.begun, Session.write]
  simp only [Session.view_write, Session.view_lock, Session.view_begun, Session.view_saw,
    Session.view_init]
  rw [hid, apply_setPoolFunds pool hpool']
  exact ⟨_, .inl rfl, rfl⟩

/-- The funding, as far as the books of the pool go. -/
theorem fundScholarshipPool_outcomes {input : FundScholarshipPoolInput} :
    Outcomes (fundScholarshipPool newId actor input)
      (fun l s a => ∃ pool, PoolFunded newId input l s pool a.2) Refused :=
  fundScholarshipPool_ends.mono (fun _ _ _ ⟨pool, h⟩ => ⟨pool, h.toPoolFunded⟩) fun _ _ _ h => h

/-! ## Applications

  An application touches no balance.  Its row is checked against the restrictions of the pool as
  they came in, and stored trimmed. -/

/-- A new application, to be reviewed. -/
structure Applied (newId : Uuid) (input : CreateScholarshipApplicationInput) (l : Sess) (s : Db)
    (a : ScholarshipApplication) : Prop where
  id : a.id = newId
  poolId : a.poolId = input.poolId
  status : a.status = .submitted
  poolFound : ∃ t ∈ l.seen, ∃ pool, t.pools.find input.poolId = some pool
  fresh : s.applications.find newId = none
  view : ∃ log : AuditLog, log.OfScholarship ∧
    l.view s = { s with applications := s.applications.insert a, audit := s.audit ++ [log] }

/-- The new row, for the pool and the child that were read. -/
def applicationRow (newId : Uuid) (actor : AuthenticatedUser)
    (input : CreateScholarshipApplicationInput) (pool : ScholarshipPool) (child : ChildProfile) :
    ScholarshipApplication where
  id := newId
  poolId := pool.id
  applicantUserId := actor.userId
  childProfileId := child.id
  studentCountry := sanitizeOptional input.studentCountry
  educationLevel := sanitizeOptional (input.educationLevel.or child.educationLevel)
  schoolId := input.schoolId
  category := sanitizeOptional input.category
  status := .submitted
  notes := sanitizeOptional input.notes

/-- A new application, with all of its row and the restrictions that the service has checked. -/
structure ApplicationRecorded (newId : Uuid) (actor : AuthenticatedUser)
    (input : CreateScholarshipApplicationInput) (l : Sess) (s : Db) (a : ScholarshipApplication) :
    Prop extends Applied newId input l s a where
  row : ∃ t ∈ l.seen, ∃ pool child, t.pools.find input.poolId = some pool ∧
    validatePoolRestrictions pool input.studentCountry
      (input.educationLevel.or child.educationLevel) input.schoolId input.category = .ok () ∧
    a = applicationRow newId actor input pool child

/-- An application is filed, or refused. -/
theorem createScholarshipApplication_ends {input : CreateScholarshipApplicationInput} :
    Outcomes (createScholarshipApplication newId actor input) (ApplicationRecorded newId actor input)
      Refused := by
  intro s
  refine Ends.check (fun _ _ => ⟨_, rfl⟩) fun _ _ => ?_
  refine Ends.select fun t₁ => Ends.okOr (fun _ => ⟨_, rfl⟩) fun pool hpool => ?_
  refine Ends.check (fun _ _ => ⟨_, rfl⟩) fun _ _ => ?_
  refine Ends.select fun t₂ => Ends.okOr (fun _ => ⟨_, rfl⟩) fun child _ => ?_
  refine Ends.check (fun _ _ => ⟨_, rfl⟩) fun _ _ => Ends.check (fun _ _ => ⟨_, rfl⟩) fun _ hmet => ?_
  refine Ends.mapError_tail (Ends.beginTx (ends_insertUnique (fun _ => ⟨_, rfl⟩) fun hfresh => ?_))
  refine Ends.execute (fun r hr => by rw [show r = _ from hr]; simp [Session.lock]) ?_
  refine Ends.execute (fun _ hr => False.elim hr) (Ends.commit ?_)
  have hseen : t₁ ∈ [t₂, t₁] := by simp
  exact ⟨⟨rfl, (Table.find_some hpool).2, rfl, ⟨t₁, hseen, pool, hpool⟩, eq_none_of_free hfresh, _,
    .inl rfl, rfl⟩, t₁, hseen, pool, child, hpool, hmet, rfl⟩

/-- The new application, as far as the books of the pool go. -/
theorem createScholarshipApplication_outcomes {input : CreateScholarshipApplicationInput} :
    Outcomes (createScholarshipApplication newId actor input) (Applied newId input)
      Refused :=
  createScholarshipApplication_ends.mono (fun _ _ _ => ApplicationRecorded.toApplied) fun _ _ _ h => h

/-! ## Decisions

  `Decision` carries what differs between an approval and a rejection: the two statuses and the
  balance that is written.  The rest of the two services is one argument. -/

/-- Approving and rejecting are one transaction with different values. -/
inductive Decision
  | approve | reject

namespace Decision

/-- The status that a decision gives the application. -/
def applicationStatus : Decision → ScholarshipApplicationStatus
  | approve => .approved
  | reject => .rejected

/-- The status that a decision gives the award. -/
def awardStatus : Decision → ScholarshipAwardStatus
  | approve => .approved
  | reject => .rejected

/-- The balance that is written, from the balance that was read. -/
def funds : Decision → Int64 → Int64 → Int64
  | approve, available, amount => available - amount
  | reject, available, _ => available

end Decision

/-- What the service has read and checked when it begins the transaction of a decision. -/
structure DecisionChecked (d : Decision) (actor : AuthenticatedUser)
    (input : DecideScholarshipApplicationInput) (t₁ t₂ : Db)
    (application : ScholarshipApplication) (pool : ScholarshipPool) : Prop where
  reviewer : actor.role = .platformAdmin
  found : t₁.applications.find input.applicationId = some application
  reviewable : validateApplicationReviewable application.status = .ok ()
  poolFound : t₂.pools.find application.poolId = some pool
  covered : d = .approve →
    0 < input.amountMinor ∧ input.amountMinor ≤ pool.availableFunds.amountMinor
  currency : d = .approve → pool.availableFunds.currency.asStr = input.currency.asStr

/-- The new award of a decision. -/
structure AwardOf (d : Decision) (newId : Uuid) (input : DecideScholarshipApplicationInput)
    (award : ScholarshipAward) : Prop where
  id : award.id = newId
  applicationId : award.applicationId = input.applicationId
  status : award.status = d.awardStatus
  amount : award.amount.amountMinor = input.amountMinor
  currency : award.amount.currency.asStr = input.currency.asStr

/-- A decision that commits: the rows it read, the rows it leaves. -/
structure DecidedAs (d : Decision) (newId : Uuid) (actor : AuthenticatedUser)
    (input : DecideScholarshipApplicationInput) (l : Sess) (s t₁ t₂ : Db)
    (application row : ScholarshipApplication) (pool lockedPool : ScholarshipPool)
    (award : ScholarshipAward) : Prop where
  /-- What the service has checked, on the rows that it has read. -/
  checked : DecisionChecked d actor input t₁ t₂ application pool
  seen : l.seen = [t₂, t₁]
  /-- The application as it is locked, whatever its status. -/
  locked : s.applications.find input.applicationId = some row
  held : .application input.applicationId ∈ l.locks
  /-- The pool as it is locked, whatever its balance. -/
  poolLocked : s.pools.find row.poolId = some lockedPool
  poolHeld : .pool row.poolId ∈ l.locks
  /-- The balance that was computed passes the CHECK. -/
  nonneg : 0 ≤ d.funds pool.availableFunds.amountMinor input.amountMinor
  /-- The new award. -/
  awardOf : AwardOf d newId input award
  parsed : Currency.parse award.amount.currency.asStr = .ok award.amount.currency
  /-- Its id was free. -/
  fresh : s.awards.find newId = none
  /-- The commit sets status and balance, and adds the award and the audit row. -/
  view : ∃ log : AuditLog, log.OfScholarship ∧ l.view s = { s with
    applications := s.applications.replace (row.setStatus d.applicationStatus)
    pools := s.pools.replace
      (lockedPool.setFunds (d.funds pool.availableFunds.amountMinor input.amountMinor) nonneg)
    awards := s.awards.insert award
    audit := s.audit ++ [log] }

/-- A decision that commits. -/
def Decided (d : Decision) (newId : Uuid) (actor : AuthenticatedUser)
    (input : DecideScholarshipApplicationInput) (l : Sess) (s : Db) (award : ScholarshipAward) :
    Prop :=
  ∃ t₁ t₂ application row pool lockedPool,
    DecidedAs d newId actor input l s t₁ t₂ application row pool lockedPool award

/-- The transaction, begun after the checks of the service; it returns the application as it
    leaves it. -/
theorem decideApplicationWithAudit_ends (d : Decision) {input : DecideScholarshipApplicationInput}
    {s t₁ t₂ : Db} {application : ScholarshipApplication} {pool : ScholarshipPool}
    (h : DecisionChecked d actor input t₁ t₂ application pool) {award : ScholarshipAward}
    (haward : AwardOf d newId input award) {audit : AuditLog} (haudit : audit.OfScholarship)
    {E : Sess → Db → ScholarshipReviewDecisionResult → Prop}
    {N : Sess → Db → Except PersistenceError ScholarshipReviewDecisionResult → Prop}
    (hE : ∀ l r, Decided d newId actor input l s r.award →
      (∃ row, s.applications.find input.applicationId = some row ∧
        r.application = row.setStatus d.applicationStatus) → E l s r)
    (hN : ∀ l s e, N l s (.error e)) :
    Ends (decideApplicationWithAudit application.id (asStr d.applicationStatus) award
      (d.funds pool.availableFunds.amountMinor input.amountMinor) audit) E N
      ((Session.init.saw t₁).saw t₂) s := by
  rw [show application.id = input.applicationId from (Table.find_some h.found).2]
  refine Ends.beginTx (Ends.forUpdate (Ends.okOr (fun _ => hN _ _ _) fun row hrow => ?_))
  have hrowid : row.id = input.applicationId := (Table.find_some hrow).2
  refine Ends.ofExcept (fun _ _ => hN _ _ _) fun status hstatus => ?_
  obtain rfl : d.applicationStatus = status := by simpa using hstatus
  refine Ends.execute (fun r hr => by rw [show r = _ from hr, hrowid]; simp [Session.lock]) ?_
  refine Ends.forUpdate (Ends.okOr (fun _ => hN _ _ _) fun lockedPool hpool => ?_)
  have hrow' : s.applications.find row.id = some row := hrowid ▸ hrow
  have hpool' : s.pools.find row.poolId = some lockedPool := hpool
  have hpoolid : lockedPool.id = row.poolId := (Table.find_some hpool').2
  refine ends_updatePoolFunds ?_ (fun _ => hN _ _ _) fun hnonneg => ?_
  · rw [hpoolid]; exact List.mem_cons_self
  refine ends_insertUnique (fun _ => hN _ _ _) fun hfresh => ?_
  refine Ends.ofExcept (fun _ _ => hN _ _ _) fun stored hstored => ?_
  obtain ⟨hamount, hcurrency⟩ := storedMoney_ok hstored
  refine Ends.execute (fun r hr => by rw [show r = _ from hr]; exact List.mem_cons_self) ?_
  refine Ends.execute (fun _ hr => False.elim hr) (Ends.commit (hE _ _ ?_ ⟨row, hrow, rfl⟩))
  refine ⟨t₁, t₂, application, row, pool, lockedPool, h, rfl, hrow, ?_, hpool', ?_, hnonneg,
    ⟨haward.id, haward.applicationId, haward.status, hamount.trans haward.amount,
      hcurrency.trans haward.currency⟩,
    storedMoney_parsed hstored, haward.id ▸ eq_none_of_free hfresh, ?_⟩
  · simp [Session.lock, Session.write, Session.begun]
  · simp [Session.lock, Session.write, ScholarshipApplication.setStatus]
  simp only [Session.view_write, Session.view_lock, Session.view_begun, Session.view_saw,
    Session.view_init]
  rw [hpoolid, apply_setApplicationStatus row hrow', apply_setPoolFunds lockedPool]
  · exact ⟨sanitizeAuditLog audit, haudit, rfl⟩
  · exact hpool'

/-- An approval ends with the application decided, or is refused without a commit. -/
theorem approveApplication_ends {input : DecideScholarshipApplicationInput} :
    Outcomes (approveApplication newId actor input)
      (fun l s a => Decided .approve newId actor input l s a.award ∧
        ∃ row, s.applications.find input.applicationId = some row ∧
          a.application = row.setStatus .approved) Refused := by
  intro s
  refine Ends.check (fun _ _ => ⟨_, rfl⟩) fun _ hrole => ?_
  refine Ends.check (fun _ _ => ⟨_, rfl⟩) fun _ hamount => ?_
  have hpos : 0 < input.amountMinor := by
    rw [validatePositiveAmount] at hamount
    split at hamount
    · assumption
    · cases hamount
  refine Ends.select fun t₁ => Ends.okOr (fun _ => ⟨_, rfl⟩) fun application hfound => ?_
  refine Ends.check (fun _ _ => ⟨_, rfl⟩) fun _ hreviewable => ?_
  refine Ends.select fun t₂ => Ends.okOr (fun _ => ⟨_, rfl⟩) fun pool hpool => ?_
  refine Ends.check (fun _ _ => ⟨_, rfl⟩) fun _ hcurrency => ?_
  have hsame : pool.availableFunds.currency.asStr = input.currency.asStr := by
    rw [validateCurrency] at hcurrency
    split at hcurrency
    · assumption
    · cases hcurrency
  refine Ends.check (fun _ _ => ⟨_, rfl⟩) fun _ hbalance => ?_
  have hle : input.amountMinor ≤ pool.availableFunds.amountMinor := by
    rw [ensurePoolBalance] at hbalance
    split at hbalance
    · assumption
    · cases hbalance
  refine Ends.ofExcept (fun _ _ => ⟨_, rfl⟩) fun amount hnew => ?_
  obtain ⟨_, rfl⟩ := Money.of_new (ok_of_mapError hnew)
  refine Ends.mapError (decideApplicationWithAudit_ends .approve ?_ ?_ (.inr rfl)
    (fun _ _ hdecided hreturned => ⟨hdecided, hreturned⟩) fun _ _ _ => ⟨_, rfl⟩)
  · exact ⟨canReview_ok hrole, hfound, hreviewable, hpool, fun _ => ⟨hpos, hle⟩, fun _ => hsame⟩
  · exact ⟨rfl, (Table.find_some hfound).2, rfl, rfl, rfl⟩

/-- The approval, as far as the books of the pool go. -/
theorem approveApplication_outcomes {input : DecideScholarshipApplicationInput} :
    Outcomes (approveApplication newId actor input)
      (fun l s a => Decided .approve newId actor input l s a.award) Refused :=
  approveApplication_ends.mono (fun _ _ _ h => h.1) fun _ _ _ h => h

/-- A rejection ends with the application decided, or is refused without a commit. -/
theorem rejectApplication_outcomes {input : DecideScholarshipApplicationInput} :
    Outcomes (rejectApplication newId actor input)
      (fun l s a => Decided .reject newId actor input l s a.award) Refused := by
  intro s
  refine Ends.check (fun _ _ => ⟨_, rfl⟩) fun _ hrole => ?_
  refine Ends.select fun t₁ => Ends.okOr (fun _ => ⟨_, rfl⟩) fun application hfound => ?_
  refine Ends.check (fun _ _ => ⟨_, rfl⟩) fun _ hreviewable => ?_
  refine Ends.select fun t₂ => Ends.okOr (fun _ => ⟨_, rfl⟩) fun pool hpool => ?_
  refine Ends.ofExcept (fun _ _ => ⟨_, rfl⟩) fun amount hnew => ?_
  obtain ⟨_, rfl⟩ := Money.of_new (ok_of_mapError hnew)
  refine Ends.mapError (decideApplicationWithAudit_ends .reject ?_ ?_ (.inr rfl)
    (fun _ _ hdecided _ => hdecided) fun _ _ _ => ⟨_, rfl⟩)
  · exact ⟨canReview_ok hrole, hfound, hreviewable, hpool, fun hd => (by cases hd), fun hd => (by cases hd)⟩
  · exact ⟨rfl, (Table.find_some hfound).2, rfl, rfl, rfl⟩

/-! ## Awards

  A disbursement and a revocation are one transaction as well.  What is handed to it is computed
  by the service from the award and the pool that it has read. -/

/-- The balance that an award transition writes, from the balance that was read. -/
def AwardTransition.funds : AwardTransition → Int64 → Int64 → Int64
  | revoke, available, amount => available + amount
  | _, available, _ => available

/-- The links that an award transition hands to its UPDATE: those of the request, or the ones that
    a revocation has read. -/
def AwardTransition.links : AwardTransition → UpdateScholarshipAwardInput → ScholarshipAward →
    Option Uuid × Option Uuid
  | revoke, _, award => (award.linkedPayoutRequestId, award.linkedVaultId)
  | _, input, _ => (input.linkedPayoutRequestId, input.linkedVaultId)

/-- What the service has read and checked when it begins the transaction of an award. -/
structure AwardChecked (tr : AwardTransition) (actor : AuthenticatedUser)
    (input : UpdateScholarshipAwardInput) (t₁ t₂ t₃ : Db) (award : ScholarshipAward)
    (application : ScholarshipApplication) (pool : ScholarshipPool) : Prop where
  reviewer : actor.role = .platformAdmin
  found : t₁.awards.find input.awardId = some award
  legal : award.status = .approved ∨ award.status = tr.targetStatus
  accepted : validateAwardTransition award.status tr input.linkedPayoutRequestId
    input.linkedVaultId = .ok tr.targetStatus
  applicationFound : t₂.applications.find award.applicationId = some application
  poolFound : t₃.pools.find application.poolId = some pool

/-- An award transition that commits: the rows it read, the rows it leaves.  The application is read
    once more inside the transaction, without a lock (`t₄`). -/
structure AwardMovedAs (tr : AwardTransition) (actor : AuthenticatedUser)
    (input : UpdateScholarshipAwardInput) (l : Sess) (s t₁ t₂ t₃ t₄ : Db)
    (award row : ScholarshipAward) (application reread : ScholarshipApplication)
    (pool lockedPool : ScholarshipPool) : Prop where
  /-- What the service has checked, on the rows that it has read. -/
  checked : AwardChecked tr actor input t₁ t₂ t₃ award application pool
  seen : l.seen = [t₄, t₃, t₂, t₁]
  /-- The award as it is locked, whatever its status. -/
  locked : s.awards.find input.awardId = some row
  /-- The application is read again, without a lock. -/
  rereadFound : t₄.applications.find row.applicationId = some reread
  /-- The pool as it is locked, whatever its balance. -/
  poolLocked : s.pools.find reread.poolId = some lockedPool
  poolHeld : .pool reread.poolId ∈ l.locks
  /-- The balance that was computed passes the CHECK. -/
  nonneg : 0 ≤ tr.funds pool.availableFunds.amountMinor award.amount.amountMinor
  /-- The award takes the status and the links that it was handed. -/
  awards : (l.view s).awards = s.awards.replace
    (row.transition tr.targetStatus (tr.links input award).1 (tr.links input award).2)
  view : ∃ (payout vault : Option Uuid) (log : AuditLog), log.OfScholarship ∧ l.view s = { s with
    awards := s.awards.replace (row.transition tr.targetStatus payout vault)
    pools := s.pools.replace (lockedPool.setFunds
      (tr.funds pool.availableFunds.amountMinor award.amount.amountMinor) nonneg)
    audit := s.audit ++ [log] }

/-- An award transition that commits. -/
def AwardMoved (tr : AwardTransition) (actor : AuthenticatedUser)
    (input : UpdateScholarshipAwardInput) (l : Sess) (s : Db) : Prop :=
  ∃ t₁ t₂ t₃ t₄ award row application reread pool lockedPool,
    AwardMovedAs tr actor input l s t₁ t₂ t₃ t₄ award row application reread pool lockedPool

/-- Why an award transition commits nothing. -/
inductive AwardStopped (tr : AwardTransition) (actor : AuthenticatedUser)
    (input : UpdateScholarshipAwardInput) (l : Sess) (s : Db) : Prop
  /-- The actor is no administrator. -/
  | forbidden (role : actor.role ≠ .platformAdmin)
  /-- There is no such award. -/
  | missing {t : Db} (read : t ∈ l.seen) (none : t.awards.find input.awardId = none)
  /-- The transition is refused on the award that was read. -/
  | illegal {t : Db} {award : ScholarshipAward} {v : ScholarshipRuleViolation} (read : t ∈ l.seen)
    (found : t.awards.find input.awardId = some award)
    (refused : validateAwardTransition award.status tr input.linkedPayoutRequestId
      input.linkedVaultId = .error v)
  | applicationMissing {t t' : Db} {award : ScholarshipAward} (read : t ∈ l.seen) (read' : t' ∈ l.seen)
    (found : t.awards.find input.awardId = some award)
    (none : t'.applications.find award.applicationId = none)
  | poolMissing {t t' t'' : Db} {award : ScholarshipAward} {application : ScholarshipApplication}
    (read : t ∈ l.seen) (read' : t' ∈ l.seen) (read'' : t'' ∈ l.seen)
    (found : t.awards.find input.awardId = some award)
    (applicationFound : t'.applications.find award.applicationId = some application)
    (none : t''.pools.find application.poolId = none)
  /-- The award that was read is not there. -/
  | gone (none : s.awards.find input.awardId = none)
  | applicationGone {t : Db} {row : ScholarshipAward} (read : t ∈ l.seen)
    (locked : s.awards.find input.awardId = some row)
    (none : t.applications.find row.applicationId = none)
  | poolGone {t : Db} {row : ScholarshipAward} {reread : ScholarshipApplication} (read : t ∈ l.seen)
    (locked : s.awards.find input.awardId = some row)
    (rereadFound : t.applications.find row.applicationId = some reread)
    (none : s.pools.find reread.poolId = none)
  /-- The balance that was computed is negative, and its CHECK refuses. -/
  | overflow {t₁ t₂ t₃ : Db} {award : ScholarshipAward} {application : ScholarshipApplication}
    {pool : ScholarshipPool} (read₁ : t₁ ∈ l.seen) (read₂ : t₂ ∈ l.seen) (read₃ : t₃ ∈ l.seen)
    (checked : AwardChecked tr actor input t₁ t₂ t₃ award application pool)
    (wraps : ¬ 0 ≤ tr.funds pool.availableFunds.amountMinor award.amount.amountMinor)

/-- The transaction, begun after the checks of the service. -/
theorem transitionAwardWithAudit_ends (tr : AwardTransition) {input : UpdateScholarshipAwardInput}
    {s t₁ t₂ t₃ : Db} {award : ScholarshipAward} {application : ScholarshipApplication}
    {pool : ScholarshipPool} (h : AwardChecked tr actor input t₁ t₂ t₃ award application pool)
    {audit : AuditLog} (haudit : audit.OfScholarship)
    {N : Sess → Db → Except PersistenceError ScholarshipReviewDecisionResult → Prop}
    (hN : ∀ l s e, AwardStopped tr actor input l s → N l s (.error e)) :
    Ends (transitionAwardWithAudit award.id (asStr tr.targetStatus) (tr.links input award).1
      (tr.links input award).2 (tr.funds pool.availableFunds.amountMinor award.amount.amountMinor) audit)
      (fun l s _ => AwardMoved tr actor input l s) N
      (((Session.init.saw t₁).saw t₂).saw t₃) s := by
  rw [show award.id = input.awardId from (Table.find_some h.found).2]
  refine Ends.beginTx (Ends.forUpdate (Ends.okOr (fun hnone => hN _ _ _ (.gone hnone))
    fun row hrow => ?_))
  have hrowid : row.id = input.awardId := (Table.find_some hrow).2
  refine Ends.ofExcept (fun _ herr => by simp at herr) fun status hstatus => ?_
  obtain rfl : tr.targetStatus = status := by simpa using hstatus
  refine Ends.execute (fun r hr => by rw [show r = _ from hr, hrowid]; simp [Session.lock]) ?_
  refine Ends.select fun t₄ => Ends.okOr (fun hnone => hN _ _ _ (.applicationGone
    List.mem_cons_self hrow hnone)) fun reread hreread => ?_
  refine Ends.forUpdate (Ends.okOr (fun hnone => hN _ _ _ (.poolGone List.mem_cons_self hrow hreread
    hnone)) fun lockedPool hpool => ?_)
  have hrow' : s.awards.find row.id = some row := hrowid ▸ hrow
  have hpool' : s.pools.find reread.poolId = some lockedPool := hpool
  have hpoolid : lockedPool.id = reread.poolId := (Table.find_some hpool').2
  refine ends_updatePoolFunds ?_ (fun hwraps => hN _ _ _ (.overflow ?_ ?_ ?_ h hwraps))
    fun hnonneg => ?_
  · rw [hpoolid]; exact List.mem_cons_self
  · simp [Session.saw, Session.lock, Session.begun, Session.write]
  · simp [Session.saw, Session.lock, Session.begun, Session.write]
  · simp [Session.saw, Session.lock, Session.begun, Session.write]
  refine Ends.execute (fun _ hr => False.elim hr) (Ends.commit ?_)
  refine ⟨t₁, t₂, t₃, t₄, award, row, application, reread, pool, lockedPool, h, rfl, hrow, hreread,
    hpool', ?_, hnonneg, ?_, (tr.links input award).1, (tr.links input award).2, ?_⟩
  · simp [Session.lock, Session.write]
  · simp only [Session.view_write, Session.view_lock, Session.view_begun, Session.view_saw,
      Session.view_init]
    rw [hpoolid, apply_transitionAward row hrow', apply_setPoolFunds lockedPool]
    · rfl
    · exact hpool'
  simp only [Session.view_write, Session.view_lock, Session.view_begun, Session.view_saw,
    Session.view_init]
  rw [hpoolid, apply_transitionAward row hrow', apply_setPoolFunds lockedPool]
  · exact ⟨sanitizeAuditLog audit, haudit, rfl⟩
  · exact hpool'

/-- A disbursement moves the award, or is stopped without a commit. -/
theorem disburseAward_outcomes {input : UpdateScholarshipAwardInput} :
    Outcomes (disburseAward actor input) (fun l s _ => AwardMoved .disburse actor input l s)
      (fun l s r => Refused l s r ∧ AwardStopped .disburse actor input l s) := by
  intro s
  refine Ends.check (fun _ herr => ⟨⟨_, rfl⟩, .forbidden (canReview_error herr)⟩) fun _ hrole => ?_
  refine Ends.select fun t₁ => Ends.okOr (fun hnone => ⟨⟨_, rfl⟩, .missing List.mem_cons_self hnone⟩)
    fun award haward => ?_
  refine Ends.check (fun _ herr => ⟨⟨_, rfl⟩, .illegal List.mem_cons_self haward herr⟩)
    fun target htarget => ?_
  obtain ⟨rfl, hlegal⟩ := validateAwardTransition_ok htarget
  refine Ends.select fun t₂ => Ends.okOr (fun hnone => ⟨⟨_, rfl⟩, ?_⟩) fun application happlication => ?_
  · exact .applicationMissing (List.mem_cons_of_mem _ List.mem_cons_self) List.mem_cons_self haward hnone
  refine Ends.select fun t₃ => Ends.okOr (fun hnone => ⟨⟨_, rfl⟩, ?_⟩) fun pool hpool => ?_
  · exact .poolMissing (List.mem_cons_of_mem _ (List.mem_cons_of_mem _ List.mem_cons_self))
      (List.mem_cons_of_mem _ List.mem_cons_self) List.mem_cons_self haward happlication hnone
  refine Ends.mapError ?_
  exact transitionAwardWithAudit_ends .disburse
    ⟨canReview_ok hrole, haward, hlegal, htarget, happlication, hpool⟩ (.inl rfl) fun _ _ _ hstop => ⟨⟨_, rfl⟩, hstop⟩

/-- A revocation moves the award, or is stopped without a commit. -/
theorem revokeAward_outcomes {input : UpdateScholarshipAwardInput} :
    Outcomes (revokeAward actor input) (fun l s _ => AwardMoved .revoke actor input l s)
      (fun l s r => Refused l s r ∧ AwardStopped .revoke actor input l s) := by
  intro s
  refine Ends.check (fun _ herr => ⟨⟨_, rfl⟩, .forbidden (canReview_error herr)⟩) fun _ hrole => ?_
  refine Ends.select fun t₁ => Ends.okOr (fun hnone => ⟨⟨_, rfl⟩, .missing List.mem_cons_self hnone⟩)
    fun award haward => ?_
  refine Ends.check (fun _ herr => ⟨⟨_, rfl⟩, .illegal List.mem_cons_self haward herr⟩)
    fun target htarget => ?_
  obtain ⟨rfl, hlegal⟩ := validateAwardTransition_ok htarget
  refine Ends.select fun t₂ => Ends.okOr (fun hnone => ⟨⟨_, rfl⟩, ?_⟩) fun application happlication => ?_
  · exact .applicationMissing (List.mem_cons_of_mem _ List.mem_cons_self) List.mem_cons_self haward hnone
  refine Ends.select fun t₃ => Ends.okOr (fun hnone => ⟨⟨_, rfl⟩, ?_⟩) fun pool hpool => ?_
  · exact .poolMissing (List.mem_cons_of_mem _ (List.mem_cons_of_mem _ List.mem_cons_self))
      (List.mem_cons_of_mem _ List.mem_cons_self) List.mem_cons_self haward happlication hnone
  refine Ends.mapError ?_
  exact transitionAwardWithAudit_ends .revoke
    ⟨canReview_ok hrole, haward, hlegal, htarget, happlication, hpool⟩ (.inl rfl) fun _ _ _ hstop => ⟨⟨_, rfl⟩, hstop⟩

end EduStell
