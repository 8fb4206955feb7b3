/-
  Recording a contribution, requesting a payout, verifying a school: every way such a request can
  end.

  The two creations are driven by their idempotency key, and each of them is described at two levels:

  * `IntentRecorded` with `RecordStopped`, and `PayoutCreated` with `CreateStopped`, name every end:
    a row under the key that is or is not the one asked for, a refusal, and the two unique indexes
    that a new row may violate after the key was read as free;
  * `Recorded` and `Requested` keep of a commit what the accounts need, and say nothing of the ends
    without one.

  A commit says more than that a row is new.  Each check of the service speaks of the row that it
  has read, in a snapshot with a name, and so it can be compared later with the row that is there.
-/
import EduStell.Requests
import EduStell.Spec.Settlement

namespace EduStell

open Txn Program Persistence

variable {newId : Uuid} {actor : AuthenticatedUser}

/-! ## Recording a contribution

  The reads come one after another, so each has a snapshot of its own (`t₁` for the vault, `t₂`
  for its contributors, and then the key).  A commit knows all of them, and knows the state in
  which it locked the index entries. -/

/-- What the service asks of an intent without looking at the database. -/
def IntentValid (actor : AuthenticatedUser) (input : RecordContributionIntentInput) : Prop :=
  (actor.role = .parent ∨ actor.role = .contributor) ∧ 0 < input.amountMinor

/-- What it asks of the vault, read in `t₁`, and of the vault's contributors, read in `t₂`. -/
def IntentAllowed (actor : AuthenticatedUser) (input : RecordContributionIntentInput)
    (t₁ t₂ : Db) : Prop :=
  ∃ vault, t₁.vaults.find input.vaultId = some vault ∧
    Contributions.canViewOrFundVault actor.role actor.userId vault.ownerUserId
      (t₂.vaultContributors.any fun item =>
        item.vaultId = input.vaultId && item.contributorUserId = actor.userId) = .ok () ∧
    Contributions.validateContributionCurrency input.currency.asStr vault.currency = .ok ()

/-- The checks before the key is read have passed. -/
structure IntentChecked (actor : AuthenticatedUser) (input : RecordContributionIntentInput)
    (l : Sess) : Prop where
  valid : IntentValid actor input
  allowed : ∃ t₁ ∈ l.seen, ∃ t₂ ∈ l.seen, IntentAllowed actor input t₁ t₂

/-- And no row was found under the key. -/
structure IntentOpen (actor : AuthenticatedUser) (input : RecordContributionIntentInput)
    (l : Sess) : Prop extends IntentChecked actor input l where
  unread : ∃ t ∈ l.seen, contributionByIdempotencyKey t input.idempotencyKey = none

/-- The new row. -/
def intentRow (newId : Uuid) (actor : AuthenticatedUser) (input : RecordContributionIntentInput)
    (amount : Money) : Contribution where
  id := newId
  vaultId := input.vaultId
  contributorUserId := actor.userId
  amount := amount
  status := .pending
  sourceType := input.sourceType
  externalReference := input.externalReference
  idempotencyKey := some input.idempotencyKey

/-- A recorded intent, with all that the service has checked. -/
structure IntentRecorded (newId : Uuid) (actor : AuthenticatedUser)
    (input : RecordContributionIntentInput) (l : Sess) (s : Db) (a : Contribution) : Prop where
  /-- What the service has checked. -/
  opened : IntentOpen actor input l
  /-- The entry of the id was locked, -/
  idHeld : .contribution newId ∈ l.locks
  /-- and then that of the key. -/
  keyHeld : .contributionKey input.idempotencyKey ∈ l.locks
  /-- The id was free, -/
  fresh : s.contributions.find newId = none
  /-- and so was the key. -/
  keyFree : s.contributions.any (fun c => c.idempotencyKey = some input.idempotencyKey) = false
  /-- The row is the intent, with its currency read back. -/
  row : ∃ nonneg amount, storedMoney ⟨input.amountMinor, input.currency, nonneg⟩ = .ok amount ∧
    a = intentRow newId actor input amount
  /-- The commit adds the row and its audit row. -/
  view : ∃ log : AuditLog, log.entityType = "contribution" ∧ log.entityId = some newId ∧
    l.view s = { s with contributions := s.contributions.insert a, audit := s.audit ++ [log] }

/-- A recording that commits nothing. -/
inductive RecordStopped (newId : Uuid) (actor : AuthenticatedUser)
    (input : RecordContributionIntentInput) (l : Sess) (s : Db) :
    Except ServiceError Contribution → Prop
  /-- The request is refused before anything is read. -/
  | invalid {e : ServiceError} (h : ¬ IntentValid actor input) :
    RecordStopped newId actor input l s (.error e)
  /-- The vault is missing, the actor has no access to it, or the currency is another one. -/
  | refused {t₁ t₂ : Db} {e : ServiceError} (h₁ : t₁ ∈ l.seen) (h₂ : t₂ ∈ l.seen)
    (h : ¬ IntentAllowed actor input t₁ t₂) : RecordStopped newId actor input l s (.error e)
  /-- The key stands for this intent: its row is the answer. -/
  | existing {t : Db} {c : Contribution} (checked : IntentChecked actor input l) (seen : t ∈ l.seen)
    (found : contributionByIdempotencyKey t input.idempotencyKey = some c)
    (same : ensureSameIntent c actor.userId input = .ok ()) :
    RecordStopped newId actor input l s (.ok c)
  /-- The key stands for another intent. -/
  | different {t : Db} {c : Contribution} {e : ServiceError} (seen : t ∈ l.seen)
    (found : contributionByIdempotencyKey t input.idempotencyKey = some c)
    (differs : ensureSameIntent c actor.userId input = .error e) :
    RecordStopped newId actor input l s (.error e)
  /-- The id has a row by the time it is locked. -/
  | idTaken (opened : IntentOpen actor input l) (held : .contribution newId ∈ l.locks)
    (taken : s.contributions.find newId ≠ none) : RecordStopped newId actor input l s
      (.error (.ofPersistence (.uniqueViolation "contributions_pkey")))
  /-- The key was read as free, and has a row by the time its entry is locked. -/
  | keyTaken (opened : IntentOpen actor input l)
    (held : .contributionKey input.idempotencyKey ∈ l.locks)
    (taken : s.contributions.any (fun c => c.idempotencyKey = some input.idempotencyKey) = true) :
    RecordStopped newId actor input l s
      (.error (.ofPersistence (.uniqueViolation "contributions_idempotency_key_key")))
  /-- The currency cannot be read back, so the INSERT fails. -/
  | noCurrency {nonneg : 0 ≤ input.amountMinor} {e : PersistenceError}
    (opened : IntentOpen actor input l)
    (unread : storedMoney ⟨input.amountMinor, input.currency, nonneg⟩ = .error e) :
    RecordStopped newId actor input l s (.error (.ofPersistence e))

/-- The check of an amount is that it is positive. -/
theorem validateContributionAmount_ok {amountMinor : Int64} :
    Contributions.validateContributionAmount amountMinor = .ok () ↔ 0 < amountMinor := by
  rw [Contributions.validateContributionAmount]
  split
  · rename_i hle
    exact ⟨fun h => (nomatch h), fun h => absurd hle (Int64.not_le.mpr h)⟩
  · rename_i hlt
    exact ⟨fun _ => Int64.not_le.mp hlt, fun _ => rfl⟩

/-- The transaction, begun after the checks of the service: what they have read stays read. -/
theorem createIntentWithAudit_ends {input : RecordContributionIntentInput} {seen : List Db} {s : Db}
    {nonneg : 0 ≤ input.amountMinor} {log : AuditLog} (hpos : 0 < input.amountMinor)
    (hopen : ∀ {l : Sess}, l.seen = seen → IntentOpen actor input l)
    (htype : log.entityType = "contribution") (hid : log.entityId = some newId) :
    Ends (createIntentWithAudit
        (intentRow newId actor input ⟨input.amountMinor, input.currency, nonneg⟩) log)
      (IntentRecorded newId actor input)
      (fun l s r => RecordStopped newId actor input l s (r.mapError ServiceError.ofPersistence))
      ⟨[], [], seen, false⟩ s := by
  refine Ends.beginTx (Ends.failIf (fun hle => ?_) fun _ => ?_)
  · exact absurd hpos (Int64.not_lt.mpr hle)
  refine ends_insertUnique (fun htaken => ?_) fun hfresh => ?_
  · exact .idTaken (hopen rfl) List.mem_cons_self (Option.isSome_iff_ne_none.mp htaken)
  refine ends_insertUniqueKey (fun key hkey htaken => ?_) (fun key hkey hfree => ?_)
    fun hnull => by cases hnull
  · obtain rfl := Option.some.inj hkey
    exact .keyTaken (hopen rfl) List.mem_cons_self htaken
  obtain rfl := Option.some.inj hkey
  refine Ends.ofExcept (fun e he => .noCurrency (hopen rfl) he) fun stored hstored => ?_
  refine Ends.execute (fun r hr => ?_) (Ends.execute (fun _ hr => False.elim hr) (Ends.commit ?_))
  · -- the row and its key have been locked
    rcases hr with rfl | ⟨key, hkey, rfl⟩
    · exact List.mem_cons_of_mem _ List.mem_cons_self
    · obtain rfl := Option.some.inj hkey
      exact List.mem_cons_self
  exact ⟨hopen rfl, List.mem_cons_of_mem _ List.mem_cons_self, List.mem_cons_self,
    eq_none_of_free hfresh, hfree, ⟨_, stored, hstored, rfl⟩, sanitizeAuditLog log, htype, hid, rfl⟩

/-- **Every way a recording can end.** -/
theorem recordContributionIntent_ends {input : RecordContributionIntentInput} :
    Outcomes (recordContributionIntent newId actor input) (IntentRecorded newId actor input)
      (RecordStopped newId actor input) := by
  intro s
  refine Ends.failIf (fun hrole => .invalid fun h => hrole h.1) fun hrole => ?_
  refine Ends.check (fun e he => .invalid fun h => ?_) fun _ hamount => ?_
  · cases (validateContributionAmount_ok.mpr h.2).symm.trans he
  have hpos := validateContributionAmount_ok.mp hamount
  have hvalid : IntentValid actor input := ⟨Decidable.not_not.mp hrole, hpos⟩
  refine Ends.select fun t₁ => Ends.okOr (fun hnone => ?_) fun vault hvault => ?_
  · have hrefused : ¬ IntentAllowed actor input t₁ t₁ := by
      rintro ⟨vault, hvault, -⟩
      cases hvault.symm.trans hnone
    exact .refused (by simp [Session.saw]) (by simp [Session.saw]) hrefused
  have hread : ∀ {v}, t₁.vaults.find input.vaultId = some v → v = vault :=
    fun hv => Option.some.inj (hv.symm.trans hvault)
  refine Ends.select fun t₂ => Ends.check (fun e he => ?_) fun _ haccess => ?_
  · have hrefused : ¬ IntentAllowed actor input t₁ t₂ := by
      rintro ⟨v, hv, haccess, -⟩
      rw [hread hv] at haccess
      cases haccess.symm.trans he
    exact .refused (by simp [Session.saw]) (by simp [Session.saw]) hrefused
  refine Ends.check (fun e he => ?_) fun _ hcurrency => ?_
  · have hrefused : ¬ IntentAllowed actor input t₁ t₂ := by
      rintro ⟨v, hv, -, hcurrency⟩
      rw [hread hv] at hcurrency
      cases hcurrency.symm.trans he
    exact .refused (by simp [Session.saw]) (by simp [Session.saw]) hrefused
  have hallowed : IntentAllowed actor input t₁ t₂ := ⟨vault, hvault, haccess, hcurrency⟩
  refine Ends.select fun t₃ => ?_
  have hchecked : ∀ {l : Sess}, l.seen = [t₃, t₂, t₁] → IntentChecked actor input l := fun hl =>
    ⟨hvalid, t₁, by simp [hl], t₂, by simp [hl], hallowed⟩
  cases hkey : contributionByIdempotencyKey t₃ input.idempotencyKey with
  | some existing =>
    simp only [Session.view_saw, Session.view_init, hkey]
    refine Ends.ofExcept (fun e he => ?_) fun _ hsame => Ends.pure ?_
    · exact .different (by simp [Session.saw]) hkey he
    · exact .existing (hchecked rfl) (by simp [Session.saw]) hkey hsame
  | none =>
    simp only [Session.view_saw, Session.view_init, hkey]
    refine Ends.ofExcept (fun e he => ?_) fun amount hnew => ?_
    · rw [Money.new_of_nonneg (Int64.le_of_lt hpos)] at he
      cases he
    obtain ⟨hnonneg, rfl⟩ := Money.of_new (ok_of_mapError hnew)
    refine Ends.mapError_tail (createIntentWithAudit_ends hpos (fun hl => ?_) rfl rfl)
    exact ⟨hchecked hl, t₃, by simp [hl], hkey⟩

/-- A recorded intent: a fresh pending row for an existing vault, and its audit row. -/
structure Recorded (newId : Uuid) (actor : AuthenticatedUser)
    (input : RecordContributionIntentInput) (l : Sess) (s : Db) (a : Contribution) : Prop where
  id : a.id = newId
  vaultId : a.vaultId = input.vaultId
  status : a.status = .pending
  key : a.idempotencyKey = some input.idempotencyKey
  amount : a.amount.amountMinor = input.amountMinor
  positive : 0 < input.amountMinor
  vaultFound : ∃ t ∈ l.seen, ∃ vault, t.vaults.find input.vaultId = some vault
  fresh : s.contributions.find newId = none
  keyFree : s.contributions.any (fun c => c.idempotencyKey = some input.idempotencyKey) = false
  view : ∃ log : AuditLog, log.entityType = "contribution" ∧ log.entityId = some newId ∧
    l.view s = { s with contributions := s.contributions.insert a, audit := s.audit ++ [log] }

/-- What was recorded, as far as the balances go. -/
theorem IntentRecorded.recorded {input : RecordContributionIntentInput} {l : Sess} {s : Db}
    {a : Contribution} (h : IntentRecorded newId actor input l s a) :
    Recorded newId actor input l s a := by
  obtain ⟨nonneg, amount, hstored, rfl⟩ := h.row
  obtain ⟨t₁, ht₁, -, -, vault, hvault, -⟩ := h.opened.allowed
  exact ⟨rfl, rfl, rfl, rfl, (storedMoney_ok hstored).1, h.opened.valid.2, ⟨t₁, ht₁, vault, hvault⟩,
    h.fresh, h.keyFree, h.view⟩

/-- How a recording ends, as far as the balances go. -/
theorem recordContributionIntent_outcomes {input : RecordContributionIntentInput} :
    Outcomes (recordContributionIntent newId actor input) (Recorded newId actor input)
      (fun _ _ _ => True) :=
  recordContributionIntent_ends.mono (fun _ _ _ => IntentRecorded.recorded) fun _ _ _ _ => trivial

/-! ## Requesting a payout

  The key is read first here.  Only when it is free are the vault, the milestone and the school
  read and checked, five checks in the order of the source. -/

/-- What the service asks of a payout request without looking at the database. -/
def PayoutValid (actor : AuthenticatedUser) (input : CreatePayoutRequestInput) : Prop :=
  Payouts.validateRequesterRole actor.role = .ok () ∧ 0 < input.amountMinor

/-- What it asks of the vault, the milestone and the school, read in `t₁`, `t₂` and `t₃`. -/
def PayoutAllowed (actor : AuthenticatedUser) (input : CreatePayoutRequestInput)
    (t₁ t₂ t₃ : Db) : Prop :=
  ∃ vault milestone school, t₁.vaults.find input.vaultId = some vault ∧
    t₂.milestones.find input.milestoneId = some milestone ∧
    t₃.schools.find input.schoolId = some school ∧ vault.ownerUserId = actor.userId ∧
    Payouts.validateMilestoneAssociation milestone.vaultId input.vaultId = .ok () ∧
    Payouts.validateMilestonePayable milestone.status = .ok () ∧
    Payouts.validateCurrencyMatch input.currency.asStr vault.currency = .ok () ∧
    Payouts.validateSchoolVerified school.verificationStatus = .ok () ∧
    Payouts.ensureAvailableFunds vault.totalContributedMinor vault.totalLockedMinor
      vault.totalDisbursedMinor input.amountMinor = .ok ()

/-- No row was found under the key, and the checks after that have passed. -/
structure PayoutOpen (actor : AuthenticatedUser) (input : CreatePayoutRequestInput)
    (l : Sess) : Prop where
  valid : PayoutValid actor input
  /-- No row was found under the key. -/
  unread : ∃ t ∈ l.seen, payoutByIdempotencyKey t input.idempotencyKey = none
  /-- The vault, the milestone and the school were read one after another. -/
  allowed : ∃ t₁ ∈ l.seen, ∃ t₂ ∈ l.seen, ∃ t₃ ∈ l.seen, PayoutAllowed actor input t₁ t₂ t₃

/-- The new row. -/
def payoutRow (newId : Uuid) (actor : AuthenticatedUser) (input : CreatePayoutRequestInput)
    (amount : Money) : PayoutRequest where
  id := newId
  vaultId := input.vaultId
  milestoneId := input.milestoneId
  schoolId := input.schoolId
  requestedBy := actor.userId
  amount := amount
  idempotencyKey := some input.idempotencyKey
  status := .pending
  reviewNotes := none
  externalPayoutReference := none
  reviewedBy := none

/-- A created payout request, with all that the service has checked. -/
structure PayoutCreated (newId : Uuid) (actor : AuthenticatedUser) (input : CreatePayoutRequestInput)
    (l : Sess) (s : Db) (a : PayoutRequest) : Prop where
  /-- What the service has checked. -/
  opened : PayoutOpen actor input l
  /-- The entry of the id was locked, -/
  idHeld : .payout newId ∈ l.locks
  /-- and then that of the key. -/
  keyHeld : .payoutKey input.idempotencyKey ∈ l.locks
  /-- The id was free, -/
  fresh : s.payouts.find newId = none
  /-- and so was the key. -/
  keyFree : s.payouts.any (fun p => p.idempotencyKey = some input.idempotencyKey) = false
  /-- The row is the request, with its currency read back. -/
  row : ∃ nonneg amount, storedMoney ⟨input.amountMinor, input.currency, nonneg⟩ = .ok amount ∧
    a = payoutRow newId actor input amount
  /-- The commit adds the row and its audit row. -/
  view : ∃ log : AuditLog, log.entityType = "payout_request" ∧ log.entityId = some newId ∧
    l.view s = { s with payouts := s.payouts.insert a, audit := s.audit ++ [log] }

/-- A request for a payout that commits nothing. -/
inductive CreateStopped (newId : Uuid) (actor : AuthenticatedUser) (input : CreatePayoutRequestInput)
    (l : Sess) (s : Db) : Except ServiceError PayoutRequest → Prop
  /-- The request is refused before anything is read. -/
  | invalid {e : ServiceError} (h : ¬ PayoutValid actor input) :
    CreateStopped newId actor input l s (.error e)
  /-- The key stands for this request: its row is the answer. -/
  | existing {t : Db} {p : PayoutRequest} (valid : PayoutValid actor input) (seen : t ∈ l.seen)
    (found : payoutByIdempotencyKey t input.idempotencyKey = some p)
    (same : samePayoutRequest p actor.userId input = true) :
    CreateStopped newId actor input l s (.ok p)
  /-- The key stands for another request. -/
  | different {t : Db} {p : PayoutRequest} {e : ServiceError} (seen : t ∈ l.seen)
    (found : payoutByIdempotencyKey t input.idempotencyKey = some p)
    (differs : ¬ samePayoutRequest p actor.userId input = true) :
    CreateStopped newId actor input l s (.error e)
  /-- One of the checks that come after the lookup of the key. -/
  | refused {t₁ t₂ t₃ : Db} {e : ServiceError}
    (unread : ∃ t ∈ l.seen, payoutByIdempotencyKey t input.idempotencyKey = none)
    (h₁ : t₁ ∈ l.seen) (h₂ : t₂ ∈ l.seen) (h₃ : t₃ ∈ l.seen)
    (h : ¬ PayoutAllowed actor input t₁ t₂ t₃) : CreateStopped newId actor input l s (.error e)
  /-- The id has a row by the time it is locked. -/
  | idTaken (opened : PayoutOpen actor input l) (held : .payout newId ∈ l.locks)
    (taken : s.payouts.find newId ≠ none) : CreateStopped newId actor input l s
      (.error (.ofPersistence (.uniqueViolation "payout_requests_pkey")))
  /-- The key was read as free, and has a row by the time its entry is locked. -/
  | keyTaken (opened : PayoutOpen actor input l) (held : .payoutKey input.idempotencyKey ∈ l.locks)
    (taken : s.payouts.any (fun p => p.idempotencyKey = some input.idempotencyKey) = true) :
    CreateStopped newId actor input l s
      (.error (.ofPersistence (.uniqueViolation "idx_payout_requests_idempotency_key")))
  /-- The currency cannot be read back, so the INSERT fails. -/
  | noCurrency {nonneg : 0 ≤ input.amountMinor} {e : PersistenceError}
    (opened : PayoutOpen actor input l)
    (unread : storedMoney ⟨input.amountMinor, input.currency, nonneg⟩ = .error e) :
    CreateStopped newId actor input l s (.error (.ofPersistence e))

/-- The check of an amount is that it is positive. -/
theorem validatePayoutAmount_ok {amountMinor : Int64} :
    Payouts.validatePayoutAmount amountMinor = .ok () ↔ 0 < amountMinor := by
  rw [Payouts.validatePayoutAmount]
  split
  · rename_i hle
    exact ⟨fun h => (nomatch h), fun h => absurd hle (Int64.not_le.mpr h)⟩
  · rename_i hlt
    exact ⟨fun _ => Int64.not_le.mp hlt, fun _ => rfl⟩

/-- The transaction, begun after the checks of the service: what they have read stays read. -/
theorem createRequestWithAudit_ends {input : CreatePayoutRequestInput} {seen : List Db} {s : Db}
    {nonneg : 0 ≤ input.amountMinor} {log : AuditLog} (hpos : 0 < input.amountMinor)
    (hopen : ∀ {l : Sess}, l.seen = seen → PayoutOpen actor input l)
    (htype : log.entityType = "payout_request") (hid : log.entityId = some newId) :
    Ends (createRequestWithAudit
        (payoutRow newId actor input ⟨input.amountMinor, input.currency, nonneg⟩) log)
      (PayoutCreated newId actor input)
      (fun l s r => CreateStopped newId actor input l s (r.mapError ServiceError.ofPersistence))
      ⟨[], [], seen, false⟩ s := by
  refine Ends.beginTx (Ends.failIf (fun hle => ?_) fun _ => ?_)
  · exact absurd hpos (Int64.not_lt.mpr hle)
  refine ends_insertUnique (fun htaken => ?_) fun hfresh => ?_
  · exact .idTaken (hopen rfl) List.mem_cons_self (Option.isSome_iff_ne_none.mp htaken)
  refine ends_insertUniqueKey (fun key hkey htaken => ?_) (fun key hkey hfree => ?_)
    fun hnull => by cases hnull
  · obtain rfl := Option.some.inj hkey
    exact .keyTaken (hopen rfl) List.mem_cons_self htaken
  obtain rfl := Option.some.inj hkey
  refine Ends.ofExcept (fun e he => .noCurrency (hopen rfl) he) fun stored hstored => ?_
  refine Ends.execute (fun r hr => ?_) (Ends.execute (fun _ hr => False.elim hr) (Ends.commit ?_))
  · -- the row and its key have been locked
    rcases hr with rfl | ⟨key, hkey, rfl⟩
    · exact List.mem_cons_of_mem _ List.mem_cons_self
    · obtain rfl := Option.some.inj hkey
      exact List.mem_cons_self
  exact ⟨hopen rfl, List.mem_cons_of_mem _ List.mem_cons_self, List.mem_cons_self,
    eq_none_of_free hfresh, hfree, ⟨_, stored, hstored, rfl⟩, sanitizeAuditLog log, htype, hid, rfl⟩

/-- The three rows that a request is checked against, once no row was found under the key. -/
theorem ends_payoutReads {input : CreatePayoutRequestInput} {t₁ s : Db}
    {k : SavingsVault → Milestone → School → Tx PayoutError PayoutRequest}
    (hkey : payoutByIdempotencyKey t₁ input.idempotencyKey = none)
    (h : ∀ {t₂ t₃ t₄ vault milestone school}, t₂.vaults.find input.vaultId = some vault →
      vault.ownerUserId = actor.userId → t₃.milestones.find input.milestoneId = some milestone →
      t₄.schools.find input.schoolId = some school →
      Ends (k vault milestone school) (PayoutCreated newId actor input)
        (CreateStopped newId actor input) ((((Session.init.saw t₁).saw t₂).saw t₃).saw t₄) s) :
    Ends (do
        let vault ← okOr (← select fun s => s.vaults.find input.vaultId) .notFound
        failIf (vault.ownerUserId ≠ actor.userId) .forbidden
        let milestone ← okOr (← select fun s => s.milestones.find input.milestoneId) .notFound
        let school ← okOr (← select fun s => s.schools.find input.schoolId) .notFound
        k vault milestone school)
      (PayoutCreated newId actor input) (CreateStopped newId actor input) (Session.init.saw t₁)
      s := by
  have hunread : ∀ {l : Sess}, t₁ ∈ l.seen →
      ∃ t ∈ l.seen, payoutByIdempotencyKey t input.idempotencyKey = none := fun h => ⟨t₁, h, hkey⟩
  refine Ends.select fun t₂ => Ends.okOr (fun hnone => ?_) fun vault hvault => ?_
  · have hrefused : ¬ PayoutAllowed actor input t₂ t₂ t₂ := by
      rintro ⟨vault, _, _, hvault, -⟩
      cases hvault.symm.trans hnone
    exact .refused (hunread (by simp [Session.saw])) (by simp [Session.saw])
      (by simp [Session.saw]) (by simp [Session.saw]) hrefused
  refine Ends.failIf (fun howner => ?_) fun howner => ?_
  · have hrefused : ¬ PayoutAllowed actor input t₂ t₂ t₂ := by
      rintro ⟨v, _, _, hv, -, -, howner', -⟩
      obtain rfl := Option.some.inj (hv.symm.trans hvault)
      exact howner howner'
    exact .refused (hunread (by simp [Session.saw])) (by simp [Session.saw])
      (by simp [Session.saw]) (by simp [Session.saw]) hrefused
  refine Ends.select fun t₃ => Ends.okOr (fun hnone => ?_) fun milestone hmilestone => ?_
  · have hrefused : ¬ PayoutAllowed actor input t₂ t₃ t₃ := by
      rintro ⟨_, milestone, _, -, hmilestone, -⟩
      cases hmilestone.symm.trans hnone
    exact .refused (hunread (by simp [Session.saw])) (by simp [Session.saw])
      (by simp [Session.saw]) (by simp [Session.saw]) hrefused
  refine Ends.select fun t₄ => Ends.okOr (fun hnone => ?_) fun school hschool => ?_
  · have hrefused : ¬ PayoutAllowed actor input t₂ t₃ t₄ := by
      rintro ⟨_, _, school, -, -, hschool, -⟩
      cases hschool.symm.trans hnone
    exact .refused (hunread (by simp [Session.saw])) (by simp [Session.saw])
      (by simp [Session.saw]) (by simp [Session.saw]) hrefused
  exact h hvault (Decidable.not_not.mp howner) hmilestone hschool

/-- The five checks of the rows that were read: none is left out, whichever fails first. -/
theorem ends_payoutChecks {input : CreatePayoutRequestInput} {vault : SavingsVault}
    {milestone : Milestone} {school : School} {l : Sess} {s : Db} {k : Tx PayoutError PayoutRequest}
    {E : Sess → Db → PayoutRequest → Prop}
    {N : Sess → Db → Except ServiceError PayoutRequest → Prop}
    (hrefused : ∀ {e}, ¬ (
      Payouts.validateMilestoneAssociation milestone.vaultId input.vaultId = .ok () ∧
      Payouts.validateMilestonePayable milestone.status = .ok () ∧
      Payouts.validateCurrencyMatch input.currency.asStr vault.currency = .ok () ∧
      Payouts.validateSchoolVerified school.verificationStatus = .ok () ∧
      Payouts.ensureAvailableFunds vault.totalContributedMinor vault.totalLockedMinor
        vault.totalDisbursedMinor input.amountMinor = .ok ()) → N l s (.error e))
    (h : Payouts.validateMilestoneAssociation milestone.vaultId input.vaultId = .ok () ∧
      Payouts.validateMilestonePayable milestone.status = .ok () ∧
      Payouts.validateCurrencyMatch input.currency.asStr vault.currency = .ok () ∧
      Payouts.validateSchoolVerified school.verificationStatus = .ok () ∧
      Payouts.ensureAvailableFunds vault.totalContributedMinor vault.totalLockedMinor
        vault.totalDisbursedMinor input.amountMinor = .ok () → Ends k E N l s) :
    Ends (do
        check (Payouts.validateMilestoneAssociation milestone.vaultId input.vaultId)
        check (Payouts.validateMilestonePayable milestone.status)
        check (Payouts.validateCurrencyMatch input.currency.asStr vault.currency)
        check (Payouts.validateSchoolVerified school.verificationStatus)
        check (Payouts.ensureAvailableFunds vault.totalContributedMinor vault.totalLockedMinor
          vault.totalDisbursedMinor input.amountMinor)
        k) E N l s := by
  refine Ends.check (fun e he => hrefused fun h => ?_) fun _ hassociation => ?_
  · cases h.1.symm.trans he
  refine Ends.check (fun e he => hrefused fun h => ?_) fun _ hpayable => ?_
  · cases h.2.1.symm.trans he
  refine Ends.check (fun e he => hrefused fun h => ?_) fun _ hcurrency => ?_
  · cases h.2.2.1.symm.trans he
  refine Ends.check (fun e he => hrefused fun h => ?_) fun _ hverified => ?_
  · cases h.2.2.2.1.symm.trans he
  refine Ends.check (fun e he => hrefused fun h => ?_) fun _ hfunds => ?_
  · cases h.2.2.2.2.symm.trans he
  exact h ⟨hassociation, hpayable, hcurrency, hverified, hfunds⟩

/-- **Every way a request for a payout can end.** -/
theorem createPayoutRequest_ends {input : CreatePayoutRequestInput} :
    Outcomes (createPayoutRequest newId actor input) (PayoutCreated newId actor input)
      (CreateStopped newId actor input) := by
  intro s
  refine Ends.check (fun e he => .invalid fun h => by cases h.1.symm.trans he) fun _ hrole => ?_
  refine Ends.check (fun e he => .invalid fun h => ?_) fun _ hamount => ?_
  · cases (validatePayoutAmount_ok.mpr h.2).symm.trans he
  have hpos := validatePayoutAmount_ok.mp hamount
  have hvalid : PayoutValid actor input := ⟨hrole, hpos⟩
  refine Ends.select fun t₁ => ?_
  cases hkey : payoutByIdempotencyKey t₁ input.idempotencyKey with
  | some existing =>
    simp only [Session.view_init, hkey]
    refine Ends.ite (fun hsame => Ends.pure ?_) fun hdiffers => Ends.fail ?_
    · exact .existing hvalid (by simp [Session.saw]) hkey hsame
    · exact .different (by simp [Session.saw]) hkey hdiffers
  | none =>
    simp only [Session.view_init, hkey]
    refine ends_payoutReads hkey fun {t₂ t₃ t₄ vault milestone school} hvault howner hmilestone
      hschool => ends_payoutChecks (fun hfails => ?_) fun hchecks => ?_
    · have hrefused : ¬ PayoutAllowed actor input t₂ t₃ t₄ := by
        rintro ⟨v, m, x, hv, hm, hx, -, hchecks⟩
        obtain rfl := Option.some.inj (hv.symm.trans hvault)
        obtain rfl := Option.some.inj (hm.symm.trans hmilestone)
        obtain rfl := Option.some.inj (hx.symm.trans hschool)
        exact hfails hchecks
      exact .refused ⟨t₁, by simp [Session.saw], hkey⟩ (by simp [Session.saw])
        (by simp [Session.saw]) (by simp [Session.saw]) hrefused
    refine Ends.ofExcept (fun e he => ?_) fun amount hnew => ?_
    · rw [Money.new_of_nonneg (Int64.le_of_lt hpos)] at he
      cases he
    obtain ⟨hnonneg, rfl⟩ := Money.of_new (ok_of_mapError hnew)
    refine Ends.mapError_tail (createRequestWithAudit_ends hpos (fun {l} hl => ?_) rfl rfl)
    have hseen : l.seen = [t₄, t₃, t₂, t₁] := hl
    exact ⟨hvalid, ⟨t₁, by simp [hseen], hkey⟩, t₂, by simp [hseen], t₃, by simp [hseen], t₄,
      by simp [hseen], vault, milestone, school, hvault, hmilestone, hschool, howner, hchecks⟩

/-- A requested payout: a fresh pending row for an existing vault, and its audit row. -/
structure Requested (newId : Uuid) (actor : AuthenticatedUser) (input : CreatePayoutRequestInput)
    (l : Sess) (s : Db) (a : PayoutRequest) : Prop where
  id : a.id = newId
  vaultId : a.vaultId = input.vaultId
  status : a.status = .pending
  key : a.idempotencyKey = some input.idempotencyKey
  amount : a.amount.amountMinor = input.amountMinor
  positive : 0 < input.amountMinor
  vaultFound : ∃ t ∈ l.seen, ∃ vault, t.vaults.find input.vaultId = some vault
  fresh : s.payouts.find newId = none
  keyFree : s.payouts.any (fun p => p.idempotencyKey = some input.idempotencyKey) = false
  view : ∃ log : AuditLog, log.entityType = "payout_request" ∧ log.entityId = some newId ∧
    l.view s = { s with payouts := s.payouts.insert a, audit := s.audit ++ [log] }

/-- What was requested, as far as the balances go. -/
theorem PayoutCreated.requested {input : CreatePayoutRequestInput} {l : Sess} {s : Db}
    {a : PayoutRequest} (h : PayoutCreated newId actor input l s a) :
    Requested newId actor input l s a := by
  obtain ⟨nonneg, amount, hstored, rfl⟩ := h.row
  obtain ⟨t₁, ht₁, -, -, -, -, vault, -, -, hvault, -⟩ := h.opened.allowed
  exact ⟨rfl, rfl, rfl, rfl, (storedMoney_ok hstored).1, h.opened.valid.2, ⟨t₁, ht₁, vault, hvault⟩,
    h.fresh, h.keyFree, h.view⟩

/-- How a payout request ends, as far as the balances go. -/
theorem createPayoutRequest_outcomes {input : CreatePayoutRequestInput} :
    Outcomes (createPayoutRequest newId actor input) (Requested newId actor input)
      (fun _ _ _ => True) :=
  createPayoutRequest_ends.mono (fun _ _ _ => PayoutCreated.requested) fun _ _ _ _ => trivial

/-! ## Verifying a school

  Nothing is read but the row that is to be verified. -/

/-- A changed verification: the school row and an audit row. -/
structure SchoolVerified (actor : AuthenticatedUser) (input : VerifySchoolInput) (l : Sess) (s : Db)
    (a : School) : Prop where
  role : actor.role = .platformAdmin
  locked : ∃ row, s.schools.find input.schoolId = some row ∧
    a = row.verify input.verificationStatus actor.userId
  view : ∃ log : AuditLog, log.entityType = "school" ∧ log.entityId = some input.schoolId ∧
    l.view s = { s with schools := s.schools.replace a, audit := s.audit ++ [log] }

/-- A verification ends with the school verified or not as it was asked for, or without a commit. -/
theorem verifySchool_outcomes {input : VerifySchoolInput} :
    Outcomes (verifySchool actor input) (SchoolVerified actor input) (fun _ _ _ => True) := by
  intro s
  refine Ends.ofExcept (fun _ _ => trivial) fun _ hrole => ?_
  have hadmin : actor.role = .platformAdmin := by
    rw [requirePlatformAdmin] at hrole
    split at hrole
    · assumption
    · cases hrole
  refine Ends.mapError_tail (Ends.beginTx (Ends.forUpdate (Ends.okOr (fun _ => trivial)
    fun school hschool => ?_)))
  have hid : school.id = input.schoolId := (Table.find_some hschool).2
  refine Ends.ofExcept (fun _ _ => trivial) fun status hstatus => ?_
  obtain rfl : input.verificationStatus = status := by simpa using hstatus
  refine Ends.execute (fun r hr => by rw [show r = _ from hr, hid]; simp [Session.lock]) ?_
  refine Ends.execute (fun _ hr => False.elim hr) (Ends.commit ?_)
  have hview := @apply_verifySchool s input.schoolId school input.verificationStatus actor.userId hschool
  refine ⟨hadmin, ⟨school, hschool, rfl⟩, ?_⟩
  simp only [Session.view_write, Session.view_lock, Session.view_begun, Session.view_init, hid, hview]
  exact ⟨_, rfl, rfl, rfl⟩

end EduStell
