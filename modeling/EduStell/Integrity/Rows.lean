/-
  What every stored row can be relied on for: a positive amount, in the currency of the vault or the
  pool that it belongs to; and that a payout is for a milestone of its vault, requested by its owner.

  No single check says so.  An amount is checked when a request is read, against a vault or a pool
  that is read without a lock; its currency is stored as text and parsed again; and the row is
  settled, reviewed or revoked later.  What carries the invariant is that nothing ever changes the
  currency or the owner of a vault, the vault of a milestone, the currency of a pool or the pool of
  an application (`RefsKept`), so that a check on a row that was read speaks of the row that is there.

  The plan: what stays (`RefsKept`), what a new row is (one lemma for each kind), what a commit
  keeps (one lemma for each table), and the contract over all of them.
-/
import EduStell.Scenario
import EduStell.Scholarships.Books
import EduStell.Spec.Details

namespace EduStell

open Txn Persistence

/-- A positive amount in a currency that is read back from its text as it is. -/
structure MoneyIn (currency : String) (m : Money) : Prop where
  /-- The amount is more than nothing. -/
  positive : 0 < m.amountMinor
  /-- It is in this currency. -/
  currency : m.currency.asStr = currency
  /-- It is read back as it was stored. -/
  readBack : storedMoney m = .ok m

/-- An amount in the currency of a vault. -/
def InVault (s : Db) (vaultId : Uuid) (m : Money) : Prop :=
  ∃ v, s.vaults.find vaultId = some v ∧ MoneyIn v.currency m

/-- An amount in the currency of a pool. -/
def InPool (s : Db) (poolId : Uuid) (m : Money) : Prop :=
  ∃ x, s.pools.find poolId = some x ∧ MoneyIn x.availableFunds.currency.asStr m

/-- The rows that a payout refers to. -/
structure PayoutPlaced (s : Db) (p : PayoutRequest) : Prop where
  /-- The vault is there, and its owner has asked. -/
  vault : ∃ v, s.vaults.find p.vaultId = some v ∧ p.requestedBy = v.ownerUserId
  /-- The milestone belongs to the vault, and can be paid. -/
  milestone : ∃ m, s.milestones.find p.milestoneId = some m ∧ m.vaultId = p.vaultId ∧
    Payouts.validateMilestonePayable m.status = .ok ()
  /-- The school is there. -/
  school : ∃ x, s.schools.find p.schoolId = some x

/-- What is to be shown of the payouts. -/
def PayoutsSound (s : Db) : Prop :=
  ∀ p ∈ s.payouts.rows, InVault s p.vaultId p.amount ∧ PayoutPlaced s p

/-- Every stored row is what it should be. -/
structure RowsSound (s : Db) : Prop where
  /-- A contribution is a positive amount in the currency of its vault. -/
  contributions : ∀ c ∈ s.contributions.rows, InVault s c.vaultId c.amount
  /-- So is every entry of the ledger. -/
  ledger : ∀ e ∈ s.ledger, InVault s e.vaultId e.amount
  /-- So is a payout, which is placed where it should be. -/
  payouts : PayoutsSound s
  /-- A donor contribution is a positive amount in the currency of its pool. -/
  donorContributions : ∀ d ∈ s.donorContributions.rows, InPool s d.poolId d.amount
  /-- So is an award, unless it is a rejection. -/
  awards : ∀ a ∈ s.awards.rows, a.status ≠ .rejected →
    ∃ x, s.applications.find a.applicationId = some x ∧ InPool s x.poolId a.amount

/-! ## What nothing changes

  Owners, currencies and the rows that others refer to stay.  That is the `rely` of this module,
  and the reason why a check on a row read earlier is still good. -/

/-- A rejection is stored as an award with this status. -/
def ScholarshipAward.isRejected (a : ScholarshipAward) : Bool := a.status = .rejected

/-- A later state still has every row that others refer to, with what they rely on. -/
structure RefsKept (s s' : Db) : Prop where
  vaults : Table.Keeps (fun v : SavingsVault => (v.currency, v.ownerUserId)) s.vaults s'.vaults
  milestones : s'.milestones = s.milestones
  schools : Table.Keeps (fun x : School => x.id) s.schools s'.schools
  pools : Table.Keeps (fun x : ScholarshipPool => x.availableFunds.currency) s.pools s'.pools
  applications : Table.Keeps (fun x : ScholarshipApplication => x.poolId) s.applications
    s'.applications

namespace RefsKept

variable {s t u : Db}

/-- Nothing has changed. -/
theorem refl (s : Db) : RefsKept s s := ⟨.refl _, rfl, .refl _, .refl _, .refl _⟩

/-- What is kept over two stretches is kept over both. -/
theorem trans (hst : RefsKept s t) (htu : RefsKept t u) : RefsKept s u :=
  ⟨hst.vaults.trans htu.vaults, htu.milestones.trans hst.milestones, hst.schools.trans htu.schools,
    hst.pools.trans htu.pools, hst.applications.trans htu.applications⟩

/-- No statement changes what others rely on. -/
theorem apply (w : Write) (s : Db) : RefsKept s (Store.apply w s) := by
  have hsame := refl s
  -- ids, owners, currencies and references are in no UPDATE
  cases w with
  | setVaultTotals id total h =>
    have hkeeps := Table.keeps_modify s.vaults id (fun v => v.setTotals total h) (fun _ hk => hk)
      (f := fun v => (v.currency, v.ownerUserId)) fun _ => rfl
    exact { hsame with vaults := hkeeps }
  | setVaultLocked id locked disbursed hl hd =>
    have hkeeps := Table.keeps_modify s.vaults id
      (fun v => v.setLockedAndDisbursed locked disbursed hl hd) (fun _ hk => hk)
      (f := fun v => (v.currency, v.ownerUserId)) fun _ => rfl
    exact { hsame with vaults := hkeeps }
  | setVaultBalances id contributed locked hc hl =>
    have hkeeps := Table.keeps_modify s.vaults id (fun v => v.setBalances contributed locked hc hl)
      (fun _ hk => hk) (f := fun v => (v.currency, v.ownerUserId)) fun _ => rfl
    exact { hsame with vaults := hkeeps }
  | verifySchool id status verifiedBy =>
    have hkeeps := Table.keeps_modify s.schools id (fun x => x.verify status verifiedBy)
      (fun _ hk => hk) (f := fun x => x.id) fun _ => rfl
    exact { hsame with schools := hkeeps }
  | insertPool row => exact { hsame with pools := Table.keeps_insert _ _ }
  | setPoolFunds id funds h =>
    have hkeeps := Table.keeps_modify s.pools id (fun x => x.setFunds funds h) (fun _ hk => hk)
      (f := fun x => x.availableFunds.currency) fun _ => rfl
    exact { hsame with pools := hkeeps }
  | insertApplication row => exact { hsame with applications := Table.keeps_insert _ _ }
  | setApplicationStatus id status =>
    have hkeeps := Table.keeps_modify s.applications id (fun x => x.setStatus status)
      (fun _ hk => hk) (f := fun x => x.poolId) fun _ => rfl
    exact { hsame with applications := hkeeps }
  | _ => exact { hsame with }

/-- The statements of a session keep what others refer to. -/
theorem view (l : Sess) (s : Db) : RefsKept s (l.view s) :=
  l.view_keeps (fun w _ h => h.trans (apply w _)) (refl s)

/-- An amount stays in the currency of its vault. -/
theorem inVault {vaultId : Uuid} {m : Money} (h : RefsKept s t) (hm : InVault s vaultId m) :
    InVault t vaultId m := by
  obtain ⟨v, hv, hmoney⟩ := hm
  obtain ⟨v', hv', hsame⟩ := h.vaults vaultId v hv
  obtain ⟨hcurrency, -⟩ := Prod.mk.inj hsame
  exact ⟨v', hv', hcurrency ▸ hmoney⟩

/-- An amount stays in the currency of its pool. -/
theorem inPool {poolId : Uuid} {m : Money} (h : RefsKept s t) (hm : InPool s poolId m) :
    InPool t poolId m := by
  obtain ⟨x, hx, hmoney⟩ := hm
  obtain ⟨x', hx', hsame⟩ := h.pools poolId x hx
  have hcurrency : x'.availableFunds.currency = x.availableFunds.currency := hsame
  exact ⟨x', hx', hcurrency ▸ hmoney⟩

/-- A payout stays where it was placed. -/
theorem payoutPlaced {p : PayoutRequest} (h : RefsKept s t) (hp : PayoutPlaced s p) :
    PayoutPlaced t p := by
  constructor
  · obtain ⟨v, hv, howner⟩ := hp.vault
    obtain ⟨v', hv', hsame⟩ := h.vaults _ v hv
    obtain ⟨-, howner'⟩ := Prod.mk.inj hsame
    exact ⟨v', hv', howner.trans howner'.symm⟩
  · rw [h.milestones]
    exact hp.milestone
  · obtain ⟨x, hx⟩ := hp.school
    obtain ⟨x', hx', -⟩ := h.schools _ x hx
    exact ⟨x', hx'⟩

end RefsKept

/-! ## New rows

  For each kind of new row, what its request has checked, and on which row. -/

section

variable {newId : Uuid} {actor : AuthenticatedUser} {l : Sess} {s : Db}

/-- What the checks of an intent and of a payout say about the amount. -/
theorem moneyIn_of_checked {currency : String} {amountMinor : Int64} {given : Currency}
    {nonneg : 0 ≤ amountMinor} {m : Money} (hpos : 0 < amountMinor)
    (hstored : storedMoney ⟨amountMinor, given, nonneg⟩ = .ok m) (hsame : given.asStr = currency) :
    MoneyIn currency m := by
  obtain ⟨hamount, hcurrency⟩ := storedMoney_ok hstored
  constructor
  · exact hamount ▸ hpos
  · exact hcurrency.trans hsame
  · exact storedMoney_of_parsed (storedMoney_parsed hstored)

/-- A new contribution is in the currency of its vault, which was read before. -/
theorem IntentRecorded.inVault {input : RecordContributionIntentInput} {a : Contribution}
    (h : IntentRecorded newId actor input l s a) (hseen : ∀ t ∈ l.seen, RefsKept t s) :
    InVault s a.vaultId a.amount := by
  obtain ⟨nonneg, amount, hstored, rfl⟩ := h.row
  obtain ⟨t₁, ht₁, t₂, -, vault, hvault, -, hcurrency⟩ := h.opened.allowed
  refine (hseen t₁ ht₁).inVault ⟨vault, hvault, moneyIn_of_checked h.opened.valid.2 hstored ?_⟩
  rw [Contributions.validateContributionCurrency] at hcurrency
  split at hcurrency
  · cases hcurrency
  · exact Decidable.not_not.mp ‹_›

/-- A new payout is in the currency of its vault, and what it refers to is there. -/
theorem PayoutCreated.sound {input : CreatePayoutRequestInput} {a : PayoutRequest}
    (h : PayoutCreated newId actor input l s a) (hseen : ∀ t ∈ l.seen, RefsKept t s) :
    InVault s a.vaultId a.amount ∧ PayoutPlaced s a := by
  obtain ⟨nonneg, amount, hstored, rfl⟩ := h.row
  obtain ⟨t₁, ht₁, t₂, ht₂, t₃, ht₃, vault, milestone, school, hvault, hmilestone, hschool, howner,
    hassociation, hpayable, hcurrency, -⟩ := h.opened.allowed
  have hvault' := (hseen t₁ ht₁).vaults _ vault hvault
  -- the checks were made on rows that were read; their ids and currencies have not changed since
  constructor
  · refine (hseen t₁ ht₁).inVault ⟨vault, hvault, moneyIn_of_checked h.opened.valid.2 hstored ?_⟩
    rw [Payouts.validateCurrencyMatch] at hcurrency
    split at hcurrency
    · assumption
    · cases hcurrency
  constructor
  · obtain ⟨v', hv', hsame⟩ := hvault'
    obtain ⟨-, howner'⟩ := Prod.mk.inj hsame
    exact ⟨v', hv', howner.symm.trans howner'.symm⟩
  · refine ⟨milestone, (hseen t₂ ht₂).milestones ▸ hmilestone, ?_, hpayable⟩
    rw [Payouts.validateMilestoneAssociation] at hassociation
    split at hassociation
    · assumption
    · cases hassociation
  · obtain ⟨x', hx', -⟩ := (hseen t₃ ht₃).schools _ school hschool
    exact ⟨x', hx'⟩

/-- A donor contribution is in the currency of its pool. -/
theorem DonationRecorded.inPool {input : FundScholarshipPoolInput} {pool : ScholarshipPool}
    {donation : DonorContribution} (h : DonationRecorded newId input l s pool donation)
    (hseen : ∀ t ∈ l.seen, RefsKept t s) : InPool s donation.poolId donation.amount := by
  obtain ⟨t, ht, read, hread, hcurrency⟩ := h.read
  rw [h.poolId]
  refine (hseen t ht).inPool ⟨read, hread, ?_, h.currency.trans hcurrency.symm, ?_⟩
  · exact h.amount ▸ h.positive
  · exact storedMoney_of_parsed h.parsed

/-- An award that is not a rejection is in the currency of the pool of its application. -/
theorem DecidedAs.inPool {d : Decision} {input : DecideScholarshipApplicationInput} {t₁ t₂ : Db}
    {application row : ScholarshipApplication} {pool lockedPool : ScholarshipPool}
    {award : ScholarshipAward}
    (h : DecidedAs d newId actor input l s t₁ t₂ application row pool lockedPool award)
    (hseen : ∀ t ∈ l.seen, RefsKept t s) (hstatus : award.status ≠ .rejected) :
    ∃ x, s.applications.find award.applicationId = some x ∧ InPool s x.poolId award.amount := by
  have h₁ : t₁ ∈ l.seen := by rw [h.seen]; simp
  have h₂ : t₂ ∈ l.seen := by rw [h.seen]; simp
  -- a rejection's award has the status rejected
  obtain rfl : d = .approve := by
    cases d with
    | approve => rfl
    | reject => exact absurd h.awardOf.status hstatus
  obtain ⟨x, hx, hpoolId⟩ := (hseen t₁ h₁).applications _ application h.checked.found
  refine ⟨x, h.awardOf.applicationId ▸ hx, ?_⟩
  have hsame : x.poolId = application.poolId := hpoolId
  rw [hsame]
  -- the amount was checked against the pool's currency, which stays
  refine (hseen t₂ h₂).inPool ⟨pool, h.checked.poolFound, ?_, ?_, ?_⟩
  · exact h.awardOf.amount ▸ (h.checked.covered rfl).1
  · exact h.awardOf.currency.trans (h.checked.currency rfl).symm
  · exact storedMoney_of_parsed h.parsed

end

/-! ## One commit

  A rejection is stored as an award, in whatever currency the request brought; hence it is left
  out, and the rejected awards have to be told apart for good. -/

/-- Rejections stay rejections, and nothing becomes one. -/
def RejectionsKept (s s' : Db) : Prop := Table.Keeps ScholarshipAward.isRejected s.awards s'.awards

section

variable {q : Request} {l : Sess} {s : Db} {b : Response}

/-- An award transition rewrites an award that is not a rejection. -/
theorem AwardMovedAs.not_rejected {tr : AwardTransition} {actor : AuthenticatedUser}
    {input : UpdateScholarshipAwardInput} {t₁ t₂ t₃ t₄ : Db} {award row : ScholarshipAward}
    {application reread : ScholarshipApplication} {pool lockedPool : ScholarshipPool}
    (h : AwardMovedAs tr actor input l s t₁ t₂ t₃ t₄ award row application reread pool lockedPool)
    (hseen : ∀ t ∈ l.seen, RejectionsKept t s) (htr : tr.targetStatus ≠ .rejected) :
    row.status ≠ .rejected := by
  have h₁ : t₁ ∈ l.seen := by rw [h.seen]; simp
  obtain ⟨row', hrow', hsame⟩ := hseen t₁ h₁ _ award h.checked.found
  obtain rfl : row = row' := Option.some.inj (h.locked.symm.trans hrow')
  intro hrejected
  have hread : award.status = .rejected := by
    simpa [ScholarshipAward.isRejected, hrejected] using hsame
  rcases h.checked.legal with hlegal | hlegal
  · rw [hread] at hlegal
    cases hlegal
  · exact htr (hlegal.symm.trans hread)

/-- The two transitions that are served do not go to a rejection. -/
theorem target_ne_rejected {tr : AwardTransition} {actor : AuthenticatedUser}
    {input : UpdateScholarshipAwardInput}
    (h : (tr = .disburse ∧ q = .disburse actor input) ∨ (tr = .revoke ∧ q = .revoke actor input)) :
    tr.targetStatus ≠ .rejected := by
  rcases h with ⟨rfl, -⟩ | ⟨rfl, -⟩ <;> decide

/-- A commit turns no award into a rejection, and no rejection into an award. -/
theorem RejectionsKept.commit (h : q.Effect l s b) (hseen : ∀ t ∈ l.seen, RejectionsKept t s) :
    RejectionsKept s (l.view s) := by
  intro id a ha
  obtain ⟨a', ha', hcases⟩ := award_row h.scholarship ha
  refine ⟨a', ha', ?_⟩
  rcases hcases with rfl | ⟨tr, actor, input, t₁, t₂, t₃, t₄, read, application, reread, pool,
    lockedPool, payout, vault, request, -, hx, rfl⟩
  · rfl
  · have hbefore := hx.not_rejected hseen (target_ne_rejected request)
    have hafter : (a.transition tr.targetStatus payout vault).status ≠ .rejected :=
      target_ne_rejected request
    simp [ScholarshipAward.isRejected, hbefore, hafter]

/-- A commit keeps the payouts sound: a new one is checked, and a review leaves what it is for. -/
theorem PayoutsSound.commit (hs : PayoutsSound s) (hseen : ∀ t ∈ l.seen, RefsKept t s)
    (h : q.Detail l s b) : PayoutsSound (l.view s) := by
  intro p hp
  have hkept := RefsKept.view l s
  -- sound in the state before the commit, or made by it
  have hold : InVault s p.vaultId p.amount ∧ PayoutPlaced s p := by
    rcases h.effect.savings with ⟨-, hx⟩ | ⟨-, hx⟩ | ⟨rfl, -⟩ | ⟨-, hx⟩ | hx
    · obtain ⟨log, -, -, hview⟩ := hx.view
      rw [hview] at hp
      exact hs p hp
    · rw [hx.view] at hp
      exact hs p hp
    · obtain ⟨a, -, hx⟩ := h
      obtain ⟨log, -, -, hview⟩ := hx.view
      have hfresh : s.payouts.find (Keyed.key a) = none := by
        rw [show Keyed.key a = _ from hx.requested.id]
        exact hx.fresh
      rw [hview] at hp
      rcases (Table.mem_insert hfresh).mp hp with hp | rfl
      · exact hs p hp
      · exact hx.sound hseen
    · rename_i tr actor input x row vault vault'
      rw [hx.view] at hp
      rcases Table.mem_replace hp with rfl | ⟨hp, -⟩
      · obtain ⟨hamount, hplaced⟩ := hs row (Table.find_some hx.locked).1
        exact ⟨hamount, hplaced.vault, hplaced.milestone, hplaced.school⟩
      · exact hs p hp
    · rw [hx.payouts] at hp
      exact hs p hp
  exact ⟨hkept.inVault hold.1, hkept.payoutPlaced hold.2⟩

namespace RowsSound

/-- A commit keeps the contributions in the currencies of their vaults. -/
theorem commit_contributions (hs : RowsSound s) (hseen : ∀ t ∈ l.seen, RefsKept t s)
    (h : q.Detail l s b) :
    ∀ c ∈ (l.view s).contributions.rows, InVault (l.view s) c.vaultId c.amount := by
  intro c hc
  refine (RefsKept.view l s).inVault ?_
  -- only a new contribution needs an argument; a settled one keeps vault and amount
  rcases h.effect.savings with ⟨rfl, -⟩ | ⟨-, hx⟩ | ⟨-, hx⟩ | ⟨-, hx⟩ | hx
  · obtain ⟨a, -, hx⟩ := h
    obtain ⟨log, -, -, hview⟩ := hx.view
    have hfresh : s.contributions.find (Keyed.key a) = none := by
      rw [show Keyed.key a = _ from hx.recorded.id]
      exact hx.fresh
    rw [hview] at hc
    rcases (Table.mem_insert hfresh).mp hc with hc | rfl
    · exact hs.contributions c hc
    · exact hx.inVault hseen
  · rename_i tr actor input t current row vault vault' entries
    rw [hx.view] at hc
    rcases Table.mem_replace hc with rfl | ⟨hc, -⟩
    · exact hs.contributions row (Table.find_some hx.locked).1
    · exact hs.contributions c hc
  · obtain ⟨log, -, -, hview⟩ := hx.view
    rw [hview] at hc
    exact hs.contributions c hc
  · rw [hx.view] at hc
    exact hs.contributions c hc
  · rw [hx.contributions] at hc
    exact hs.contributions c hc

/-- A commit keeps the ledger in the currencies of the vaults. -/
theorem commit_ledger (hs : RowsSound s) (h : q.Effect l s b) :
    ∀ e ∈ (l.view s).ledger, InVault (l.view s) e.vaultId e.amount := by
  intro e he
  refine (RefsKept.view l s).inVault ?_
  -- only a settlement adds an entry
  rcases h.savings with ⟨-, hx⟩ | ⟨-, hx⟩ | ⟨-, hx⟩ | ⟨-, hx⟩ | hx
  · obtain ⟨log, -, -, hview⟩ := hx.view
    rw [hview] at he
    exact hs.ledger e he
  · rename_i tr actor input t current row vault vault' entries
    rw [hx.view] at he
    rcases List.mem_append.mp he with he | he
    · exact hs.ledger e he
    · rcases hx.move.entry with ⟨-, rfl, -⟩ | ⟨entry, rfl, hentry⟩
      · cases he
      · -- the entry of a settlement is about the contribution that is settled
        obtain rfl := List.mem_singleton.mp he
        have hvault : vault.id = row.vaultId := (Table.find_some hx.vaultLocked).2
        rw [hentry.vaultId, hentry.amount, hvault]
        exact hs.contributions row (Table.find_some hx.locked).1
  · obtain ⟨log, -, -, hview⟩ := hx.view
    rw [hview] at he
    exact hs.ledger e he
  · rw [hx.view] at he
    exact hs.ledger e he
  · rw [hx.ledger] at he
    exact hs.ledger e he

/-- A commit keeps the donor contributions in the currencies of their pools. -/
theorem commit_donorContributions (hs : RowsSound s) (hseen : ∀ t ∈ l.seen, RefsKept t s)
    (h : q.Detail l s b) :
    ∀ d ∈ (l.view s).donorContributions.rows, InPool (l.view s) d.poolId d.amount := by
  intro d hd
  refine (RefsKept.view l s).inPool ?_
  -- only funding adds a donation
  cases h.effect.scholarship.donations with
  | kept view =>
    rw [view] at hd
    exact hs.donorContributions d hd
  | funded request =>
    subst request
    obtain ⟨a, -, pool, hx⟩ := h
    obtain ⟨log, -, hview⟩ := hx.view
    have hfresh : s.donorContributions.find (Keyed.key a.2) = none := by
      rw [show Keyed.key a.2 = _ from hx.id]
      exact hx.fresh
    rw [hview] at hd
    rcases (Table.mem_insert hfresh).mp hd with hd | rfl
    · exact hs.donorContributions d hd
    · exact hx.inPool hseen

/-- A commit keeps the awards in the currencies of the pools that they are taken from. -/
theorem commit_awards (hs : RowsSound s)
    (hseen : ∀ t ∈ l.seen, RefsKept t s ∧ RejectionsKept t s) (h : q.Effect l s b) :
    ∀ a ∈ (l.view s).awards.rows, a.status ≠ .rejected →
      ∃ x, (l.view s).applications.find a.applicationId = some x ∧
        InPool (l.view s) x.poolId a.amount := by
  intro a ha hstatus
  have hkept := RefsKept.view l s
  -- a decision adds an award, and a transition changes only an award that is not rejected
  have hold : ∃ x, s.applications.find a.applicationId = some x ∧ InPool s x.poolId a.amount := by
    cases h.scholarship.awards with
    | kept view =>
      rw [view] at ha
      exact hs.awards a ha hstatus
    | decided hx fresh view =>
      rw [view] at ha
      rcases (Table.mem_insert fresh).mp ha with ha | rfl
      · exact hs.awards a ha hstatus
      · exact hx.inPool (fun t ht => (hseen t ht).1) hstatus
    | @moved tr actor input t₁ t₂ t₃ t₄ award row application reread pool lockedPool request hx =>
      rw [hx.awards] at ha
      rcases Table.mem_replace ha with rfl | ⟨ha, -⟩
      · refine hs.awards row (Table.find_some hx.locked).1 ?_
        exact hx.not_rejected (fun t ht => (hseen t ht).2) (target_ne_rejected request)
      · exact hs.awards a ha hstatus
  obtain ⟨x, hx, hpool⟩ := hold
  obtain ⟨x', hx', hsame⟩ := hkept.applications _ x hx
  have hpoolId : x'.poolId = x.poolId := hsame
  exact ⟨x', hx', hpoolId ▸ hkept.inPool hpool⟩

/-- **Every commit keeps the rows sound**, whatever is committed between its reads. -/
theorem commit (hs : RowsSound s) (hseen : ∀ t ∈ l.seen, RefsKept t s ∧ RejectionsKept t s)
    (h : q.Detail l s b) : RowsSound (l.view s) := by
  have hrefs : ∀ t ∈ l.seen, RefsKept t s := fun t ht => (hseen t ht).1
  constructor
  · exact hs.commit_contributions hrefs h
  · exact hs.commit_ledger h.effect
  · exact PayoutsSound.commit hs.payouts hrefs h
  · exact hs.commit_donorContributions hrefs h
  · exact hs.commit_awards hseen h.effect

end RowsSound

end

/-! ## Every run

  All kinds of rows in one contract, since a payout relies on its vault and an award on its
  application. -/

/-- Rows that are sound, and what they refer to kept. -/
def rowsContract : Contract Request.program Request.Detail Request.Stops where
  outcomes := Request.detailed
  inv := RowsSound
  rely s s' := RefsKept s s' ∧ RejectionsKept s s'
  arrivals _ := True
  cond _ _ _ := True
  refl s := ⟨.refl s, .refl _⟩
  trans hst htu := ⟨hst.1.trans htu.1, hst.2.trans htu.2⟩
  keep {q l s b} _ hs hseen h _ := by
    have hread : ∀ t ∈ l.seen, RefsKept t s ∧ RejectionsKept t s := fun t ht => (hseen t ht).2
    refine ⟨hs.commit hread h, RefsKept.view l s, ?_⟩
    exact RejectionsKept.commit h.effect fun t ht => (hread t ht).2

/-- A start: none of the rows that are spoken of. -/
structure Unused (s : Db) : Prop where
  contributions : s.contributions.rows = []
  ledger : s.ledger = []
  payouts : s.payouts.rows = []
  donorContributions : s.donorContributions.rows = []
  awards : s.awards.rows = []

/-- Without a payout there is none to be wrong. -/
theorem PayoutsSound.start {s : Db} (h : s.payouts.rows = []) : PayoutsSound s := by
  intro p hp
  rw [h] at hp
  cases hp

/-- An unused database has no row to be wrong. -/
theorem RowsSound.start {s : Db} (h : Unused s) : RowsSound s := by
  constructor
  · rw [h.contributions]; exact fun _ hc => by cases hc
  · rw [h.ledger]; exact fun _ he => by cases he
  · exact .start h.payouts
  · rw [h.donorContributions]; exact fun _ hd => by cases hd
  · rw [h.awards]; exact fun _ ha => by cases ha

/-! ### Who sees a payout

  Who may see a payout one by one and who may list it are two checks in the code.  They agree
  because a payout is requested by the owner of its vault. -/

section

variable {s : Db} {actor : AuthenticatedUser}

/-- Who may see a payout that is there. -/
theorem serve_getPayout {id : Uuid} {p : PayoutRequest} (hp : s.payouts.find id = some p) :
    ((getPayout actor id).serve s).1 =
      if actor.userId ≠ p.requestedBy ∧ actor.role ≠ .platformAdmin then .error .forbidden
      else .ok p := by
  have hread : (getPayout actor id).serve s = Program.exec (do
      let payout ← Program.okOr (s.payouts.find id) .notFound
      Program.failIf (actor.userId ≠ payout.requestedBy ∧ actor.role ≠ .platformAdmin) .forbidden
      return payout) (Session.init.saw s) s := rfl
  rw [hread, hp]
  by_cases hhidden : actor.userId ≠ p.requestedBy ∧ actor.role ≠ .platformAdmin
  · rw [if_pos hhidden]
    show (Program.exec (Program.failIf _ _ >>= _) _ s).1 = _
    rw [Program.failIf, if_pos hhidden]
    rfl
  · rw [if_neg hhidden]
    show (Program.exec (Program.failIf _ _ >>= _) _ s).1 = _
    rw [Program.failIf, if_neg hhidden]
    rfl

/-- Who may list the payouts of a vault that is there. -/
theorem serve_listVaultPayouts {id : Uuid} {v : SavingsVault} (hv : s.vaults.find id = some v) :
    ((listVaultPayouts actor id).serve s).1 =
      if actor.userId ≠ v.ownerUserId ∧ actor.role ≠ .platformAdmin then .error .forbidden
      else .ok (payoutsByVault s id) := by
  have hread : (listVaultPayouts actor id).serve s = Program.exec (do
      let vault ← Program.okOr (s.vaults.find id) .notFound
      Program.failIf (actor.userId ≠ vault.ownerUserId ∧ actor.role ≠ .platformAdmin) .forbidden
      Program.select fun s => payoutsByVault s id) (Session.init.saw s) s := rfl
  rw [hread, hv]
  by_cases hhidden : actor.userId ≠ v.ownerUserId ∧ actor.role ≠ .platformAdmin
  · rw [if_pos hhidden]
    show (Program.exec (Program.failIf _ _ >>= _) _ s).1 = _
    rw [Program.failIf, if_pos hhidden]
    rfl
  · rw [if_neg hhidden]
    show (Program.exec (Program.failIf _ _ >>= _) _ s).1 = _
    rw [Program.failIf, if_neg hhidden]
    rfl

end

/-- A payout is found by its id, and among those of its vault, for the same users. -/
def SeenAlike (s : Db) (p : PayoutRequest) : Prop := ∀ actor : AuthenticatedUser,
  ((getPayout actor p.id).serve s).1 = .ok p ↔
    ∃ payouts, ((listVaultPayouts actor p.vaultId).serve s).1 = .ok payouts ∧ p ∈ payouts

/-- A payout is shown to the same users one by one and in the list of its vault. -/
theorem RowsSound.seenAlike {s : Db} (hs : RowsSound s) {p : PayoutRequest}
    (hp : p ∈ s.payouts.rows) : SeenAlike s p := by
  intro actor
  obtain ⟨-, hplaced⟩ := hs.payouts p hp
  obtain ⟨vault, hvault, howner⟩ := hplaced.vault
  have hfound : s.payouts.find p.id = some p := Table.find_key hp
  have hlisted : p ∈ payoutsByVault s p.vaultId := List.mem_filter.mpr ⟨hp, decide_eq_true rfl⟩
  rw [serve_getPayout hfound, serve_listVaultPayouts hvault, howner]
  split
  · simp
  · simp [hlisted]

/-- **In every state of every interleaved run the stored rows are sound**, and the lookup of a payout
    and the list of its vault's payouts agree on who sees it.

    The start is any database without rows of the five kinds; its vaults, pools, schools, milestones
    and children are arbitrary. -/
theorem rows_sound {s : Db} (h : Unused s) (es : List Happening) :
    RowsSound (Sys.after s es).db ∧
    ∀ p ∈ (Sys.after s es).db.payouts.rows, SeenAlike (Sys.after s es).db p := by
  have hwithin : rowsContract.Within s es :=
    System.meets_allows (fun _ => trivial) (fun _ _ _ => trivial) _ _
  have hsound : RowsSound (Sys.after s es).db :=
    (rowsContract.sound (RowsSound.start h) hwithin).inv
  exact ⟨hsound, fun p hp => hsound.seenAlike hp⟩

section

open Scenario

/-- A contribution and a payout that take turns. -/
theorem rows_sound_family :
    let es := alone 0 (record 1 100) 14 ++ alone 1 (settle .confirm 1) 11 ++
      [.call 2 (payout 2 60), .call 3 (payout 3 60)] ++
      (List.replicate 14 [.step 2, .step 3]).flatten
    (Sys.after family es).db.payouts.rows.length = 2 ∧ RowsSound (Sys.after family es).db :=
  ⟨by decide, (rows_sound ⟨rfl, rfl, rfl, rfl, rfl⟩ _).1⟩

end

end EduStell
