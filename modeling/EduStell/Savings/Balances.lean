/-
  The totals of a vault and the rows behind them, for requests served one after another.

  The contributed total is the sum of the Confirmed contributions, the locked total that of the
  Approved and Processing payouts, the disbursed total that of the Completed payouts.  Each request
  rewrites one row along an edge of its status machine and moves the total by what the row stood for
  and now stands for; so the sums are kept, and the guards against a total that is too small for one
  of its own parts are never needed.

  The plan:

  1. each request served alone keeps `Balanced`, one lemma for each of the four effects
     (`settled`, `reviewed`, `recorded`, `requested`);
  2. `Books` puts the ledger beside it, and is kept over every serial run (`Books.serveAll`);
  3. from the books it follows that the guards against an underflow never fire
     (`Books.reversal_guard`, `Books.underflow_guard`), and that a failed payout gives back what
     it had locked (`Books.failure_releases`).
-/
import EduStell.Savings.StatusEdges

namespace EduStell

open Txn

/-! ## The three sums

  Which rows count, and how: a start has no rows attached to its vaults, so that its zeros are the
  sums. -/

/-- A start: vaults without money, and no rows attached. -/
structure Opening (s : Db) : Prop where
  /-- No vault has money, or has promised any. -/
  account : ∀ v ∈ s.vaults.rows, v.account = ⟨0, 0, 0⟩
  /-- Nothing has been contributed, -/
  contributions : s.contributions.rows = []
  /-- nothing has been asked for, -/
  payouts : s.payouts.rows = []
  /-- and the ledger is empty. -/
  ledger : s.ledger = []

/-- The sum of a vault's Confirmed contributions. -/
def confirmedSum (s : Db) (vaultId : Uuid) : Int :=
  s.contributions.sumBy (·.vaultId) (fun c => c.status.contributed c.amount.units) vaultId

/-- The sum of a vault's Approved and Processing payouts. -/
def lockedSum (s : Db) (vaultId : Uuid) : Int :=
  s.payouts.sumBy (·.vaultId) (fun p => p.status.locked p.amount.units) vaultId

/-- The sum of a vault's Completed payouts. -/
def disbursedSum (s : Db) (vaultId : Uuid) : Int :=
  s.payouts.sumBy (·.vaultId) (fun p => p.status.disbursed p.amount.units) vaultId

/-- Every total is the sum of the rows behind it. -/
structure Balanced (s : Db) : Prop where
  /-- What was contributed is the sum of the confirmed contributions. -/
  contributed : ∀ v ∈ s.vaults.rows, v.account.contributed = confirmedSum s v.id
  /-- What is locked is the sum of the approved and the processing payouts. -/
  locked : ∀ v ∈ s.vaults.rows, v.account.locked = lockedSum s v.id
  /-- What is disbursed is the sum of the completed payouts. -/
  disbursed : ∀ v ∈ s.vaults.rows, v.account.disbursed = disbursedSum s v.id

namespace Balanced

variable {s : Db} {l : Sess}

/-- Totals of zero are the sums over no rows. -/
theorem start (h : Opening s) : Balanced s := by
  have hcontributions : ∀ vaultId, ∀ c ∈ s.contributions.rows, c.vaultId ≠ vaultId := by
    intro vaultId c hc
    rw [h.contributions] at hc
    cases hc
  have hpayouts : ∀ vaultId, ∀ p ∈ s.payouts.rows, p.vaultId ≠ vaultId := by
    intro vaultId p hp
    rw [h.payouts] at hp
    cases hp
  constructor
  · intro v hv
    rw [h.account v hv, confirmedSum, Table.sumBy_eq_zero (hcontributions v.id)]
  · intro v hv
    rw [h.account v hv, lockedSum, Table.sumBy_eq_zero (hpayouts v.id)]
  · intro v hv
    rw [h.account v hv, disbursedSum, Table.sumBy_eq_zero (hpayouts v.id)]

/-! ## The sums are kept

  A settlement or a review moves one row along an edge and a total by the difference; a creation
  adds a row that stands for nothing yet. -/

/-- A confirmed contribution is part of its vault's total. -/
theorem le_contributed (hs : Balanced s) {c : Contribution} {v : SavingsVault}
    (hc : c ∈ s.contributions.rows) (hstatus : c.status = .confirmed)
    (hv : s.vaults.find c.vaultId = some v) : c.amount.units ≤ v.account.contributed := by
  obtain ⟨hmem, hid⟩ := Table.find_some hv
  have hnonneg : ∀ c' ∈ s.contributions.rows, 0 ≤ c'.status.contributed c'.amount.units :=
    fun c' _ => ContributionStatus.contributed_nonneg c'.amount.units_nonneg
  have hle := Table.le_sumBy (·.vaultId) hnonneg hc
  rw [hstatus] at hle
  rw [hs.contributed v hmem, show v.id = c.vaultId from hid]
  exact hle

/-- A payout being processed is part of its vault's lock. -/
theorem le_locked (hs : Balanced s) {p : PayoutRequest} {v : SavingsVault}
    (hp : p ∈ s.payouts.rows) (hstatus : p.status = .processing)
    (hv : s.vaults.find p.vaultId = some v) : p.amount.units ≤ v.account.locked := by
  obtain ⟨hmem, hid⟩ := Table.find_some hv
  have hnonneg : ∀ p' ∈ s.payouts.rows, 0 ≤ p'.status.locked p'.amount.units :=
    fun p' _ => PayoutStatus.locked_nonneg p'.amount.units_nonneg
  have hle := Table.le_sumBy (·.vaultId) hnonneg hp
  rw [hstatus] at hle
  rw [hs.locked v hmem, show v.id = p.vaultId from hid]
  exact hle

/-- A settlement along an edge keeps the sums. -/
theorem settled {tr : ContributionTransition} {actor : AuthenticatedUser} {input : SettlementInput}
    {t : Db} {current row : Contribution} {vault vault' : SavingsVault}
    {entries : List VaultLedgerEntry} (hs : Balanced s)
    (h : SettledAs tr actor input l s t current row vault vault' entries)
    (hedge : Contributions.Edge row.status tr.targetStatus) : Balanced (l.view s) := by
  have hid : row.id = input.contributionId := (Table.find_some h.locked).2
  have haccount := h.move.account
  obtain ⟨hlocked, hdisbursed⟩ := vault.account.settle_promises row.amount.units tr
  -- the confirmed sum moves by the difference of the row's two shares
  have hsum : ∀ vaultId, confirmedSum (l.view s) vaultId = confirmedSum s vaultId +
      if row.vaultId = vaultId then tr.targetStatus.contributed row.amount.units
        - row.status.contributed row.amount.units else 0 := by
    intro vaultId
    rw [h.view]
    exact Table.sumBy_replace (y := settledRow tr input row) h.locked hid rfl _ vaultId
  have hvaults : (l.view s).vaults = s.vaults.replace vault' := by rw [h.view]
  have hpayouts : (l.view s).payouts = s.payouts := by rw [h.view]
  constructor
  · -- the contributed total follows the sum; the other two totals are not touched
    rw [hvaults]
    refine Table.column_replace h.vaultLocked h.vaultKey hs.contributed hsum ?_
    rw [haccount]
    exact vault.account.settle_edge row.amount.units hedge
  · -- payouts are untouched, so their sums stay
    simp only [lockedSum, hvaults, hpayouts]
    refine Table.column_keep h.vaultLocked h.vaultKey hs.locked ?_
    rw [haccount]
    exact hlocked
  · simp only [disbursedSum, hvaults, hpayouts]
    refine Table.column_keep h.vaultLocked h.vaultKey hs.disbursed ?_
    rw [haccount]
    exact hdisbursed

/-- A review along an edge keeps the sums. -/
theorem reviewed {tr : PayoutTransition} {actor : AuthenticatedUser} {input : ReviewPayoutInput}
    {x : ReviewReads} {row : PayoutRequest} {vault vault' : SavingsVault} (hs : Balanced s)
    (h : ReviewedAs tr actor input l s x row vault vault')
    (hedge : Payouts.Edge row.status tr.targetStatus) : Balanced (l.view s) := by
  obtain ⟨hrow, hid⟩ := Table.find_some h.locked
  have hid : row.id = input.payoutId := hid
  have haccount := h.move.account row.amount.nonneg
  -- a failing payout was being processed, so the lock covers it
  have hcovered : tr = .fail → row.amount.units ≤ vault.account.locked := by
    rintro rfl
    exact hs.le_locked hrow (Payouts.processing_of_edge hedge (.inr rfl)) h.vaultLocked
  obtain ⟨hlocked, hdisbursed⟩ := vault.account.review_edge row.amount.units hedge hcovered
  have hlockedSum : ∀ vaultId, lockedSum (l.view s) vaultId = lockedSum s vaultId +
      if row.vaultId = vaultId then tr.targetStatus.locked row.amount.units
        - row.status.locked row.amount.units else 0 := by
    intro vaultId
    rw [h.view]
    exact Table.sumBy_replace (y := reviewedRow tr actor input row) h.locked hid rfl _ vaultId
  have hdisbursedSum : ∀ vaultId, disbursedSum (l.view s) vaultId = disbursedSum s vaultId +
      if row.vaultId = vaultId then tr.targetStatus.disbursed row.amount.units
        - row.status.disbursed row.amount.units else 0 := by
    intro vaultId
    rw [h.view]
    exact Table.sumBy_replace (y := reviewedRow tr actor input row) h.locked hid rfl _ vaultId
  have hvaults : (l.view s).vaults = s.vaults.replace vault' := by rw [h.view]
  have hcontributions : (l.view s).contributions = s.contributions := by rw [h.view]
  constructor
  · simp only [confirmedSum, hvaults, hcontributions]
    refine Table.column_keep h.vaultLocked h.vaultKey hs.contributed ?_
    rw [haccount]
    exact vault.account.review_contributed _ tr
  · rw [hvaults]
    refine Table.column_replace h.vaultLocked h.vaultKey hs.locked hlockedSum ?_
    rw [haccount]
    exact hlocked
  · rw [hvaults]
    refine Table.column_replace h.vaultLocked h.vaultKey hs.disbursed hdisbursedSum ?_
    rw [haccount]
    exact hdisbursed

/-- A new row is pending and stands for nothing. -/
theorem recorded {newId : Uuid} {actor : AuthenticatedUser} {input : RecordContributionIntentInput}
    {a : Contribution} (hs : Balanced s) (h : Recorded newId actor input l s a) :
    Balanced (l.view s) := by
  obtain ⟨log, -, -, hview⟩ := h.view
  have hfresh : s.contributions.find a.id = none := by rw [h.id]; exact h.fresh
  have hsum : ∀ vaultId, confirmedSum (l.view s) vaultId = confirmedSum s vaultId := by
    intro vaultId
    rw [hview]
    refine (Table.sumBy_insert hfresh _ _ vaultId).trans ?_
    rw [h.status]
    split <;> exact Int.add_zero _
  rw [hview] at hsum ⊢
  constructor
  · intro v hv
    exact (hs.contributed v hv).trans (hsum v.id).symm
  · exact hs.locked
  · exact hs.disbursed

/-- A payout request adds nothing that is locked or disbursed yet. -/
theorem requested {newId : Uuid} {actor : AuthenticatedUser} {input : CreatePayoutRequestInput}
    {a : PayoutRequest} (hs : Balanced s) (h : Requested newId actor input l s a) :
    Balanced (l.view s) := by
  obtain ⟨log, -, -, hview⟩ := h.view
  have hfresh : s.payouts.find a.id = none := by rw [h.id]; exact h.fresh
  -- a new payout is pending: it is in neither sum
  have hlocked : ∀ vaultId, lockedSum (l.view s) vaultId = lockedSum s vaultId := by
    intro vaultId
    rw [hview]
    refine (Table.sumBy_insert hfresh _ _ vaultId).trans ?_
    rw [h.status]
    split <;> exact Int.add_zero _
  have hdisbursed : ∀ vaultId, disbursedSum (l.view s) vaultId = disbursedSum s vaultId := by
    intro vaultId
    rw [hview]
    refine (Table.sumBy_insert hfresh _ _ vaultId).trans ?_
    rw [h.status]
    split <;> exact Int.add_zero _
  -- the vaults are as they were, and so all three totals
  rw [hview] at hlocked hdisbursed ⊢
  constructor
  · exact hs.contributed
  · intro v hv
    exact (hs.locked v hv).trans (hlocked v.id).symm
  · intro v hv
    exact (hs.disbursed v hv).trans (hdisbursed v.id).symm

/-- **Every commit of a request served alone keeps the sums.** -/
theorem commit {q : Request} {b : Response} (hs : Balanced s) (hseen : ∀ t ∈ l.seen, t = s)
    (h : q.Effect l s b) : Balanced (l.view s) := by
  rcases h.savings with ⟨-, hx⟩ | ⟨-, hx⟩ | ⟨-, hx⟩ | ⟨-, hx⟩ | hx
  · exact hs.recorded hx
  · exact hs.settled hx (hx.serial hseen)
  · exact hs.requested hx
  · exact hs.reviewed hx (hx.serial hseen).2.2
  · constructor
    · rw [hx.vaults]; simp only [confirmedSum, hx.contributions]; exact hs.contributed
    · rw [hx.vaults]; simp only [lockedSum, hx.payouts]; exact hs.locked
    · rw [hx.vaults]; simp only [disbursedSum, hx.payouts]; exact hs.disbursed

end Balanced

/-- Served alone, every request keeps the ledger of every contribution in exact agreement. -/
theorem LedgerAgrees.commit {q : Request} {l : Sess} {s : Db} {b : Response}
    (hs : LedgerAgrees (· = ·) s) (hseen : ∀ t ∈ l.seen, t = s) (h : q.Effect l s b) :
    LedgerAgrees (· = ·) (l.view s) := by
  rcases h.savings with ⟨-, hx⟩ | ⟨-, hx⟩ | ⟨-, hx⟩ | ⟨-, hx⟩ | hx
  · exact hs.recorded rfl hx
  · exact hs.settled (fun _ _ k he => congrArg (· + k) he) hx (hx.serial hseen)
  · obtain ⟨log, -, -, hview⟩ := hx.view
    rw [hview]; exact ⟨hs.count, hs.known⟩
  · rw [hx.view]; exact ⟨hs.count, hs.known⟩
  · constructor
    · rw [hx.contributions, hx.ledger]; exact hs.count
    · rw [hx.contributions, hx.ledger]; exact hs.known

/-! ## Over every run

  The balances and the ledger are kept together, since the guard of a reversal looks at the first
  and the entries at the second. -/

/-- The state after a run of requests: totals and ledger in agreement with the rows. -/
structure Books (s : Db) : Prop where
  balanced : Balanced s
  agrees : LedgerAgrees (· = ·) s

/-- At the start the books are in order. -/
theorem Books.start {s : Db} (h : Opening s) : Books s := by
  refine ⟨.start h, ?_, ?_⟩
  · intro c hc
    rw [h.contributions] at hc; cases hc
  · intro e he
    rw [h.ledger] at he; cases he

/-- One request keeps the books. -/
theorem Books.serve {s : Db} (hs : Books s) (q : Request) : Books (q.serve s).2 := by
  refine Request.serve_keeps hs ?_
  intro l b hseen h
  constructor
  · exact hs.balanced.commit hseen h
  · exact hs.agrees.commit hseen h

/-- Every serial run keeps the books. -/
theorem Books.serveAll {s : Db} (hs : Books s) (qs : List Request) : Books (serveAll s qs) :=
  serveAll_keeps hs (fun _ q h => h.serve q) qs

/-! ### Contributions

  What the books say of contributions: totals, ledger entries, and the guard that is never needed,
  because a confirmed contribution is one of the summands. -/

/-- No refusal of a transition reads like the guard of a reversal. -/
theorem refusal_ne_guard {a : ContributionStatus} {tr : ContributionTransition}
    {v : ContributionRuleViolation} (h : Contributions.validateTransition a tr = .error v) :
    IntoServiceError.into v ≠ .conflict "vault balance would become negative" := by
  rw [Contributions.validateTransition_error h]
  cases a <;> cases tr <;> decide

/-- Taking back a confirmed contribution never asks for more than there is. -/
theorem Books.reversal_guard {s : Db} (hs : Books s) (tr : ContributionTransition)
    (actor : AuthenticatedUser) (input : SettlementInput) :
    ((Request.settle tr actor input).serve s).1 ≠
      .error (.conflict "vault balance would become negative") := by
  intro herr
  obtain ⟨l, hseen, hstop⟩ := Request.settle_stopped herr
  generalize he : ServiceError.conflict "vault balance would become negative" = e at hstop
  generalize hres : (Except.error e : Except ServiceError Contribution) = res at hstop
  cases hstop with
  | illegal _ _ _ hrefused =>
    cases hres
    exact refusal_ne_guard hrefused he.symm
  | negative hbegun htr hrow hchanges hvault hheld hshort =>
    subst htr
    -- the row was confirmed when it was read, which is now
    rename_i t current row vault
    obtain rfl : t = s := hseen t (by rw [hbegun.seen]; exact List.mem_cons_self)
    obtain rfl : current = row := Option.some.inj (hbegun.found.symm.trans hrow)
    have hconfirmed : current.status = .confirmed := Contributions.confirmed_of_edge hbegun.edge
    have hle := hs.balanced.le_contributed (Table.find_some hrow).1 hconfirmed hvault
    exact absurd (Int64.lt_iff_toInt_lt.mp hshort) (Int.not_lt.mpr hle)
  | _ => subst he; cases hres

/-- **Contributions, vault totals and ledger agree in every state that requests, served one after
    another, lead to**; so the guard against a negative balance is never needed.

    The three parts, in the order of the statement:
    1. the contributed total of a vault is the sum of its confirmed contributions;
    2. the entries of a contribution in the ledger are those of its status, one by one;
    3. no settlement is ever answered with the error of the guard. -/
theorem contributions_balance {s : Db} (h : Opening s) (qs : List Request) :
    (∀ v ∈ (serveAll s qs).vaults.rows,
      v.totalContributedMinor.toInt = confirmedSum (serveAll s qs) v.id) ∧
    (∀ c ∈ (serveAll s qs).contributions.rows,
      (c.status = .confirmed →
        entryCount c.id .contributionConfirmed (serveAll s qs).ledger = 1 ∧
        entryCount c.id .contributionReversed (serveAll s qs).ledger = 0) ∧
      (c.status = .reversed →
        entryCount c.id .contributionConfirmed (serveAll s qs).ledger = 1 ∧
        entryCount c.id .contributionReversed (serveAll s qs).ledger = 1) ∧
      (c.status = .pending ∨ c.status = .failed →
        entryCount c.id .contributionConfirmed (serveAll s qs).ledger = 0 ∧
        entryCount c.id .contributionReversed (serveAll s qs).ledger = 0)) ∧
    (∀ tr actor input, ((Request.settle tr actor input).serve (serveAll s qs)).1 ≠
      .error (.conflict "vault balance would become negative")) := by
  -- the books hold at the end of the run, and each part is one of their laws
  have hbooks := (Books.start h).serveAll qs
  refine ⟨hbooks.balanced.contributed, ?_, hbooks.reversal_guard⟩
  intro c hc
  -- the count of entries is a function of the status
  have hcount := hbooks.agrees.count c hc
  refine ⟨?_, ?_, ?_⟩
  · intro hstatus
    rw [hcount, hcount, hstatus]; exact ⟨rfl, rfl⟩
  · intro hstatus
    rw [hcount, hcount, hstatus]; exact ⟨rfl, rfl⟩
  · intro hstatus
    rw [hcount, hcount]
    rcases hstatus with hstatus | hstatus
    · rw [hstatus]; exact ⟨rfl, rfl⟩
    · rw [hstatus]; exact ⟨rfl, rfl⟩

/-- The family starts without money. -/
theorem Scenario.opening : Opening Scenario.family := by
  refine ⟨?_, rfl, rfl, rfl⟩
  intro v hv
  obtain rfl := List.mem_singleton.mp hv
  rfl

open Scenario in
/-- A confirmed, a repeated, a failed and a reversed contribution. -/
theorem contributions_balance_family :
    let qs := [record 1 100, record 2 50, record 3 30, settle .confirm 1, settle .confirm 1,
      settle .fail 2, settle .confirm 3, settle .reverse 3]
    (serveAll family qs).ledger.length = 3 ∧
    ∀ v ∈ (serveAll family qs).vaults.rows,
      v.totalContributedMinor.toInt = confirmedSum (serveAll family qs) v.id :=
  ⟨by decide, (contributions_balance Scenario.opening _).1⟩

/-! ### Payouts

  The same for payouts: a payout that is processed is one of the summands of the locked total, so
  completing or failing it never asks for more than is locked. -/

/-- No violation of a payout rule reads like the guard of a completion. -/
theorem violation_ne_guard (v : PayoutRuleViolation) :
    IntoServiceError.into v ≠ .conflict "vault locked balance underflow" := by
  cases v with
  | invalidStatusTransition a b => cases a <;> cases b <;> decide
  | _ => decide

/-- Completing a payout never asks for more than is locked. -/
theorem Books.underflow_guard {s : Db} (hs : Books s) (tr : PayoutTransition)
    (actor : AuthenticatedUser) (input : ReviewPayoutInput) :
    ((Request.review tr actor input).serve s).1 ≠
      .error (.conflict "vault locked balance underflow") := by
  intro herr
  obtain ⟨l, hseen, hstop⟩ := Request.review_stopped herr
  generalize he : ServiceError.conflict "vault locked balance underflow" = e at hstop
  generalize hres : (Except.error e : Except ServiceError PayoutRequest) = res at hstop
  cases hstop with
  | refused _ hrefusal =>
    cases hres
    subst he
    rcases hrefusal with hforbidden | hmissing | ⟨v, hv⟩
    · cases hforbidden
    · cases hmissing
    · exact violation_ne_guard v hv.symm
  | underflow hbegun htr hrow hchanges hvault hheld hshort =>
    subst htr
    -- the row was being processed when it was read, which is now
    rename_i x row vault
    obtain ⟨hread, -⟩ := hbegun.serial hseen hrow hvault
    have hprocessing : row.status = .processing :=
      Payouts.processing_of_edge (hread ▸ hbegun.edge) (.inl rfl)
    have hle := hs.balanced.le_locked (Table.find_some hrow).1 hprocessing hvault
    exact absurd (Int64.lt_iff_toInt_lt.mp hshort) (Int.not_lt.mpr hle)
  | _ => subst he; cases hres

/-- A payout that fails gives its whole amount back. -/
theorem Books.failure_releases {s : Db} (hs : Books s) {q : Request} {id : Uuid}
    {p p' : PayoutRequest} {v : SavingsVault} (hp : s.payouts.find id = some p)
    (hprocessing : p.status = .processing) (hp' : (q.serve s).2.payouts.find id = some p')
    (hfailed : p'.status = .failed) (hv : s.vaults.find p.vaultId = some v) :
    ∃ v', (q.serve s).2.vaults.find p.vaultId = some v' ∧
      v'.account = { v.account with locked := v.account.locked - p.amount.units } := by
  -- the status has changed, so the request has committed a review of this payout
  have hchanged : p' ≠ p := by rintro rfl; rw [hprocessing] at hfailed; cases hfailed
  rcases (Request.outcomes q).serve s with ⟨l, -, -, hdb⟩ | ⟨l, b, hseen, heffect, -, hdb⟩
  · rw [Request.serve, hdb, hp] at hp'
    exact absurd (Option.some.inj hp').symm hchanged
  · rw [Request.serve, hdb] at hp' ⊢
    obtain ⟨p'', hp'', hcases⟩ := payout_row heffect hp
    obtain rfl := Option.some.inj (hp''.symm.trans hp')
    rcases hcases with rfl | ⟨tr, actor, input, x, vault, vault', rfl, hx, rfl⟩
    · exact absurd rfl hchanged
    obtain rfl : vault = v := Option.some.inj (hx.vaultLocked.symm.trans hv)
    -- of the transitions, one leads to failed
    have htr : tr = .fail := by
      have htarget : tr.targetStatus = .failed := hfailed
      cases tr <;> first | rfl | cases htarget
    subst htr
    have hle := hs.balanced.le_locked (Table.find_some hp).1 hprocessing hv
    exact ⟨vault', hx.vaultAfter, (hx.move.account p.amount.nonneg).trans (if_pos hle)⟩

/-- **Payouts and vault totals agree in every state that requests, served one after another, lead
    to**; so the guard against an underflow of the lock is never needed, and a payout that fails
    gives back exactly its amount.

    The three parts, in the order of the statement:
    1. locked and disbursed are the sums of the payouts in the statuses that lock and that disburse;
    2. no review is ever answered with the error of the guard;
    3. whatever request takes a payout from processing to failed, the lock of its vault drops by its
       amount and the other two totals stay. -/
theorem payouts_balance {s : Db} (h : Opening s) (qs : List Request) :
    (∀ v ∈ (serveAll s qs).vaults.rows,
      v.totalLockedMinor.toInt = lockedSum (serveAll s qs) v.id ∧
      v.totalDisbursedMinor.toInt = disbursedSum (serveAll s qs) v.id) ∧
    (∀ tr actor input, ((Request.review tr actor input).serve (serveAll s qs)).1 ≠
      .error (.conflict "vault locked balance underflow")) ∧
    (∀ (q : Request) id p p' v, (serveAll s qs).payouts.find id = some p →
      p.status = .processing → (q.serve (serveAll s qs)).2.payouts.find id = some p' →
      p'.status = .failed → (serveAll s qs).vaults.find p.vaultId = some v →
      ∃ v', (q.serve (serveAll s qs)).2.vaults.find p.vaultId = some v' ∧
        v'.account = { v.account with locked := v.account.locked - p.amount.units }) := by
  have hbooks := (Books.start h).serveAll qs
  refine ⟨?_, hbooks.underflow_guard, ?_⟩
  · intro v hv
    exact ⟨hbooks.balanced.locked v hv, hbooks.balanced.disbursed v hv⟩
  · intro q id p p' v hp hprocessing hp' hfailed hv
    exact hbooks.failure_releases hp hprocessing hp' hfailed hv

open Scenario in
/-- One payout is paid, one fails, one is still approved. -/
theorem payouts_balance_family :
    let qs := [record 1 100, settle .confirm 1, payout 2 60, review .moveToReview 2,
      review .approve 2, review .markProcessing 2, review .complete 2, payout 3 20,
      review .moveToReview 3, review .approve 3, review .markProcessing 3, review .fail 3,
      payout 4 10, review .moveToReview 4, review .approve 4]
    (serveAll family qs).payouts.rows.length = 3 ∧
    ∀ v ∈ (serveAll family qs).vaults.rows,
      v.totalLockedMinor.toInt = lockedSum (serveAll family qs) v.id ∧
      v.totalDisbursedMinor.toInt = disbursedSum (serveAll family qs) v.id :=
  ⟨by decide, (payouts_balance Scenario.opening _).1⟩

end EduStell
