/-
  Where 64-bit arithmetic on the totals of a vault is exact, for requests served one after another.

  What is locked and what is paid out fit in one word TOGETHER: an approval is checked against the
  contributed total, which fits, and no other request adds to their sum.  A reversal may well lower
  the contributed total below the sum, but the sum is what the subtractions of the funds check need.
  So nothing overflows but the sum of a confirmation, and there the CHECK of the table takes over.

  It rests on two invariants of serial runs: the books (`EduStell.Savings.Balances`) and `AllFit`.
-/
import EduStell.Savings.Balances
import EduStell.Savings.Ledger
import EduStell.Savings.Overcommit

namespace EduStell

open Txn Payouts Persistence

/-! ## The sum of the promises

  Served alone, an approval locks the row that it has read; so the sum of the promises never
  outgrows the word that the contributed total fits in. -/

/-- An approval that has read the present state approves what it locks. -/
theorem approvesWhatItRead_of_seen {q : Request} {l : Sess} {s : Db} (hseen : ∀ t ∈ l.seen, t = s) :
    ApprovesWhatItRead q l s := by
  cases q with
  | review tr actor input =>
    cases tr with
    | approve =>
      intro row _ _ t ht read hread v hv
      obtain rfl := hseen t (List.mem_of_head? ht)
      obtain rfl := Option.some.inj (hread.symm.trans hv)
      exact Int.le_refl _
    | _ => trivial
  | _ => trivial

/-- A vault without money has promised nothing. -/
theorem AllFit.start {s : Db} (h : Opening s) : AllFit s := by
  intro v hv
  rw [h.account v hv]
  decide

/-- In every serial run the promises fit. -/
theorem AllFit.serveAll {s : Db} (hs : AllFit s) (qs : List Request) : AllFit (serveAll s qs) :=
  serveAll_keeps hs
    (fun _ _ h => approvalContract.serve trivial (fun _ => approvesWhatItRead_of_seen) h) qs

/-! ## Exact arithmetic

  The subtractions are the check's own; the sums are what an approval and a completion write. -/

/-- The funds check of a vault is a check of integers. -/
structure FundsExact (v : SavingsVault) : Prop where
  /-- What is promised and paid fits in one word. -/
  fits : v.totalLockedMinor.toInt + v.totalDisbursedMinor.toInt < 2 ^ 63
  /-- The first subtraction is exact, -/
  first : (v.totalContributedMinor - v.totalLockedMinor).toInt =
    v.totalContributedMinor.toInt - v.totalLockedMinor.toInt
  /-- and so is the second one. -/
  second : (v.totalContributedMinor - v.totalLockedMinor - v.totalDisbursedMinor).toInt =
    v.totalContributedMinor.toInt - v.totalLockedMinor.toInt - v.totalDisbursedMinor.toInt
  /-- The check decides the inequality of the integers. -/
  decides : ∀ amount : Int64, ensureAvailableFunds v.totalContributedMinor v.totalLockedMinor
    v.totalDisbursedMinor amount = .ok () ↔
    v.totalContributedMinor.toInt ≥
      v.totalLockedMinor.toInt + v.totalDisbursedMinor.toInt + amount.toInt

/-- Where the promises fit, no subtraction of the funds check wraps. -/
theorem SavingsVault.fundsExact {v : SavingsVault} (h : v.account.Fits) : FundsExact v where
  fits := h
  first := toInt_sub_of_nonneg v.contributed_nonneg v.locked_nonneg
  second := toInt_sub_sub_of_lt v.contributed_nonneg v.locked_nonneg v.disbursed_nonneg h
  decides amount := by
    rw [v.ensureAvailableFunds_iff h]
    show amount.toInt ≤ v.totalContributedMinor.toInt - _ - _ ↔ _
    dsimp only [SavingsVault.account]
    omega

section

variable {v : SavingsVault} {p : PayoutRequest}

/-- What the check lets through can be locked. -/
theorem FundsExact.lock_fits (h : FundsExact v) (henough : ensureAvailableFunds
    v.totalContributedMinor v.totalLockedMinor v.totalDisbursedMinor p.amount.amountMinor = .ok ()) :
    v.totalLockedMinor.toInt + p.amount.amountMinor.toInt < 2 ^ 63 := by
  have hle := (h.decides _).mp henough
  have hlt := Int64.toInt_lt v.totalContributedMinor
  have hdisbursed := toInt_nonneg.mp v.disbursed_nonneg
  omega

/-- What is locked can be paid out. -/
theorem FundsExact.payment_fits {s : Db} (h : FundsExact v) (hs : Balanced s)
    (hp : p ∈ s.payouts.rows) (hprocessing : p.status = .processing)
    (hv : s.vaults.find p.vaultId = some v) :
    v.totalDisbursedMinor.toInt + p.amount.amountMinor.toInt < 2 ^ 63 := by
  have hle : p.amount.amountMinor.toInt ≤ v.totalLockedMinor.toInt := hs.le_locked hp hprocessing hv
  have hfits := h.fits
  omega

end

/-! ## The guards that are never needed

  An aborting CHECK of the vaults table shows in the answer of its request.  So that it never
  aborts is said of the answers: no rule has this text, no review ends with it, and of the
  settlements only a confirmation. -/

/-- The answer to a request whose transaction a CHECK of the vaults table has aborted. -/
def vaultCheckError (constraint : String) : ServiceError :=
  .ofPersistence (.checkViolation "savings_vaults" constraint)

section

variable {s : Db} {constraint : String}

/-- No rule reads like a CHECK. -/
theorem refusal_ne_check {e : ServiceError} (h : ReviewRefusal e) : e ≠ vaultCheckError constraint := by
  rcases h with rfl | rfl | ⟨v, rfl⟩
  · intro he; cases he
  · intro he; cases he
  · intro he
    cases v <;> cases he

/-- A review never overflows. -/
theorem Books.review_ne_check (hs : Books s) (hfit : AllFit s) (tr : PayoutTransition)
    (actor : AuthenticatedUser) (input : ReviewPayoutInput) :
    ((Request.review tr actor input).serve s).1 ≠ .error (vaultCheckError constraint) := by
  intro herr
  obtain ⟨l, hseen, hstop⟩ := Request.review_stopped herr
  generalize he : vaultCheckError constraint = e at hstop
  generalize hres : (Except.error e : Except ServiceError PayoutRequest) = res at hstop
  cases hstop with
  | refused _ hrefusal =>
    cases hres
    exact refusal_ne_check hrefusal he.symm
  | @lockedOverflow x row vault hbegun htr hrow hchanges hvault hheld hwraps =>
    subst htr
    obtain ⟨hread, hsame⟩ := hbegun.serial hseen hrow hvault
    have hexact := vault.fundsExact (hfit vault (Table.find_some hvault).1)
    have hfunds := hbegun.funds rfl
    rw [hread, hsame] at hfunds
    exact hwraps (nonneg_add_of_lt vault.locked_nonneg row.amount.nonneg (hexact.lock_fits hfunds))
  | @disbursedOverflow x row vault hbegun htr hrow hchanges hvault hheld hwraps =>
    subst htr
    obtain ⟨hread, hsame⟩ := hbegun.serial hseen hrow hvault
    have hexact := vault.fundsExact (hfit vault (Table.find_some hvault).1)
    have hprocessing : row.status = .processing :=
      Payouts.processing_of_edge (hread ▸ hbegun.edge) (.inl rfl)
    have hfits := hexact.payment_fits hs.balanced (Table.find_some hrow).1 hprocessing hvault
    exact hwraps (nonneg_add_of_lt vault.disbursed_nonneg row.amount.nonneg hfits)
  | _ => subst he; cases hres

/-- A settlement overflows in one case: a confirmation whose sum does not fit. -/
theorem settle_check {tr : ContributionTransition} {actor : AuthenticatedUser}
    {input : SettlementInput}
    (h : ((Request.settle tr actor input).serve s).1 = .error (vaultCheckError constraint)) :
    tr = .confirm ∧ ∃ c v, s.contributions.find input.contributionId = some c ∧
      s.vaults.find c.vaultId = some v ∧
      2 ^ 63 ≤ v.totalContributedMinor.toInt + c.amount.amountMinor.toInt := by
  obtain ⟨l, hseen, hstop⟩ := Request.settle_stopped h
  generalize he : vaultCheckError constraint = e at hstop
  generalize hres : (Except.error e : Except ServiceError Contribution) = res at hstop
  cases hstop with
  | @illegal _ _ v =>
    cases hres
    cases v <;> cases he
  | @overflow t current row vault hbegun htr hrow hchanges hvault hheld hwraps =>
    refine ⟨htr, row, vault, hrow, hvault, ?_⟩
    by_contra hfits
    exact hwraps (nonneg_add_of_lt vault.contributed_nonneg row.amount.nonneg (Int.not_le.mp hfits))
  | _ => subst he; cases hres

end

/-- **Along serial runs, nothing overflows but the sum of a confirmation.**  In every state reached

    1. what each vault has locked and paid out fits together in one word, so that the subtractions
       of the funds check are exact and it decides the inequality of integers;
    2. what an approval adds to the lock, and a completion to what is paid out, fits;
    3. so no CHECK of the vaults table ever aborts a review, and it aborts a settlement only if that
       is a confirmation whose sum does not fit;
    4. which it does abort, and that changes nothing. -/
theorem only_confirm_overflows {s : Db} (h : Opening s) (qs : List Request) :
    (∀ v ∈ (serveAll s qs).vaults.rows, FundsExact v) ∧
    (∀ p ∈ (serveAll s qs).payouts.rows, ∀ v, (serveAll s qs).vaults.find p.vaultId = some v →
      (ensureAvailableFunds v.totalContributedMinor v.totalLockedMinor v.totalDisbursedMinor
          p.amount.amountMinor = .ok () →
        v.totalLockedMinor.toInt + p.amount.amountMinor.toInt < 2 ^ 63) ∧
      (p.status = .processing →
        v.totalDisbursedMinor.toInt + p.amount.amountMinor.toInt < 2 ^ 63)) ∧
    (∀ constraint, (∀ tr actor input,
        ((Request.review tr actor input).serve (serveAll s qs)).1 ≠
          .error (vaultCheckError constraint)) ∧
      ∀ tr actor input, ((Request.settle tr actor input).serve (serveAll s qs)).1 =
          .error (vaultCheckError constraint) → tr = .confirm ∧
        ∃ c v, (serveAll s qs).contributions.find input.contributionId = some c ∧
          (serveAll s qs).vaults.find c.vaultId = some v ∧
          2 ^ 63 ≤ v.totalContributedMinor.toInt + c.amount.amountMinor.toInt) ∧
    (∀ actor input c v, actor.role = .platformAdmin →
      (serveAll s qs).contributions.find input.contributionId = some c → c.status = .pending →
      (serveAll s qs).vaults.find c.vaultId = some v →
      2 ^ 63 ≤ v.totalContributedMinor.toInt + c.amount.amountMinor.toInt →
      (Request.settle .confirm actor input).serve (serveAll s qs) =
        (.error (vaultCheckError "savings_vaults_total_contributed_minor_check"), serveAll s qs)) := by
  have hbooks := (Books.start h).serveAll qs
  have hfit := (AllFit.start h).serveAll qs
  refine ⟨fun v hv => v.fundsExact (hfit v hv), ?_, ?_, ?_⟩
  · intro p hp v hv
    have hexact := v.fundsExact (hfit v (Table.find_some hv).1)
    exact ⟨hexact.lock_fits, fun hprocessing => hexact.payment_fits hbooks.balanced hp hprocessing hv⟩
  · intro constraint
    refine ⟨hbooks.review_ne_check hfit, ?_⟩
    intro tr actor input herr
    exact settle_check herr
  · intro actor input c v hadmin hc hpending hv hlimit
    exact confirm_overflow_refused hadmin hc hpending hv hlimit

open Scenario in
/-- Of two contributions of 2^62 the second overflows, and is refused. -/
theorem only_confirm_overflows_family :
    let qs := [record 1 4611686018427387904, record 2 4611686018427387904, settle .confirm 1]
    (∀ v ∈ (serveAll family qs).vaults.rows, FundsExact v) ∧
    (settle .confirm 2).serve (serveAll family qs) =
      (.error (vaultCheckError "savings_vaults_total_contributed_minor_check"), serveAll family qs) := by
  intro qs
  obtain ⟨hexact, -, -, hlimit⟩ := only_confirm_overflows opening qs
  obtain ⟨c, v, hc, hpending, hv, hsum⟩ : ∃ c v,
      (serveAll family qs).contributions.find 2 = some c ∧ c.status = .pending ∧
      (serveAll family qs).vaults.find c.vaultId = some v ∧
      9223372036854775808 ≤ v.totalContributedMinor.toInt + c.amount.amountMinor.toInt :=
    ⟨_, _, rfl, rfl, rfl, by decide⟩
  exact ⟨hexact, hlimit admin ⟨2, none⟩ c v rfl hc hpending hv hsum⟩

end EduStell
