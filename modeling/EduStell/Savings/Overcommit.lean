/-
  Concurrent approvals and the funds of one vault.

  An approval checks the funds on a vault row that its service has READ, and adds the lock to the
  row that its transaction has LOCKED.  The check holds of the locked row as long as nothing has made
  the funds of the vault less in between; two approvals that both read before either writes promise
  the same money twice.

  The contract does not ask for the same row, only for as much money: contributions that come in
  between the check and the lock do no harm.
-/
import EduStell.Savings.StatusEdges

namespace EduStell

open Txn

/-! ## The condition

  `ApprovesWhatItRead` compares the row that the approval has read with the one that it locks, and
  asks for no more than that the second covers as much. -/

/-- While an approval holds the lock of its vault, no less is available there than when its service
    has read the vault. -/
def ApprovesWhatItRead : Request → Sess → Db → Prop
  | .review .approve _ input, l, s => ∀ row ∈ s.payouts.find input.payoutId,
    .vault row.vaultId ∈ l.locks →
    -- the last of the service's reads is the vault
    ∀ t ∈ l.seen.head?, ∀ read ∈ t.vaults.find row.vaultId, ∀ v ∈ s.vaults.find row.vaultId,
      read.account.available ≤ v.account.available
  | _, _, _ => True

/-- Whether an approval meets the condition can be decided. -/
instance (q : Request) (l : Sess) (s : Db) : Decidable (ApprovesWhatItRead q l s) :=
  match q with
  | .review .approve .. => inferInstanceAs (Decidable (∀ _ ∈ _, _))
  | .review .moveToReview .. | .review .reject .. | .review .markProcessing ..
  | .review .complete .. | .review .fail .. => .isTrue trivial
  | .record .. | .settle .. | .createPayout .. | .verifySchool .. | .createPool ..
  | .fundPool .. | .createApplication .. | .approve .. | .reject .. | .disburse ..
  | .revoke .. => .isTrue trivial

/-- The promises of every vault fit in one word. -/
def AllFit (s : Db) : Prop := ∀ v ∈ s.vaults.rows, v.account.Fits

/-- Whether all promises fit can be decided. -/
instance (s : Db) : Decidable (AllFit s) := inferInstanceAs (Decidable (∀ _ ∈ _, _))

/-- A later state still has every payout, for the same amount from the same vault. -/
def PayoutsKept (s s' : Db) : Prop :=
  ∀ id p, s.payouts.find id = some p →
    ∃ p', s'.payouts.find id = some p' ∧ p'.vaultId = p.vaultId ∧ p'.amount = p.amount

/-- A commit keeps vault and amount of every payout. -/
theorem payoutsKept_commit {q : Request} {l : Sess} {s : Db} {b : Response} (h : q.Effect l s b) :
    PayoutsKept s (l.view s) := by
  intro id p hp
  obtain ⟨p', hp', hcases⟩ := payout_row h hp
  refine ⟨p', hp', ?_⟩
  rcases hcases with rfl | ⟨tr, actor, input, x, vault, vault', -, -, rfl⟩ <;> exact ⟨rfl, rfl⟩

/-- An approval that has read what it locks commits from a vault that covers it. -/
theorem ReviewedAs.covered {actor : AuthenticatedUser} {input : ReviewPayoutInput} {l : Sess}
    {s : Db} {x : ReviewReads} {row : PayoutRequest} {vault vault' : SavingsVault}
    (h : ReviewedAs .approve actor input l s x row vault vault')
    (hseen : ∀ t ∈ l.seen, AllFit t ∧ PayoutsKept t s)
    (hcond : ApprovesWhatItRead (.review .approve actor input) l s) :
    row.amount.units ≤ vault.account.available := by
  -- the payout that was read is the one that is locked, as far as vault and amount go
  have h₁ : x.t₁ ∈ l.seen := by rw [h.begun.seen]; simp
  have h₄ : x.t₄ ∈ l.seen := by rw [h.begun.seen]; simp
  obtain ⟨p', hp', hvaultId, hamount⟩ := (hseen x.t₁ h₁).2 input.payoutId x.payout h.begun.found
  obtain rfl : row = p' := Option.some.inj (h.locked.symm.trans hp')
  have hread : x.t₄.vaults.find row.vaultId = some x.vault := by
    rw [hvaultId]; exact h.begun.vaultFound
  have hlocked : Resource.vault row.vaultId ∈ l.locks := by rw [h.locks]; exact List.mem_cons_self
  have hhead : x.t₄ ∈ l.seen.head? := by rw [h.begun.seen]; rfl
  have hfits : x.vault.account.Fits := (hseen x.t₄ h₄).1 x.vault (Table.find_some hread).1
  have hchecked : row.amount.units ≤ x.vault.account.available := by
    rw [hamount]
    exact (x.vault.ensureAvailableFunds_iff hfits _).mp (h.begun.funds rfl)
  exact hchecked.trans (hcond row h.locked hlocked x.t₄ hhead x.vault hread vault h.vaultLocked)

/-- Approvals that find as much available as they have read. -/
def approvalContract : Contract Request.program Request.Effect Request.Stops where
  outcomes := Request.outcomes
  inv := AllFit
  rely := PayoutsKept
  arrivals _ := True
  cond := ApprovesWhatItRead
  refl s := fun id p hp => ⟨p, hp, rfl, rfl⟩
  trans {s t u} hst htu := fun id p hp => by
    obtain ⟨p', hp', hvault, hamount⟩ := hst id p hp
    obtain ⟨p'', hp'', hvault', hamount'⟩ := htu id p' hp'
    exact ⟨p'', hp'', hvault'.trans hvault, hamount'.trans hamount⟩
  keep {q l s b} _ hs hseen h hcond := by
    refine ⟨?_, payoutsKept_commit h⟩
    -- the promises of the one vault that a commit rewrites still fit
    rcases h.savings with ⟨-, hx⟩ | ⟨-, hx⟩ | ⟨-, hx⟩ | ⟨rfl, hx⟩ | hx
    · obtain ⟨log, -, -, hview⟩ := hx.view
      rw [hview]; exact hs
    · rename_i tr actor input t current row vault vault' entries
      obtain ⟨hlocked, hdisbursed⟩ := vault.account.settle_promises row.amount.units tr
      rw [hx.view]
      intro v hv
      rcases Table.mem_replace hv with rfl | ⟨hv, -⟩
      · have hfits := hs vault (Table.find_some hx.vaultLocked).1
        rw [hx.move.account, Account.Fits]
        exact (congrArg₂ (· + ·) hlocked hdisbursed).trans_lt hfits
      · exact hs v hv
    · obtain ⟨log, -, -, hview⟩ := hx.view
      rw [hview]; exact hs
    · rename_i tr actor input x row vault vault'
      rw [hx.view]
      intro v hv
      rcases Table.mem_replace hv with rfl | ⟨hv, -⟩
      · have hfits := hs vault (Table.find_some hx.vaultLocked).1
        rw [hx.move.account row.amount.nonneg]
        refine hfits.review row.amount.units_nonneg ?_ (Int64.toInt_lt vault.totalContributedMinor)
        rintro rfl
        exact hx.covered hseen hcond
      · exact hs v hv
    · intro v hv
      rw [hx.vaults] at hv
      exact hs v hv

/-! ## Every run

  By the contract: each approval that commits finds its amount available in the row that it locks.
  -/

/-- Along the run, every approval that commits finds its amount available in the vault row that it
    has locked, and leaves a vault that covers what it promises. -/
def ApprovalsCovered (s : Db) (es : List Happening) : Prop :=
  ∀ pre e post, es = pre ++ e :: post → ∀ id p p',
    (Sys.after s pre).db.payouts.find id = some p →
    (Sys.after s (pre ++ [e])).db.payouts.find id = some p' →
    p.status ≠ .approved → p'.status = .approved →
    ∃ v v', (Sys.after s pre).db.vaults.find p.vaultId = some v ∧
      (Sys.after s (pre ++ [e])).db.vaults.find p.vaultId = some v' ∧
      p.amount.units ≤ v.account.contributed - v.account.locked - v.account.disbursed ∧
      v'.account.Solvent

/-- **Approvals never over-commit a vault**, in every run in which each approves what it read.

    Available is contributed less locked less disbursed, of the row that the approval has locked.
    The service has asked for the amount before, but of the row as it was then; the condition says
    that no less is available now. -/
theorem approvals_covered {s : Db} (hs : AllFit s) {es : List Happening}
    (h : System.Meets Request.program (System.allows (fun _ => True) ApprovesWhatItRead)
      (System.start s) es) : ApprovalsCovered s es := by
  rintro pre e post rfl id p p' hp hp' hbefore hafter
  rcases approvalContract.db_step hs h with hsame | ⟨q, l, b, hcom⟩
  · have hsame' : (Sys.after s (pre ++ [e])).db = (Sys.after s pre).db := hsame
    rw [hsame', hp] at hp'
    rw [← Option.some.inj hp'] at hafter
    exact absurd hafter hbefore
  · have hdb : (Sys.after s (pre ++ [e])).db = l.view (Sys.after s pre).db := hcom.db
    rw [hdb] at hp' ⊢
    obtain ⟨p'', hp'', hcases⟩ := payout_row hcom.effect hp
    obtain rfl : p'' = p' := Option.some.inj (hp''.symm.trans hp')
    rcases hcases with rfl | ⟨tr, actor, input, x, vault, vault', rfl, hx, rfl⟩
    · exact absurd hafter hbefore
    have htr : tr = .approve := by
      have htarget : tr.targetStatus = .approved := hafter
      cases tr <;> first | rfl | cases htarget
    subst htr
    have hcovered := hx.covered hcom.seen hcom.cond
    refine ⟨vault, vault', hx.vaultLocked, hx.vaultAfter, hcovered, ?_⟩
    rw [hx.move.account p.amount.nonneg]
    have hcovered' : p.amount.amountMinor.toInt ≤ vault.account.available := hcovered
    simp only [Account.Solvent, Account.review, Account.available] at *
    omega

section

open Scenario

/-- A vault of 100, and two payouts of 60 under review. -/
def Scenario.twoUnderReview : Db :=
  serveAll family [record 1 100, settle .confirm 1, payout 2 60, review .moveToReview 2, payout 3 60,
    review .moveToReview 3]

/-- Both approvals read the vault, then each runs its transaction. -/
def Scenario.approvalRace : List Happening :=
  [.call 0 (review .approve 2)] ++ List.replicate 4 (.step 0) ++ [.call 1 (review .approve 3)] ++
  List.replicate 4 (.step 1) ++ List.replicate 9 (.step 0) ++ List.replicate 9 (.step 1)

/-- The second approval finds 40 available and locks 60 more.

    Two payouts of 60 are under review in a vault of 100, and both approvals read the vault before
    either commits.  Each passes the funds check, which is made on what was read. -/
theorem approvals_race : ¬ ApprovalsCovered twoUnderReview approvalRace := by
  intro h
  obtain ⟨p, p', v, hp, hp', hbefore, hafter, hamount, hv, havailable⟩ : ∃ p p' v,
      (Sys.after twoUnderReview (approvalRace.take 25)).db.payouts.find 3 = some p ∧
      (Sys.after twoUnderReview (approvalRace.take 25 ++ [.step 1])).db.payouts.find 3 = some p' ∧
      p.status ≠ .approved ∧ p'.status = .approved ∧ p.amount.units = 60 ∧
      (Sys.after twoUnderReview (approvalRace.take 25)).db.vaults.find p.vaultId = some v ∧
      v.account.contributed - v.account.locked - v.account.disbursed = 40 :=
    ⟨_, _, _, rfl, rfl, by decide, rfl, rfl, rfl, rfl⟩
  obtain ⟨w, -, hw, -, hle, -⟩ := h (approvalRace.take 25) (.step 1) (approvalRace.drop 26) rfl
    3 p p' hp hp' hbefore hafter
  obtain rfl : v = w := Option.some.inj (hv.symm.trans hw)
  omega

/-- One after the other, the second is refused. -/
theorem approvals_covered_in_turn :
    let es := alone 0 (review .approve 2) 13 ++ alone 1 (review .approve 3) 13
    (Sys.after twoUnderReview es).db.audit.length = twoUnderReview.audit.length + 1 ∧
    ApprovalsCovered twoUnderReview es :=
  ⟨by decide, approvals_covered (by decide) (by decide)⟩

end

end EduStell
