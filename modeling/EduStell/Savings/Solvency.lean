/-
  Is money that is locked for a school, or paid to it, backed by confirmed contributions?

  An approval is checked against what is available, a reversal only against what was contributed: a
  contribution may be taken back after its money has been promised.  For requests served one after
  another that is the only way to make a vault insolvent, so a run stays solvent if and only if each
  reversal that takes effect leaves what is promised alone.

  One direction is an invariant of the run (`commit`), the other is about a single step: a
  reversal that takes effect and leaves its vault solvent was covered (`covered_of_solvent`).
-/
import EduStell.Savings.Balances

namespace EduStell

open Txn

/-! ## The condition

  A reversal is looked at in the state in which it is served, and only if it takes effect. -/

/-- Every vault covers what it has promised and paid. -/
def AllSolvent (s : Db) : Prop := ∀ v ∈ s.vaults.rows, v.account.Solvent

/-- A reversal that takes effect in `s` takes back at most what is available. -/
def ReversalCovered : Request → Db → Prop
  | .settle .reverse actor input, s => actor.role = .platformAdmin →
    ∀ c ∈ s.contributions.find input.contributionId, c.status = .confirmed →
      ∀ v ∈ s.vaults.find c.vaultId, c.amount.units ≤ v.account.available
  | _, _ => True

/-- Whether a reversal is covered can be decided. -/
instance (q : Request) (s : Db) : Decidable (ReversalCovered q s) :=
  match q with
  | .settle .reverse .. => inferInstanceAs (Decidable (_ → _))
  | .settle .confirm .. | .settle .fail .. => .isTrue trivial
  | .record .. | .createPayout .. | .review .. | .verifySchool .. | .createPool ..
  | .fundPool .. | .createApplication .. | .approve .. | .reject .. | .disburse ..
  | .revoke .. => .isTrue trivial

namespace AllSolvent

variable {s : Db} {l : Sess}

/-- A vault without money is solvent. -/
theorem start (h : Opening s) : AllSolvent s := by
  intro v hv
  rw [h.account v hv]
  exact Int.le_refl 0

/-- A commit of a request served alone keeps every vault solvent, if a reversal is covered. -/
theorem commit {q : Request} {b : Response} (hs : AllSolvent s) (hseen : ∀ t ∈ l.seen, t = s)
    (hcovered : ReversalCovered q s) (h : q.Effect l s b) : AllSolvent (l.view s) := by
  rcases h.savings with ⟨-, hx⟩ | ⟨rfl, hx⟩ | ⟨-, hx⟩ | ⟨rfl, hx⟩ | hx
  · obtain ⟨log, -, -, hview⟩ := hx.view
    rw [hview]; exact hs
  · rename_i tr actor input t current row vault vault' entries
    obtain ⟨hvault, -⟩ := Table.find_some hx.vaultLocked
    rw [hx.view]
    intro v hv
    rcases Table.mem_replace hv with rfl | ⟨hv, -⟩
    · rw [hx.move.account]
      refine (hs vault hvault).settle row.amount.units_nonneg ?_
      rintro rfl
      have hconfirmed : row.status = .confirmed :=
        Contributions.confirmed_of_edge (hx.serial hseen)
      exact hcovered hx.begun.role row hx.locked hconfirmed vault hx.vaultLocked
    · exact hs v hv
  · obtain ⟨log, -, -, hview⟩ := hx.view
    rw [hview]; exact hs
  · rename_i tr actor input x row vault vault'
    obtain ⟨hvault, -⟩ := Table.find_some hx.vaultLocked
    obtain ⟨hrow, hread, -⟩ := hx.serial hseen
    rw [hx.view]
    intro v hv
    rcases Table.mem_replace hv with rfl | ⟨hv, -⟩
    · rw [hx.move.account row.amount.nonneg]
      refine (hs vault hvault).review row.amount.units_nonneg ?_
      rintro rfl
      -- the funds were checked on the row that is locked
      have hfunds := hx.begun.funds rfl
      rw [hrow, hread] at hfunds
      exact (vault.ensureAvailableFunds_iff (vault.solvent_fits (hs vault hvault)) _).mp hfunds
    · exact hs v hv
  · intro v hv
    rw [hx.vaults] at hv
    exact hs v hv

end AllSolvent

/-- A reversal that takes effect and leaves the vault solvent was covered. -/
theorem covered_of_solvent {s : Db} (hs : Books s) {q : Request} (h : AllSolvent (q.serve s).2) :
    ReversalCovered q s := by
  cases q with
  | settle tr actor input =>
    cases tr with
    | reverse =>
      intro hadmin c hc hconfirmed v hv
      have hedge : Contributions.Edge c.status ContributionTransition.reverse.targetStatus := by
        rw [hconfirmed]; decide
      rcases Request.serve_settle hadmin hc hedge hv with
        ⟨l, t, current, v', entries, hx, hserve⟩ | ⟨htr, -, -⟩ | ⟨-, hshort, -⟩
      · rw [hserve] at h
        have hsolvent := h v' (Table.find_some hx.vaultAfter).1
        rw [hx.move.account] at hsolvent
        simp only [Account.Solvent, Account.settle, Account.available] at hsolvent ⊢
        show c.amount.units ≤ _
        have hamount : (settledRow ContributionTransition.reverse input c).amount = c.amount := rfl
        rw [hamount] at hsolvent
        omega
      · cases htr
      · have hle := hs.balanced.le_contributed (Table.find_some hc).1 hconfirmed hv
        exact absurd (Int64.lt_iff_toInt_lt.mp hshort) (Int.not_lt.mpr hle)
    | _ => trivial
  | _ => trivial

/-- **A run from vaults without money is solvent throughout if and only if each of its reversals
    that takes effect is covered by what is available.**

    Every prefix of the run is looked at, so the two sides agree request by request: a reversal that
    takes back more than is available makes a state that is not solvent, and nothing else does. -/
theorem solvent_iff_reversals_covered {s : Db} (h : Opening s) (qs : List Request) :
    (∀ pre post, qs = pre ++ post → ∀ v ∈ (serveAll s pre).vaults.rows,
      v.account.locked + v.account.disbursed ≤ v.account.contributed) ↔
    Served ReversalCovered s qs := by
  constructor
  · intro hsolvent pre q post hqs
    refine covered_of_solvent ((Books.start h).serveAll pre) ?_
    rw [← serveAll_snoc]
    exact hsolvent (pre ++ [q]) post (by rw [hqs]; simp)
  · rintro hcovered pre post rfl
    refine serveAll_induction (AllSolvent.start h) ?_ hcovered.prefix
    intro s q hs hq
    exact Request.serve_keeps hs fun _ _ hseen heffect => hs.commit hseen hq heffect

section

open Scenario

/-- The vault is funded with 100, all of it is promised to the school, and then taken back. -/
def Scenario.promisedThenReversed : List Request :=
  [record 1 100, settle .confirm 1, payout 2 100, review .moveToReview 2, review .approve 2,
    settle .reverse 1]

/-- Nothing is left, and 100 are still locked.

    The run confirms 100, approves a payout of all of it, and then reverses the contribution.  The
    guard of the reversal compares the contributed total with the amount, 100 with 100, and lets it
    through. -/
theorem reversal_breaks_solvency :
    Opening family ∧ ¬ ∀ v ∈ (serveAll family promisedThenReversed).vaults.rows,
      v.account.locked + v.account.disbursed ≤ v.account.contributed :=
  ⟨opening, by decide⟩

/-- It is the reversal that is not covered; without it the run is solvent. -/
theorem solvent_iff_reversals_covered_family :
    ¬ Served ReversalCovered family promisedThenReversed ∧
    ∀ pre post, promisedThenReversed.take 5 = pre ++ post → ∀ v ∈ (serveAll family pre).vaults.rows,
      v.account.locked + v.account.disbursed ≤ v.account.contributed :=
  ⟨by decide, (solvent_iff_reversals_covered opening _).mpr (by decide)⟩

end

end EduStell
