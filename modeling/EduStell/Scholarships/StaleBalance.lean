/-
  The balance of a pool under interleaved requests.

  A donation adds to the balance of the row that its transaction has LOCKED.  A decision and a
  disbursal overwrite that row with a balance that their services computed from a row they have READ;
  whatever commits to the pool in between is lost.  Without that, and as long as nothing is revoked,
  the balance follows its rows in every run: applications keep their pool, awards keep their
  application and their amount, and what has been awarded stays awarded.

  As a contract: `OverwritesWhatItRead` is the condition of a step, `NoRevocation` that of an
  arrival, `ScholarshipsKept` the `rely`, and the books of the pools are the invariant.
-/
import EduStell.Scholarships.Repeats

namespace EduStell

open Txn

/-- A pool has the same balance in both states. -/
def SameBalanceAt (t s : Db) : Resource → Prop
  | .pool id => ∀ read ∈ t.pools.find id, ∀ pool ∈ s.pools.find id,
    read.availableFunds.amountMinor = pool.availableFunds.amountMinor
  | _ => True

/-- Whether a resource has the same balance in both states can be decided. -/
instance (t s : Db) : DecidablePred (SameBalanceAt t s) := fun r => by
  unfold SameBalanceAt
  split <;> infer_instance

/-- While a decision or a disbursal holds the lock of its pool, the balance is the one that its
    service has read. -/
def OverwritesWhatItRead : Request → Sess → Db → Prop
  -- the last of the service's reads is the pool
  | .approve _ _ _, l, s => ∀ t ∈ l.seen.head?, ∀ r ∈ l.locks, SameBalanceAt t s r
  | .reject _ _ _, l, s => ∀ t ∈ l.seen.head?, ∀ r ∈ l.locks, SameBalanceAt t s r
  -- the last but one, after the transaction has read the application again
  | .disburse _ _, l, s => ∀ t ∈ l.seen[1]?, ∀ r ∈ l.locks, SameBalanceAt t s r
  | _, _, _ => True

/-- Whether a request meets the condition can be decided. -/
instance (q : Request) (l : Sess) (s : Db) : Decidable (OverwritesWhatItRead q l s) :=
  match q with
  | .approve .. | .reject .. | .disburse .. => inferInstanceAs (Decidable (∀ _ ∈ _, _))
  | .record .. | .settle .. | .createPayout .. | .review .. | .verifySchool ..
  | .createPool .. | .fundPool .. | .createApplication .. | .revoke .. => .isTrue trivial

/-- Any request but a revocation. -/
def NoRevocation : Request → Prop
  | .revoke _ _ => False
  | _ => True

/-- Whether a request is no revocation can be decided. -/
instance : DecidablePred NoRevocation
  | .revoke .. => .isFalse id
  | .record .. | .settle .. | .createPayout .. | .review .. | .verifySchool ..
  | .createPool .. | .fundPool .. | .createApplication .. | .approve .. | .reject ..
  | .disburse .. => .isTrue trivial

/-! ## What stays

  The part of the scholarship rows that no request changes while nothing is revoked: it is the
  `rely` of the contract. -/

/-- An award that counts against its pool. -/
def ScholarshipAwardStatus.Counted (status : ScholarshipAwardStatus) : Prop :=
  status = .approved ∨ status = .disbursed

/-- A later state still has every pool, every application in its pool, and every award of its
    application with its amount; what was awarded is still awarded. -/
structure ScholarshipsKept (s s' : Db) : Prop where
  pools : ∀ id x, s.pools.find id = some x → ∃ x', s'.pools.find id = some x'
  /-- An application stays in its pool. -/
  applications : ∀ id x, s.applications.find id = some x →
    ∃ x', s'.applications.find id = some x' ∧ x'.poolId = x.poolId
  /-- An award keeps its application and its amount, and goes on to count if it did. -/
  awards : ∀ id a, s.awards.find id = some a → ∃ a', s'.awards.find id = some a' ∧
    a'.applicationId = a.applicationId ∧ a'.amount = a.amount ∧
    (a.status.Counted → a'.status.Counted)

namespace ScholarshipsKept

/-- Nothing has changed. -/
theorem refl (s : Db) : ScholarshipsKept s s := by
  constructor
  · intro id x hx
    exact ⟨x, hx⟩
  · intro id x hx
    exact ⟨x, hx, rfl⟩
  · intro id a ha
    exact ⟨a, ha, rfl, rfl, fun hcounted => hcounted⟩

/-- What is kept over two stretches is kept over both. -/
theorem trans {s t u : Db} (hst : ScholarshipsKept s t) (htu : ScholarshipsKept t u) :
    ScholarshipsKept s u := by
  constructor
  · intro id x hx
    obtain ⟨x', hx'⟩ := hst.pools id x hx
    exact htu.pools id x' hx'
  · intro id x hx
    obtain ⟨x', hx', hpool⟩ := hst.applications id x hx
    obtain ⟨x'', hx'', hpool'⟩ := htu.applications id x' hx'
    exact ⟨x'', hx'', hpool'.trans hpool⟩
  · intro id a ha
    obtain ⟨a', ha', happlication, hamount, hcounted⟩ := hst.awards id a ha
    obtain ⟨a'', ha'', happlication', hamount', hcounted'⟩ := htu.awards id a' ha'
    refine ⟨a'', ha'', happlication'.trans happlication, hamount'.trans hamount, ?_⟩
    intro hstart
    exact hcounted' (hcounted hstart)

/-- A commit that revokes nothing keeps what was awarded. -/
theorem commit {q : Request} {l : Sess} {s : Db} (hq : NoRevocation q)
    (h : ScholarshipEffect q l s) : ScholarshipsKept s (l.view s) := by
  constructor
  · intro id x hx
    exact pool_row h hx
  · intro id x hx
    obtain ⟨x', hx', hcases⟩ := application_row h hx
    refine ⟨x', hx', ?_⟩
    rcases hcases with
      rfl | ⟨d, newId, actor, input, t₁, t₂, read, pool, lockedPool, award, -, -, rfl⟩
    · rfl
    · rfl
  · intro id a ha
    obtain ⟨a', ha', hcases⟩ := award_row h ha
    refine ⟨a', ha', ?_⟩
    rcases hcases with rfl | ⟨tr, actor, input, t₁, t₂, t₃, t₄, read, application, reread, pool,
      lockedPool, payout, vault, ⟨rfl, -⟩ | ⟨-, rfl⟩, -, -, rfl⟩
    · exact ⟨rfl, rfl, fun hcounted => hcounted⟩
    · exact ⟨rfl, rfl, fun _ => .inr rfl⟩
    · exact hq.elim

end ScholarshipsKept

/-! ## Every run

  A decision or a disbursal that finds the balance it has read posts like one that is served
  alone, and the law is kept as there. -/

section

variable {l : Sess} {s : Db} {actor : AuthenticatedUser}

/-- A decision that finds the balance it has read was handed the balance of the row. -/
theorem DecidedAs.read {d : Decision} {newId : Uuid} {input : DecideScholarshipApplicationInput}
    {t₁ t₂ : Db} {application row : ScholarshipApplication} {pool lockedPool : ScholarshipPool}
    {award : ScholarshipAward}
    (h : DecidedAs d newId actor input l s t₁ t₂ application row pool lockedPool award)
    (hseen : ∀ t ∈ l.seen, ScholarshipsKept t s)
    (hcond : ∀ t ∈ l.seen.head?, ∀ r ∈ l.locks, SameBalanceAt t s r) :
    pool.availableFunds.amountMinor = lockedPool.availableFunds.amountMinor := by
  have h₁ : t₁ ∈ l.seen := by rw [h.seen]; simp
  have hhead : t₂ ∈ l.seen.head? := by rw [h.seen]; rfl
  obtain ⟨row', hrow', hpoolId⟩ := (hseen t₁ h₁).applications _ application h.checked.found
  obtain rfl : row = row' := Option.some.inj (h.locked.symm.trans hrow')
  have hread : t₂.pools.find row.poolId = some pool := by rw [hpoolId]; exact h.checked.poolFound
  exact hcond t₂ hhead _ h.poolHeld pool hread lockedPool h.poolLocked

/-- A disbursal that finds the balance it has read was handed the balance of the row, of an award
    that counts, with the amount that was read. -/
theorem AwardMovedAs.read {input : UpdateScholarshipAwardInput} {t₁ t₂ t₃ t₄ : Db}
    {award row : ScholarshipAward} {application reread : ScholarshipApplication}
    {pool lockedPool : ScholarshipPool}
    (h : AwardMovedAs .disburse actor input l s t₁ t₂ t₃ t₄ award row application reread pool
      lockedPool)
    (hseen : ∀ t ∈ l.seen, ScholarshipsKept t s)
    (hcond : ∀ t ∈ l.seen[1]?, ∀ r ∈ l.locks, SameBalanceAt t s r) :
    pool.availableFunds.amountMinor = lockedPool.availableFunds.amountMinor ∧
      row.amount = award.amount ∧ awardPool s row = some reread.poolId ∧ row.status.Counted := by
  have h₁ : t₁ ∈ l.seen := by rw [h.seen]; simp
  have h₂ : t₂ ∈ l.seen := by rw [h.seen]; simp
  have h₄ : t₄ ∈ l.seen := by rw [h.seen]; simp
  have hlast : t₃ ∈ l.seen[1]? := by rw [h.seen]; rfl
  obtain ⟨row', hrow', happlication, hamount, hcounted⟩ :=
    (hseen t₁ h₁).awards _ award h.checked.found
  obtain rfl : row = row' := Option.some.inj (h.locked.symm.trans hrow')
  -- the application is read twice, and both times it is in the pool it is in now
  obtain ⟨now, hnow, hpoolId⟩ := (hseen t₂ h₂).applications _ application h.checked.applicationFound
  obtain ⟨now', hnow', hpoolId'⟩ := (hseen t₄ h₄).applications _ reread h.rereadFound
  rw [happlication] at hnow'
  obtain rfl : now = now' := Option.some.inj (hnow.symm.trans hnow')
  have hread : t₃.pools.find reread.poolId = some pool := by
    rw [← hpoolId', hpoolId]; exact h.checked.poolFound
  refine ⟨hcond t₃ hlast _ h.poolHeld pool hread lockedPool h.poolLocked, hamount, ?_,
    hcounted h.checked.legal⟩
  rw [awardPool, happlication, hnow, Option.map_some, hpoolId']

end

/-- Requests that overwrite only the balance that they have read, and revoke nothing. -/
def poolContract : Contract Request.program Request.Effect Request.Stops where
  outcomes := Request.outcomes
  inv := PoolBooks
  rely := ScholarshipsKept
  arrivals := NoRevocation
  cond := OverwritesWhatItRead
  refl := ScholarshipsKept.refl
  trans := ScholarshipsKept.trans
  keep {q l s b} hq hs hseen h hcond := by
    refine ⟨⟨?_, ?_⟩, .commit hq h.scholarship⟩
    · refine hs.filed.commit h.scholarship ?_
      intro t ht
      exact (hseen t ht).2.pools
    have hkept : ∀ t ∈ l.seen, ScholarshipsKept t s := fun t ht => (hseen t ht).2
    rcases h.scholarship with ⟨-, hc⟩ | ⟨-, hc⟩ | ⟨-, hc⟩ | ⟨hrequest, hc⟩ | ⟨hrequest, hc⟩ | hc
    · exact hs.law.created hs.filed hc
    · exact hs.law.funded hc
    · exact hs.law.applied hs.filed hc
    · rename_i d newId actor input t₁ t₂ application row pool lockedPool award
      refine hs.law.decided hc (hc.read hkept ?_)
      cases d <;> subst hrequest <;> exact hcond
    · rcases hrequest with ⟨rfl, rfl⟩ | ⟨-, rfl⟩
      · obtain ⟨hread, hamount, hpool, hcounted⟩ := hc.read hkept hcond
        exact hs.law.moved hc hread hamount hpool (.inl ⟨rfl, hcounted⟩)
      · exact hq.elim
    · exact hs.law.other hc

/-- **No balance update is lost** in any run without revocations in which each decision and each
    disbursal overwrites the balance that it has read.

    The law is that of the serial runs: what was donated less what was awarded.  The condition is
    asked of decisions and disbursements alone, since these are the requests that write an absolute
    balance. -/
theorem pool_law_interleaved {s : Db} (hs : PoolBooks s) {es : List Happening}
    (h : System.Meets Request.program (System.allows NoRevocation OverwritesWhatItRead)
      (System.start s) es) :
    ∀ pool ∈ (Sys.after s es).db.pools.rows, pool.availableFunds.amountMinor.toInt =
      donatedSum (Sys.after s es).db pool.id - awardedSum (Sys.after s es).db pool.id :=
  (poolContract.sound hs h).inv.law

section

open Scenario

/-- A pool of 100 with an application. -/
def Scenario.funded : Db :=
  serveAll pupil [createPool 200, fundPool 201 200 100, Scenario.apply 202 200]

/-- The books of the funded pool are in order. -/
theorem Scenario.fundedBooks : PoolBooks funded := PoolBooks.serveAll noPools (by decide)

/-- The approval reads the pool, 50 more are donated, and then the approval runs its transaction. -/
def Scenario.fundingRace : List Happening :=
  [.call 0 (approve 203 202 60)] ++ List.replicate 2 (.step 0) ++ alone 1 (fundPool 204 200 50) 12 ++
  List.replicate 10 (.step 0)

/-- The 50 are gone: 150 donated, 60 awarded, 40 left.

    The approval has computed 40 from the 100 that it has read, and writes 40 over the 150 that the
    pool has by then.  The condition on the arrivals is met, since nothing is revoked. -/
theorem funding_lost :
    PoolBooks funded ∧
    System.Meets Request.program (System.allows NoRevocation fun _ _ _ => True)
      (System.start funded) fundingRace ∧
    ¬ ∀ pool ∈ (Sys.after funded fundingRace).db.pools.rows,
      pool.availableFunds.amountMinor.toInt =
        donatedSum (Sys.after funded fundingRace).db pool.id -
          awardedSum (Sys.after funded fundingRace).db pool.id :=
  ⟨fundedBooks, by decide, by decide⟩

/-- Where the donation comes before the approval has read the pool, nothing is lost. -/
theorem pool_law_interleaved_in_turn :
    let es := alone 1 (fundPool 204 200 50) 12 ++ alone 0 (approve 203 202 60) 12 ++
      alone 2 (disburse 203) 12
    (Sys.after funded es).db.audit.length = funded.audit.length + 3 ∧
    ∀ pool ∈ (Sys.after funded es).db.pools.rows, pool.availableFunds.amountMinor.toInt =
      donatedSum (Sys.after funded es).db pool.id - awardedSum (Sys.after funded es).db pool.id :=
  ⟨by decide, pool_law_interleaved fundedBooks (by decide)⟩

end

end EduStell
