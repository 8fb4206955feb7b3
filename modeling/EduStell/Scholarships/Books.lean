/-
  The balance of a scholarship pool and the rows behind it.

  A donor contribution adds its amount to its pool, and an award takes its amount out of the pool
  that its APPLICATION belongs to, as long as it is Approved or Disbursed.  `PoolLaw` is the
  statement that the balance is what came in minus what went out.

  Every scholarship transaction posts one amount to one pool (`PoolLaw.post`), so each step lemma
  comes down to its own amounts.  They ask for what the transaction itself does not check: that the
  balance it was handed is the balance of the row it overwrites.

  Each transaction has its lemma: `created`, `funded`, `applied`, `decided`, `moved`; and `other`
  for the commits on the savings side.
-/
import EduStell.Spec.Account
import EduStell.Spec.Effects

namespace EduStell

open Txn

/-! ## Rows and sums

  An award belongs to a pool only through its application, so the sum over the awards of a pool
  looks at two tables. -/

/-- What an award takes out of its pool. -/
def ScholarshipAwardStatus.granted : ScholarshipAwardStatus → Int → Int
  | approved, amount => amount
  | disbursed, amount => amount
  | rejected, _ => 0
  | revoked, _ => 0

/-- What a donor contribution adds to its pool. -/
def DonorContributionStatus.donated : DonorContributionStatus → Int → Int
  | confirmed, amount => amount
  | reversed, _ => 0

/-- The pool of an award: the pool of its application. -/
def awardPool (s : Db) (a : ScholarshipAward) : Option Uuid :=
  (s.applications.find a.applicationId).map (·.poolId)

/-- The sum of a pool's Confirmed donor contributions. -/
def donatedSum (s : Db) (poolId : Uuid) : Int :=
  s.donorContributions.sumBy (·.poolId) (fun c => c.status.donated c.amount.units) poolId

/-- The sum of a pool's Approved and Disbursed awards. -/
def awardedSum (s : Db) (poolId : Uuid) : Int :=
  s.awards.sumBy (awardPool s) (fun a => a.status.granted a.amount.units) (some poolId)

/-- Every balance is what was donated minus what was awarded. -/
def PoolLaw (s : Db) : Prop :=
  ∀ pool ∈ s.pools.rows, pool.availableFunds.units = donatedSum s pool.id - awardedSum s pool.id

/-- The foreign keys of the scholarship tables. -/
structure Filed (s : Db) : Prop where
  /-- A donor contribution is to a pool that is there. -/
  donations : ∀ c ∈ s.donorContributions.rows, ∃ pool, s.pools.find c.poolId = some pool
  /-- An application is to a pool that is there. -/
  applications : ∀ x ∈ s.applications.rows, ∃ pool, s.pools.find x.poolId = some pool
  /-- An award is for an application that is there. -/
  awards : ∀ a ∈ s.awards.rows, ∃ x, s.applications.find a.applicationId = some x

/-- The books of the pools: rows under their pools, and balances as they should be. -/
structure PoolBooks (s : Db) : Prop where
  filed : Filed s
  law : PoolLaw s

/-! ## Posting

  The one equation behind all five transactions: the balance, the donations and the awards move by
  amounts that fit together. -/

/-- One donation `d` and one award `a` posted to one pool, and its balance moved by both. -/
theorem PoolLaw.post {s s' : Db} (hs : PoolLaw s) {pool : ScholarshipPool} {funds : Int64}
    {h : 0 ≤ funds} (hpools : s'.pools = s.pools.replace (pool.setFunds funds h))
    {poolId : Uuid} (hpool : s.pools.find poolId = some pool) {d a : Int}
    (hdonated : ∀ id, donatedSum s' id = donatedSum s id + if poolId = id then d else 0)
    (hawarded : ∀ id, awardedSum s' id = awardedSum s id + if poolId = id then a else 0)
    (hfunds : funds.toInt = pool.availableFunds.units + d - a) : PoolLaw s' := by
  have hid : (pool.setFunds funds h).id = poolId := (Table.find_some hpool).2
  have hsum : ∀ id, donatedSum s' id - awardedSum s' id =
      donatedSum s id - awardedSum s id + if poolId = id then d - a else 0 := by
    intro id
    rw [hdonated, hawarded]
    split <;> omega
  rw [PoolLaw, hpools]
  refine Table.column_replace (S := fun id => donatedSum s id - awardedSum s id) hpool hid hs hsum ?_
  show funds.toInt = pool.availableFunds.units + (d - a)
  omega

/-- The awards of the pools are the same sums when every award keeps its pool. -/
theorem awardedSum_congr {s s' : Db} (h : s'.awards = s.awards)
    (hpool : ∀ a ∈ s.awards.rows, awardPool s' a = awardPool s a) (poolId : Uuid) :
    awardedSum s' poolId = awardedSum s poolId := by
  rw [awardedSum, h]
  exact Table.sumBy_congr hpool _ _

/-! ## What becomes of a row

  Rows are never taken away, and what a sum looks at besides the status never changes. -/

section

variable {q : Request} {l : Sess} {s : Db}

/-- Whatever commits, a pool stays. -/
theorem pool_row (h : ScholarshipEffect q l s) {id : Uuid} {x : ScholarshipPool}
    (hx : s.pools.find id = some x) : ∃ x', (l.view s).pools.find id = some x' := by
  cases h.pools with
  | kept view => rw [view]; exact ⟨x, hx⟩
  | created hc fresh view => rw [view]; exact ⟨x, Table.find_insert_of_some hx _⟩
  | set locked view => rw [view]; exact ⟨_, Table.find_replace_of_some hx _⟩

/-- An application stays in its pool, and only its decision rewrites it. -/
theorem application_row (h : ScholarshipEffect q l s) {id : Uuid} {x : ScholarshipApplication}
    (hx : s.applications.find id = some x) :
    ∃ x', (l.view s).applications.find id = some x' ∧ (x' = x ∨
      ∃ d newId actor input t₁ t₂ read pool lockedPool award, input.applicationId = id ∧
        DecidedAs d newId actor input l s t₁ t₂ read x pool lockedPool award ∧
        x' = x.setStatus d.applicationStatus) := by
  cases h.applications with
  | kept view => rw [view]; exact ⟨x, hx, .inl rfl⟩
  | applied hc fresh view => rw [view]; exact ⟨x, Table.find_insert_of_some hx _, .inl rfl⟩
  | @decided d newId actor input t₁ t₂ read row pool lockedPool award request hc view =>
    have hid : (row.setStatus d.applicationStatus).id = input.applicationId :=
      (Table.find_some hc.locked).2
    obtain ⟨x', hx', hcases⟩ := Table.find_replace_row hc.locked hid hx
    refine ⟨x', by rw [view]; exact hx', hcases.imp_right ?_⟩
    rintro ⟨hkey, rfl, rfl⟩
    exact ⟨d, newId, actor, input, t₁, t₂, read, pool, lockedPool, award, hkey.symm, hc, rfl⟩

/-- An award keeps its application and its amount, and only its own transitions rewrite it. -/
theorem award_row (h : ScholarshipEffect q l s) {id : Uuid} {a : ScholarshipAward}
    (ha : s.awards.find id = some a) :
    ∃ a', (l.view s).awards.find id = some a' ∧ (a' = a ∨
      ∃ tr actor input t₁ t₂ t₃ t₄ read application reread pool lockedPool payout vault,
        ((tr = .disburse ∧ q = .disburse actor input) ∨ (tr = .revoke ∧ q = .revoke actor input)) ∧
        input.awardId = id ∧
        AwardMovedAs tr actor input l s t₁ t₂ t₃ t₄ read a application reread pool lockedPool ∧
        a' = a.transition tr.targetStatus payout vault) := by
  cases h.awards with
  | kept view => rw [view]; exact ⟨a, ha, .inl rfl⟩
  | decided hc fresh view => rw [view]; exact ⟨a, Table.find_insert_of_some ha _, .inl rfl⟩
  | @moved tr actor input t₁ t₂ t₃ t₄ read row application reread pool lockedPool request hc =>
    have hid : (row.transition tr.targetStatus (tr.links input read).1
      (tr.links input read).2).id = input.awardId := (Table.find_some hc.locked).2
    obtain ⟨a', ha', hcases⟩ := Table.find_replace_row hc.locked hid ha
    refine ⟨a', by rw [hc.awards]; exact ha', hcases.imp_right ?_⟩
    rintro ⟨hkey, rfl, rfl⟩
    exact ⟨tr, actor, input, t₁, t₂, t₃, t₄, read, application, reread, pool, lockedPool, _, _,
      request, hkey.symm, hc, rfl⟩

/-! ## The foreign keys are kept

  The sums need the foreign keys: an award whose application is missing would belong to no pool. -/

/-- A commit keeps the foreign keys: what a new row refers to was read, and nothing is deleted. -/
theorem Filed.commit (hs : Filed s) (h : ScholarshipEffect q l s)
    (hseen : ∀ t ∈ l.seen, ∀ id x, t.pools.find id = some x → ∃ x', s.pools.find id = some x') :
    Filed (l.view s) := by
  -- what a row refers to in `s` is there in what follows
  have hpool : ∀ {id}, (∃ pool, s.pools.find id = some pool) →
      ∃ pool, (l.view s).pools.find id = some pool := by
    rintro id ⟨pool, hpool⟩
    exact pool_row h hpool
  have happlication : ∀ {id}, (∃ x, s.applications.find id = some x) →
      ∃ x, (l.view s).applications.find id = some x := by
    rintro id ⟨x, hx⟩
    obtain ⟨x', hx', -⟩ := application_row h hx
    exact ⟨x', hx'⟩
  refine ⟨fun c hmem => hpool ?_, fun x hmem => hpool ?_, fun a hmem => happlication ?_⟩
  · cases h.donations with
    | kept view => rw [view] at hmem; exact hs.donations c hmem
    | @funded _ _ _ pool _ request hc fresh view =>
      rw [view, Table.mem_insert fresh] at hmem
      rcases hmem with hmem | rfl
      · exact hs.donations c hmem
      · rw [hc.poolId]; exact ⟨pool, hc.locked⟩
  · cases h.applications with
    | kept view => rw [view] at hmem; exact hs.applications x hmem
    | applied hc fresh view =>
      rw [view, Table.mem_insert fresh] at hmem
      rcases hmem with hmem | rfl
      · exact hs.applications x hmem
      · obtain ⟨t, ht, pool, hfound⟩ := hc.poolFound
        rw [hc.poolId]
        exact hseen t ht _ pool hfound
    | @decided _ _ _ _ _ _ _ _ _ lockedPool _ request hc view =>
      rw [view] at hmem
      rcases Table.mem_replace hmem with rfl | ⟨hmem, -⟩
      · exact ⟨lockedPool, hc.poolLocked⟩
      · exact hs.applications x hmem
  · cases h.awards with
    | kept view => rw [view] at hmem; exact hs.awards a hmem
    | @decided _ _ _ _ _ _ _ row _ _ _ hc fresh view =>
      rw [view, Table.mem_insert fresh] at hmem
      rcases hmem with hmem | rfl
      · exact hs.awards a hmem
      · rw [hc.awardOf.applicationId]; exact ⟨row, hc.locked⟩
    | @moved _ _ _ _ _ _ _ _ row _ _ _ _ request hc =>
      rw [hc.awards] at hmem
      rcases Table.mem_replace hmem with rfl | ⟨hmem, -⟩
      · exact hs.awards row (Table.find_some hc.locked).1
      · exact hs.awards a hmem

/-! ## What each request posts

  For each commit, the amounts that it posts.  A decision and a step of an award are handed a
  balance, and the lemmas ask that it be the balance of the row. -/

/-- The balance that a decision writes, when it was handed the balance of the row. -/
theorem Decision.funds_units {d : Decision} {available amount : Int64}
    (hcovered : d = .approve → 0 < amount ∧ amount ≤ available) :
    (d.funds available amount).toInt = available.toInt - d.awardStatus.granted amount.toInt := by
  cases d with
  | approve =>
    obtain ⟨hpos, hle⟩ := hcovered rfl
    exact Int64.toInt_sub_of_le available amount (Int64.le_of_lt hpos) hle
  | reject => exact (Int.sub_zero _).symm

/-- The balance that an award transition writes, from a status that it may start from. -/
theorem AwardTransition.funds_units {tr : AwardTransition} {status : ScholarshipAwardStatus}
    {available amount : Int64} (h0 : 0 ≤ available) (hamount : 0 ≤ amount)
    (hstatus : (tr = .disburse ∧ (status = .approved ∨ status = .disbursed)) ∨
      (tr = .revoke ∧ status = .approved))
    (hnonneg : 0 ≤ tr.funds available amount) :
    (tr.funds available amount).toInt = available.toInt + status.granted amount.toInt -
      tr.targetStatus.granted amount.toInt := by
  rcases hstatus with ⟨rfl, rfl | rfl⟩ | ⟨rfl, rfl⟩
  · exact (Int.add_sub_cancel _ _).symm
  · exact (Int.add_sub_cancel _ _).symm
  · exact (toInt_add_of_nonneg h0 hamount hnonneg).trans (Int.sub_zero _).symm

section

variable {tr : AwardTransition} {actor : AuthenticatedUser} {input : UpdateScholarshipAwardInput}
  {t₁ t₂ t₃ t₄ : Db} {award row : ScholarshipAward} {application reread : ScholarshipApplication}
  {pool lockedPool : ScholarshipPool}

/-- A step of an award leaves the donations. -/
theorem AwardMovedAs.donated
    (h : AwardMovedAs tr actor input l s t₁ t₂ t₃ t₄ award row application reread pool lockedPool)
    (id : Uuid) : donatedSum (l.view s) id = donatedSum s id := by
  obtain ⟨payout, vault, log, -, hview⟩ := h.view
  rw [hview]; rfl

/-- An award transition moves the awards of the pool by what its award stood for and now stands
    for. -/
theorem AwardMovedAs.awarded
    (h : AwardMovedAs tr actor input l s t₁ t₂ t₃ t₄ award row application reread pool lockedPool)
    (hpool : awardPool s row = some reread.poolId) (id : Uuid) :
    awardedSum (l.view s) id = awardedSum s id + if reread.poolId = id then
      tr.targetStatus.granted row.amount.units - row.status.granted row.amount.units else 0 := by
  obtain ⟨payout, vault, log, -, hview⟩ := h.view
  have hid : (row.transition tr.targetStatus payout vault).id = input.awardId :=
    (Table.find_some h.locked).2
  have hsame : awardPool (l.view s) = awardPool s := by rw [hview]; rfl
  have hawards : (l.view s).awards =
      s.awards.replace (row.transition tr.targetStatus payout vault) := by rw [hview]
  rw [awardedSum, hsame, hawards, Table.sumBy_replace h.locked hid rfl, hpool, awardedSum]
  simp only [Option.some.injEq]; rfl

end

namespace PoolLaw

/-- A new pool has no rows behind it. -/
theorem created {newId : Uuid} {a : ScholarshipPool} (hs : PoolLaw s) (hfiled : Filed s)
    (h : PoolCreated newId l s a) : PoolLaw (l.view s) := by
  have hfresh : s.pools.find a.id = none := by rw [h.id]; exact h.fresh
  obtain ⟨log, -, hview⟩ := h.view
  rw [hview]
  intro x hx
  rcases (Table.mem_insert hfresh).mp hx with hx | rfl
  · exact hs x hx
  · have hdonated : donatedSum s x.id = 0 := by
      refine Table.sumBy_eq_zero (fun c hc he => ?_) _
      obtain ⟨pool, hpool⟩ := hfiled.donations c hc
      rw [show c.poolId = x.id from he, hfresh] at hpool
      cases hpool
    have hawarded : awardedSum s x.id = 0 := by
      refine Table.sumBy_eq_zero (fun b hb he => ?_) _
      obtain ⟨y, hy⟩ := hfiled.awards b hb
      obtain ⟨pool, hpool⟩ := hfiled.applications y (Table.find_some hy).1
      rw [awardPool, hy] at he
      rw [show y.poolId = x.id from Option.some.inj he, hfresh] at hpool
      cases hpool
    have hunits : x.availableFunds.units = 0 := by rw [Money.units, h.funds]; rfl
    change x.availableFunds.units = donatedSum s x.id - awardedSum s x.id
    rw [hunits, hdonated, hawarded]; rfl

/-- A funding posts its donation. -/
theorem funded {newId : Uuid} {input : FundScholarshipPoolInput} {pool : ScholarshipPool}
    {donation : DonorContribution} (hs : PoolLaw s)
    (h : PoolFunded newId input l s pool donation) : PoolLaw (l.view s) := by
  have hfresh : s.donorContributions.find donation.id = none := by rw [h.id]; exact h.fresh
  have hunits : donation.amount.units = input.amountMinor.toInt := congrArg Int64.toInt h.amount
  obtain ⟨log, -, hview⟩ := h.view
  have hdonated : ∀ id, donatedSum (l.view s) id = donatedSum s id +
      if input.poolId = id then input.amountMinor.toInt else 0 := by
    intro id
    have hdonations : (l.view s).donorContributions = s.donorContributions.insert donation := by
      rw [hview]
    rw [donatedSum, hdonations, Table.sumBy_insert hfresh, h.poolId, h.status, hunits]; rfl
  refine hs.post (by rw [hview]) h.locked (a := 0) hdonated ?_ ?_
  · intro id
    rw [hview, ite_self, Int.add_zero]; rfl
  · rw [Int.sub_zero]
    exact toInt_add_of_nonneg pool.availableFunds.nonneg (Int64.le_of_lt h.positive) h.nonneg

/-- An application costs nothing, and leaves the awards of the others where they are. -/
theorem applied {newId : Uuid} {input : CreateScholarshipApplicationInput}
    {a : ScholarshipApplication} (hs : PoolLaw s) (hfiled : Filed s)
    (h : Applied newId input l s a) : PoolLaw (l.view s) := by
  obtain ⟨log, -, hview⟩ := h.view
  have hdonated : ∀ id, donatedSum (l.view s) id = donatedSum s id := by
    intro id; rw [hview]; rfl
  have hawarded : ∀ id, awardedSum (l.view s) id = awardedSum s id := by
    refine awardedSum_congr (by rw [hview]) fun b hb => ?_
    obtain ⟨x, hx⟩ := hfiled.awards b hb
    rw [awardPool, awardPool, hx, hview]
    exact congrArg _ (Table.find_insert_of_some hx a)
  intro pool hpool
  rw [hdonated, hawarded]
  rw [hview] at hpool
  exact hs pool hpool

/-- A decision that was handed the balance of the row posts its award. -/
theorem decided {d : Decision} {newId : Uuid} {actor : AuthenticatedUser}
    {input : DecideScholarshipApplicationInput} {t₁ t₂ : Db}
    {application row : ScholarshipApplication} {pool lockedPool : ScholarshipPool}
    {award : ScholarshipAward} (hs : PoolLaw s)
    (h : DecidedAs d newId actor input l s t₁ t₂ application row pool lockedPool award)
    (hread : pool.availableFunds.amountMinor = lockedPool.availableFunds.amountMinor) :
    PoolLaw (l.view s) := by
  have hid : (row.setStatus d.applicationStatus).id = input.applicationId :=
    (Table.find_some h.locked).2
  have hfresh : s.awards.find award.id = none := by rw [h.awardOf.id]; exact h.fresh
  have hamount : award.amount.units = input.amountMinor.toInt :=
    congrArg Int64.toInt h.awardOf.amount
  obtain ⟨log, -, hview⟩ := h.view
  -- the decision changes the status of its application, not the pool
  have hsame : ∀ b, awardPool (l.view s) b = awardPool s b := by
    intro b
    rw [awardPool, hview]
    exact Table.find_replace_map h.locked hid rfl b.applicationId
  have howner : awardPool s award = some row.poolId := by
    rw [awardPool, h.awardOf.applicationId, h.locked]; rfl
  have hawarded : ∀ id, awardedSum (l.view s) id = awardedSum s id +
      if row.poolId = id then d.awardStatus.granted input.amountMinor.toInt else 0 := by
    intro id
    have hawards : (l.view s).awards = s.awards.insert award := by rw [hview]
    rw [awardedSum, Table.sumBy_congr (fun b _ => hsame b), hawards, Table.sumBy_insert hfresh,
      howner, h.awardOf.status, hamount, awardedSum]
    simp only [Option.some.injEq]
  refine hs.post (by rw [hview]) h.poolLocked (d := 0) ?_ hawarded ?_
  · intro id
    rw [hview, ite_self, Int.add_zero]; rfl
  · rw [Decision.funds_units h.checked.covered, hread, Int.add_zero]; rfl

/-- An award transition that was handed the balance of the row posts the change of its award. -/
theorem moved {tr : AwardTransition} {actor : AuthenticatedUser}
    {input : UpdateScholarshipAwardInput} {t₁ t₂ t₃ t₄ : Db} {award row : ScholarshipAward}
    {application reread : ScholarshipApplication} {pool lockedPool : ScholarshipPool}
    (hs : PoolLaw s)
    (h : AwardMovedAs tr actor input l s t₁ t₂ t₃ t₄ award row application reread pool lockedPool)
    (hread : pool.availableFunds.amountMinor = lockedPool.availableFunds.amountMinor)
    (hamount : row.amount = award.amount) (hpool : awardPool s row = some reread.poolId)
    (hstatus : (tr = .disburse ∧ (row.status = .approved ∨ row.status = .disbursed)) ∨
      (tr = .revoke ∧ row.status = .approved)) : PoolLaw (l.view s) := by
  have hfunds := AwardTransition.funds_units pool.availableFunds.nonneg award.amount.nonneg hstatus
    h.nonneg
  have hpools : (l.view s).pools = s.pools.replace (lockedPool.setFunds
      (tr.funds pool.availableFunds.amountMinor award.amount.amountMinor) h.nonneg) := by
    obtain ⟨payout, vault, log, -, hview⟩ := h.view
    rw [hview]
  refine hs.post hpools h.poolLocked (d := 0) ?_ (h.awarded hpool) ?_
  · intro id
    rw [h.donated, ite_self, Int.add_zero]
  · rw [hfunds, hread, hamount]
    simp only [Money.units]
    omega

/-- A commit on the savings side posts nothing. -/
theorem other (hs : PoolLaw s) (h : SameScholarships s (l.view s)) : PoolLaw (l.view s) := by
  have hsame : awardPool (l.view s) = awardPool s := by
    funext b
    rw [awardPool, h.applications]; rfl
  intro pool hpool
  rw [donatedSum, awardedSum, h.donorContributions, h.awards, hsame]
  rw [h.pools] at hpool
  exact hs pool hpool

end PoolLaw

end

end EduStell
