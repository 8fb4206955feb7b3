/-
  The balance of a pool under scholarship requests that are served one after another, repeats
  included.

  A request that has taken effect is refused when it comes again, or writes what is there: the key
  of a donation is taken, a decided application is not reviewable, a second disbursal writes the same
  balance.  The exception is a revocation.  The rules accept it for an award that is Revoked already,
  and each one gives the amount back to the pool; so the balance follows its rows if and only if
  every award is revoked at most once.

  The plan:

  1. the law is kept by each request that revokes no award again (`serve`), and broken by one that
     does (`PoolBooks.revokes_once`);
  2. what a request leaves behind stays (`Done.serveAll`), and stops or neutralises its repeat
     (`Done.sameBalance`);
  3. both in one equivalence over runs (`pools_accounted_iff`).
-/
import EduStell.Scholarships.Books
import EduStell.Scenario

namespace EduStell

open Txn Scholarships

/-- A start: no pool, and by the foreign keys nothing that belongs to one. -/
structure NoPools (s : Db) : Prop where
  pools : s.pools.rows = []
  donations : s.donorContributions.rows = []
  applications : s.applications.rows = []
  awards : s.awards.rows = []

/-- A revocation that takes effect in `s` is the first of its award.  (One that does not fit in the
    balance has no effect.) -/
def RevokesOnce : Request → Db → Prop
  | .revoke actor input, s => actor.role = .platformAdmin →
    ∀ a ∈ s.awards.find input.awardId, a.status = .revoked →
      ∀ x ∈ s.applications.find a.applicationId, ∀ pool ∈ s.pools.find x.poolId,
        pool.availableFunds.amountMinor + a.amount.amountMinor < 0
  | _, _ => True

/-- Whether a revocation is the first can be decided. -/
instance (q : Request) (s : Db) : Decidable (RevokesOnce q s) :=
  match q with
  | .revoke .. => inferInstanceAs (Decidable (_ → _))
  | .record .. | .settle .. | .createPayout .. | .review .. | .verifySchool ..
  | .createPool .. | .fundPool .. | .createApplication .. | .approve .. | .reject ..
  | .disburse .. => .isTrue trivial

/-! ## The law is kept

  Each transaction posts what it should, where it was handed the balance of the row; served alone,
  it always is. -/

section

variable {l : Sess} {s : Db} {actor : AuthenticatedUser}

/-- A decision that has read the state it commits to has read the rows that it rewrites. -/
theorem DecidedAs.serial {d : Decision} {newId : Uuid} {input : DecideScholarshipApplicationInput}
    {t₁ t₂ : Db} {application row : ScholarshipApplication} {pool lockedPool : ScholarshipPool}
    {award : ScholarshipAward}
    (h : DecidedAs d newId actor input l s t₁ t₂ application row pool lockedPool award)
    (hseen : ∀ t ∈ l.seen, t = s) : application = row ∧ pool = lockedPool := by
  have h₁ : t₁ = s := hseen t₁ (by rw [h.seen]; simp)
  have h₂ : t₂ = s := hseen t₂ (by rw [h.seen]; simp)
  have hrow : application = row := Option.some.inj ((h₁ ▸ h.checked.found).symm.trans h.locked)
  exact ⟨hrow, Option.some.inj ((h₂ ▸ h.checked.poolFound).symm.trans (hrow ▸ h.poolLocked))⟩

variable {tr : AwardTransition} {input : UpdateScholarshipAwardInput} {t₁ t₂ t₃ t₄ : Db}
  {award row : ScholarshipAward} {application reread : ScholarshipApplication}
  {pool lockedPool : ScholarshipPool}

/-- The same for an award transition. -/
theorem AwardMovedAs.serial
    (h : AwardMovedAs tr actor input l s t₁ t₂ t₃ t₄ award row application reread pool lockedPool)
    (hseen : ∀ t ∈ l.seen, t = s) :
    award = row ∧ pool = lockedPool ∧ s.applications.find row.applicationId = some reread := by
  have h₁ : t₁ = s := hseen t₁ (by rw [h.seen]; simp)
  have h₂ : t₂ = s := hseen t₂ (by rw [h.seen]; simp)
  have h₃ : t₃ = s := hseen t₃ (by rw [h.seen]; simp)
  have h₄ : t₄ = s := hseen t₄ (by rw [h.seen]; simp)
  have hrow : award = row := Option.some.inj ((h₁ ▸ h.checked.found).symm.trans h.locked)
  have hreread : s.applications.find row.applicationId = some reread := h₄ ▸ h.rereadFound
  have hsame : application = reread :=
    Option.some.inj ((h₂ ▸ h.checked.applicationFound).symm.trans (hrow ▸ hreread))
  exact ⟨hrow, Option.some.inj ((h₃ ▸ h.checked.poolFound).symm.trans (hsame ▸ h.poolLocked)),
    hreread⟩

/-- Where no award is revoked twice, a transition that commits starts from a status that it is meant
    to start from. -/
theorem AwardMovedAs.starts {q : Request}
    (h : AwardMovedAs tr actor input l s t₁ t₂ t₃ t₄ award row application reread pool lockedPool)
    (hrequest : (tr = .disburse ∧ q = .disburse actor input) ∨
      (tr = .revoke ∧ q = .revoke actor input))
    (hseen : ∀ t ∈ l.seen, t = s) (honce : RevokesOnce q s) :
    (tr = .disburse ∧ (row.status = .approved ∨ row.status = .disbursed)) ∨
      (tr = .revoke ∧ row.status = .approved) := by
  obtain ⟨rfl, rfl, hreread⟩ := h.serial hseen
  rcases hrequest with ⟨rfl, rfl⟩ | ⟨rfl, rfl⟩
  · exact .inl ⟨rfl, h.checked.legal⟩
  · rcases h.checked.legal with happroved | hrevoked
    · exact .inr ⟨rfl, happroved⟩
    · have hwraps := honce h.checked.reviewer award h.locked hrevoked reread hreread pool
        h.poolLocked
      exact absurd hwraps (Int64.not_lt.mpr h.nonneg)

end

namespace PoolBooks

variable {s : Db}

/-- Without pools there is no balance to be wrong. -/
theorem start (h : NoPools s) : PoolBooks s := by
  refine ⟨⟨?_, ?_, ?_⟩, ?_⟩
  · intro c hc
    rw [h.donations] at hc; cases hc
  · intro x hx
    rw [h.applications] at hx; cases hx
  · intro a ha
    rw [h.awards] at ha; cases ha
  · intro pool hpool
    rw [h.pools] at hpool; cases hpool

/-- **A request served alone keeps the law**, unless it revokes an award again. -/
theorem serve (hs : PoolBooks s) {q : Request} (honce : RevokesOnce q s) :
    PoolBooks (q.serve s).2 := by
  refine Request.serve_keeps hs ?_
  intro l b hseen h
  -- the ids that are filed, and the law of the pools, one case for each operation
  refine ⟨?_, ?_⟩
  · refine hs.filed.commit h.scholarship ?_
    intro t ht id x hx
    rw [hseen t ht] at hx
    exact ⟨x, hx⟩
  rcases h.scholarship with ⟨-, hc⟩ | ⟨-, hc⟩ | ⟨-, hc⟩ | ⟨-, hc⟩ | ⟨hq, hc⟩ | hc
  · -- a pool created, funded, applied to: the counts grow with the balance
    exact hs.law.created hs.filed hc
  · exact hs.law.funded hc
  · exact hs.law.applied hs.filed hc
  · -- served alone, the balance that was read is the one that is locked
    obtain ⟨-, hpool⟩ := hc.serial hseen
    exact hs.law.decided hc (congrArg (·.availableFunds.amountMinor) hpool)
  · obtain ⟨haward, hpool, hreread⟩ := hc.serial hseen
    refine hs.law.moved hc (congrArg (·.availableFunds.amountMinor) hpool)
      (congrArg (·.amount) haward.symm) ?_ (hc.starts hq hseen honce)
    rw [awardPool, hreread]; rfl
  · -- the savings operations
    exact hs.law.other hc

/-- Requests served one after another keep the books, as long as no revocation is repeated. -/
theorem serveAll (h : NoPools s) {qs : List Request} (honce : Served RevokesOnce s qs) :
    PoolBooks (serveAll s qs) :=
  serveAll_induction (start h) (fun _ _ hs hq => hs.serve hq) honce

end PoolBooks

/-! ## A second revocation breaks it

  A revocation of a revoked award posts its amount again, and the balance no longer follows the
  rows: the condition is necessary. -/

/-- What has been awarded is more than nothing. -/
def AwardsPositive (s : Db) : Prop :=
  ∀ a ∈ s.awards.rows, a.status = .rejected ∨ 0 < a.amount.amountMinor

/-- No request awards nothing. -/
theorem AwardsPositive.serve {s : Db} (hs : AwardsPositive s) (q : Request) :
    AwardsPositive (q.serve s).2 := by
  refine Request.serve_keeps hs fun l b hseen h => ?_
  intro a ha
  -- only a decision adds an award, and only its transition changes one
  cases h.scholarship.awards with
  | kept view => rw [view] at ha; exact hs a ha
  | @decided d _ _ _ _ _ _ _ _ _ _ hc fresh view =>
    rw [view, Table.mem_insert fresh] at ha
    rcases ha with ha | rfl
    · exact hs a ha
    · -- an approved award has the amount that the pool covered; a rejected one may be anything
      cases d with
      | approve => exact .inr (by rw [hc.awardOf.amount]; exact (hc.checked.covered rfl).1)
      | reject => exact .inl hc.awardOf.status
  | @moved _ _ _ _ _ _ _ award _ _ _ _ _ request hc =>
    obtain ⟨rfl, -, -⟩ := hc.serial hseen
    -- the amount of a moved award stays
    rw [hc.awards] at ha
    rcases Table.mem_replace ha with rfl | ⟨ha, -⟩
    · rcases hs award (Table.find_some hc.locked).1 with hrejected | hpos
      · -- a rejected award stays as it is
        rcases hc.checked.legal with happroved | htarget
        · rw [hrejected] at happroved; cases happroved
        · exact .inl (htarget.symm.trans hrejected)
      · exact .inr hpos
    · exact hs a ha

/-- Revoking an award again is accepted, as long as the balance can take the amount. -/
theorem serve_revoke_again {s : Db} {actor : AuthenticatedUser} {input : UpdateScholarshipAwardInput}
    {a : ScholarshipAward} {x : ScholarshipApplication} {pool : ScholarshipPool}
    (hadmin : actor.role = .platformAdmin) (ha : s.awards.find input.awardId = some a)
    (hrevoked : a.status = .revoked) (hx : s.applications.find a.applicationId = some x)
    (hpool : s.pools.find x.poolId = some pool)
    (hfits : 0 ≤ pool.availableFunds.amountMinor + a.amount.amountMinor) :
    ∃ l t₁ t₂ t₃ t₄ read,
      AwardMovedAs .revoke actor input l s t₁ t₂ t₃ t₄ a a read x pool pool ∧
      ((Request.revoke actor input).serve s).2 = l.view s := by
  rcases (Request.outcomes (.revoke actor input)).serve s with
    ⟨l, hseen, ⟨-, hstop⟩, -⟩ | ⟨l, b, hseen, ⟨r, -, hmoved⟩, -, hdb⟩
  · -- everything that could stop it is there, and the sum fits
    cases hstop with
    | forbidden hrole => exact absurd hadmin hrole
    | missing ht hnone => rw [hseen _ ht, ha] at hnone; cases hnone
    | illegal ht hfound hrefused =>
      rw [hseen _ ht, ha] at hfound
      cases hfound
      rw [hrevoked] at hrefused; cases hrefused
    | applicationMissing ht ht' hfound hnone =>
      rw [hseen _ ht, ha] at hfound
      cases hfound
      rw [hseen _ ht', hx] at hnone; cases hnone
    | poolMissing ht ht' ht'' hfound hfound' hnone =>
      rw [hseen _ ht, ha] at hfound
      cases hfound
      rw [hseen _ ht', hx] at hfound'
      cases hfound'
      rw [hseen _ ht'', hpool] at hnone; cases hnone
    | gone hnone => rw [ha] at hnone; cases hnone
    | applicationGone ht hfound hnone =>
      rw [ha] at hfound
      cases hfound
      rw [hseen _ ht, hx] at hnone; cases hnone
    | poolGone ht hfound hfound' hnone =>
      rw [ha] at hfound
      cases hfound
      rw [hseen _ ht, hx] at hfound'
      cases hfound'
      rw [hpool] at hnone; cases hnone
    | overflow h₁ h₂ h₃ hchecked hwraps =>
      have hfound := hchecked.found
      rw [hseen _ h₁, ha] at hfound
      cases hfound
      have hfound' := hchecked.applicationFound
      rw [hseen _ h₂, hx] at hfound'
      cases hfound'
      have hfound'' := hchecked.poolFound
      rw [hseen _ h₃, hpool] at hfound''
      cases hfound''
      exact absurd hfits hwraps
  · obtain ⟨t₁, t₂, t₃, t₄, award, row, application, reread, read, lockedPool, h⟩ := hmoved
    obtain ⟨rfl, rfl, hreread⟩ := h.serial hseen
    obtain rfl := Option.some.inj (ha.symm.trans h.locked)
    obtain rfl := Option.some.inj (hx.symm.trans hreread)
    obtain rfl := Option.some.inj (hpool.symm.trans h.poolLocked)
    exact ⟨l, t₁, t₂, t₃, t₄, application, h, hdb⟩

/-- A request served alone that keeps the law has not revoked an award again. -/
theorem PoolBooks.revokes_once {s : Db} (hs : PoolBooks s) (hpositive : AwardsPositive s)
    {q : Request} (h : PoolLaw (q.serve s).2) : RevokesOnce q s := by
  cases q with
  | revoke actor input =>
    intro hadmin a ha hrevoked x hx pool hpool
    by_contra hfits
    rw [Int64.not_lt] at hfits
    obtain ⟨l, t₁, t₂, t₃, t₄, application, hmoved, hdb⟩ :=
      serve_revoke_again hadmin ha hrevoked hx hpool hfits
    rw [hdb] at h
    have hpoolId : pool.id = x.poolId := (Table.find_some hpool).2
    -- the rows are worth what they were worth before
    have hawarded : awardedSum (l.view s) pool.id = awardedSum s pool.id := by
      have hsame : awardPool s a = some x.poolId := by rw [awardPool, hx]; rfl
      rw [hmoved.awarded hsame, hrevoked]
      split <;> exact Int.add_zero _
    -- and the balance is not
    have hmem : pool.setFunds _ hmoved.nonneg ∈ (l.view s).pools.rows := by
      have hid : (pool.setFunds _ hmoved.nonneg).id = x.poolId := hpoolId
      obtain ⟨payout, vault, log, -, hview⟩ := hmoved.view
      rw [hview]
      exact (Table.find_some (Table.find_replace_self hpool hid)).1
    have hbefore := hs.law pool (Table.find_some hpool).1
    have hafter : (pool.availableFunds.amountMinor + a.amount.amountMinor).toInt =
      donatedSum (l.view s) pool.id - awardedSum (l.view s) pool.id := h _ hmem
    rw [hmoved.donated, hawarded, ← hbefore,
      toInt_add_of_nonneg pool.availableFunds.nonneg a.amount.nonneg hfits, Money.units] at hafter
    rcases hpositive a (Table.find_some ha).1 with hrejected | hpos
    · rw [hrevoked] at hrejected; cases hrejected
    · rw [Int64.lt_iff_toInt_lt, Int64.toInt_zero] at hpos
      omega
  | _ => trivial

/-! ## Repeats

  What a request leaves behind stands in the way of its repeat: a key, a decision, a status. -/

/-- The same request once more; a row that it would create gets another id. -/
def Request.again (newId : Uuid) : Request → Request
  | .record _ actor input => .record newId actor input
  | .createPayout _ actor input => .createPayout newId actor input
  | .createPool _ actor input => .createPool newId actor input
  | .fundPool _ actor input => .fundPool newId actor input
  | .createApplication _ actor input => .createApplication newId actor input
  | .approve _ actor input => .approve newId actor input
  | .reject _ actor input => .reject newId actor input
  | q => q

/-- What a request leaves behind that has taken effect, as far as it stands in the way of a
    repeat. -/
def Done : Request → Db → Prop
  | .fundPool _ _ input, s =>
    s.donorContributions.any (fun c => c.idempotencyKey = some input.idempotencyKey) = true
  | .approve _ _ input, s => ∃ x, s.applications.find input.applicationId = some x ∧
    (x.status = .approved ∨ x.status = .rejected)
  | .reject _ _ input, s => ∃ x, s.applications.find input.applicationId = some x ∧
    (x.status = .approved ∨ x.status = .rejected)
  | .revoke _ input, s => ∃ a, s.awards.find input.awardId = some a ∧ a.status = .revoked
  | _, _ => True

/-- A repeat is stopped by what stops its original. -/
theorem Done.again {q : Request} {s : Db} (h : Done q s) (newId : Uuid) : Done (q.again newId) s := by
  cases q <;> exact h

/-- A decision leaves its application decided. -/
theorem Decided.done {d : Decision} {newId : Uuid} {actor : AuthenticatedUser}
    {input : DecideScholarshipApplicationInput} {l : Sess} {s : Db} {award : ScholarshipAward}
    (h : Decided d newId actor input l s award) :
    ∃ x, (l.view s).applications.find input.applicationId = some x ∧
      (x.status = .approved ∨ x.status = .rejected) := by
  obtain ⟨t₁, t₂, application, row, pool, lockedPool, h⟩ := h
  have hid : (row.setStatus d.applicationStatus).id = input.applicationId :=
    (Table.find_some h.locked).2
  obtain ⟨log, -, hview⟩ := h.view
  refine ⟨row.setStatus d.applicationStatus, ?_, ?_⟩
  · rw [hview]
    exact Table.find_replace_self h.locked hid
  · cases d with
    | approve => exact .inl rfl
    | reject => exact .inr rfl

/-- A request that is answered without an error leaves its traces. -/
theorem Request.serve_done {q : Request} {s : Db} {b : Response} (h : (q.serve s).1 = .ok b) :
    Done q (q.serve s).2 := by
  cases q with
  | fundPool newId actor input =>
    rcases (Request.outcomes (.fundPool newId actor input)).serve s with
      ⟨l, -, ⟨e, he⟩, -⟩ | ⟨l, b, -, ⟨r, -, pool, hc⟩, -, hdb⟩
    · rw [Request.serve, he] at h; cases h
    · obtain ⟨log, -, hview⟩ := hc.view
      rw [Request.serve, hdb, hview]
      refine (Table.any_insert _ _ _).trans ?_
      rw [show Keyed.key r.2 = newId from hc.id, hc.fresh, hc.key]
      -- the key of the new donation is among the keys
      simp
  | approve newId actor input =>
    rcases (Request.outcomes (.approve newId actor input)).serve s with
      ⟨l, -, ⟨e, he⟩, -⟩ | ⟨l, b, -, ⟨r, -, hc⟩, -, hdb⟩
    · rw [Request.serve, he] at h; cases h
    · rw [Request.serve, hdb]; exact hc.done
  | reject newId actor input =>
    rcases (Request.outcomes (.reject newId actor input)).serve s with
      ⟨l, -, ⟨e, he⟩, -⟩ | ⟨l, b, -, ⟨r, -, hc⟩, -, hdb⟩
    · rw [Request.serve, he] at h; cases h
    · rw [Request.serve, hdb]; exact hc.done
  | revoke actor input =>
    rcases (Request.outcomes (.revoke actor input)).serve s with
      ⟨l, -, ⟨⟨e, he⟩, -⟩, -⟩ | ⟨l, b, -, ⟨r, -, hc⟩, -, hdb⟩
    · rw [Request.serve, he] at h; cases h
    · obtain ⟨t₁, t₂, t₃, t₄, award, row, application, reread, pool, lockedPool, hc⟩ := hc
      obtain ⟨payout, vault, log, -, hview⟩ := hc.view
      -- the stored row has the status that the request asks for
      have hid : (row.transition .revoked payout vault).id = input.awardId :=
        (Table.find_some hc.locked).2
      rw [Request.serve, hdb, hview]
      exact ⟨row.transition .revoked payout vault, Table.find_replace_self hc.locked hid, rfl⟩
  -- the other requests are not among those that are repeated
  | _ => trivial

/-- A decision is not made of an application that is decided. -/
theorem DecidedAs.undecided {d : Decision} {newId : Uuid} {actor : AuthenticatedUser}
    {input : DecideScholarshipApplicationInput} {l : Sess} {s t₁ t₂ : Db}
    {application row : ScholarshipApplication} {pool lockedPool : ScholarshipPool}
    {award : ScholarshipAward}
    (h : DecidedAs d newId actor input l s t₁ t₂ application row pool lockedPool award)
    (hseen : ∀ t ∈ l.seen, t = s) : ¬ (row.status = .approved ∨ row.status = .rejected) := by
  obtain ⟨rfl, -⟩ := h.serial hseen
  have hreviewable := h.checked.reviewable
  rintro (hstatus | hstatus) <;> rw [hstatus] at hreviewable <;> cases hreviewable

/-- What stands in the way of a repeat stays, whatever is served next. -/
theorem Done.serve {q : Request} {s : Db} (h : Done q s) (next : Request) :
    Done q (next.serve s).2 := by
  -- a decided application is decided for good when requests are served one at a time
  have decided : ∀ {id : Uuid}, (∃ x, s.applications.find id = some x ∧
      (x.status = .approved ∨ x.status = .rejected)) → ∃ x,
      (next.serve s).2.applications.find id = some x ∧
        (x.status = .approved ∨ x.status = .rejected) := by
    rintro id hx
    refine Request.serve_keeps (P := fun s => ∃ x, s.applications.find id = some x ∧
      (x.status = .approved ∨ x.status = .rejected)) hx fun l b hseen hc => ?_
    obtain ⟨x, hx, hstatus⟩ := hx
    obtain ⟨x', hx', rfl | ⟨d, newId, actor, input, t₁, t₂, read, pool, lockedPool, award, -, hd, -⟩⟩ :=
      application_row hc.scholarship hx
    · exact ⟨x', hx', hstatus⟩
    · exact absurd hstatus (hd.undecided hseen)
  cases q with
  | fundPool newId actor input =>
    refine Request.serve_keeps (P := Done (.fundPool newId actor input)) h fun l b hseen hc => ?_
    -- donations are only added, so a key once used stays used
    have hkey : s.donorContributions.any
        (fun c => c.idempotencyKey = some input.idempotencyKey) = true := h
    change (l.view s).donorContributions.any
      (fun c => c.idempotencyKey = some input.idempotencyKey) = true
    cases hc.scholarship.donations with
    | kept view => rw [view]; exact hkey
    | funded request hc fresh view =>
      rw [view]
      refine (Table.any_insert _ _ _).trans ?_
      rw [hkey]; rfl
  | approve newId actor input => exact decided h
  | reject newId actor input => exact decided h
  -- a transition needs an approved award or the status itself
  | revoke actor input =>
    refine Request.serve_keeps (P := Done (.revoke actor input)) h fun l b hseen hc => ?_
    obtain ⟨a, ha, hrevoked⟩ := h
    obtain ⟨a', ha', hcases⟩ := award_row hc.scholarship ha
    refine ⟨a', ha', ?_⟩
    rcases hcases with rfl | ⟨tr, actor', input', t₁, t₂, t₃, t₄, read, application, reread, pool,
      lockedPool, payout, vault, -, -, hmoved, rfl⟩
    · exact hrevoked
    · -- a revoked award can only be revoked
      obtain ⟨rfl, -, -⟩ := hmoved.serial hseen
      rcases hmoved.checked.legal with happroved | htarget
      · rw [hrevoked] at happroved; cases happroved
      · exact htarget.symm.trans hrevoked
  | _ => trivial

/-- What a request has left behind stays. -/
theorem Done.serveAll {q : Request} {s : Db} (h : Done q s) (qs : List Request) :
    Done q (serveAll s qs) :=
  serveAll_keeps h (fun _ next h => h.serve next) qs

/-- The pool that was found before is found after, with the same balance. -/
def SameBalance (id : Uuid) (s s' : Db) : Prop :=
  ∀ pool, s.pools.find id = some pool →
    ∃ pool', s'.pools.find id = some pool' ∧ pool'.availableFunds = pool.availableFunds

/-- **What has taken effect does not change a balance when it is repeated**, a second revocation
    apart. -/
theorem Done.sameBalance {q : Request} {s : Db} (h : Done q s) (honce : RevokesOnce q s) (id : Uuid) :
    SameBalance id s (q.serve s).2 := by
  intro x hx
  refine Request.serve_keeps (P := fun s => ∃ pool', s.pools.find id = some pool' ∧
    pool'.availableFunds = x.availableFunds) ⟨x, hx, rfl⟩ fun l b hseen heffect => ?_
  -- which operation the repeated request is, by the effect it has had
  rcases heffect.scholarship with ⟨-, hc⟩ | ⟨rfl, hc⟩ | ⟨-, hc⟩ | ⟨hq, hc⟩ | ⟨hq, hc⟩ | hc
  · obtain ⟨log, -, hview⟩ := hc.view
    rw [hview]; exact ⟨x, Table.find_insert_of_some hx _, rfl⟩
  · -- the key was used by the first run, so a second insert is refused
    have hfree := hc.keyFree.symm.trans h
    cases hfree
  · obtain ⟨log, -, hview⟩ := hc.view
    rw [hview]; exact ⟨x, hx, rfl⟩
  · rename_i d newId actor input t₁ t₂ application row pool lockedPool award
    have hdecided : ∃ x, s.applications.find input.applicationId = some x ∧
        (x.status = .approved ∨ x.status = .rejected) := by
      cases d <;> subst hq <;> exact h
    obtain ⟨y, hy, hstatus⟩ := hdecided
    -- the application is decided, and a second decision needs it reviewable
    obtain rfl : row = y := Option.some.inj (hc.locked.symm.trans hy)
    exact absurd hstatus (hc.undecided hseen)
  · rename_i tr actor input t₁ t₂ t₃ t₄ award row application reread pool lockedPool
    have hstarts := hc.starts hq hseen honce
    obtain ⟨rfl, rfl, -⟩ := hc.serial hseen
    -- a disbursement moves no funds; a second revocation would, and is excluded by the condition
    rcases hq with ⟨rfl, rfl⟩ | ⟨rfl, rfl⟩
    · obtain ⟨payout, vault, log, -, hview⟩ := hc.view
      have hid : (pool.setFunds _ hc.nonneg).id = reread.poolId := (Table.find_some hc.poolLocked).2
      obtain ⟨x', hx', hcases⟩ := Table.find_replace_row hc.poolLocked hid hx
      rw [hview]
      refine ⟨x', hx', ?_⟩
      rcases hcases with rfl | ⟨-, rfl, rfl⟩
      · rfl
      · -- the balance that was read is written back
        rfl
    · obtain ⟨a, ha, hrevoked⟩ := h
      obtain rfl : award = a := Option.some.inj (hc.locked.symm.trans ha)
      rcases hstarts with ⟨htr, -⟩ | ⟨-, happroved⟩
      · cases htr
      · rw [hrevoked] at happroved; cases happroved
  · rw [hc.pools]; exact ⟨x, hx, rfl⟩

/-! ## Every run

  Both directions in one statement, over every run from no pools. -/

/-- A run in which the balance of every pool follows its rows, and no repeat changes one. -/
structure PoolsAccounted (s : Db) (qs : List Request) : Prop where
  /-- The balance of a pool is what was donated to it less what was awarded from it. -/
  law : ∀ pre post, qs = pre ++ post → ∀ pool ∈ (serveAll s pre).pools.rows,
    pool.availableFunds.amountMinor.toInt =
      donatedSum (serveAll s pre) pool.id - awardedSum (serveAll s pre) pool.id
  /-- The repeat of a request that took effect leaves every balance. -/
  repeats : ∀ pre q mid newId post b, qs = pre ++ q :: mid ++ q.again newId :: post →
    (q.serve (serveAll s pre)).1 = .ok b →
    ∀ id, SameBalance id (serveAll s (pre ++ q :: mid))
      (serveAll s (pre ++ q :: mid ++ [q.again newId]))

/-- **A run from no pools is accounted for throughout if and only if it revokes no award that is
    revoked already.**

    From left to right: a second revocation of one award gives its amount back twice, so the state
    after it breaks the law.  From right to left the books of the pools are kept by every request,
    and a repeat finds its first run done (`Done.sameBalance`). -/
theorem pools_accounted_iff {s : Db} (h : NoPools s) (qs : List Request) :
    PoolsAccounted s qs ↔ Served RevokesOnce s qs := by
  constructor
  · intro haccounted
    -- a run that is accounted for has met the condition so far, so its books are in order
    have hbooks : ∀ pre post, qs = pre ++ post → PoolBooks (serveAll s pre) := by
      intro pre post hqs
      refine ⟨?_, haccounted.law pre post hqs⟩
      refine serveAll_keeps (PoolBooks.start h).filed ?_ pre
      intro s q hs
      refine Request.serve_keeps hs ?_
      intro l b hseen hc
      refine hs.commit hc.scholarship ?_
      intro t ht id x hx
      rw [hseen t ht] at hx
      exact ⟨x, hx⟩
    intro pre q post hqs
    have hpositive : AwardsPositive (serveAll s pre) := by
      refine serveAll_keeps ?_ (fun s q hs => hs.serve q) pre
      intro a ha
      rw [h.awards] at ha; cases ha
    refine (hbooks pre (q :: post) hqs).revokes_once hpositive ?_
    rw [← serveAll_snoc]
    exact haccounted.law (pre ++ [q]) post (by rw [hqs]; simp)
  · intro honce
    constructor
    · rintro pre post rfl
      exact (PoolBooks.serveAll h honce.prefix).law
    · intro pre q mid newId post b hqs hok id
      have hdone : Done q (serveAll s (pre ++ q :: mid)) := by
        rw [serveAll_append]
        exact (Request.serve_done hok).serveAll mid
      rw [serveAll_snoc]
      exact (hdone.again newId).sameBalance (honce _ _ post hqs) id

section

open Scenario

/-- The pool gets 100 and awards 60. -/
def Scenario.awarded : List Request :=
  [createPool 200, fundPool 201 200 100, Scenario.apply 202 200, approve 203 202 60]

/-- The pupil's database has no pools yet. -/
theorem Scenario.noPools : NoPools pupil := ⟨rfl, rfl, rfl, rfl⟩

/-- The award is revoked and revoked again: the pool that got 100 has 160.

    In five steps: the pool is created and given 100, an application is approved for 60 (40 are
    left), and the award is revoked (100 again).  The second revocation is legal, because the
    transition to the status that is there already is; it adds 60 once more. -/
theorem second_revocation_adds_again :
    NoPools pupil ∧ ¬ PoolsAccounted pupil (awarded ++ [revoke 203, revoke 203]) := by
  refine ⟨noPools, fun h => ?_⟩
  have hlaw := h.law (awarded ++ [revoke 203, revoke 203]) [] (List.append_nil _).symm
  revert hlaw
  decide

/-- Every request comes twice, but for the revocation. -/
theorem pools_accounted_iff_pupil :
    let qs := awarded ++ awarded.map (Request.again 204) ++ [revoke 203]
    (serveAll pupil qs).audit.length = 7 ∧ PoolsAccounted pupil qs :=
  ⟨by decide, (pools_accounted_iff noPools _).mpr (by decide)⟩

end

end EduStell
