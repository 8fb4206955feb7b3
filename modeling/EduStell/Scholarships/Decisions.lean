/-
  The decision of an application: one, and the award that goes with it.

  A decision rewrites the status of its application and adds an award, but its transaction does not
  look at the status it rewrites: that the application is still to be decided was checked on a row
  READ before.  One request after another, the two are the same row and applications and awards stay
  in step (`applications_in_step`).  Interleaved, two decisions may both pass the check; each
  application has one decision if and as long as each finds its application undecided when it writes
  (`decided_once`).

  `ReviewBooks` is the invariant of the serial part, `DecidedOnce` that of the interleaved one.
  The second asks less: not which verdict it was, but that there is one.
-/
import EduStell.Scholarships.StaleBalance

namespace EduStell

open Txn Scholarships

/-- The awards of an application. -/
def awardsOf (s : Db) (applicationId : Uuid) : List ScholarshipAward :=
  s.awards.rows.filter fun a => a.applicationId = applicationId

/-- To be decided: what `validateApplicationReviewable` accepts. -/
def ScholarshipApplicationStatus.Reviewable (status : ScholarshipApplicationStatus) : Prop :=
  status = .submitted ∨ status = .underReview

/-- Decided, one way or the other. -/
def ScholarshipApplicationStatus.Decided (status : ScholarshipApplicationStatus) : Prop :=
  status = .approved ∨ status = .rejected

/-- An award that was granted, whatever has become of it. -/
def ScholarshipAwardStatus.Granted (status : ScholarshipAwardStatus) : Prop :=
  status = .approved ∨ status = .disbursed ∨ status = .revoked

/-- What passes the check is still to be decided. -/
theorem reviewable_of_ok {status : ScholarshipApplicationStatus} {u : Unit}
    (h : validateApplicationReviewable status = .ok u) : status.Reviewable := by
  rw [validateApplicationReviewable] at h
  split at h
  · assumption
  · cases h

/-- A decision decides, one way or the other. -/
theorem Decision.decided (d : Decision) : d.applicationStatus.Decided := by
  cases d with
  | approve => exact .inl rfl
  | reject => exact .inr rfl

/-- What has been decided is not to be decided again. -/
theorem ScholarshipApplicationStatus.Decided.not_reviewable {status : ScholarshipApplicationStatus}
    (h : status.Decided) : ¬ status.Reviewable := by
  rintro (rfl | rfl) <;> rcases h with h | h <;> cases h

/-! ## The awards of one application after a commit

  A decision adds one award to its own application.  A step of an award changes the status of one
  that is there, and no other commit touches the table. -/

section

variable {q : Request} {l : Sess} {s : Db} {actor : AuthenticatedUser}

/-- The awards of an application depend on the table of awards only. -/
theorem awardsOf_congr {s' : Db} (h : s'.awards = s.awards) (id : Uuid) :
    awardsOf s' id = awardsOf s id := by
  rw [awardsOf, h]; rfl

/-- A decision adds one award to its application, and none to any other. -/
theorem DecidedAs.awardsOf_view {d : Decision} {newId : Uuid} {input : DecideScholarshipApplicationInput}
    {t₁ t₂ : Db} {application row : ScholarshipApplication} {pool lockedPool : ScholarshipPool}
    {award : ScholarshipAward}
    (h : DecidedAs d newId actor input l s t₁ t₂ application row pool lockedPool award) (id : Uuid) :
    awardsOf (l.view s) id = awardsOf s id ++
      if input.applicationId = id then [award] else [] := by
  have hfresh : s.awards.find award.id = none := by rw [h.awardOf.id]; exact h.fresh
  obtain ⟨log, -, hview⟩ := h.view
  have hawards : (l.view s).awards = s.awards.insert award := by rw [hview]
  rw [awardsOf, hawards, Table.filter_insert hfresh, h.awardOf.applicationId]
  simp only [decide_eq_true_eq]; rfl

/-- The other applications keep their awards. -/
theorem DecidedAs.awardsOf_other {d : Decision} {newId id : Uuid}
    {input : DecideScholarshipApplicationInput} {t₁ t₂ : Db}
    {application row : ScholarshipApplication} {pool lockedPool : ScholarshipPool}
    {award : ScholarshipAward}
    (h : DecidedAs d newId actor input l s t₁ t₂ application row pool lockedPool award)
    (hne : id ≠ row.id) : awardsOf (l.view s) id = awardsOf s id := by
  have hid : row.id = input.applicationId := (Table.find_some h.locked).2
  have hother : input.applicationId ≠ id := fun he => hne (he.symm.trans hid.symm)
  rw [h.awardsOf_view, if_neg hother, List.append_nil]

/-- No award refers to an application that is not there. -/
theorem Filed.awardsOf_none (hs : Filed s) {id : Uuid} (h : s.applications.find id = none) :
    awardsOf s id = [] := by
  refine List.filter_eq_nil_iff.mpr ?_
  intro a ha he
  obtain ⟨x, hx⟩ := hs.awards a ha
  rw [of_decide_eq_true he, h] at hx
  cases hx

/-- A step of an award leaves each application its awards, one of them with another status. -/
theorem AwardMovedAs.awardsOf_view {tr : AwardTransition} {input : UpdateScholarshipAwardInput}
    {t₁ t₂ t₃ t₄ : Db} {award row : ScholarshipAward} {application reread : ScholarshipApplication}
    {pool lockedPool : ScholarshipPool}
    (h : AwardMovedAs tr actor input l s t₁ t₂ t₃ t₄ award row application reread pool lockedPool)
    (id : Uuid) : awardsOf (l.view s) id = (awardsOf s id).map fun a =>
      if a.id = input.awardId then
        row.transition tr.targetStatus (tr.links input award).1 (tr.links input award).2 else a := by
  have hid : (row.transition tr.targetStatus (tr.links input award).1
      (tr.links input award).2).id = input.awardId := (Table.find_some h.locked).2
  rw [awardsOf, h.awards]
  exact Table.filter_replace h.locked hid rfl

/-- A pool keeps its currency. -/
theorem pool_currency (h : ScholarshipEffect q l s) {id : Uuid} {x : ScholarshipPool}
    (hx : s.pools.find id = some x) : ∃ x', (l.view s).pools.find id = some x' ∧
      x'.availableFunds.currency = x.availableFunds.currency := by
  cases h.pools with
  | kept view => rw [view]; exact ⟨x, hx, rfl⟩
  | created hc fresh view => rw [view]; exact ⟨x, Table.find_insert_of_some hx _, rfl⟩
  | @set k pool funds nonneg locked view =>
    have hkey : (pool.setFunds funds nonneg).id = k := (Table.find_some locked).2
    obtain ⟨x', hx', hcases⟩ := Table.find_replace_row locked hkey hx
    refine ⟨x', by rw [view]; exact hx', ?_⟩
    rcases hcases with rfl | ⟨-, rfl, rfl⟩
    · rfl
    · rfl

end

/-! ## In step

  `Verdict` is one statement with three cases; `InStep` reads it in both directions, from the
  application to its awards and back. -/

/-- An application and its awards, as they should go together. -/
inductive Verdict (s : Db) (x : ScholarshipApplication) : Prop
  /-- Still to be decided, without an award. -/
  | undecided (status : x.status.Reviewable) (awards : awardsOf s x.id = [])
  /-- Rejected, with a rejection as its one award. -/
  | rejected {a : ScholarshipAward} (status : x.status = .rejected) (awards : awardsOf s x.id = [a])
    (award : a.status = .rejected)
  /-- Approved, with one award that was granted from its pool. -/
  | approved {a : ScholarshipAward} {pool : ScholarshipPool} (status : x.status = .approved)
    (awards : awardsOf s x.id = [a]) (award : a.status.Granted) (positive : 0 < a.amount.amountMinor)
    (found : s.pools.find x.poolId = some pool)
    (currency : a.amount.currency = pool.availableFunds.currency)

/-- The same, read in both directions. -/
structure InStep (s : Db) (x : ScholarshipApplication) : Prop where
  /-- An application is to be decided exactly if it has no award. -/
  undecided : x.status.Reviewable ↔ awardsOf s x.id = []
  /-- It is rejected exactly if its one award is a rejection. -/
  rejected : x.status = .rejected ↔ ∃ a, awardsOf s x.id = [a] ∧ a.status = .rejected
  /-- It is approved exactly if its one award was granted, of a positive amount and in the
      currency of its pool. -/
  approved : x.status = .approved ↔ ∃ a pool, awardsOf s x.id = [a] ∧ a.status.Granted ∧
    0 < a.amount.amountMinor ∧ s.pools.find x.poolId = some pool ∧
    a.amount.currency = pool.availableFunds.currency

/-- What was granted is no rejection. -/
theorem ScholarshipAwardStatus.Granted.not_rejected {status : ScholarshipAwardStatus}
    (h : status.Granted) : status ≠ .rejected := by
  rcases h with rfl | rfl | rfl <;> decide

/-- Each verdict excludes the two others. -/
theorem Verdict.inStep {s : Db} {x : ScholarshipApplication} (h : Verdict s x) : InStep s x := by
  cases h with
  | undecided hstatus hawards =>
    constructor
    · simp [hstatus, hawards]
    · rcases hstatus with hstatus | hstatus <;> simp [hstatus, hawards]
    · rcases hstatus with hstatus | hstatus <;> simp [hstatus, hawards]
  | rejected hstatus hawards haward =>
    constructor
    · simp [hstatus, hawards, ScholarshipApplicationStatus.Reviewable]
    · simp [hstatus, hawards, haward]
    · simp [hstatus, hawards, haward, ScholarshipAwardStatus.Granted]
  | approved hstatus hawards haward hpositive hfound hcurrency =>
    constructor
    · simp [hstatus, hawards, ScholarshipApplicationStatus.Reviewable]
    · simp [hstatus, hawards, haward.not_rejected]
    · simp [hstatus, hawards, haward, hpositive, hfound, hcurrency]

/-- What a verdict rests on: the awards of the application, and the currency of its pool. -/
theorem Verdict.keep {s s' : Db} {x : ScholarshipApplication} (h : Verdict s x)
    (hawards : awardsOf s' x.id = awardsOf s x.id)
    (hpools : ∀ pool, s.pools.find x.poolId = some pool → ∃ pool', s'.pools.find x.poolId = some pool' ∧
      pool'.availableFunds.currency = pool.availableFunds.currency) : Verdict s' x := by
  cases h with
  | undecided hstatus hnone => exact .undecided hstatus (hawards.trans hnone)
  | rejected hstatus hone haward => exact .rejected hstatus (hawards.trans hone) haward
  | approved hstatus hone haward hpositive hfound hcurrency =>
    obtain ⟨pool', hpool', hsame⟩ := hpools _ hfound
    exact .approved hstatus (hawards.trans hone) haward hpositive hpool' (hcurrency.trans hsame.symm)

/-- Scholarship tables in order: the foreign keys, currencies that have been read from the database,
    and every application in step with its awards. -/
structure ReviewBooks (s : Db) : Prop where
  filed : Filed s
  parsed : ∀ pool ∈ s.pools.rows,
    Currency.parse pool.availableFunds.currency.asStr = .ok pool.availableFunds.currency
  verdicts : ∀ x ∈ s.applications.rows, Verdict s x

section

variable {q : Request} {l : Sess} {s : Db} {actor : AuthenticatedUser}

/-- A decision of an application that is to be decided settles it. -/
theorem DecidedAs.verdict {d : Decision} {newId : Uuid} {input : DecideScholarshipApplicationInput}
    {t₁ t₂ : Db} {application row : ScholarshipApplication} {pool : ScholarshipPool}
    {award : ScholarshipAward}
    (h : DecidedAs d newId actor input l s t₁ t₂ application row pool pool award)
    (hparsed : Currency.parse pool.availableFunds.currency.asStr = .ok pool.availableFunds.currency)
    (hnone : awardsOf s row.id = []) : Verdict (l.view s) (row.setStatus d.applicationStatus) := by
  have hid : row.id = input.applicationId := (Table.find_some h.locked).2
  have hone : awardsOf (l.view s) row.id = [award] := by
    rw [h.awardsOf_view, hnone, hid, if_pos rfl, List.nil_append]
  cases d with
  | reject => exact .rejected rfl hone h.awardOf.status
  | approve =>
    have hamount : 0 < award.amount.amountMinor := by
      rw [h.awardOf.amount]; exact (h.checked.covered rfl).1
    have hpool : (l.view s).pools.find row.poolId = some (pool.setFunds _ h.nonneg) := by
      obtain ⟨log, -, hview⟩ := h.view
      rw [hview]
      exact Table.find_replace_self h.poolLocked (Table.find_some h.poolLocked).2
    -- both currencies are what the text of the request parses to
    have hcurrency : award.amount.currency = pool.availableFunds.currency := by
      have haward := h.parsed
      rw [h.awardOf.currency, ← h.checked.currency rfl, hparsed] at haward
      exact (Except.ok.inj haward).symm
    exact .approved rfl hone (.inl h.awardOf.status) hamount hpool hcurrency

/-- An award transition that has read the row it rewrites leaves a verdict as it is. -/
theorem AwardMovedAs.verdict {tr : AwardTransition} {input : UpdateScholarshipAwardInput}
    {t₁ t₂ t₃ t₄ : Db} {row : ScholarshipAward} {application reread : ScholarshipApplication}
    {pool lockedPool : ScholarshipPool}
    (h : AwardMovedAs tr actor input l s t₁ t₂ t₃ t₄ row row application reread pool lockedPool)
    (htr : tr = .disburse ∨ tr = .revoke) {x : ScholarshipApplication} (hx : Verdict s x)
    (hpools : ∀ pool, s.pools.find x.poolId = some pool → ∃ pool',
      (l.view s).pools.find x.poolId = some pool' ∧
        pool'.availableFunds.currency = pool.availableFunds.currency) : Verdict (l.view s) x := by
  have hawards := h.awardsOf_view x.id
  -- an award of the application is the one that moves, or stays
  have hrow : ∀ {a}, awardsOf s x.id = [a] → a.id = input.awardId → a = row := by
    intro a hone hkey
    have hmem : a ∈ awardsOf s x.id := by rw [hone]; exact List.mem_singleton_self a
    have hfound : s.awards.find a.id = some a := Table.find_key (List.mem_filter.mp hmem).1
    rw [hkey, h.locked] at hfound
    exact (Option.some.inj hfound).symm
  cases hx with
  | undecided hstatus hnone =>
    rw [hnone, List.map_nil] at hawards
    exact .undecided hstatus hawards
  | rejected hstatus hone haward =>
    rename_i a
    have hstays : a.id ≠ input.awardId := by
      intro hkey
      obtain rfl := hrow hone hkey
      rcases h.checked.legal with hlegal | hlegal
      · rw [haward] at hlegal; cases hlegal
      · rcases htr with rfl | rfl <;> (rw [haward] at hlegal; cases hlegal)
    rw [hone, List.map_singleton, if_neg hstays] at hawards
    exact .rejected hstatus hawards haward
  | approved hstatus hone haward hpositive hfound hcurrency =>
    obtain ⟨pool', hpool', hsame⟩ := hpools _ hfound
    rw [hone, List.map_singleton] at hawards
    split at hawards
    · rename_i hkey
      obtain rfl := hrow hone hkey
      have hgranted : tr.targetStatus.Granted := by
        rcases htr with rfl | rfl
        · exact .inr (.inl rfl)
        · exact .inr (.inr rfl)
      exact .approved hstatus hawards hgranted hpositive hpool' (hcurrency.trans hsame.symm)
    · exact .approved hstatus hawards haward hpositive hpool' (hcurrency.trans hsame.symm)

namespace ReviewBooks

/-- A database without pools has nothing to decide. -/
theorem start (h : NoPools s) : ReviewBooks s := by
  refine ⟨(PoolBooks.start h).filed, ?_, ?_⟩
  · intro pool hpool
    rw [h.pools] at hpool; cases hpool
  · intro x hx
    rw [h.applications] at hx; cases hx

/-- The currencies of the pools stay what they are, and a new pool brings one that was read back. -/
theorem parsed_commit (hs : ReviewBooks s) (h : ScholarshipEffect q l s) :
    ∀ pool ∈ (l.view s).pools.rows,
      Currency.parse pool.availableFunds.currency.asStr = .ok pool.availableFunds.currency := by
  intro x hx
  cases h.pools with
  | kept view => rw [view] at hx; exact hs.parsed x hx
  | created hc fresh view =>
    rw [view, Table.mem_insert fresh] at hx
    rcases hx with hx | rfl
    · exact hs.parsed x hx
    · exact hc.parsed
  | @set _ pool _ _ locked view =>
    rw [view] at hx
    rcases Table.mem_replace hx with rfl | ⟨hx, -⟩
    · exact hs.parsed pool (Table.find_some locked).1
    · exact hs.parsed x hx

/-- **A request served alone** keeps every application in step with its awards. -/
theorem serve (hs : ReviewBooks s) (q : Request) : ReviewBooks (q.serve s).2 := by
  refine Request.serve_keeps hs ?_
  intro l b hseen h
  have heffect := h.scholarship
  -- the filed ids, the currencies that parse, and a verdict for each application
  refine ⟨?_, hs.parsed_commit heffect, ?_⟩
  · refine hs.filed.commit heffect ?_
    intro t ht id x hx
    rw [hseen t ht] at hx
    exact ⟨x, hx⟩
  -- the verdict on one application, by what the operation has done
  intro x hx
  have hpools : ∀ pool, s.pools.find x.poolId = some pool → ∃ pool',
      (l.view s).pools.find x.poolId = some pool' ∧
        pool'.availableFunds.currency = pool.availableFunds.currency :=
    fun pool hpool => pool_currency heffect hpool
  rcases heffect with ⟨-, hc⟩ | ⟨-, hc⟩ | ⟨-, hc⟩ | ⟨-, hc⟩ | ⟨hq, hc⟩ | hc
  · -- a new pool
    obtain ⟨log, -, hview⟩ := hc.view
    have hmem : x ∈ s.applications.rows := by rw [hview] at hx; exact hx
    exact (hs.verdicts x hmem).keep (awardsOf_congr (by rw [hview]) _) hpools
  · -- a pool is funded
    obtain ⟨log, -, hview⟩ := hc.view
    have hmem : x ∈ s.applications.rows := by rw [hview] at hx; exact hx
    exact (hs.verdicts x hmem).keep (awardsOf_congr (by rw [hview]) _) hpools
  · -- a new application
    rename_i newId actor input a
    have hfresh : s.applications.find a.id = none := by rw [hc.id]; exact hc.fresh
    obtain ⟨log, -, hview⟩ := hc.view
    have hsame : awardsOf (l.view s) x.id = awardsOf s x.id := awardsOf_congr (by rw [hview]) _
    have happlications : (l.view s).applications = s.applications.insert a := by rw [hview]
    rw [happlications] at hx
    rcases (Table.mem_insert hfresh).mp hx with hx | rfl
    · exact (hs.verdicts x hx).keep hsame hpools
    · exact .undecided (.inl hc.status) (hsame.trans (hs.filed.awardsOf_none hfresh))
  · -- an application is decided
    rename_i d newId actor input t₁ t₂ read row pool lockedPool award
    obtain ⟨rfl, rfl⟩ := hc.serial hseen
    have hmem : read ∈ s.applications.rows := (Table.find_some hc.locked).1
    have happlications : (l.view s).applications =
        s.applications.replace (read.setStatus d.applicationStatus) := by
      obtain ⟨log, -, hview⟩ := hc.view
      rw [hview]
    rw [happlications] at hx
    rcases Table.mem_replace hx with rfl | ⟨hx, hne⟩
    · refine hc.verdict (hs.parsed pool (Table.find_some hc.poolLocked).1) ?_
      exact (hs.verdicts read hmem).inStep.undecided.mp (reviewable_of_ok hc.checked.reviewable)
    · exact (hs.verdicts x hx).keep (hc.awardsOf_other hne) hpools
  · -- an award moves
    rename_i tr actor input t₁ t₂ t₃ t₄ award row application reread pool lockedPool
    obtain ⟨rfl, -, -⟩ := hc.serial hseen
    obtain ⟨payout, vault, log, -, hview⟩ := hc.view
    have hmem : x ∈ s.applications.rows := by rw [hview] at hx; exact hx
    exact hc.verdict (hq.imp And.left And.left) (hs.verdicts x hmem) hpools
  · -- what does not touch the scholarship tables
    have hmem : x ∈ s.applications.rows := by rw [hc.applications] at hx; exact hx
    exact (hs.verdicts x hmem).keep (awardsOf_congr hc.awards _) hpools

/-- One request after another keeps the books. -/
theorem serveAll (h : NoPools s) (qs : List Request) : ReviewBooks (serveAll s qs) :=
  serveAll_keeps (start h) (fun _ q hs => hs.serve q) qs

end ReviewBooks

end

/-- **Applications and awards stay in step** in every run of requests one after another.

    `InStep` is a correspondence in both directions for each of the three outcomes, so an award
    without its decision is excluded as well as a decision without its award. -/
theorem applications_in_step {s : Db} (h : NoPools s) (qs : List Request) :
    ∀ x ∈ (serveAll s qs).applications.rows, InStep (serveAll s qs) x :=
  fun x hx => ((ReviewBooks.serveAll h qs).verdicts x hx).inStep

section

open Scenario

/-- A pool of 100, three applications to it, one approved and disbursed twice, one rejected. -/
def Scenario.reviewed : List Request :=
  [createPool 200, fundPool 201 200 100, Scenario.apply 202 200, Scenario.apply 203 200,
    Scenario.apply 204 200, approve 205 202 60, disburse 205, disburse 205,
    .reject 206 admin ⟨203, 0, usd, none⟩]

/-- One of each kind. -/
theorem applications_in_step_pupil :
    ((serveAll pupil reviewed).applications.rows.map (·.status)) = [.approved, .rejected, .submitted] ∧
    ∀ x ∈ (serveAll pupil reviewed).applications.rows, InStep (serveAll pupil reviewed) x :=
  ⟨by decide, applications_in_step noPools reviewed⟩

end

/-! ## Interleaved decisions

  The condition is on the locked application, where the code does not look: `DecidesReviewable`
  asks that it is still to be decided when the decision holds its lock. -/

/-- While a decision holds the lock of its application, the application is still to be decided. -/
def DecidesReviewable : Request → Sess → Db → Prop
  | .approve _ _ input, l, s => .application input.applicationId ∈ l.locks →
    ∀ x ∈ s.applications.find input.applicationId, x.status.Reviewable
  | .reject _ _ input, l, s => .application input.applicationId ∈ l.locks →
    ∀ x ∈ s.applications.find input.applicationId, x.status.Reviewable
  | _, _, _ => True

/-- Whether an application is to be decided can be decided. -/
instance : DecidablePred ScholarshipApplicationStatus.Reviewable :=
  fun _ => inferInstanceAs (Decidable (_ ∨ _))

/-- Whether an application has been decided can be decided. -/
instance : DecidablePred ScholarshipApplicationStatus.Decided :=
  fun _ => inferInstanceAs (Decidable (_ ∨ _))

/-- Approvals and rejections. -/
def Decides : Request → Prop
  | .approve _ _ _ => True
  | .reject _ _ _ => True
  | _ => False

/-- Whether a request is a decision can be decided. -/
instance : DecidablePred Decides
  | .approve .. | .reject .. => .isTrue trivial
  | .record .. | .settle .. | .createPayout .. | .review .. | .verifySchool ..
  | .createPool .. | .fundPool .. | .createApplication .. | .disburse .. | .revoke .. => .isFalse id

/-- Whether a decision meets the condition can be decided. -/
instance (q : Request) (l : Sess) (s : Db) : Decidable (DecidesReviewable q l s) :=
  match q with
  | .approve .. | .reject .. => inferInstanceAs (Decidable (_ → _))
  | .record .. | .settle .. | .createPayout .. | .review .. | .verifySchool ..
  | .createPool .. | .fundPool .. | .createApplication .. | .disburse .. | .revoke .. => .isTrue trivial

/-- What is to be decided has no award, and what has been decided has at most one. -/
structure DecidedOnce (s : Db) : Prop where
  filed : Filed s
  /-- What is to be decided has no award. -/
  undecided : ∀ x ∈ s.applications.rows, x.status.Reviewable → awardsOf s x.id = []
  /-- No application has two. -/
  once : ∀ id, (awardsOf s id).length ≤ 1

/-- Books that are in step have one decision for each application. -/
theorem ReviewBooks.decidedOnce {s : Db} (h : ReviewBooks s) : DecidedOnce s := by
  refine ⟨h.filed, fun x hx => (h.verdicts x hx).inStep.undecided.mp, ?_⟩
  intro id
  cases hawards : awardsOf s id with
  | nil => simp
  | cons a as =>
    -- an award has its application, and that application has one award
    have ha : a ∈ s.awards.rows ∧ a.applicationId = id := by
      have hmem : a ∈ awardsOf s id := by rw [hawards]; exact List.mem_cons_self
      simpa [awardsOf] using hmem
    obtain ⟨x, hx⟩ := h.filed.awards a ha.1
    have hid : x.id = id := (Table.find_some hx).2.trans ha.2
    rw [← hawards, ← hid]
    cases h.verdicts x (Table.find_some hx).1 with
    | undecided _ hnone => simp [hnone]
    | rejected _ hone => simp [hone]
    | approved _ hone => simp [hone]

/-- A later state still has every pool, and every decided application with its decision. -/
structure DecisionsKept (s s' : Db) : Prop where
  pools : ∀ id x, s.pools.find id = some x → ∃ x', s'.pools.find id = some x'
  /-- What has been decided stays decided as it was. -/
  applications : ∀ id x, s.applications.find id = some x → x.status.Decided →
    ∃ x', s'.applications.find id = some x' ∧ x'.status = x.status

namespace DecisionsKept

/-- Nothing has been decided in between. -/
theorem refl (s : Db) : DecisionsKept s s :=
  ⟨fun _ x hx => ⟨x, hx⟩, fun _ x hx _ => ⟨x, hx, rfl⟩⟩

/-- What is kept over two stretches is kept over both. -/
theorem trans {s t u : Db} (hst : DecisionsKept s t) (htu : DecisionsKept t u) :
    DecisionsKept s u := by
  constructor
  · intro id x hx
    obtain ⟨x', hx'⟩ := hst.pools id x hx
    exact htu.pools id x' hx'
  · intro id x hx hdecided
    obtain ⟨x', hx', hstatus⟩ := hst.applications id x hx hdecided
    obtain ⟨x'', hx'', hstatus'⟩ := htu.applications id x' hx' (by rw [hstatus]; exact hdecided)
    exact ⟨x'', hx'', hstatus'.trans hstatus⟩

end DecisionsKept

section

variable {q : Request} {l : Sess} {s : Db} {actor : AuthenticatedUser}

/-- The application that a decision finds when it writes, where it meets the condition. -/
theorem DecidedAs.reviewable {d : Decision} {newId : Uuid}
    {input : DecideScholarshipApplicationInput} {t₁ t₂ : Db}
    {application row : ScholarshipApplication} {pool lockedPool : ScholarshipPool}
    {award : ScholarshipAward}
    (hq : q = match d with
      | .approve => .approve newId actor input
      | .reject => .reject newId actor input)
    (h : DecidedAs d newId actor input l s t₁ t₂ application row pool lockedPool award)
    (hcond : DecidesReviewable q l s) : row.status.Reviewable := by
  cases d with
  | approve => subst hq; exact hcond h.held row h.locked
  | reject => subst hq; exact hcond h.held row h.locked

/-- A commit that meets the condition keeps the decisions: it decides what was to be decided. -/
theorem DecisionsKept.commit (h : ScholarshipEffect q l s) (hcond : DecidesReviewable q l s) :
    DecisionsKept s (l.view s) := by
  constructor
  · intro id x hx
    exact pool_row h hx
  · intro id x hx hdecided
    cases h.applications with
    | kept view => rw [view]; exact ⟨x, hx, rfl⟩
    | applied hc fresh view => rw [view]; exact ⟨x, Table.find_insert_of_some hx _, rfl⟩
    | @decided d _ _ input _ _ _ row _ _ _ request hc view =>
      have hid : (row.setStatus d.applicationStatus).id = input.applicationId :=
        (Table.find_some hc.locked).2
      obtain ⟨x', hx', hcases⟩ := Table.find_replace_row hc.locked hid hx
      refine ⟨x', by rw [view]; exact hx', ?_⟩
      rcases hcases with rfl | ⟨-, rfl, -⟩
      · rfl
      · exact absurd (hc.reviewable request hcond) hdecided.not_reviewable

/-- A commit that meets the condition adds no second award. -/
theorem DecidedOnce.commit (hs : DecidedOnce s) (h : ScholarshipEffect q l s)
    (hseen : ∀ t ∈ l.seen, DecisionsKept t s) (hcond : DecidesReviewable q l s) :
    DecidedOnce (l.view s) := by
  have hfiled : Filed (l.view s) := hs.filed.commit h fun t ht => (hseen t ht).pools
  rcases h with ⟨-, hc⟩ | ⟨-, hc⟩ | ⟨-, hc⟩ | ⟨hq, hc⟩ | ⟨-, hc⟩ | hc
  · -- a new pool
    obtain ⟨log, -, hview⟩ := hc.view
    rw [hview] at hfiled ⊢
    exact ⟨hfiled, hs.undecided, hs.once⟩
  · -- a pool is funded
    obtain ⟨log, -, hview⟩ := hc.view
    rw [hview] at hfiled ⊢
    exact ⟨hfiled, hs.undecided, hs.once⟩
  · -- a new application
    rename_i newId actor input a
    have hfresh : s.applications.find a.id = none := by rw [hc.id]; exact hc.fresh
    obtain ⟨log, -, hview⟩ := hc.view
    rw [hview] at hfiled ⊢
    refine ⟨hfiled, ?_, hs.once⟩
    intro x hx hstatus
    rcases (Table.mem_insert hfresh).mp hx with hx | rfl
    · exact hs.undecided x hx hstatus
    · exact hs.filed.awardsOf_none hfresh
  · -- a decision: the application had no award before
    rename_i d newId actor input t₁ t₂ read row pool lockedPool award
    have hid : row.id = input.applicationId := (Table.find_some hc.locked).2
    have hnone : awardsOf s input.applicationId = [] := by
      rw [← hid]
      exact hs.undecided row (Table.find_some hc.locked).1 (hc.reviewable hq hcond)
    refine ⟨hfiled, ?_, ?_⟩
    · intro x hx hstatus
      obtain ⟨log, -, hview⟩ := hc.view
      rw [hview] at hx
      rcases Table.mem_replace hx with rfl | ⟨hx, hne⟩
      · exact absurd hstatus d.decided.not_reviewable
      · exact (hc.awardsOf_other hne).trans (hs.undecided x hx hstatus)
    · intro id
      rw [hc.awardsOf_view]
      split
      · rename_i he
        rw [← he, hnone]; simp
      · rw [List.append_nil]; exact hs.once id
  · -- an award moves
    refine ⟨hfiled, ?_, ?_⟩
    · intro x hx hstatus
      have hmem : x ∈ s.applications.rows := by
        obtain ⟨payout, vault, log, -, hview⟩ := hc.view
        rw [hview] at hx; exact hx
      rw [hc.awardsOf_view, hs.undecided x hmem hstatus, List.map_nil]
    · intro id
      rw [hc.awardsOf_view, List.length_map]
      exact hs.once id
  · -- what does not touch the scholarship tables
    refine ⟨hfiled, ?_, ?_⟩
    · intro x hx hstatus
      rw [hc.applications] at hx
      rw [awardsOf_congr hc.awards]
      exact hs.undecided x hx hstatus
    · intro id
      rw [awardsOf_congr hc.awards]
      exact hs.once id

end

/-- Requests that decide only what is to be decided. -/
def decisionContract : Contract Request.program Request.Effect Request.Stops where
  outcomes := Request.outcomes
  inv := DecidedOnce
  rely := DecisionsKept
  arrivals _ := True
  cond := DecidesReviewable
  refl := DecisionsKept.refl
  trans := DecisionsKept.trans
  keep _ hs hseen h hcond :=
    ⟨hs.commit h.scholarship (fun t ht => (hseen t ht).2) hcond, .commit h.scholarship hcond⟩

/-- **One decision for each application**, in every run in which each decision finds its application
    still to be decided when it writes.

    Two parts: an application has one award at most, and once it is decided its status stays, from
    every prefix of the run to its end. -/
theorem decided_once {s : Db} (hs : DecidedOnce s) {es : List Happening}
    (h : System.Meets Request.program (System.allows (fun _ => True) DecidesReviewable)
      (System.start s) es) :
    (∀ id, (awardsOf (Sys.after s es).db id).length ≤ 1) ∧
    ∀ pre post, es = pre ++ post → ∀ id x, (Sys.after s pre).db.applications.find id = some x →
      x.status.Decided →
      ∃ x', (Sys.after s es).db.applications.find id = some x' ∧ x'.status = x.status := by
  constructor
  · exact (decisionContract.sound hs h).inv.once
  · rintro pre post rfl id x hx hdecided
    exact (decisionContract.rely_run hs pre h).applications id x hx hdecided

section

open Scenario

/-- In the funded pool every application has at most one decision. -/
theorem Scenario.fundedDecidedOnce : DecidedOnce funded :=
  (ReviewBooks.serveAll noPools _).decidedOnce

/-- An approval and a rejection of one application: both read it before either writes. -/
def Scenario.decisionRace : List Happening :=
  [.call 0 (approve 203 202 60), .call 1 (.reject 204 admin ⟨202, 0, usd, none⟩), .step 0, .step 1] ++
  List.replicate 11 (.step 0) ++ List.replicate 11 (.step 1)

/-- The approval is overwritten, and the application has two awards.

    The application is read as submitted by both calls.  The approval commits with its award; the
    rejection then locks the application, does not look at its status, and inserts a second award.
    -/
theorem decided_twice :
    DecidedOnce funded ∧
    System.Meets Request.program (System.allows Decides fun _ _ _ => True)
      (System.start funded) decisionRace ∧
    (¬ ∀ id, (awardsOf (Sys.after funded decisionRace).db id).length ≤ 1) ∧
    ((Sys.after funded (decisionRace.take 15)).db.applications.find 202).map (·.status) =
      some .approved ∧
    ((Sys.after funded decisionRace).db.applications.find 202).map (·.status) = some .rejected := by
  refine ⟨fundedDecidedOnce, by decide, ?_, by decide, by decide⟩
  intro h
  exact absurd (h 202) (by decide)

/-- One after the other, the second is refused. -/
theorem decided_once_in_turn :
    let es := alone 0 (approve 203 202 60) 12 ++ alone 1 (.reject 204 admin ⟨202, 0, usd, none⟩) 12
    (awardsOf (Sys.after funded es).db 202).map (·.status) = [.approved] ∧
    ∀ id, (awardsOf (Sys.after funded es).db id).length ≤ 1 :=
  ⟨by decide, (decided_once fundedDecidedOnce (by decide)).1⟩

end

end EduStell
