/-
  When a payout that is being processed can be failed, so that its lock is released.

  A review is decided on the payout, its school, its milestone and its vault as they are now.  The
  milestone and the vault of a stored payout never stand in its way: nothing changes the one, and the
  other's lock covers the payout.  The school can: failing a payout asks for a verified school, as
  approving it did.

  `Request.serve_review` is the whole answer of a review that its role and the status of the
  payout admit; `Books.serve_fail` is what is left of it for a failure, where only the school
  decides.
-/
import EduStell.Integrity.Rows
import EduStell.Savings.Balances

namespace EduStell

open Txn Payouts Persistence

/-! ## A review served alone

  `ReviewServed` lists the outcomes, a commit or a refusal with its text.  Each of them comes with
  its reason, which is a condition on the rows as they are now: the status of the school, the
  available funds, or a total that does not fit. -/

section

variable {tr : PayoutTransition} {actor : AuthenticatedUser} {input : ReviewPayoutInput} {s : Db}
  {p : PayoutRequest} {v : SavingsVault} {x : School}

/-- How a review can end that the roles and the status of the payout admit. -/
inductive ReviewServed (tr : PayoutTransition) (actor : AuthenticatedUser)
    (input : ReviewPayoutInput) (s : Db) (p : PayoutRequest) (v : SavingsVault) (x : School) : Prop
  | done {l : Sess} {reads : ReviewReads} {v' : SavingsVault}
    (h : ReviewedAs tr actor input l s reads p v v')
    (verified : tr.needsVerifiedSchool → x.verificationStatus = .verified)
    (serve : (Request.review tr actor input).serve s =
      (.ok (.payout (reviewedRow tr actor input p)), l.view s))
  | unverified (transition : tr.needsVerifiedSchool) (school : x.verificationStatus ≠ .verified)
    (serve : (Request.review tr actor input).serve s =
      (.error (.conflict "school is not verified"), s))
  | insufficient (transition : tr = .approve)
    (funds : ensureAvailableFunds v.totalContributedMinor v.totalLockedMinor v.totalDisbursedMinor
      p.amount.amountMinor = .error .insufficientAvailableFunds)
    (serve : (Request.review tr actor input).serve s =
      (.error (.conflict "vault has insufficient available funds"), s))
  | lockedOverflow (transition : tr = .approve)
    (wraps : ¬ 0 ≤ v.totalLockedMinor + p.amount.amountMinor)
    (serve : (Request.review tr actor input).serve s = (.error (.ofPersistence
      (.checkViolation "savings_vaults" "savings_vaults_total_locked_minor_check")), s))
  | underflow (transition : tr = .complete) (short : v.totalLockedMinor < p.amount.amountMinor)
    (serve : (Request.review tr actor input).serve s =
      (.error (.conflict "vault locked balance underflow"), s))
  | disbursedOverflow (transition : tr = .complete)
    (wraps : ¬ 0 ≤ v.totalDisbursedMinor + p.amount.amountMinor)
    (serve : (Request.review tr actor input).serve s = (.error (.ofPersistence
      (.checkViolation "savings_vaults" "savings_vaults_total_disbursed_minor_check")), s))

/-- Every outcome of a review, with the reasons of its refusals. -/
theorem Request.review_ends (tr : PayoutTransition) (actor : AuthenticatedUser)
    (input : ReviewPayoutInput) : Outcomes (Request.review tr actor input).program
    (fun l s b => ∃ a, b = .payout a ∧ Reviewed tr actor input l s a)
    (fun l s r => ∃ r', r = r'.map Response.payout ∧ ReviewEnded tr actor input l s r') := by
  have hprogram : (Request.review tr actor input).program =
      .payout <$> reviewTransition actor input tr tr.auditAction := by
    rw [Request.program, reviewStep_eq]
  rw [hprogram]
  exact reviewTransition_ends.map _

/-- What the school check says. -/
theorem validateSchoolVerified_error {status : SchoolVerificationStatus} {e : PayoutRuleViolation}
    (h : validateSchoolVerified status = .error e) : status ≠ .verified ∧ e = .schoolNotVerified := by
  rw [validateSchoolVerified] at h
  split at h
  · cases h
  · cases h
    exact ⟨‹_›, rfl⟩

/-- The check of a school accepts a verified one. -/
theorem validateSchoolVerified_ok {status : SchoolVerificationStatus}
    (h : validateSchoolVerified status = .ok ()) : status = .verified := by
  rw [validateSchoolVerified] at h
  split at h
  · assumption
  · cases h

/-- The check of a role refuses whoever is no administrator. -/
theorem validateReviewerRole_error {role : UserRole} {e : PayoutRuleViolation}
    (h : validateReviewerRole role = .error e) : role ≠ .platformAdmin := by
  rw [validateReviewerRole] at h
  split at h
  · cases h
  · assumption

/-- The funds check has one error. -/
theorem ensureAvailableFunds_error {contributed locked disbursed amount : Int64}
    {e : PayoutRuleViolation} (h : ensureAvailableFunds contributed locked disbursed amount = .error e) :
    e = .insufficientAvailableFunds := by
  rw [ensureAvailableFunds] at h
  split at h
  · cases h
  · cases h; rfl

/-- The refusals that are left when the payout is where it belongs. -/
theorem ReviewRefused.serve {l : Sess} {e : ServiceError} (h : ReviewRefused tr actor input l e)
    (hseen : ∀ t ∈ l.seen, t = s) (hadmin : actor.role = .platformAdmin)
    (hp : s.payouts.find input.payoutId = some p) (hedge : Edge p.status tr.targetStatus)
    (hplaced : PayoutPlaced s p) (hv : s.vaults.find p.vaultId = some v)
    (hx : s.schools.find p.schoolId = some x) :
    (tr.needsVerifiedSchool ∧ x.verificationStatus ≠ .verified ∧
      e = .conflict "school is not verified") ∨
    (tr = .approve ∧ ensureAvailableFunds v.totalContributedMinor v.totalLockedMinor
      v.totalDisbursedMinor p.amount.amountMinor = .error .insufficientAvailableFunds ∧
      e = .conflict "vault has insufficient available funds") := by
  -- alone, every snapshot is `s`: only the verification and the funds are left to refuse
  have hrow : ∀ {row}, s.payouts.find input.payoutId = some row → row = p :=
    fun h => Option.some.inj (h.symm.trans hp)
  cases h with
  | role hrefused => exact absurd hadmin (validateReviewerRole_error hrefused)
  | missing hsnap hnone =>
    obtain rfl := hseen _ (by rw [hsnap]; exact List.mem_cons_self)
    cases hnone.symm.trans hp
  | illegal hsnap hfound hrefused =>
    obtain rfl := hseen _ (by rw [hsnap]; exact List.mem_cons_self)
    rw [hrow hfound, ok_of_edge hedge] at hrefused
    cases hrefused
  | @schoolMissing t₁ t₂ payout hsnap hfound hnone =>
    obtain rfl : t₁ = s := hseen _ (by rw [hsnap]; simp)
    obtain rfl : t₂ = t₁ := hseen _ (by rw [hsnap]; simp)
    rw [hrow hfound] at hnone
    cases hnone.symm.trans hx
  | @milestoneMissing t₁ t₂ t₃ payout hsnap hfound hnone =>
    obtain rfl : t₁ = s := hseen _ (by rw [hsnap]; simp)
    obtain rfl : t₃ = t₁ := hseen _ (by rw [hsnap]; simp)
    obtain ⟨milestone, hmilestone, -⟩ := hplaced.milestone
    rw [hrow hfound] at hnone
    cases hnone.symm.trans hmilestone
  | @vaultMissing t₁ t₂ t₃ t₄ payout hsnap hfound hnone =>
    obtain rfl : t₁ = s := hseen _ (by rw [hsnap]; simp)
    obtain rfl : t₄ = t₁ := hseen _ (by rw [hsnap]; simp)
    rw [hrow hfound] at hnone
    cases hnone.symm.trans hv
  | @milestone reads e hsnap hfound hmilestoneFound hrefused =>
    have h₁ : reads.t₁ = s := hseen _ (by rw [hsnap]; simp)
    have h₃ : reads.t₃ = s := hseen _ (by rw [hsnap]; simp)
    obtain ⟨milestone, hmilestone, hvault, hpayable⟩ := hplaced.milestone
    rw [h₁] at hfound
    rw [h₃, hrow hfound] at hmilestoneFound
    obtain hsame := Option.some.inj (hmilestoneFound.symm.trans hmilestone)
    rw [hsame, hrow hfound, hpayable, validateMilestoneAssociation, if_pos hvault] at hrefused
    rcases hrefused with hrefused | hrefused
    · cases hrefused
    · cases hrefused
  | @unverified reads e hsnap hneeds hfound hschool hrefused =>
    have h₁ : reads.t₁ = s := hseen _ (by rw [hsnap]; simp)
    have h₂ : reads.t₂ = s := hseen _ (by rw [hsnap]; simp)
    rw [h₁] at hfound
    rw [h₂, hrow hfound] at hschool
    obtain hsame := Option.some.inj (hschool.symm.trans hx)
    rw [hsame] at hrefused
    obtain ⟨hstatus, rfl⟩ := validateSchoolVerified_error hrefused
    exact .inl ⟨hneeds, hstatus, rfl⟩
  | @funds reads e hsnap happrove hfound hvault hrefused =>
    have h₁ : reads.t₁ = s := hseen _ (by rw [hsnap]; simp)
    have h₄ : reads.t₄ = s := hseen _ (by rw [hsnap]; simp)
    rw [h₁] at hfound
    rw [h₄, hrow hfound] at hvault
    obtain hsame := Option.some.inj (hvault.symm.trans hv)
    rw [hsame, hrow hfound] at hrefused
    obtain rfl := ensureAvailableFunds_error hrefused
    exact .inr ⟨happrove, hrefused, rfl⟩

/-- **A review served alone** of a payout that is where it belongs, and in a status that the
    transition leaves: it commits, or one of five guards stops it. -/
theorem Request.serve_review (hadmin : actor.role = .platformAdmin)
    (hp : s.payouts.find input.payoutId = some p) (hedge : Edge p.status tr.targetStatus)
    (hplaced : PayoutPlaced s p) (hv : s.vaults.find p.vaultId = some v)
    (hx : s.schools.find p.schoolId = some x) : ReviewServed tr actor input s p v x := by
  have hlocked : ∀ {row}, s.payouts.find input.payoutId = some row → row = p :=
    fun h => Option.some.inj (h.symm.trans hp)
  rcases (Request.review_ends tr actor input).serve s with ⟨l, hseen, ⟨r, hr, hended⟩, hdb⟩ |
    ⟨l, b, hseen, ⟨a, rfl, reads, row, vault, v', h, rfl⟩, hok, hdb⟩
  · have hread : ∀ {t}, l.seen = [t] → t = s :=
      fun ht => hseen _ (by rw [ht]; exact List.mem_cons_self)
    have hreason := hended.reason
    cases hended.stopped with
    | refused hbegan =>
      rcases (hreason _ rfl hbegan).serve hseen hadmin hp hedge hplaced hv hx with
        ⟨hneeds, hstatus, rfl⟩ | ⟨happrove, hfunds, rfl⟩
      · exact .unverified hneeds hstatus (Prod.ext hr hdb)
      · exact .insufficient happrove hfunds (Prod.ext hr hdb)
    | unchanged _ ht hfound hsame =>
      rw [hread ht] at hfound
      rw [hlocked hfound] at hsame
      exact absurd hsame hedge.1
    | repeated _ hrow hsame =>
      rw [hlocked hrow] at hsame
      exact absurd hsame hedge.1
    | gone _ hnone => cases hnone.symm.trans hp
    | vaultGone _ hrow hnone =>
      rw [hlocked hrow] at hnone
      cases hnone.symm.trans hv
    | lockedOverflow _ htr hrow _ hvault _ hwraps =>
      rw [hlocked hrow] at hvault hwraps
      obtain rfl := Option.some.inj (hv.symm.trans hvault)
      exact .lockedOverflow htr hwraps (Prod.ext hr hdb)
    | underflow _ htr hrow _ hvault _ hshort =>
      rw [hlocked hrow] at hvault hshort
      obtain rfl := Option.some.inj (hv.symm.trans hvault)
      exact .underflow htr hshort (Prod.ext hr hdb)
    | disbursedOverflow _ htr hrow _ hvault _ hwraps =>
      rw [hlocked hrow] at hvault hwraps
      obtain rfl := Option.some.inj (hv.symm.trans hvault)
      exact .disbursedOverflow htr hwraps (Prod.ext hr hdb)
  · obtain rfl := hlocked h.locked
    obtain rfl := Option.some.inj (hv.symm.trans h.vaultLocked)
    refine .done h (fun hneeds => ?_) (Prod.ext hok hdb)
    -- the school was read in this very state
    have h₁ : reads.t₁ = s := hseen _ (by rw [h.begun.seen]; simp)
    have h₂ : reads.t₂ = s := hseen _ (by rw [h.begun.seen]; simp)
    have hfound := h.begun.found
    have hschool := h.begun.schoolFound
    rw [h₁] at hfound
    rw [h₂, hlocked hfound] at hschool
    rw [← Option.some.inj (hschool.symm.trans hx)]
    exact validateSchoolVerified_ok (h.begun.verified hneeds)

end

/-! ## Releasing a lock

  Sound payouts refer to a milestone of their own vault and to a school that exists.  What is left
  is the status of the school, and a school may lose its verification at any time. -/

/-- Payouts that are sound, and what they refer to kept. -/
def payoutsContract : Contract Request.program Request.Detail Request.Stops where
  outcomes := Request.detailed
  inv := PayoutsSound
  rely := RefsKept
  arrivals _ := True
  cond _ _ _ := True
  refl := .refl
  trans := .trans
  keep {_ l s _} _ hs hseen h _ := ⟨hs.commit (fun t ht => (hseen t ht).2) h, .view l s⟩

/-- Every serial run keeps the payouts sound. -/
theorem PayoutsSound.serveAll {s : Db} (hs : PayoutsSound s) (qs : List Request) :
    PayoutsSound (serveAll s qs) :=
  serveAll_keeps hs (fun _ _ h => payoutsContract.serve trivial (fun _ _ => trivial) h) qs

/-- A payout that is being processed, failed by an administrator: the state of its school decides. -/
theorem Books.serve_fail {s : Db} (hs : Books s) (hsound : PayoutsSound s)
    {actor : AuthenticatedUser} {input : ReviewPayoutInput} {p : PayoutRequest}
    (hadmin : actor.role = .platformAdmin) (hp : s.payouts.find input.payoutId = some p)
    (hprocessing : p.status = .processing) : ∃ x v, s.schools.find p.schoolId = some x ∧
      s.vaults.find p.vaultId = some v ∧
      (x.verificationStatus = .verified → ∃ v',
        (Request.review .fail actor input).serve s =
          (.ok (.payout (reviewedRow .fail actor input p)),
            ((Request.review .fail actor input).serve s).2) ∧
        ((Request.review .fail actor input).serve s).2.payouts.find input.payoutId =
          some (reviewedRow .fail actor input p) ∧
        ((Request.review .fail actor input).serve s).2.vaults.find p.vaultId = some v' ∧
        v'.account = { v.account with locked := v.account.locked - p.amount.units }) ∧
      (x.verificationStatus ≠ .verified → (Request.review .fail actor input).serve s =
        (.error (.conflict "school is not verified"), s)) := by
  have hmem := (Table.find_some hp).1
  obtain ⟨-, hplaced⟩ := hsound p hmem
  obtain ⟨v, hv, -⟩ := hplaced.vault
  obtain ⟨x, hx⟩ := hplaced.school
  have hedge : Edge p.status PayoutTransition.fail.targetStatus := by
    rw [hprocessing]; decide
  refine ⟨x, v, hx, hv, ?_⟩
  cases Request.serve_review hadmin hp hedge hplaced hv hx with
  | @done l reads v' h hverified hserve =>
    refine ⟨fun _ => ?_, fun hnot => absurd (hverified rfl) hnot⟩
    have hle := hs.balanced.le_locked hmem hprocessing hv
    rw [hserve]
    refine ⟨v', rfl, ?_, h.vaultAfter, (h.move.account p.amount.nonneg).trans (if_pos hle)⟩
    rw [h.view]
    exact Table.find_replace_self hp (Table.find_some hp).2
  | unverified _ hstatus hserve => exact ⟨fun hverified => absurd hverified hstatus, fun _ => hserve⟩
  | insufficient htr | lockedOverflow htr | underflow htr | disbursedOverflow htr => cases htr

/-- **In every state that serial requests lead to, an administrator can fail a payout that is being
    processed exactly while its school is verified**; the vault's lock then drops by its amount.
    Otherwise the request is refused and changes nothing.

    An administrator is assumed, since anybody else is refused for his role.  The school is checked
    for every transition of `needsVerifiedSchool`, and failing is among them. -/
theorem failure_releases_if_verified {s : Db} (h : Opening s) (qs : List Request)
    (actor : AuthenticatedUser) (input : ReviewPayoutInput) {p : PayoutRequest}
    (hadmin : actor.role = .platformAdmin)
    (hp : (serveAll s qs).payouts.find input.payoutId = some p) (hprocessing : p.status = .processing) :
    let after := (Request.review .fail actor input).serve (serveAll s qs)
    ∃ x v, (serveAll s qs).schools.find p.schoolId = some x ∧
      (serveAll s qs).vaults.find p.vaultId = some v ∧
      (x.verificationStatus = .verified → ∃ p' v', after.1 = .ok (.payout p') ∧
        p'.status = .failed ∧ after.2.payouts.find input.payoutId = some p' ∧
        after.2.vaults.find p.vaultId = some v' ∧
        v'.totalLockedMinor.toInt = v.totalLockedMinor.toInt - p.amount.amountMinor.toInt ∧
        v'.totalContributedMinor = v.totalContributedMinor ∧
        v'.totalDisbursedMinor = v.totalDisbursedMinor) ∧
      (x.verificationStatus ≠ .verified →
        after = (.error (.conflict "school is not verified"), serveAll s qs)) := by
  have hbooks := (Books.start h).serveAll qs
  have hsound := (PayoutsSound.start h.payouts).serveAll qs
  obtain ⟨x, v, hx, hv, hreleased, hrefused⟩ := hbooks.serve_fail hsound hadmin hp hprocessing
  refine ⟨x, v, hx, hv, fun hverified => ?_, hrefused⟩
  obtain ⟨v', hserve, hfailed, hv', haccount⟩ := hreleased hverified
  refine ⟨_, v', congrArg Prod.fst hserve, rfl, hfailed, hv', congrArg Account.locked haccount, ?_, ?_⟩
  · exact Int64.toInt_inj.mp (congrArg Account.contributed haccount)
  · exact Int64.toInt_inj.mp (congrArg Account.disbursed haccount)

section

open Scenario

/-- A payout of 60 is approved and being processed when the school changes its status. -/
def Scenario.processedThen (status : SchoolVerificationStatus) : List Request :=
  [record 1 100, settle .confirm 1, payout 2 60, review .moveToReview 2, review .approve 2,
    review .markProcessing 2, .verifySchool admin ⟨102, status⟩]

/-- The school is rejected: the payout cannot be failed, and its amount stays locked. -/
theorem failure_blocked_by_school :
    Opening family ∧
    ((serveAll family (processedThen .rejected)).payouts.find 2).map (·.status) = some .processing ∧
    ((review .fail 2).serve (serveAll family (processedThen .rejected))).1 =
      .error (.conflict "school is not verified") ∧
    ((review .fail 2).serve (serveAll family (processedThen .rejected))).2.vaults.rows.map
      (·.totalLockedMinor) = [60] :=
  ⟨opening, by decide, rfl, by decide⟩

/-- The school stays verified: the payout fails. -/
theorem failure_releases_if_verified_family :
    ∃ p', ((review .fail 2).serve (serveAll family (processedThen .verified))).1 = .ok (.payout p') ∧
      p'.status = .failed := by
  obtain ⟨p, hp, hprocessing, hschool⟩ : ∃ p,
      (serveAll family (processedThen .verified)).payouts.find 2 = some p ∧ p.status = .processing ∧
      (serveAll family (processedThen .verified)).schools.find p.schoolId =
        some ⟨102, .verified, some 9⟩ := ⟨_, rfl, rfl, rfl⟩
  obtain ⟨x, v, hx, -, hreleased, -⟩ :=
    failure_releases_if_verified opening (processedThen .verified) admin ⟨2, none, none⟩ rfl hp hprocessing
  obtain rfl := Option.some.inj (hschool.symm.trans hx)
  obtain ⟨p', v', hok, hfailed, -⟩ := hreleased rfl
  exact ⟨p', hok, hfailed⟩

end

end EduStell
