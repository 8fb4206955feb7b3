/-
  The rules of `domain::scholarships`: who may fund, apply and review, the restrictions of a pool,
  the balance check, and which award status may follow which.

  `trim` and `isWhitespace` are those of the standard library of the source, for all of Unicode:
  what a restriction matches depends on them.
-/
import EduStell.Domain.Persistence

namespace EduStell

/-! ## Transitions and errors

  Approving and rejecting are transitions of the award, although it is the application that waits
  for them. -/

/-- `AwardTransition`: an application is approved or rejected, an award disbursed or revoked. -/
inductive AwardTransition
  | approve | reject | disburse | revoke
  deriving DecidableEq, Repr

/-- `AwardTransition::target_status`: the transition is known by where it goes. -/
def AwardTransition.targetStatus : AwardTransition → ScholarshipAwardStatus
  | approve => .approved
  | reject => .rejected
  | disburse => .disbursed
  | revoke => .revoked

/-- `ScholarshipRuleViolation`: the ways in which a request breaks a rule of the domain. -/
inductive ScholarshipRuleViolation
  | forbidden
  | poolClosed
  | amountMustBePositive
  | currencyMismatch
  | insufficientPoolBalance
  | childProfileAccessDenied
  | geographyRestricted
  | educationLevelRestricted
  | schoolRestricted
  | categoryRestricted
  | invalidAwardTransition
  | missingDisbursementTarget
  deriving DecidableEq, Repr

/-- `Display` of a violation: the text that a request is refused with. -/
def ScholarshipRuleViolation.toString : ScholarshipRuleViolation → String
  | forbidden => "actor is not allowed to perform this action"
  | poolClosed => "scholarship pool is not open"
  | amountMustBePositive => "amount must be positive"
  | currencyMismatch => "currency must match scholarship pool currency"
  | insufficientPoolBalance => "award amount exceeds available scholarship pool balance"
  | childProfileAccessDenied => "actor cannot apply with the specified child profile"
  | geographyRestricted => "application does not satisfy geography restriction"
  | educationLevelRestricted => "application does not satisfy education level restriction"
  | schoolRestricted => "application does not satisfy school restriction"
  | categoryRestricted => "application does not satisfy category restriction"
  | invalidAwardTransition => "invalid scholarship award transition"
  | missingDisbursementTarget => "disbursed award must link to a payout request or vault earmark"

/-! ## The rules

  `meets` is the one comparison of all four restrictions; which of them fails first decides the
  text of the error. -/

/-- `char::is_whitespace`: the code points with the Unicode property `White_Space`, which is what
    `str::trim` removes. -/
def isWhitespace (c : Char) : Bool :=
  let n := c.toNat
  (9 ≤ n && n ≤ 13) || n = 0x20 || n = 0x85 || n = 0xA0 || n = 0x1680 ||
    (0x2000 ≤ n && n ≤ 0x200A) || n = 0x2028 || n = 0x2029 || n = 0x202F || n = 0x205F || n = 0x3000

/-- `str::trim` -/
def trim (s : String) : String :=
  String.ofList ((s.toList.dropWhile isWhitespace).reverse.dropWhile isWhitespace).reverse

namespace Scholarships

/-- `validate_pool_is_open`: asked when a pool is given money and when it is applied to, not when an
    application is decided. -/
def validatePoolIsOpen (pool : ScholarshipPool) : Except ScholarshipRuleViolation Unit :=
  if pool.status = .open then .ok () else .error .poolClosed

/-- `validate_positive_amount`: zero is refused as well. -/
def validatePositiveAmount (amountMinor : Int64) : Except ScholarshipRuleViolation Unit :=
  if amountMinor > 0 then .ok () else .error .amountMustBePositive

/-- `validate_currency`: the stored texts are compared. -/
def validateCurrency (poolCurrency valueCurrency : String) : Except ScholarshipRuleViolation Unit :=
  if poolCurrency = valueCurrency then .ok () else .error .currencyMismatch

/-- `ensure_pool_balance`: an award may take the whole balance. -/
def ensurePoolBalance (availableMinor amountMinor : Int64) : Except ScholarshipRuleViolation Unit :=
  if amountMinor ≤ availableMinor then .ok () else .error .insufficientPoolBalance

/-- `can_fund_pool`: donors and platform administrators, whoever owns the pool. -/
def canFundPool (role : UserRole) : Except ScholarshipRuleViolation Unit :=
  if role = .donor ∨ role = .platformAdmin then .ok () else .error .forbidden

/-- `can_apply`: parents and students. -/
def canApply (role : UserRole) : Except ScholarshipRuleViolation Unit :=
  if role = .parent ∨ role = .student then .ok () else .error .forbidden

/-- `can_review`: platform administrators only. -/
def canReview (role : UserRole) : Except ScholarshipRuleViolation Unit :=
  if role = .platformAdmin then .ok () else .error .forbidden

/-- Whoever passes the check of reviewers is an administrator. -/
theorem canReview_ok {role : UserRole} {u : Unit} (h : canReview role = .ok u) :
    role = .platformAdmin := by
  rw [canReview] at h
  split at h
  · assumption
  · cases h

/-- Whoever fails it is none. -/
theorem canReview_error {role : UserRole} {v : ScholarshipRuleViolation}
    (h : canReview role = .error v) : role ≠ .platformAdmin := by
  rintro rfl
  cases h

/-- `validate_child_profile_access`: a student may name any child, a parent only his own. -/
def validateChildProfileAccess (role : UserRole) (actorUserId childOwnerUserId : Uuid) :
    Except ScholarshipRuleViolation Unit :=
  if role = .student ∨ actorUserId = childOwnerUserId then .ok ()
  else .error .childProfileAccessDenied

/-- A restriction that is set has to be met exactly; one that is not set is met by anything. -/
def meets {α : Type} [DecidableEq α] (expected actual : Option α) : Bool :=
  match expected with
  | some _ => actual = expected
  | none => true

/-- `validate_pool_restrictions`: the four restrictions, in the order in which they are reported;
    the texts of the application are trimmed, those of the pool are not. -/
def validatePoolRestrictions (pool : ScholarshipPool) (geography educationLevel : Option String)
    (schoolId : Option Uuid) (category : Option String) : Except ScholarshipRuleViolation Unit :=
  if !meets pool.geographyRestriction (geography.map trim) then .error .geographyRestricted
  else if !meets pool.educationLevelRestriction (educationLevel.map trim) then
    .error .educationLevelRestricted
  else if !meets pool.schoolIdRestriction schoolId then .error .schoolRestricted
  else if !meets pool.categoryRestriction (category.map trim) then .error .categoryRestricted
  else .ok ()

/-- `validate_award_transition`: a disbursement needs a payout or a vault that it is linked to. -/
def validateAwardTransition (current : ScholarshipAwardStatus) (transition : AwardTransition)
    (linkedPayoutRequestId linkedVaultId : Option Uuid) :
    Except ScholarshipRuleViolation ScholarshipAwardStatus :=
  let target := transition.targetStatus
  match current, target with
  | .approved, .disbursed =>
    if linkedPayoutRequestId.isNone ∧ linkedVaultId.isNone then .error .missingDisbursementTarget
    else .ok target
  | .approved, .revoked => .ok target
  | «from», «to» => if «from» = «to» then .ok «to» else .error .invalidAwardTransition

/-- `validate_application_reviewable`: a decided application is refused, with the error of awards.
    -/
def validateApplicationReviewable (status : ScholarshipApplicationStatus) :
    Except ScholarshipRuleViolation Unit :=
  if status = .submitted ∨ status = .underReview then .ok () else .error .invalidAwardTransition

/-- An accepted transition goes to its target, from an approved award or from the target itself. -/
theorem validateAwardTransition_ok {a b : ScholarshipAwardStatus} {t : AwardTransition}
    {p v : Option Uuid} (h : validateAwardTransition a t p v = .ok b) :
    b = t.targetStatus ∧ (a = .approved ∨ a = b) := by
  cases a <;> cases t <;> simp_all [validateAwardTransition, AwardTransition.targetStatus]
  -- left is the disbursement of an approved award, which also asks for a link
  split at h
  · cases h
  · cases h; rfl

end Scholarships
end EduStell
