/-
  The rules of `domain::payouts`: who may request and review, what is payable, the funds check, and
  which status may follow which.

  As in `EduStell.Domain.Contributions`, the graph of the transitions stands at the end as a
  relation with its table.
-/
import EduStell.Domain.Persistence

namespace EduStell

/-! ## Transitions and errors

  A transition is named by what the reviewer does and known by its target. -/

/-- `PayoutTransition`: what a reviewer can do with a payout request. -/
inductive PayoutTransition
  | moveToReview | approve | reject | markProcessing | complete | fail
  deriving DecidableEq, Repr

/-- `PayoutTransition::target_status`: the transition is known by where it goes. -/
def PayoutTransition.targetStatus : PayoutTransition → PayoutStatus
  | moveToReview => .underReview
  | approve => .approved
  | reject => .rejected
  | markProcessing => .processing
  | complete => .completed
  | fail => .failed

/-- `PayoutRuleViolation`: the ways in which a request breaks a rule of the domain. -/
inductive PayoutRuleViolation
  | amountMustBePositive
  | unauthorizedRequester
  | unauthorizedReviewer
  | schoolNotVerified
  | milestoneDoesNotBelongToVault
  | milestoneNotPayable
  | currencyMismatch
  | insufficientAvailableFunds
  | invalidStatusTransition («from» «to» : PayoutStatus)
  deriving DecidableEq, Repr

/-- `Display` of a violation: the text that a request is refused with. -/
def PayoutRuleViolation.toString : PayoutRuleViolation → String
  | amountMustBePositive => "payout amount must be positive"
  | unauthorizedRequester => "user cannot request payout"
  | unauthorizedReviewer => "user cannot review payout"
  | schoolNotVerified => "school is not verified"
  | milestoneDoesNotBelongToVault => "milestone does not belong to the specified vault"
  | milestoneNotPayable => "milestone is not payable in its current state"
  | currencyMismatch => "payout currency must match vault currency"
  | insufficientAvailableFunds => "vault has insufficient available funds"
  | invalidStatusTransition «from» «to» =>
    "invalid payout transition from " ++ asStr «from» ++ " to " ++ asStr «to»

namespace Payouts

/-! ## The rules

  Each rule of the source is a function to `Except`, and the text of its error is part of it. -/

/-- `validate_requester_role`: parents only. -/
def validateRequesterRole (role : UserRole) : Except PayoutRuleViolation Unit :=
  if role = .parent then .ok () else .error .unauthorizedRequester

/-- `validate_reviewer_role`: platform administrators only. -/
def validateReviewerRole (role : UserRole) : Except PayoutRuleViolation Unit :=
  if role = .platformAdmin then .ok () else .error .unauthorizedReviewer

/-- `validate_school_verified`: neither a pending nor a rejected school is paid. -/
def validateSchoolVerified (status : SchoolVerificationStatus) : Except PayoutRuleViolation Unit :=
  if status = .verified then .ok () else .error .schoolNotVerified

/-- `validate_payout_amount`: zero is refused as well. -/
def validatePayoutAmount (amountMinor : Int64) : Except PayoutRuleViolation Unit :=
  if amountMinor ≤ 0 then .error .amountMustBePositive else .ok ()

/-- `validate_currency_match`: the stored texts are compared. -/
def validateCurrencyMatch (payoutCurrency vaultCurrency : String) :
    Except PayoutRuleViolation Unit :=
  if payoutCurrency = vaultCurrency then .ok () else .error .currencyMismatch

/-- `validate_milestone_association`: the milestone belongs to the vault that is to pay. -/
def validateMilestoneAssociation (milestoneVaultId requestedVaultId : Uuid) :
    Except PayoutRuleViolation Unit :=
  if milestoneVaultId = requestedVaultId then .ok () else .error .milestoneDoesNotBelongToVault

/-- `validate_milestone_payable`: a milestone that is neither paid nor cancelled. -/
def validateMilestonePayable (status : MilestoneStatus) : Except PayoutRuleViolation Unit :=
  if status = .planned ∨ status = .funded ∨ status = .partiallyPaid then .ok ()
  else .error .milestoneNotPayable

/-- The subtractions wrap, as in a release build. -/
def ensureAvailableFunds (totalContributedMinor totalLockedMinor totalDisbursedMinor
    payoutAmountMinor : Int64) : Except PayoutRuleViolation Unit :=
  let available := totalContributedMinor - totalLockedMinor - totalDisbursedMinor
  if available ≥ payoutAmountMinor then .ok () else .error .insufficientAvailableFunds

/-- `validate_transition`: seven changes of status, and any transition to the status that is there
    already. -/
def validateTransition (current : PayoutStatus) (transition : PayoutTransition) :
    Except PayoutRuleViolation PayoutStatus :=
  let target := transition.targetStatus
  match current, target with
  | .pending, .underReview => .ok target
  | .pending, .rejected => .ok target
  | .underReview, .approved => .ok target
  | .underReview, .rejected => .ok target
  | .approved, .processing => .ok target
  | .processing, .completed => .ok target
  | .processing, .failed => .ok target
  | «from», «to» => if «from» = «to» then .ok «to» else .error (.invalidStatusTransition «from» «to»)

/-! ## The graph of the transitions

  As for contributions: the accepted changes of status as a relation. Only `approved` requests are
  processed, and only processed ones complete or fail. -/

/-- An accepted change of status: what `validateTransition` lets through apart from a repeat. -/
def Edge (a b : PayoutStatus) : Prop :=
  a ≠ b ∧ ∃ transition, validateTransition a transition = .ok b

/-- An accepted transition goes to its target. -/
theorem validateTransition_ok {a b : PayoutStatus} {t : PayoutTransition}
    (h : validateTransition a t = .ok b) : b = t.targetStatus := by
  cases a <;> cases t <;> simp_all [validateTransition, PayoutTransition.targetStatus]

/-- An accepted transition that changes the status is an edge, whoever asks for it. -/
theorem edge_of_ok {a b : PayoutStatus} {t : PayoutTransition}
    (h : validateTransition a t = .ok b) (hne : a ≠ b) : Edge a b :=
  ⟨hne, t, h⟩

/-- Only one transition has a given target, so an edge is accepted from that one. -/
theorem ok_of_edge {a : PayoutStatus} {t : PayoutTransition} (h : Edge a t.targetStatus) :
    validateTransition a t = .ok t.targetStatus := by
  obtain ⟨-, t', ht'⟩ := h
  have htarget := validateTransition_ok ht'
  cases t <;> cases t' <;> first | exact ht' | cases htarget

/-- The whole table of accepted changes. -/
theorem edge_iff {a b : PayoutStatus} :
    Edge a b ↔ (a, b) ∈ ([(.pending, .underReview), (.pending, .rejected),
      (.underReview, .approved), (.underReview, .rejected), (.approved, .processing),
      (.processing, .completed), (.processing, .failed)] : List (PayoutStatus × PayoutStatus)) := by
  constructor
  · rintro ⟨hne, t, ht⟩
    cases a <;> cases t <;> simp_all [validateTransition, PayoutTransition.targetStatus]
  · intro h
    simp only [List.mem_cons, Prod.mk.injEq, List.not_mem_nil, or_false] at h
    rcases h with ⟨rfl, rfl⟩ | ⟨rfl, rfl⟩ | ⟨rfl, rfl⟩ | ⟨rfl, rfl⟩ | ⟨rfl, rfl⟩ | ⟨rfl, rfl⟩ | ⟨rfl, rfl⟩
    · exact ⟨by decide, .moveToReview, rfl⟩
    · exact ⟨by decide, .reject, rfl⟩
    · exact ⟨by decide, .approve, rfl⟩
    · exact ⟨by decide, .reject, rfl⟩
    · exact ⟨by decide, .markProcessing, rfl⟩
    · exact ⟨by decide, .complete, rfl⟩
    · exact ⟨by decide, .fail, rfl⟩

/-- Whether one status may follow another can be computed. -/
instance (a b : PayoutStatus) : Decidable (Edge a b) := decidable_of_iff _ edge_iff.symm

/-- What completes or fails was being processed. -/
theorem processing_of_edge {a b : PayoutStatus} (h : Edge a b) (hb : b = .completed ∨ b = .failed) :
    a = .processing := by
  revert h
  rcases hb with rfl | rfl <;> cases a <;> decide

end Payouts
end EduStell
