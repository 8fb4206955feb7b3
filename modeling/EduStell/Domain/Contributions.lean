/-
  The rules of `domain::contributions`: who may contribute and settle, and which status may follow
  which.

  The rules come first, as the source has them; the graph of the transitions stands at the end, as
  a relation with its whole table.  What is proved of the services speaks of the relation.
-/
import EduStell.Domain.Persistence

namespace EduStell

/-! ## Ledger, transitions and errors

  The types of the rules, with the texts of the errors. -/

/-- `VaultLedgerEntryType`: money enters a vault with a confirmation and leaves it with a reversal.
    -/
inductive VaultLedgerEntryType
  | contributionConfirmed | contributionReversed
  deriving DecidableEq, Repr

/-- One line of a vault's ledger; `balance_nonneg` is the CHECK of its table.  The metadata column
    holds one field, the status of the contribution. -/
structure VaultLedgerEntry where
  vaultId : Uuid
  contributionId : Option Uuid
  actorUserId : Option Uuid
  entryType : VaultLedgerEntryType
  amount : Money
  balanceAfterMinor : Int64
  externalReference : Option String
  contributionStatus : ContributionStatus
  balance_nonneg : 0 ≤ balanceAfterMinor

/-- `ContributionTransition`: what an administrator can do with a contribution. -/
inductive ContributionTransition
  | confirm | fail | reverse
  deriving DecidableEq, Repr

/-- `ContributionTransition::target_status`: the transition is known by where it goes. -/
def ContributionTransition.targetStatus : ContributionTransition → ContributionStatus
  | confirm => .confirmed
  | fail => .failed
  | reverse => .reversed

/-- `ContributionRuleViolation`: the ways in which a request breaks a rule of the domain. -/
inductive ContributionRuleViolation
  | amountMustBePositive
  | currencyMismatch
  | unauthorizedContributor
  | unauthorizedSettlementActor
  | invalidStatusTransition («from» «to» : ContributionStatus)
  deriving DecidableEq, Repr

/-- `Display` of a violation: the text that a request is refused with. -/
def ContributionRuleViolation.toString : ContributionRuleViolation → String
  | amountMustBePositive => "contribution amount must be positive"
  | currencyMismatch => "contribution currency must match vault currency"
  | unauthorizedContributor => "user is not allowed to contribute to this vault"
  | unauthorizedSettlementActor => "user is not allowed to settle contributions"
  | invalidStatusTransition «from» «to» =>
    "invalid contribution transition from " ++ asStr «from» ++ " to " ++ asStr «to»

namespace Contributions

/-! ## The rules

  Each rule of the source is a function to `Except`, and the text of its error is part of it. -/

/-- `validate_contribution_amount`: zero is refused as well. -/
def validateContributionAmount (amountMinor : Int64) : Except ContributionRuleViolation Unit :=
  if amountMinor ≤ 0 then .error .amountMustBePositive else .ok ()

/-- `validate_contribution_currency`: the stored texts are compared. -/
def validateContributionCurrency (contributionCurrency vaultCurrency : String) :
    Except ContributionRuleViolation Unit :=
  if contributionCurrency ≠ vaultCurrency then .error .currencyMismatch else .ok ()

/-- `can_view_or_fund_vault`: the parent whose vault it is, or a parent or contributor who is
    listed. -/
def canViewOrFundVault (actorRole : UserRole) (actorUserId vaultOwnerUserId : Uuid)
    (isExplicitContributor : Bool) : Except ContributionRuleViolation Unit :=
  if actorUserId = vaultOwnerUserId ∧ actorRole = .parent then .ok ()
  else if isExplicitContributor ∧ (actorRole = .contributor ∨ actorRole = .parent) then .ok ()
  else .error .unauthorizedContributor

/-- `can_settle_contribution`: platform administrators only. -/
def canSettleContribution (actorRole : UserRole) : Except ContributionRuleViolation Unit :=
  if actorRole = .platformAdmin then .ok () else .error .unauthorizedSettlementActor

/-- `validate_transition`: three changes of status, and any transition to the status that is there
    already. -/
def validateTransition (current : ContributionStatus) (transition : ContributionTransition) :
    Except ContributionRuleViolation ContributionStatus :=
  let target := transition.targetStatus
  match current, target with
  | .pending, .confirmed => .ok target
  | .pending, .failed => .ok target
  | .confirmed, .reversed => .ok target
  | «from», «to» => if «from» = «to» then .ok «to» else .error (.invalidStatusTransition «from» «to»)

/-! ## The graph of the transitions

  What a service may do to a status is one relation: `Edge s t`, with its table in `edge_iff`.  A
  repeat is let through by the rule and is no edge. -/

/-- An accepted change of status: what `validateTransition` lets through apart from a repeat. -/
def Edge (a b : ContributionStatus) : Prop :=
  a ≠ b ∧ ∃ transition, validateTransition a transition = .ok b

/-- An accepted transition goes to its target. -/
theorem validateTransition_ok {a b : ContributionStatus} {t : ContributionTransition}
    (h : validateTransition a t = .ok b) : b = t.targetStatus := by
  cases a <;> cases t <;> simp_all [validateTransition, ContributionTransition.targetStatus]

/-- A refused transition is refused for its two statuses. -/
theorem validateTransition_error {a : ContributionStatus} {t : ContributionTransition}
    {v : ContributionRuleViolation} (h : validateTransition a t = .error v) :
    v = .invalidStatusTransition a t.targetStatus := by
  cases a <;> cases t <;> simp_all [validateTransition, ContributionTransition.targetStatus]

/-- An accepted transition that changes the status is an edge, whoever asks for it. -/
theorem edge_of_ok {a b : ContributionStatus} {t : ContributionTransition}
    (h : validateTransition a t = .ok b) (hne : a ≠ b) : Edge a b :=
  ⟨hne, t, h⟩

/-- Only one transition has a given target, so an edge is accepted from that one. -/
theorem ok_of_edge {a : ContributionStatus} {t : ContributionTransition}
    (h : Edge a t.targetStatus) : validateTransition a t = .ok t.targetStatus := by
  obtain ⟨-, t', ht'⟩ := h
  have htarget := validateTransition_ok ht'
  cases t <;> cases t' <;> first | exact ht' | cases htarget

/-- The whole table of accepted changes. -/
theorem edge_iff {a b : ContributionStatus} :
    Edge a b ↔ (a, b) ∈ ([(.pending, .confirmed), (.pending, .failed), (.confirmed, .reversed)] :
      List (ContributionStatus × ContributionStatus)) := by
  constructor
  · rintro ⟨hne, t, ht⟩
    cases a <;> cases t <;>
      simp_all [validateTransition, ContributionTransition.targetStatus]
  · intro h
    simp only [List.mem_cons, Prod.mk.injEq, List.not_mem_nil, or_false] at h
    rcases h with ⟨rfl, rfl⟩ | ⟨rfl, rfl⟩ | ⟨rfl, rfl⟩
    · exact ⟨by decide, .confirm, rfl⟩
    · exact ⟨by decide, .fail, rfl⟩
    · exact ⟨by decide, .reverse, rfl⟩

/-- Whether one status may follow another can be computed. -/
instance (a b : ContributionStatus) : Decidable (Edge a b) := decidable_of_iff _ edge_iff.symm

/-- What is reversed was confirmed. -/
theorem confirmed_of_edge {a : ContributionStatus} (h : Edge a .reversed) : a = .confirmed := by
  revert h
  cases a <;> decide

end Contributions
end EduStell
