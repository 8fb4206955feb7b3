/-
  The handlers that announce what they have done: `confirm` of contributions, `approve` and
  `complete` of payouts.

  Each calls its service and, whenever that answers `Ok`, dispatches the event.  The service answers
  `Ok` in two cases that the handler cannot tell apart: it has taken the transition, or has found it
  taken and left everything as it is (`settlement_ok`, `review_ok`).

  The reports of the dispatcher are dropped, as in the source: whether the announcement was stored
  or not, the client gets the answer of the service.
-/
import EduStell.Api.Error
import EduStell.Notifications.Service
import EduStell.Spec.Effects
import EduStell.Txn.Serial

namespace EduStell.Notifications

open Txn Api

/-! ## Requests

  Lengths are counted in bytes, as `str::len` does, although the texts of the errors say
  characters. -/

/-- `value.as_ref().map(|value| value.len() > limit).unwrap_or(false)` -/
def tooLong (limit : Nat) (value : Option String) : Bool :=
  (value.map fun value => decide (value.utf8ByteSize > limit)).getD false

/-- The body of a settlement. -/
structure SettleContributionRequest where
  externalReference : Option String

/-- The check of the body: one optional text of at most 128 characters. -/
def SettleContributionRequest.validate (request : SettleContributionRequest) :
    Except ApiError Unit :=
  if tooLong 128 request.externalReference then
    .error (.validationWithField "external_reference must be <= 128 characters"
      "external_reference")
  else .ok ()

/-- The body of a review. -/
structure ReviewPayoutRequestBody where
  reviewNotes : Option String
  externalPayoutReference : Option String

/-- The check of the body: two optional texts, with their own lengths. -/
def ReviewPayoutRequestBody.validate (request : ReviewPayoutRequestBody) : Except ApiError Unit :=
  if tooLong 1000 request.reviewNotes then
    .error (.validationWithField "review_notes must be <= 1000 characters" "review_notes")
  else if tooLong 128 request.externalPayoutReference then
    .error (.validationWithField "external_payout_reference must be <= 128 characters"
      "external_payout_reference")
  else .ok ()

/-! ## Handlers

  A handler validates its body, calls its service and, after an `Ok`, dispatches.  What the
  dispatcher answers does not reach the client. -/

/-- The database of the workflows and the mailboxes. -/
structure Backend where
  db : Db
  mailbox : Mailbox

/-- A handler that dispatches an event once its service has answered.  What the dispatcher answers is
    logged at most. -/
def respond {α : Type} (valid : Except ApiError Unit) (service : Tx ServiceError α)
    (dispatch : Db → α → Mailbox → Except NotificationError (Option Notification) × Mailbox)
    (b : Backend) : Except ApiError α × Backend :=
  match valid with
  | .error e => (.error e, b)
  | .ok () =>
    match service.serve b.db with
    | (.error e, db) => (.error (.ofService e), ⟨db, b.mailbox⟩)
    | (.ok a, db) => (.ok a, ⟨db, (dispatch db a b.mailbox).2⟩)

section

variable (newId : Uuid) (emailSender : EmailSender)

/-- `contributions::confirm` -/
def confirm (contributionId : Uuid) (currentUser : AuthenticatedUser)
    (request : SettleContributionRequest) : Backend → Except ApiError Contribution × Backend :=
  respond request.validate
    (confirmContribution currentUser ⟨contributionId, request.externalReference⟩)
    fun db contribution =>
      contributionReceivedForVaultOwner newId emailSender db.vaults contribution

/-- `payouts::approve` -/
def approve (payoutId : Uuid) (currentUser : AuthenticatedUser)
    (request : ReviewPayoutRequestBody) : Backend → Except ApiError PayoutRequest × Backend :=
  respond request.validate
    (approvePayout currentUser ⟨payoutId, request.reviewNotes, request.externalPayoutReference⟩)
    fun _ payout => payoutApproved newId emailSender payout

/-- `payouts::complete` -/
def complete (payoutId : Uuid) (currentUser : AuthenticatedUser)
    (request : ReviewPayoutRequestBody) : Backend → Except ApiError PayoutRequest × Backend :=
  respond request.validate
    (completePayout currentUser ⟨payoutId, request.reviewNotes, request.externalPayoutReference⟩)
    fun _ payout => payoutCompleted newId emailSender payout

/-- What the handlers of the other requests dispatch: only the approval of a scholarship application
    is announced. -/
def dispatchOther (q : Request) (answer : Except ServiceError Response) (m : Mailbox) : Mailbox :=
  match q, answer with
  | .approve .., .ok (.decision decision) => (scholarshipAwarded newId emailSender decision m).2
  | _, _ => m

/-- The handlers that dispatch after other requests. -/
def serveOther (q : Request) (b : Backend) : Backend :=
  ⟨(q.serve b.db).2, dispatchOther newId emailSender q (q.serve b.db).1 b.mailbox⟩

end

/-- What the backend is asked to do. -/
inductive ApiCall
  | confirm (newId contributionId : Uuid) (currentUser : AuthenticatedUser)
    (request : SettleContributionRequest)
  | approve (newId payoutId : Uuid) (currentUser : AuthenticatedUser)
    (request : ReviewPayoutRequestBody)
  | complete (newId payoutId : Uuid) (currentUser : AuthenticatedUser)
    (request : ReviewPayoutRequestBody)
  | upsertPreference (currentUser : AuthenticatedUser) (notificationType : NotificationType)
    (inAppEnabled emailEnabled : Bool)
  | other (newId : Uuid) (q : Request)

/-- A request to the API, and what it leaves. -/
def ApiCall.serve (emailSender : EmailSender) : ApiCall → Backend → Backend
  | .confirm newId contributionId currentUser request, b =>
    (Notifications.confirm newId emailSender contributionId currentUser request b).2
  | .approve newId payoutId currentUser request, b =>
    (Notifications.approve newId emailSender payoutId currentUser request b).2
  | .complete newId payoutId currentUser request, b =>
    (Notifications.complete newId emailSender payoutId currentUser request b).2
  | .upsertPreference currentUser notificationType inAppEnabled emailEnabled, b =>
    { b with mailbox := (upsertNotificationPreference currentUser notificationType inAppEnabled
        emailEnabled b.mailbox).2 }
  | .other newId q, b => serveOther newId emailSender q b

/-! ## What an `Ok` of the services means

  From an `Ok` alone one cannot tell whether anything was done.  These two lemmas say what it does
  mean, for a settlement and for a review. -/

section

variable {actor : AuthenticatedUser} {s s' : Db}

/-- Only an administrator settles. -/
theorem settlement_admin (tr : ContributionTransition) {input : SettlementInput} {c : Contribution}
    (h : ((settleContribution actor input tr tr.auditAction).serve s).1 = .ok c) :
    actor.role = .platformAdmin := by
  by_contra hrole
  rw [settleContribution, check, Contributions.canSettleContribution, if_neg hrole] at h
  cases h

/-- A settlement that is found taken is answered with the row, and nothing is written. -/
theorem settlement_repeated (tr : ContributionTransition) {input : SettlementInput}
    {c : Contribution} (hrole : actor.role = .platformAdmin)
    (hc : s.contributions.find input.contributionId = some c) (hstatus : c.status = tr.targetStatus) :
    (settleContribution actor input tr tr.auditAction).serve s = (.ok c, s) := by
  have hlegal : Contributions.validateTransition c.status tr = .ok tr.targetStatus := by
    rw [hstatus]
    cases tr <;> rfl
  have hruns : (settleContribution actor input tr tr.auditAction).Runs Session.init s
      fun r s' => (r, s') = (.ok c, s) := by
    rw [settleContribution, check, Contributions.canSettleContribution, if_pos hrole]
    refine Program.Runs.select (Program.Runs.okOr (fun hnone => ?_) fun current hcurrent => ?_)
    · cases hnone.symm.trans hc
    obtain rfl : current = c := Option.some.inj (hcurrent.symm.trans hc)
    rw [check, hlegal]
    show Program.Runs (if current.status = tr.targetStatus then pure current else _) _ _ _
    rw [if_pos hstatus]
    rfl
  exact hruns

/-- An `Ok` of a settlement: it was taken before, or it has been taken now. -/
theorem settlement_ok (tr : ContributionTransition) {input : SettlementInput} {c : Contribution}
    (h : (settleContribution actor input tr tr.auditAction).serve s = (.ok c, s')) :
    s'.contributions.find input.contributionId = some c ∧ c.status = tr.targetStatus ∧
    (s' = s ∨ ∀ row, s.contributions.find input.contributionId = some row →
      row.status ≠ tr.targetStatus) := by
  have hanswer := congrArg Prod.fst h
  have hstate := congrArg Prod.snd h
  rcases settleContribution_outcomes.serve s with
    ⟨l, hseen, hstop, hdb⟩ | ⟨l, a, -, ⟨t, current, row, vault, vault', entries, hsettled, rfl⟩, hok, hdb⟩
  · obtain rfl : s' = s := hstate.symm.trans hdb
    rw [hanswer] at hstop
    cases hstop with
    | unchanged began seen found status =>
      have ht := hseen _ (by rw [seen]; exact List.mem_cons_self)
      exact ⟨ht ▸ found, status, .inl rfl⟩
    | repeated begun locked status => exact ⟨locked, status, .inl rfl⟩
  · obtain rfl : settledRow tr input row = c := Except.ok.inj (hok.symm.trans hanswer)
    obtain rfl : l.view s = s' := hdb.symm.trans hstate
    have hid : (settledRow tr input row).id = input.contributionId :=
      (Table.find_some hsettled.locked).2
    refine ⟨?_, rfl, .inr fun row' hrow' => ?_⟩
    · rw [hsettled.view]
      exact Table.find_replace_self hsettled.locked hid
    · obtain rfl := Option.some.inj (hrow'.symm.trans hsettled.locked)
      exact hsettled.changes

/-- Only an administrator reviews. -/
theorem review_admin (tr : PayoutTransition) {input : ReviewPayoutInput} {p : PayoutRequest}
    (h : ((reviewTransition actor input tr tr.auditAction).serve s).1 = .ok p) :
    actor.role = .platformAdmin := by
  by_contra hrole
  rw [reviewTransition, check, Payouts.validateReviewerRole, if_neg hrole] at h
  cases h

/-- A review that is found taken is answered with the row, and nothing is written. -/
theorem review_repeated (tr : PayoutTransition) {input : ReviewPayoutInput} {p : PayoutRequest}
    (hrole : actor.role = .platformAdmin) (hp : s.payouts.find input.payoutId = some p)
    (hstatus : p.status = tr.targetStatus) :
    (reviewTransition actor input tr tr.auditAction).serve s = (.ok p, s) := by
  have hlegal : Payouts.validateTransition p.status tr = .ok tr.targetStatus := by
    rw [hstatus]
    cases tr <;> rfl
  have hruns : (reviewTransition actor input tr tr.auditAction).Runs Session.init s
      fun r s' => (r, s') = (.ok p, s) := by
    rw [reviewTransition, check, Payouts.validateReviewerRole, if_pos hrole]
    refine Program.Runs.select (Program.Runs.okOr (fun hnone => ?_) fun payout hpayout => ?_)
    · cases hnone.symm.trans hp
    obtain rfl : payout = p := Option.some.inj (hpayout.symm.trans hp)
    rw [check, hlegal]
    show Program.Runs (if payout.status = tr.targetStatus then pure payout else _) _ _ _
    rw [if_pos hstatus]
    rfl
  exact hruns

/-- An `Ok` of a review: it was taken before, or it has been taken now. -/
theorem review_ok (tr : PayoutTransition) {input : ReviewPayoutInput} {p : PayoutRequest}
    (h : (reviewTransition actor input tr tr.auditAction).serve s = (.ok p, s')) :
    s'.payouts.find input.payoutId = some p ∧ p.status = tr.targetStatus ∧
    (s' = s ∨ ∀ row, s.payouts.find input.payoutId = some row → row.status ≠ tr.targetStatus) := by
  have hanswer := congrArg Prod.fst h
  have hstate := congrArg Prod.snd h
  rcases reviewTransition_outcomes.serve s with
    ⟨l, hseen, hstop, hdb⟩ | ⟨l, a, -, ⟨x, row, vault, vault', hreviewed, rfl⟩, hok, hdb⟩
  · obtain rfl : s' = s := hstate.symm.trans hdb
    rw [hanswer] at hstop
    cases hstop with
    | unchanged began seen found status =>
      have ht := hseen _ (by rw [seen]; exact List.mem_cons_self)
      exact ⟨ht ▸ found, status, .inl rfl⟩
    | repeated begun locked status => exact ⟨locked, status, .inl rfl⟩
  · obtain rfl : reviewedRow tr actor input row = p := Except.ok.inj (hok.symm.trans hanswer)
    obtain rfl : l.view s = s' := hdb.symm.trans hstate
    have hid : (reviewedRow tr actor input row).id = input.payoutId :=
      (Table.find_some hreviewed.locked).2
    refine ⟨?_, rfl, .inr fun row' hrow' => ?_⟩
    · rw [hreviewed.view]
      exact Table.find_replace_self hreviewed.locked hid
    · obtain rfl := Option.some.inj (hrow'.symm.trans hreviewed.locked)
      exact hreviewed.changes

end

end EduStell.Notifications
