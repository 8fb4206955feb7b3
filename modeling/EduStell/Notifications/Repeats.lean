/-
  How often a change of status is announced.

  `Handled` is what one of the three announcing handlers makes of a request: it is refused, or its
  transition takes effect and is announced, or its transition has been taken before, and is announced
  all the same.  So there is one notification for each change as long as no request repeats a
  transition, or the repeats are addressed to someone who has switched these notifications off; and
  that condition is exact (`announced_once_iff`).

  The plan: notifications are counted by transition (`announced`); one request of the three
  handlers is one of three cases (`Handled`); all other requests announce nothing of these
  transitions (`serve_unannounced`); so the counts agree along a run exactly if every request is
  quiet.
-/
import EduStell.Notifications.Handlers
import EduStell.Scenario
import EduStell.Txn.Steps

namespace EduStell.Notifications

open Txn Steps

/-! ## What is announced

  A transition has its event, and the event its notification.  Type and entity of a notification
  lead back to the transition, so announcements can be counted. -/

/-- A change of status that is announced, of one entity. -/
inductive Transition
  | confirm (contributionId : Uuid)
  | approve (payoutId : Uuid)
  | complete (payoutId : Uuid)
  deriving DecidableEq

namespace Transition

/-- The entity has the status that the transition leads to. -/
def appliedIn : Transition → Db → Bool
  | confirm contributionId, s =>
    (s.contributions.find contributionId).any fun c => c.status = .confirmed
  | approve payoutId, s => (s.payouts.find payoutId).any fun p => p.status = .approved
  | complete payoutId, s => (s.payouts.find payoutId).any fun p => p.status = .completed

/-- The transition takes effect between two states. -/
def takesEffect (t : Transition) (b b' : Backend) : Bool := !t.appliedIn b.db && t.appliedIn b'.db

/-- The event that announces the transition, from the rows as they stand. -/
def event : Transition → Db → Option ApplicationEvent
  | confirm contributionId, s => do
    let c ← s.contributions.find contributionId
    let v ← s.vaults.find c.vaultId
    return .contributionReceived v.ownerUserId c.id c.vaultId c.amount.amountMinor
      c.amount.currency.asStr
  | approve payoutId, s => do
    let p ← s.payouts.find payoutId
    return .payoutApproved p.requestedBy p.id p.vaultId p.amount.amountMinor p.amount.currency.asStr
  | complete payoutId, s => do
    let p ← s.payouts.find payoutId
    return .payoutCompleted p.requestedBy p.id p.vaultId p.amount.amountMinor
      p.amount.currency.asStr

/-- The type of the notification that a transition causes. -/
def notificationType : Transition → NotificationType
  | confirm _ => .contributionReceived
  | approve _ => .payoutApproved
  | complete _ => .payoutCompleted

/-- The metadata field that names the entity. -/
def entityField : Transition → String
  | confirm _ => "contribution_id"
  | approve _ | complete _ => "payout_id"

/-- The entity that a transition is about. -/
def entityId : Transition → Uuid
  | confirm id | approve id | complete id => id

/-- The notification announces the transition of this entity. -/
def announcedBy (t : Transition) (n : Notification) : Bool :=
  n.notificationType = t.notificationType && n.metadata.get t.entityField = some t.entityId

/-- The notifications by which a user has been told of the transition. -/
def announced (t : Transition) (userId : Uuid) (b : Backend) : Nat :=
  b.mailbox.notifications.rows.countP fun n => n.userId = userId && t.announcedBy n

/-- One type and one entity, one transition. -/
theorem eq_of_entity {t t' : Transition} (htype : t.notificationType = t'.notificationType)
    (hid : t.entityId = t'.entityId) : t = t' := by
  cases t <;> cases t' <;> first | exact congrArg _ hid | cases htype

/-- The event of a transition is rendered with its kind and its entity. -/
theorem render_event {t : Transition} {s : Db} {e : ApplicationEvent} (he : t.event s = some e) :
    (renderNotificationTemplate e).notificationType = t.notificationType ∧
    (renderNotificationTemplate e).metadata.get t.entityField = some t.entityId := by
  -- each event carries the id of its row under the field of its transition
  cases t with
  | confirm contributionId =>
    obtain ⟨c, hc, he⟩ := Option.bind_eq_some_iff.mp he
    obtain ⟨v, -, he⟩ := Option.bind_eq_some_iff.mp he
    obtain rfl := Option.some.inj he
    have hid : c.id = contributionId := (Table.find_some hc).2
    exact ⟨rfl, hid ▸ Value.get_cons c.id (by simp [entityField])⟩
  | approve payoutId =>
    obtain ⟨p, hp, he⟩ := Option.bind_eq_some_iff.mp he
    obtain rfl := Option.some.inj he
    have hid : p.id = payoutId := (Table.find_some hp).2
    exact ⟨rfl, hid ▸ Value.get_cons p.id (by simp [entityField])⟩
  | complete payoutId =>
    obtain ⟨p, hp, he⟩ := Option.bind_eq_some_iff.mp he
    obtain rfl := Option.some.inj he
    have hid : p.id = payoutId := (Table.find_some hp).2
    exact ⟨rfl, hid ▸ Value.get_cons p.id (by simp [entityField])⟩

/-- The row of an event is by the transition that causes it. -/
theorem announcedBy_event {t : Transition} {s : Db} {e : ApplicationEvent} (he : t.event s = some e)
    (newId : Uuid) : t.announcedBy (eventNotification newId e) = true := by
  obtain ⟨htype, hentity⟩ := render_event he
  exact Bool.and_eq_true_iff.mpr ⟨decide_eq_true htype, decide_eq_true hentity⟩

/-- The notification of a transition announces no other. -/
theorem eq_of_announcedBy {t t' : Transition} {s : Db} {e : ApplicationEvent} {newId : Uuid}
    (he : t.event s = some e) (h : t'.announcedBy (eventNotification newId e) = true) : t' = t := by
  obtain ⟨htype, hentity⟩ := render_event he
  obtain ⟨htype', hentity'⟩ := Bool.and_eq_true_iff.mp h
  have hsame : t.notificationType = t'.notificationType :=
    htype.symm.trans (of_decide_eq_true htype')
  have hfield : t.entityField = t'.entityField := by
    cases t <;> cases t' <;> first | rfl | cases hsame
  rw [hfield] at hentity
  have hid : some t.entityId = some t'.entityId := hentity.symm.trans (of_decide_eq_true hentity')
  exact (eq_of_entity hsame (Option.some.inj hid)).symm

end Transition

/-! ## One announcement

  The dispatcher tells one user at most, whatever the preferences are. -/

/-- The event of a transition is dispatched, if the entity is there. -/
def announce (newId : Uuid) (emailSender : EmailSender) (event : Option ApplicationEvent)
    (m : Mailbox) : Mailbox :=
  match event with
  | some e => (handleApplicationEvent newId emailSender e m).2
  | none => m

section

variable {newId : Uuid} {emailSender : EmailSender} {s : Db} {m : Mailbox} {t : Transition}

/-- An announcement tells at most one user, and of its own transition. -/
theorem announced_announce (t' : Transition) (userId : Uuid) (db : Db) :
    t'.announced userId ⟨db, announce newId emailSender (t.event s) m⟩ ≤
      t'.announced userId ⟨db, m⟩ + (decide (t' = t)).toNat := by
  cases he : t.event s with
  | none => exact Nat.le_add_right _ _
  | some e =>
    show List.countP _ (handleApplicationEvent newId emailSender e m).2.notifications.rows ≤
      List.countP _ m.notifications.rows + _
    rcases handle_rows newId emailSender e m with hrows | hrows
    · rw [hrows]
      exact Nat.le_add_right _ _
    · rw [hrows, List.countP_append, List.countP_singleton]
      refine Nat.add_le_add_left ?_ _
      split
      · rename_i hannounced
        have hsame : t' = t := Transition.eq_of_announcedBy he (Bool.and_eq_true_iff.mp hannounced).2
        rw [decide_eq_true hsame]
        exact Nat.le_refl _
      · exact Nat.zero_le _

end

/-! ## One request

  `Handled` has three cases.  Only the third one, a transition found taken and announced again,
  can make the count of announcements and the count of changes differ. -/

/-- The transition that a request is meant to make, and the id of the notification about it. -/
def ApiCall.announcement : ApiCall → Option (Uuid × Transition)
  | .confirm newId contributionId _ _ => some (newId, .confirm contributionId)
  | .approve newId payoutId _ _ => some (newId, .approve payoutId)
  | .complete newId payoutId _ _ => some (newId, .complete payoutId)
  | .upsertPreference .. | .other .. => none

/-- A valid request of an administrator. -/
def ApiCall.Admitted : ApiCall → Prop
  | .confirm _ _ currentUser request => request.validate = .ok () ∧ currentUser.role = .platformAdmin
  | .approve _ _ currentUser request => request.validate = .ok () ∧ currentUser.role = .platformAdmin
  | .complete _ _ currentUser request => request.validate = .ok () ∧ currentUser.role = .platformAdmin
  | .upsertPreference .. | .other .. => True

/-- The request repeats a transition that has been taken. -/
def ApiCall.Repeats (q : ApiCall) (b : Backend) : Prop :=
  q.Admitted ∧ ∃ newId t, q.announcement = some (newId, t) ∧ t.appliedIn b.db = true

/-- What is announced of the entity, as it stands, reaches nobody. -/
def ApiCall.Unheard (q : ApiCall) (b : Backend) : Prop :=
  ∀ newId t e, q.announcement = some (newId, t) → t.event b.db = some e → b.mailbox.Muted newId e

/-- A request repeats no transition, unless unheard. -/
def ApiCall.Quiet (q : ApiCall) (b : Backend) : Prop := q.Repeats b → q.Unheard b

/-- What one of the three handlers makes of a request. -/
inductive Handled (newId : Uuid) (emailSender : EmailSender) (t : Transition) (admitted : Prop)
    (b : Backend) : Backend → Prop
  /-- Nothing is written, and nothing dispatched. -/
  | refused : Handled newId emailSender t admitted b b
  /-- The transition was found taken, and is announced again. -/
  | repeated (ok : admitted) (before : t.appliedIn b.db = true) :
    Handled newId emailSender t admitted b
      ⟨b.db, announce newId emailSender (t.event b.db) b.mailbox⟩
  /-- The transition is taken, and announced. -/
  | effective {db : Db} (before : t.appliedIn b.db = false) (after : t.appliedIn db = true) :
    Handled newId emailSender t admitted b ⟨db, announce newId emailSender (t.event db) b.mailbox⟩

/-- The program that ends with an error has written nothing. -/
theorem serve_error {ε α : Type} {p : Tx ε α} {E : Sess → Db → α → Prop}
    {N : Sess → Db → Except ε α → Prop} (hp : Outcomes p E N) {s s' : Db} {e : ε}
    (h : p.serve s = (.error e, s')) : s' = s := by
  rcases hp.serve s with ⟨-, -, -, hdb⟩ | ⟨-, a, -, -, hok, -⟩
  · exact (congrArg Prod.snd h).symm.trans hdb
  · cases hok.symm.trans (congrArg Prod.fst h)

section

variable {α : Type} {newId : Uuid} {emailSender : EmailSender} {t : Transition} {b : Backend}
  {valid : Except Api.ApiError Unit} {service : Tx ServiceError α}
  {dispatch : Db → α → Mailbox → Except NotificationError (Option Notification) × Mailbox}

/-- A service that succeeds is announced, whatever becomes of the announcement. -/
theorem respond_ok {a : α} {db : Db} (hvalid : valid = .ok ())
    (hserve : service.serve b.db = (.ok a, db)) :
    respond valid service dispatch b = (.ok a, ⟨db, (dispatch db a b.mailbox).2⟩) := by
  subst hvalid
  simp only [respond, hserve]

/-- A service that fails is not announced. -/
theorem respond_error {e : ServiceError} {db : Db} (hvalid : valid = .ok ())
    (hserve : service.serve b.db = (.error e, db)) :
    respond valid service dispatch b = (.error (.ofService e), ⟨db, b.mailbox⟩) := by
  subst hvalid
  simp only [respond, hserve]

/-- A handler whose service takes the transition or finds it taken, and that dispatches its event. -/
theorem respond_handled {admitted : Prop}
    (herr : ∀ e db, service.serve b.db = (.error e, db) → db = b.db)
    (hok : ∀ a db, service.serve b.db = (.ok a, db) → (valid = .ok () → admitted) ∧
      t.appliedIn db = true ∧ (db = b.db ∨ t.appliedIn b.db = false) ∧
      ∀ m, (dispatch db a m).2 = announce newId emailSender (t.event db) m) :
    Handled newId emailSender t admitted b (respond valid service dispatch b).2 := by
  -- the request is refused by its validation, by the service, or answered
  cases hvalid : valid with
  | error e => exact .refused
  | ok _ =>
    cases hserve : service.serve b.db with
    | mk r db =>
      cases r with
      | error e =>
        obtain rfl := herr e db hserve
        rw [respond_error rfl hserve]
        exact .refused
      | ok a =>
        obtain ⟨hadmitted, hafter, hdb, hdispatch⟩ := hok a db hserve
        rw [respond_ok rfl hserve, hdispatch]
        rcases hdb with rfl | hbefore
        · exact .repeated (hadmitted hvalid) hafter
        · exact .effective hbefore hafter

end

/-! ## The three handlers

  For each handler: which transition it stands for, and that its event is the event of that
  transition. -/

section

variable {newId : Uuid} {emailSender : EmailSender} {s : Db} {m : Mailbox}

/-- The handler announces the contribution that it has answered. -/
theorem event_confirm {contributionId : Uuid} {c : Contribution}
    (hc : s.contributions.find contributionId = some c) :
    (contributionReceivedForVaultOwner newId emailSender s.vaults c m).2 =
      announce newId emailSender ((Transition.confirm contributionId).event s) m := by
  rw [contributionReceivedForVaultOwner, Transition.event, hc]
  cases hv : s.vaults.find c.vaultId with
  | none => simp [announce, hv]
  | some v => simp [announce, hv]

/-- The handler announces the payout that it has answered. -/
theorem event_approve {payoutId : Uuid} {p : PayoutRequest} (hp : s.payouts.find payoutId = some p) :
    (payoutApproved newId emailSender p m).2 =
      announce newId emailSender ((Transition.approve payoutId).event s) m := by
  rw [Transition.event, hp]; rfl

/-- The same for the completed payout. -/
theorem event_complete {payoutId : Uuid} {p : PayoutRequest} (hp : s.payouts.find payoutId = some p) :
    (payoutCompleted newId emailSender p m).2 =
      announce newId emailSender ((Transition.complete payoutId).event s) m := by
  rw [Transition.event, hp]; rfl

end

/-- No row has the property if the one that is found has not. -/
theorem any_eq_false {α : Type} {o : Option α} {p : α → Prop} [DecidablePred p]
    (h : ∀ a, o = some a → ¬ p a) : o.any (fun a => p a) = false := by
  cases o with
  | none => rfl
  | some a => exact decide_eq_false (h a rfl)

section

variable {newId : Uuid} {emailSender : EmailSender} {b : Backend}

section

variable (tr : PayoutTransition) {t : Transition} {actor : AuthenticatedUser}
  {input : ReviewPayoutInput} {valid : Except Api.ApiError Unit}
  {dispatch : Db → PayoutRequest → Mailbox → Except NotificationError (Option Notification) × Mailbox}

/-- A payout handler: its transition is that of the service, its event that of the transition. -/
theorem review_handled
    (happlied : ∀ s, t.appliedIn s = (s.payouts.find input.payoutId).any fun p =>
      p.status = tr.targetStatus)
    (hdispatch : ∀ s p m, s.payouts.find input.payoutId = some p →
      (dispatch s p m).2 = announce newId emailSender (t.event s) m) :
    Handled newId emailSender t (valid = .ok () ∧ actor.role = .platformAdmin) b
      (respond valid (reviewTransition actor input tr tr.auditAction) dispatch b).2 := by
  refine respond_handled (fun e db => serve_error reviewTransition_outcomes) fun p db hserve => ?_
  have hadmin : actor.role = .platformAdmin := review_admin tr (congrArg Prod.fst hserve)
  obtain ⟨hp, hstatus, hbefore⟩ := review_ok tr hserve
  refine ⟨fun hvalid => ⟨hvalid, hadmin⟩, ?_, hbefore.imp_right fun hnot => ?_,
    fun m => hdispatch db p m hp⟩
  · rw [happlied, hp]
    exact decide_eq_true hstatus
  · rw [happlied]
    exact any_eq_false hnot

/-- Asked for again, it announces again. -/
theorem review_announced
    (happlied : ∀ s, t.appliedIn s = (s.payouts.find input.payoutId).any fun p =>
      p.status = tr.targetStatus)
    (hdispatch : ∀ s p m, s.payouts.find input.payoutId = some p →
      (dispatch s p m).2 = announce newId emailSender (t.event s) m)
    (hadmitted : valid = .ok () ∧ actor.role = .platformAdmin) (h : t.appliedIn b.db = true) :
    (respond valid (reviewTransition actor input tr tr.auditAction) dispatch b).2 =
      ⟨b.db, announce newId emailSender (t.event b.db) b.mailbox⟩ := by
  rw [happlied] at h
  obtain ⟨p, hp, hstatus⟩ := (Option.any_eq_true _ _).mp h
  rw [respond_ok hadmitted.1 (review_repeated tr hadmitted.2 hp (of_decide_eq_true hstatus)),
    hdispatch b.db p b.mailbox hp]

end

/-- A request of the three does one of three things. -/
theorem serve_handled {q : ApiCall} {t : Transition} (h : q.announcement = some (newId, t)) :
    Handled newId emailSender t q.Admitted b (q.serve emailSender b) := by
  -- a confirmation is a settlement; the two reviews share one lemma
  cases q with
  | confirm newId contributionId currentUser request =>
    cases h
    refine respond_handled (fun e db => serve_error settleContribution_outcomes) fun c db hserve => ?_
    have hadmin : currentUser.role = .platformAdmin := settlement_admin .confirm (congrArg Prod.fst hserve)
    obtain ⟨hc, hstatus, hbefore⟩ := settlement_ok .confirm hserve
    refine ⟨fun hvalid => ⟨hvalid, hadmin⟩, ?_, hbefore.imp_right any_eq_false,
      fun m => event_confirm hc⟩
    rw [Transition.appliedIn, hc]
    exact decide_eq_true hstatus
  | approve newId payoutId currentUser request =>
    cases h
    exact review_handled .approve (fun _ => rfl) fun s p m hp => event_approve hp
  | complete newId payoutId currentUser request =>
    cases h
    exact review_handled .complete (fun _ => rfl) fun s p m hp => event_complete hp
  | upsertPreference => cases h
  | other => cases h

/-- An admitted request that finds its transition taken announces it again. -/
theorem serve_repeated {q : ApiCall} {t : Transition} (h : q.announcement = some (newId, t))
    (hadmitted : q.Admitted) (happlied : t.appliedIn b.db = true) :
    q.serve emailSender b = ⟨b.db, announce newId emailSender (t.event b.db) b.mailbox⟩ := by
  -- the service answers with the row as it is, and the announcement is made from it
  cases q with
  | confirm newId contributionId currentUser request =>
    cases h
    obtain ⟨c, hc, hstatus⟩ := (Option.any_eq_true _ _).mp happlied
    have hserve : (confirmContribution currentUser ⟨contributionId, request.externalReference⟩).serve
        b.db = (.ok c, b.db) :=
      settlement_repeated .confirm hadmitted.2 hc (of_decide_eq_true hstatus)
    rw [ApiCall.serve, confirm, respond_ok hadmitted.1 hserve, event_confirm hc]
  | approve newId payoutId currentUser request =>
    cases h
    exact review_announced .approve (fun _ => rfl) (fun s p m hp => event_approve hp)
      hadmitted happlied
  | complete newId payoutId currentUser request =>
    cases h
    exact review_announced .complete (fun _ => rfl) (fun s p m hp => event_complete hp)
      hadmitted happlied
  | upsertPreference => cases h
  | other => cases h

end

/-! ## Every request

  All other requests leave the announcements of the three transitions alone. -/

/-- The request leaves no notification and no message. -/
structure Unannounced (b b' : Backend) : Prop where
  notifications : b'.mailbox.notifications.rows = b.mailbox.notifications.rows
  emails : b'.mailbox.emails = b.mailbox.emails

/-- A mailbox that has not changed has no new announcement. -/
theorem Unannounced.of_mailbox {b b' : Backend} (h : b'.mailbox = b.mailbox) : Unannounced b b' :=
  ⟨by rw [h], by rw [h]⟩

section

variable {newId : Uuid} {emailSender : EmailSender} {b : Backend}

/-- An announcement that nobody is to hear leaves the mailbox. -/
theorem announce_muted {event : Option ApplicationEvent} {m : Mailbox}
    (h : ∀ e, event = some e → m.Muted newId e) : announce newId emailSender event m = m := by
  cases event with
  | none => rfl
  | some e => exact handle_muted (h e rfl)

/-- A repeat is silent if and only if it is not heard. -/
theorem quiet_iff (q : ApiCall) :
    q.Quiet b ↔ (q.Repeats b → (q.serve emailSender b).db = b.db ∧
      Unannounced b (q.serve emailSender b)) := by
  refine forall_congr' fun hrepeats => ?_
  obtain ⟨hadmitted, newId, t, hannounces, happlied⟩ := hrepeats
  rw [serve_repeated hannounces hadmitted happlied]
  constructor
  · intro hunheard
    exact ⟨rfl, .of_mailbox (announce_muted fun e he => hunheard newId t e hannounces he)⟩
  · rintro ⟨-, hsilent⟩ newId' t' e hannounces' he
    obtain ⟨rfl, rfl⟩ := Prod.mk.inj (Option.some.inj (hannounces.symm.trans hannounces'))
    -- a delivery that is heard leaves a row or a message
    by_contra hheard
    rw [he] at hsilent
    exact handle_heard hheard ⟨hsilent.notifications, hsilent.emails⟩

/-- The other requests announce no transition of the three. -/
theorem serve_unannounced {q : ApiCall} (h : q.announcement = none) (t : Transition) (userId : Uuid) :
    t.announced userId (q.serve emailSender b) = t.announced userId b := by
  cases q with
  | confirm => cases h
  | approve => cases h
  | complete => cases h
  | upsertPreference => rfl
  | other newId q =>
    show List.countP _ (dispatchOther newId emailSender q (q.serve b.db).1 b.mailbox).notifications.rows
      = List.countP _ b.mailbox.notifications.rows
    -- what the service does with the database does not matter, only what it answers
    generalize (q.serve b.db).1 = answer
    unfold dispatchOther
    split
    · rename_i decision
      rw [scholarshipAwarded]
      rcases handle_rows newId emailSender (.scholarshipAwarded decision.application.applicantUserId
        decision.award.id decision.application.id decision.award.amount.amountMinor
        decision.award.amount.currency.asStr) b.mailbox with hrows | hrows
      · rw [hrows]
      -- a scholarship notification is of none of the three kinds
      · rw [hrows, List.countP_append, List.countP_singleton, if_neg, Nat.add_zero]
        cases t <;> simp [Transition.announcedBy, Transition.notificationType, eventNotification,
          renderNotificationTemplate]
    · rfl

/-- A quiet request tells each user at most once, and only of a transition that takes effect. -/
theorem announced_serve {q : ApiCall} (hquiet : q.Quiet b) (t : Transition) (userId : Uuid) :
    t.announced userId (q.serve emailSender b) ≤
      t.announced userId b + (t.takesEffect b (q.serve emailSender b)).toNat := by
  cases hannounces : q.announcement with
  | none =>
    rw [serve_unannounced hannounces]
    exact Nat.le_add_right _ _
  | some announcement =>
    obtain ⟨newId, t₀⟩ := announcement
    have hserve : Handled newId emailSender t₀ q.Admitted b (q.serve emailSender b) :=
      serve_handled hannounces
    generalize q.serve emailSender b = b' at hserve ⊢
    cases hserve with
    | refused => exact Nat.le_add_right _ _
    | repeated hadmitted hbefore =>
      have hunheard := hquiet ⟨hadmitted, newId, t₀, hannounces, hbefore⟩
      rw [announce_muted fun e he => hunheard newId t₀ e hannounces he]
      exact Nat.le_add_right _ _
    | effective hbefore hafter =>
      rename_i db
      refine (announced_announce t userId db).trans (Nat.add_le_add_left ?_ _)
      by_cases hsame : t = t₀
      · subst hsame
        -- the one announcement is paid for by the one effect
        rw [Transition.takesEffect, hbefore, hafter, decide_eq_true rfl]
        exact Nat.le_refl _
      · rw [decide_eq_false hsame]
        exact Nat.zero_le _

end

/-! ## Runs

  The exact condition is on each request of the run: it repeats no transition, or nobody hears of
  it. -/

/-- Over the run, nobody is told of a transition more often than it takes effect; and a request that
    repeats one leaves the database as it is and tells nobody. -/
structure AnnouncedOnce (emailSender : EmailSender) (b : Backend) (qs : List ApiCall) : Prop where
  /-- A user is told of a transition at most as often as it takes effect. -/
  atMostOnce : ∀ (t : Transition) (userId : Uuid),
    t.announced userId (run (ApiCall.serve emailSender) b qs) ≤
      t.announced userId b + tally (ApiCall.serve emailSender) t.takesEffect b qs
  /-- A repeat changes no row, and tells nobody. -/
  repeats : Throughout (ApiCall.serve emailSender) (fun q b => q.Repeats b →
    (q.serve emailSender b).db = b.db ∧ Unannounced b (q.serve emailSender b)) b qs

/-- **One notification for each change of status**, exactly in the runs without a repeat that is
    heard.

    `Quiet` looks at the request and the state before it: the request repeats a transition that is
    taken, and its event would be heard.  So a run is judged before it is made, and one repeat that
    is heard is enough to break the left side. -/
theorem announced_once_iff (emailSender : EmailSender) (b : Backend) (qs : List ApiCall) :
    AnnouncedOnce emailSender b qs ↔
      Throughout (ApiCall.serve emailSender) ApiCall.Quiet b qs := by
  constructor
  · intro h
    exact (throughout_congr fun q b => quiet_iff q).mpr h.repeats
  · intro h
    refine ⟨fun t userId => ?_, (throughout_congr fun q b => quiet_iff q).mp h⟩
    exact count_le_tally (fun q b hquiet => announced_serve hquiet t userId) h

open EduStell.Scenario

namespace Scenario

/-- Contribution 1 of the family waits to be confirmed; nobody has been told anything. -/
def waiting : Backend := ⟨serveAll family [record 1 100], ⟨.empty, .empty, []⟩⟩

/-- The administrator confirms the contribution. -/
def confirm (newId : Uuid) : ApiCall := .confirm newId 1 admin ⟨none⟩

end Scenario

/-- Confirmed twice: the second request changes nothing, and tells the owner of the vault once
    more.

    Both requests are answered `Ok`, and the handler dispatches after each `Ok`.  So there are two
    rows for one change of status, against one that the count of effects allows. -/
theorem announced_twice :
    let serve := ApiCall.serve noopEmailSender
    let qs := [Scenario.confirm 301, Scenario.confirm 302]
    (Notifications.confirm 302 noopEmailSender 1 admin ⟨none⟩
      (serve (Scenario.confirm 301) Scenario.waiting)).1.isOk = true ∧
    tally serve (Transition.confirm 1).takesEffect Scenario.waiting qs = 1 ∧
    (Transition.confirm 1).announced parent.userId (run serve Scenario.waiting qs) = 2 ∧
    ¬ AnnouncedOnce noopEmailSender Scenario.waiting qs := by
  -- the first confirmation takes effect, the second repeats it, and both are announced
  intro serve qs
  have htally : tally serve (Transition.confirm 1).takesEffect Scenario.waiting qs = 1 := rfl
  have hannounced : (Transition.confirm 1).announced parent.userId (run serve Scenario.waiting qs) = 2 := by
    let event : ApplicationEvent := .contributionReceived 1 1 100 100 "USD"
    have hevent : (Transition.confirm 1).event Scenario.waiting.db = some event := rfl
    have hrows : (run serve Scenario.waiting qs).mailbox.notifications.rows =
        [eventNotification 301 event, eventNotification 302 event] := rfl
    have htold : ∀ newId, (decide ((eventNotification newId event).userId = parent.userId) &&
        (Transition.confirm 1).announcedBy (eventNotification newId event)) = true :=
      fun newId => Bool.and_eq_true_iff.mpr ⟨rfl, Transition.announcedBy_event hevent newId⟩
    rw [Transition.announced, hrows]
    refine List.countP_eq_length.mpr fun n hn => ?_
    rcases List.mem_pair.mp hn with rfl | rfl
    · exact htold 301
    · exact htold 302
  refine ⟨rfl, htally, hannounced, fun h => ?_⟩
  -- one effect bounds the announcements by one
  have hle := h.atMostOnce (.confirm 1) parent.userId
  have hnone : (Transition.confirm 1).announced parent.userId Scenario.waiting = 0 := rfl
  change (Transition.confirm 1).announced parent.userId (run serve Scenario.waiting qs) ≤
    _ + tally serve (Transition.confirm 1).takesEffect Scenario.waiting qs at hle
  rw [htally, hannounced, hnone] at hle
  omega

end EduStell.Notifications
