/-
  `application::notifications`: what an event of the application leaves in the notification tables.

  An event is rendered, and then delivered on the channels that its recipient has enabled: a row for
  the application itself, a message for the email sender.  The dispatcher does not look at the rows
  that are there already, so the same event delivered twice is two rows.

  Three facts are all that later modules use of a delivery: what is muted leaves everything as it
  was (`handle_muted`), what is heard leaves a trace (`handle_heard`), and no delivery adds more
  than the row of its event (`handle_rows`).
-/
import EduStell.Requests
import EduStell.Serde

namespace EduStell.Notifications

open Txn

/-! ## Rows

  A notification has its texts rendered when it is stored; a change of the row it tells of does
  not change them. -/

/-- `pending` is unread here: it is what a new notification is, and what marking it unread restores.
    -/
inductive NotificationStatus
  | pending | sent | read | failed
  deriving DecidableEq, Repr

/-- What notifications are about. -/
inductive NotificationType
  | contributionReceived | milestoneDueSoon | milestoneUnderfunded | payoutApproved
  | payoutCompleted | scholarshipAwarded | kycActionRequired
  deriving DecidableEq, Repr

/-- The name of the type in the database and in requests. -/
def NotificationType.asStr : NotificationType → String
  | contributionReceived => "contribution_received"
  | milestoneDueSoon => "milestone_due_soon"
  | milestoneUnderfunded => "milestone_underfunded"
  | payoutApproved => "payout_approved"
  | payoutCompleted => "payout_completed"
  | scholarshipAwarded => "scholarship_awarded"
  | kycActionRequired => "kyc_action_required"

/-- The names that the type is parsed from. -/
instance : StringEnum NotificationType where
  name := "NotificationType"
  variants := [.contributionReceived, .milestoneDueSoon, .milestoneUnderfunded, .payoutApproved,
    .payoutCompleted, .scholarshipAwarded, .kycActionRequired]
  asStr := NotificationType.asStr
  find_asStr a := by cases a <;> decide

/-- A notification of a user. -/
structure Notification where
  id : Uuid
  userId : Uuid
  notificationType : NotificationType
  title : String
  body : String
  metadata : Value
  status : NotificationStatus
  readAt : Option DateTime

/-- `notifications_pkey`. -/
instance : Keyed Notification Uuid := ⟨Notification.id⟩

/-- Which channels a user wants for one type of notification. -/
structure NotificationPreference where
  userId : Uuid
  notificationType : NotificationType
  inAppEnabled : Bool
  emailEnabled : Bool

/-- `notification_preferences_user_type_unique` -/
instance : Keyed NotificationPreference (Uuid × NotificationType) :=
  ⟨fun p => (p.userId, p.notificationType)⟩

/-- The errors of the notification service. -/
inductive NotificationError
  | validation (message : String)
  | forbidden
  | notFound
  | repository (message : String)
  deriving DecidableEq, Repr

/-- A conflict becomes a validation error here. -/
def NotificationError.ofPersistence : PersistenceError → NotificationError
  | .notFound => .notFound
  | .conflict message => .validation message
  | .validation message => .validation message
  | .repository message => .repository message

/-- What is handed to the email channel. -/
structure EmailMessage where
  toUserId : Uuid
  notificationType : NotificationType
  subject : String
  body : String
  metadata : Value

/-- The email channel: it takes a message or fails. -/
abbrev EmailSender := EmailMessage → Except NotificationError Unit

/-- `infrastructure::notifications::NoopEmailSender`, the sender of the API. -/
def noopEmailSender : EmailSender := fun _ => .ok ()

/-- The two tables, and the messages that the email sender has been handed. -/
structure Mailbox where
  notifications : Table Notification
  preferences : Table NotificationPreference
  emails : List EmailMessage

namespace Mailbox

/-- `NotificationRepository::create` -/
def create (m : Mailbox) (notification : Notification) :
    Except PersistenceError Notification × Mailbox :=
  if (m.notifications.find notification.id).isSome then
    (.error (.uniqueViolation "notifications_pkey"), m)
  else (.ok notification, { m with notifications := m.notifications.insert notification })

/-- `NotificationPreferenceRepository::find_by_user_and_type` -/
def findByUserAndType (m : Mailbox) (userId : Uuid) (notificationType : String) :
    Option NotificationPreference :=
  m.preferences.rows.find? fun p => p.userId = userId ∧ asStr p.notificationType = notificationType

/-- `INSERT … ON CONFLICT (user_id, notification_type) DO UPDATE` -/
def upsert (m : Mailbox) (preference : NotificationPreference) : Mailbox :=
  { m with preferences :=
      if (m.preferences.find (preference.userId, preference.notificationType)).isSome then
        m.preferences.replace preference
      else m.preferences.insert preference }

end Mailbox

/-! ## Events

  Seven events, each with its recipient, its texts and its metadata.  Four of them are dispatched
  by handlers. -/

/-- What the rest of the application reports. -/
inductive ApplicationEvent
  | contributionReceived (recipientUserId contributionId vaultId : Uuid) (amountMinor : Int64)
    (currency : String)
  | milestoneDueSoon (recipientUserId milestoneId vaultId : Uuid) (dueDate title : String)
  | milestoneUnderfunded (recipientUserId milestoneId vaultId : Uuid) (shortfallMinor : Int64)
    (currency title : String)
  | payoutApproved (recipientUserId payoutId vaultId : Uuid) (amountMinor : Int64)
    (currency : String)
  | payoutCompleted (recipientUserId payoutId vaultId : Uuid) (amountMinor : Int64)
    (currency : String)
  | scholarshipAwarded (recipientUserId awardId applicationId : Uuid) (amountMinor : Int64)
    (currency : String)
  | kycActionRequired (recipientUserId : Uuid) (reason : String)

/-- The user whom an event concerns. -/
def eventRecipient : ApplicationEvent → Uuid
  | .contributionReceived recipientUserId .. | .milestoneDueSoon recipientUserId ..
  | .milestoneUnderfunded recipientUserId .. | .payoutApproved recipientUserId ..
  | .payoutCompleted recipientUserId .. | .scholarshipAwarded recipientUserId ..
  | .kycActionRequired recipientUserId _ => recipientUserId

/-- An event as it is shown to the user. -/
structure RenderedNotificationTemplate where
  notificationType : NotificationType
  title : String
  body : String
  metadata : Value

/-- The texts and the metadata of each event. -/
def renderNotificationTemplate : ApplicationEvent → RenderedNotificationTemplate
  | .contributionReceived _ contributionId vaultId amountMinor currency => {
      notificationType := .contributionReceived
      title := "Contribution received"
      body := "A contribution of " ++ toString amountMinor ++ " " ++ currency ++ " was received."
      metadata := .object [
        ("contribution_id", .ofUuid contributionId),
        ("vault_id", .ofUuid vaultId),
        ("amount_minor", .ofInt64 amountMinor),
        ("currency", .string currency)] }
  | .milestoneDueSoon _ milestoneId vaultId dueDate title => {
      notificationType := .milestoneDueSoon
      title := "Milestone due soon"
      body := "Milestone \"" ++ title ++ "\" is due on " ++ dueDate ++ "."
      metadata := .object [
        ("milestone_id", .ofUuid milestoneId),
        ("vault_id", .ofUuid vaultId),
        ("due_date", .string dueDate),
        ("milestone_title", .string title)] }
  | .milestoneUnderfunded _ milestoneId vaultId shortfallMinor currency title => {
      notificationType := .milestoneUnderfunded
      title := "Milestone underfunded"
      body := "Milestone \"" ++ title ++ "\" is short by " ++ toString shortfallMinor ++ " "
        ++ currency ++ "."
      metadata := .object [
        ("milestone_id", .ofUuid milestoneId),
        ("vault_id", .ofUuid vaultId),
        ("shortfall_minor", .ofInt64 shortfallMinor),
        ("currency", .string currency),
        ("milestone_title", .string title)] }
  | .payoutApproved _ payoutId vaultId amountMinor currency => {
      notificationType := .payoutApproved
      title := "Payout approved"
      body := "Payout of " ++ toString amountMinor ++ " " ++ currency ++ " has been approved."
      metadata := .object [
        ("payout_id", .ofUuid payoutId),
        ("vault_id", .ofUuid vaultId),
        ("amount_minor", .ofInt64 amountMinor),
        ("currency", .string currency)] }
  | .payoutCompleted _ payoutId vaultId amountMinor currency => {
      notificationType := .payoutCompleted
      title := "Payout completed"
      body := "Payout of " ++ toString amountMinor ++ " " ++ currency ++ " has completed."
      metadata := .object [
        ("payout_id", .ofUuid payoutId),
        ("vault_id", .ofUuid vaultId),
        ("amount_minor", .ofInt64 amountMinor),
        ("currency", .string currency)] }
  | .scholarshipAwarded _ awardId applicationId amountMinor currency => {
      notificationType := .scholarshipAwarded
      title := "Scholarship awarded"
      body := "A scholarship award of " ++ toString amountMinor ++ " " ++ currency
        ++ " has been approved."
      metadata := .object [
        ("award_id", .ofUuid awardId),
        ("application_id", .ofUuid applicationId),
        ("amount_minor", .ofInt64 amountMinor),
        ("currency", .string currency)] }
  | .kycActionRequired _ reason => {
      notificationType := .kycActionRequired
      title := "KYC action required"
      body := reason
      metadata := .object [("reason", .string reason)] }

/-! ## Delivery

  Both channels ask the same preference row.  A message is sent after the row is stored, and a
  failure to send it leaves the row. -/

/-- Without a row in the database: in the application, and not by email. -/
def defaultPreference (userId : Uuid) (notificationType : NotificationType) :
    NotificationPreference :=
  ⟨userId, notificationType, true, false⟩

/-- The row that an event is stored as. -/
def eventNotification (newId : Uuid) (event : ApplicationEvent) : Notification where
  id := newId
  userId := eventRecipient event
  notificationType := (renderNotificationTemplate event).notificationType
  title := (renderNotificationTemplate event).title
  body := (renderNotificationTemplate event).body
  metadata := (renderNotificationTemplate event).metadata
  status := .pending
  readAt := none

/-- The message that an event is sent as. -/
def eventMessage (event : ApplicationEvent) : EmailMessage where
  toUserId := eventRecipient event
  notificationType := (renderNotificationTemplate event).notificationType
  subject := (renderNotificationTemplate event).title
  body := (renderNotificationTemplate event).body
  metadata := (renderNotificationTemplate event).metadata

/-- The preference of the recipient for this kind of event. -/
def Mailbox.preferenceFor (m : Mailbox) (event : ApplicationEvent) : NotificationPreference :=
  let recipientUserId := eventRecipient event
  let notificationType := (renderNotificationTemplate event).notificationType
  (m.findByUserAndType recipientUserId (asStr notificationType)).getD
    (defaultPreference recipientUserId notificationType)

/-- The email channel, once the row is `stored`. -/
def sendEmail (emailSender : EmailSender) (enabled : Bool) (event : ApplicationEvent)
    (stored : Option Notification) (m : Mailbox) :
    Except NotificationError (Option Notification) × Mailbox :=
  if enabled then
    ((emailSender (eventMessage event)).map fun _ => stored,
      { m with emails := m.emails ++ [eventMessage event] })
  else (.ok stored, m)

/-- The preference decides about both channels; a failure to store the notification keeps the email
    from being sent. -/
def handleApplicationEvent (newId : Uuid) (emailSender : EmailSender) (event : ApplicationEvent)
    (m : Mailbox) : Except NotificationError (Option Notification) × Mailbox :=
  let preference := m.preferenceFor event
  if preference.inAppEnabled then
    match m.create (eventNotification newId event) with
    | (.error e, m) => (.error (.ofPersistence e), m)
    | (.ok stored, m) => sendEmail emailSender preference.emailEnabled event (some stored) m
  else sendEmail emailSender preference.emailEnabled event none m

/-! ## The dispatcher

  The functions that the handlers call, each with the event that it makes. -/

section

variable (newId : Uuid) (emailSender : EmailSender)

/-- A confirmed contribution concerns the owner of its vault, who is looked up. -/
def contributionReceivedForVaultOwner (vaults : Table SavingsVault) (contribution : Contribution)
    (m : Mailbox) : Except NotificationError (Option Notification) × Mailbox :=
  match vaults.find contribution.vaultId with
  | none => (.error .notFound, m)
  | some vault =>
    handleApplicationEvent newId emailSender (.contributionReceived vault.ownerUserId
      contribution.id contribution.vaultId contribution.amount.amountMinor
      contribution.amount.currency.asStr) m

/-- An approved payout concerns the user who has requested it. -/
def payoutApproved (payout : PayoutRequest) (m : Mailbox) :
    Except NotificationError (Option Notification) × Mailbox :=
  handleApplicationEvent newId emailSender (.payoutApproved payout.requestedBy payout.id
    payout.vaultId payout.amount.amountMinor payout.amount.currency.asStr) m

/-- So does a completed payout. -/
def payoutCompleted (payout : PayoutRequest) (m : Mailbox) :
    Except NotificationError (Option Notification) × Mailbox :=
  handleApplicationEvent newId emailSender (.payoutCompleted payout.requestedBy payout.id
    payout.vaultId payout.amount.amountMinor payout.amount.currency.asStr) m

/-- A granted award concerns the applicant. -/
def scholarshipAwarded (decision : ScholarshipReviewDecision) (m : Mailbox) :
    Except NotificationError (Option Notification) × Mailbox :=
  handleApplicationEvent newId emailSender (.scholarshipAwarded
    decision.application.applicantUserId decision.award.id decision.application.id
    decision.award.amount.amountMinor decision.award.amount.currency.asStr) m

end

/-! ## Preferences

  A preference is one row for each user and type. -/

/-- A user sets his preference for one type. -/
def upsertNotificationPreference (actor : AuthenticatedUser) (notificationType : NotificationType)
    (inAppEnabled emailEnabled : Bool) (m : Mailbox) : NotificationPreference × Mailbox :=
  let preference : NotificationPreference :=
    ⟨actor.userId, notificationType, inAppEnabled, emailEnabled⟩
  (preference, m.upsert preference)

/-! ## What a delivery leaves

  Two lemmas for all that is counted later: what is muted leaves nothing, what is heard leaves a
  trace. -/

/-- The event reaches nobody: the recipient has switched this kind off, or the row cannot be
    stored. -/
def Mailbox.Muted (m : Mailbox) (newId : Uuid) (event : ApplicationEvent) : Prop :=
  if (m.preferenceFor event).inAppEnabled then (m.notifications.find newId).isSome = true
  else (m.preferenceFor event).emailEnabled = false

section

variable {newId : Uuid} {emailSender : EmailSender} {event : ApplicationEvent} {m : Mailbox}

/-- The email channel stores nothing. -/
theorem sendEmail_notifications (enabled : Bool) (stored : Option Notification) :
    (sendEmail emailSender enabled event stored m).2.notifications = m.notifications := by
  cases enabled <;> rfl

/-- A muted event leaves everything as it is. -/
theorem handle_muted (h : m.Muted newId event) :
    (handleApplicationEvent newId emailSender event m).2 = m := by
  rw [Mailbox.Muted] at h
  rw [handleApplicationEvent]
  cases hpreference : (m.preferenceFor event).inAppEnabled with
  | true =>
    rw [hpreference, if_pos rfl] at h
    have htaken : (m.notifications.find (eventNotification newId event).id).isSome = true := h
    simp only [if_true, Mailbox.create, htaken]
  | false =>
    rw [hpreference, if_neg Bool.false_ne_true] at h
    simp only [Bool.false_eq_true, if_false, sendEmail, h]

/-- Any other event leaves a row or a message. -/
theorem handle_heard (h : ¬ m.Muted newId event) :
    ¬ ((handleApplicationEvent newId emailSender event m).2.notifications.rows = m.notifications.rows ∧
      (handleApplicationEvent newId emailSender event m).2.emails = m.emails) := by
  rw [Mailbox.Muted] at h
  rw [handleApplicationEvent]
  rintro ⟨hrows, hemails⟩
  cases hpreference : (m.preferenceFor event).inAppEnabled with
  | true =>
    rw [hpreference, if_pos rfl] at h
    have hnot : (m.notifications.find (eventNotification newId event).id).isSome = false :=
      Bool.not_eq_true _ ▸ h
    have hfree : m.notifications.find (Keyed.key (eventNotification newId event)) = none :=
      Option.isNone_iff_eq_none.mp (Option.isSome_eq_false_iff.mp hnot)
    simp only [hpreference, if_true, Mailbox.create, hnot, Bool.false_eq_true, if_false,
      sendEmail_notifications, Table.rows_insert hfree] at hrows
    -- one row more than before
    simpa using congrArg List.length hrows
  | false =>
    rw [hpreference, if_neg Bool.false_ne_true, Bool.not_eq_false] at h
    simp only [hpreference, Bool.false_eq_true, if_false, sendEmail, h, if_true] at hemails
    -- one message more than before
    simpa using congrArg List.length hemails

/-- A delivery adds one row at most, the row of the event. -/
theorem handle_rows (newId : Uuid) (emailSender : EmailSender) (event : ApplicationEvent)
    (m : Mailbox) :
    (handleApplicationEvent newId emailSender event m).2.notifications.rows = m.notifications.rows ∨
    (handleApplicationEvent newId emailSender event m).2.notifications.rows =
      m.notifications.rows ++ [eventNotification newId event] := by
  rw [handleApplicationEvent]
  cases (m.preferenceFor event).inAppEnabled with
  | false => exact .inl (congrArg Table.rows (sendEmail_notifications _ none))
  | true =>
    cases htaken : (m.notifications.find (eventNotification newId event).id).isSome with
    | true =>
      left
      simp only [if_true, Mailbox.create, htaken]
    | false =>
      right
      have hfree : m.notifications.find (Keyed.key (eventNotification newId event)) = none :=
        Option.isNone_iff_eq_none.mp (Option.isSome_eq_false_iff.mp htaken)
      simp only [if_true, Mailbox.create, htaken, Bool.false_eq_true, if_false,
        sendEmail_notifications, Table.rows_insert hfree]

end

end EduStell.Notifications
