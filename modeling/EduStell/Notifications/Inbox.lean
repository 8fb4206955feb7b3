/-
  The notification tables under concurrency: the handlers as database programs.

  `EduStell.Notifications.Service` says what one delivery leaves in the tables.  Here the same service
  is a program over them, one statement after another, next to the database of the requests
  (`World`), so that handlers can be interleaved: those that announce what they have done, and those
  of `routes::notifications`, which list and mark notifications and keep preferences.  Every
  repository call is a transaction of its own.

  What an announcing handler dispatches it dispatches after its service has answered; an error of the
  dispatcher is logged and does not change the answer.  The foreign keys to users hold: a recipient
  comes from a row that refers to him, and no code deletes users.

  What the services promise does not depend on the order in which the statements of two handlers
  fall; the modules `EduStell.Notifications.Truthful` and `EduStell.Notifications.OptOut` are
  about that.
-/
import EduStell.Api.Pagination
import EduStell.Notifications.Handlers
import EduStell.Txn.Compose

namespace EduStell.Inbox

open Txn Program Api Notifications

/-! ## Rows

  The two tables, with what their UPDATEs set. -/

/-- The names that the status is parsed from. -/
instance : StringEnum NotificationStatus where
  name := "NotificationStatus"
  variants := [.pending, .sent, .read, .failed]
  asStr
    | .pending => "pending"
    | .sent => "sent"
    | .read => "read"
    | .failed => "failed"
  find_asStr a := by cases a <;> decide

/-- A row of `notifications`. -/
structure NotificationRow extends Notification where
  createdAt : DateTime

/-- A row of `notification_preferences`. -/
structure NotificationPreferenceRow extends NotificationPreference where
  id : Uuid
  createdAt : DateTime
  updatedAt : DateTime

/-- `notifications_pkey`. -/
instance : Keyed NotificationRow Uuid := ⟨fun n => n.id⟩

/-- `notification_preferences_user_type_unique` -/
instance : Keyed NotificationPreferenceRow (Uuid × NotificationType) :=
  ⟨fun p => (p.userId, p.notificationType)⟩

/-- `SET status = …, read_at = …` -/
def NotificationRow.mark (n : NotificationRow) (status : NotificationStatus)
    (readAt : Option DateTime) : NotificationRow :=
  { n with status := status, readAt := readAt }

/-- `SET in_app_enabled = EXCLUDED.in_app_enabled, email_enabled = …`; a trigger sets `updated_at`. -/
def NotificationPreferenceRow.set (p excluded : NotificationPreferenceRow) (now : DateTime) :
    NotificationPreferenceRow :=
  { p with
    inAppEnabled := excluded.inAppEnabled
    emailEnabled := excluded.emailEnabled
    updatedAt := now }

/-! ## The store

  A notification is locked by its id, and a preference by its user and its type. -/

/-- The tables of the notification service. -/
structure InboxDb where
  notifications : Table NotificationRow
  preferences : Table NotificationPreferenceRow

/-- Rows under their keys, and the primary key of the preferences. -/
inductive InboxResource
  | notification (id : Uuid)
  | preference (userId : Uuid) (notificationType : NotificationType)
  | preferenceId (id : Uuid)
  deriving DecidableEq

/-- What a lock returns: the row, or whether the id is taken. -/
@[reducible] def InboxContent : InboxResource → Type
  | .notification _ => Option NotificationRow
  | .preference _ _ => Option NotificationPreferenceRow
  | .preferenceId _ => Bool

/-- The content of a resource in the tables. -/
def InboxDb.content (s : InboxDb) : (r : InboxResource) → InboxContent r
  | .notification id => s.notifications.find id
  | .preference userId notificationType => s.preferences.find (userId, notificationType)
  | .preferenceId id => s.preferences.any fun p => p.id = id

/-- The statements of the notification service. -/
inductive InboxWrite
  | insertNotification (row : NotificationRow)
  | markNotification (id : Uuid) (status : NotificationStatus) (readAt : Option DateTime)
  | insertPreference (row : NotificationPreferenceRow)
  | setPreference (excluded : NotificationPreferenceRow) (now : DateTime)

namespace InboxWrite

/-- What a statement does to the tables. -/
def apply : InboxWrite → InboxDb → InboxDb
  | insertNotification row, s => { s with notifications := s.notifications.insert row }
  | markNotification id status readAt, s =>
    { s with notifications :=
        s.notifications.modify id (fun n => n.mark status readAt) fun _ h => h }
  | insertPreference row, s => { s with preferences := s.preferences.insert row }
  | setPreference excluded now, s =>
    let key := (excluded.userId, excluded.notificationType)
    { s with preferences := s.preferences.modify key (fun p => p.set excluded now) fun _ h => h }

/-- What a statement changes. -/
def Touches : InboxWrite → InboxResource → Prop
  | insertNotification row, r => r = .notification row.id
  | markNotification id _ _, r => r = .notification id
  | insertPreference row, r => r = .preference row.userId row.notificationType ∨
    r = .preferenceId row.id
  | setPreference excluded _, r => r = .preference excluded.userId excluded.notificationType

/-- A statement leaves the content outside its footprint alone. -/
theorem content_of_not_touches {w : InboxWrite} {r : InboxResource} {s : InboxDb}
    (h : ¬ w.Touches r) : (w.apply s).content r = s.content r := by
  cases w with
  | insertNotification row =>
    cases r with
    | notification id => exact Table.find_insert_ne _ _ fun he => h (he ▸ rfl)
    | _ => rfl
  | markNotification id status readAt =>
    cases r with
    | notification id' =>
      exact Table.find_modify_ne _ (ne_of_apply_ne InboxResource.notification h) _
        fun _ hk => by exact hk
    | _ => rfl
  | insertPreference row =>
    cases r with
    | preference userId notificationType =>
      refine Table.find_insert_ne _ _ fun he => h (.inl ?_)
      obtain ⟨rfl, rfl⟩ := Prod.mk.inj he
      rfl
    | preferenceId id =>
      exact Table.any_insert_of_not _ _ (decide_eq_false fun he => h (.inr (he ▸ rfl)))
    | _ => rfl
  | setPreference excluded now =>
    cases r with
    | preference userId notificationType =>
      refine Table.find_modify_ne _ (fun he => h ?_) _ fun _ hk => by exact hk
      obtain ⟨rfl, rfl⟩ := Prod.mk.inj he
      rfl
    | preferenceId id => exact Table.any_modify _ _ _ (fun _ hk => by exact hk) fun _ => rfl
    | _ => rfl

/-- What a statement makes of its footprint depends on the footprint alone. -/
theorem content_congr {w : InboxWrite} {s s' : InboxDb}
    (h : ∀ r, w.Touches r → s.content r = s'.content r) {r : InboxResource} (hr : w.Touches r) :
    (w.apply s).content r = (w.apply s').content r := by
  cases w with
  | insertNotification row => cases hr; exact Table.find_insert_congr _ (h _ rfl)
  | markNotification id status readAt =>
    cases hr
    exact Table.find_modify_congr (h _ rfl) _ fun _ hk => by exact hk
  | insertPreference row =>
    have hkey := h _ (.inl rfl)
    rcases hr with rfl | rfl
    · exact Table.find_insert_congr _ hkey
    · exact Table.any_insert_congr _ hkey (h _ (.inr rfl))
  | setPreference excluded now =>
    cases hr
    exact Table.find_modify_congr (h _ rfl) _ fun _ hk => by exact hk

/-- A mark changes its own notification only. -/
theorem find_markNotification (s : InboxDb) (id id' : Uuid) (status : NotificationStatus)
    (readAt : Option DateTime) :
    ((markNotification id status readAt).apply s).notifications.find id' =
      if id' = id then (s.notifications.find id').map fun n => n.mark status readAt
      else s.notifications.find id' :=
  Table.find_modify _ _ _ _ fun _ hk => by exact hk

/-- A preference changes its own row only. -/
theorem find_setPreference (s : InboxDb) (excluded : NotificationPreferenceRow) (now : DateTime)
    (key : Uuid × NotificationType) :
    ((setPreference excluded now).apply s).preferences.find key =
      if key = (excluded.userId, excluded.notificationType) then
        (s.preferences.find key).map fun p => p.set excluded now
      else s.preferences.find key :=
  Table.find_modify _ _ _ _ fun _ hk => by exact hk

end InboxWrite

/-- The statements and locks of the notification service as a store. -/
instance : Store InboxDb InboxContent InboxWrite where
  get := InboxDb.content
  apply := InboxWrite.apply
  touches := InboxWrite.Touches
  get_of_not_touches := InboxWrite.content_of_not_touches
  get_congr h _ hr := InboxWrite.content_congr h hr

/-- The database of the requests, and the notification tables. -/
abbrev World : Type := Db × InboxDb

/-- A transaction that may work on the database of the workflows and on that of the notifications.
    -/
abbrev InboxTx (ε α : Type) : Type :=
  Program World (Sum.elim Content InboxContent) (Write ⊕ InboxWrite) ε α

/-! ## `PgNotificationRepository`

  One statement for each method; whose notification it is, the service has to ask. -/

/-- A row lock of the notification service. -/
def lockInbox {ε : Type} (r : InboxResource) : InboxTx ε (InboxContent r) :=
  forUpdate (Sum.inr r : Resource ⊕ InboxResource)

/-- A statement of the notification service. -/
def executeInbox {ε : Type} (w : InboxWrite) : InboxTx ε Unit :=
  execute (Sum.inr w : Write ⊕ InboxWrite)

/-- INSERT of a notification. -/
def create (notification : NotificationRow) : InboxTx PersistenceError NotificationRow := do
  beginTx
  let entry ← lockInbox (.notification notification.id)
  failIf (Option.isSome entry = true) (.uniqueViolation "notifications_pkey")
  executeInbox (.insertNotification notification)
  commitTx
  return notification

/-- Plain SELECT of a notification. -/
def findById {ε : Type} (id : Uuid) : InboxTx ε (Option NotificationRow) :=
  select fun w => w.2.notifications.find id

/-- `ORDER BY created_at DESC` -/
def listByUser {ε : Type} (userId : Uuid) : InboxTx ε (List NotificationRow) :=
  select fun w => orderByDesc (fun n => n.createdAt)
    (w.2.notifications.rows.filter fun n => n.userId = userId)

/-- No rows affected is no error. -/
def mark {ε : Type} (id : Uuid) (status : NotificationStatus) (readAt : Option DateTime) :
    InboxTx ε Unit := do
  beginTx
  let _ ← lockInbox (.notification id)
  executeInbox (.markNotification id status readAt)
  commitTx

/-- `status = 'read'`, with the instant. -/
def markRead {ε : Type} (now : DateTime) (id : Uuid) : InboxTx ε Unit :=
  mark id .read (some now.toTimestamptz)

/-- Back to `pending`, without an instant. -/
def markUnread {ε : Type} (id : Uuid) : InboxTx ε Unit := mark id .pending none

/-! ## `PgNotificationPreferenceRepository`

  The upsert names the two columns of its unique index, so it writes the row that is there or a
  new one. -/

/-- Plain SELECT of the preference of a user for a type. -/
def findByUserAndType {ε : Type} (userId : Uuid) (notificationType : String) :
    InboxTx ε (Option NotificationPreferenceRow) :=
  select fun w => w.2.preferences.rows.find? fun p =>
    p.userId = userId ∧ asStr p.notificationType = notificationType

/-- `ORDER BY notification_type ASC` -/
def listPreferencesByUser {ε : Type} (userId : Uuid) :
    InboxTx ε (List NotificationPreferenceRow) :=
  select fun w => (w.2.preferences.rows.filter fun p => p.userId = userId).insertionSort
    fun p p' => asStr p.notificationType ≤ asStr p'.notificationType

/-- `INSERT … ON CONFLICT (user_id, notification_type) DO UPDATE` -/
def upsert (now : DateTime) (preference : NotificationPreferenceRow) :
    InboxTx PersistenceError NotificationPreferenceRow := do
  beginTx
  match ← lockInbox (.preference preference.userId preference.notificationType) with
  | some row =>
    executeInbox (.setPreference preference now.toTimestamptz)
    commitTx
    return row.set preference now.toTimestamptz
  | none =>
    let taken ← lockInbox (.preferenceId preference.id)
    failIf (taken = true) (.uniqueViolation "notification_preferences_pkey")
    executeInbox (.insertPreference preference)
    commitTx
    return preference

/-! ## `application::notifications`

  The preference is read, the row is stored, the message is sent: three steps of which the last
  two may be switched off one by one. -/

section

variable (now : DateTime)

/-- The row that an event is stored as; `created_at` is set by the database. -/
def eventRow (newId : Uuid) (event : ApplicationEvent) : NotificationRow :=
  { eventNotification newId event with createdAt := now.toTimestamptz }

/-- The preference is read first, the notification is stored next, the email is sent last; an email
    that fails leaves the notification stored. -/
def handleApplicationEvent (newId : Uuid) (emailSender : EmailSender) (event : ApplicationEvent) :
    InboxTx NotificationError (Option NotificationRow) := do
  let recipientUserId := eventRecipient event
  let notificationType := (renderNotificationTemplate event).notificationType
  let row ← findByUserAndType recipientUserId (asStr notificationType)
  let preference := (row.map fun p => p.toNotificationPreference).getD
    (defaultPreference recipientUserId notificationType)
  let stored ← if preference.inAppEnabled then
      some <$> (create (eventRow now newId event)).mapError .ofPersistence
    else pure none
  if preference.emailEnabled then ofExcept (emailSender (eventMessage event))
  return stored

/-- The notifications of the actor. -/
def listNotifications (actor : AuthenticatedUser) :
    InboxTx NotificationError (List NotificationRow) :=
  listByUser actor.userId

/-- The notification is the actor's own. -/
def ownNotification (actor : AuthenticatedUser) (notificationId : Uuid) :
    InboxTx NotificationError NotificationRow := do
  let notification ← okOr (← findById notificationId) .notFound
  failIf (notification.userId ≠ actor.userId) .forbidden
  return notification

/-- Who marks a notification has to be its user. -/
def markNotificationRead (actor : AuthenticatedUser) (notificationId : Uuid) :
    InboxTx NotificationError Unit := do
  let _ ← ownNotification actor notificationId
  markRead now notificationId

/-- The same check, and the mark taken back. -/
def markNotificationUnread (actor : AuthenticatedUser) (notificationId : Uuid) :
    InboxTx NotificationError Unit := do
  let _ ← ownNotification actor notificationId
  markUnread notificationId

/-- The preferences of the actor. -/
def listNotificationPreferences (actor : AuthenticatedUser) :
    InboxTx NotificationError (List NotificationPreferenceRow) :=
  listPreferencesByUser actor.userId

/-- The row that is there keeps its id and its first instant. -/
def upsertNotificationPreference (newId : Uuid) (actor : AuthenticatedUser)
    (notificationType : NotificationType) (inAppEnabled emailEnabled : Bool) :
    InboxTx NotificationError NotificationPreferenceRow := do
  let existing ← findByUserAndType actor.userId (asStr notificationType)
  let preference : NotificationPreferenceRow := {
    userId := actor.userId
    notificationType := notificationType
    inAppEnabled := inAppEnabled
    emailEnabled := emailEnabled
    id := (existing.map fun item => item.id).getD newId
    createdAt := (existing.map fun item => item.createdAt).getD now.toTimestamptz
    updatedAt := now.toTimestamptz }
  (upsert now preference).mapError .ofPersistence

end

/-! ## Handlers

  The recipient is looked up after the service has answered, in the database as it is by then. -/

/-- The response to an error of the notification service. -/
def ofNotification : NotificationError → ApiError
  | .validation message => ⟨400, .validation, message, []⟩
  | .forbidden => ⟨403, .forbidden, "forbidden", []⟩
  | .notFound => ⟨404, .notFound, "resource not found", []⟩
  | .repository _ => ⟨500, .infrastructureUnavailable, "internal server error", []⟩

/-- A service over the database of the requests. -/
def onDb {α : Type} (service : Tx ServiceError α) : InboxTx ServiceError α :=
  service.within Part.left

/-- A handler that dispatches an event once its service has answered.  What the dispatcher answers is
    logged at most. -/
def respond {α : Type} (valid : Except ApiError Unit) (service : Tx ServiceError α)
    (dispatch : α → InboxTx NotificationError (Option NotificationRow)) : InboxTx ApiError α := do
  ofExcept valid
  match ← (onDb service).attempt with
  | .error e => fail (.ofService e)
  | .ok a =>
    let _ ← (dispatch a).attempt
    return a

section

variable (now : DateTime) (newId : Uuid) (emailSender : EmailSender)

/-- The owner is read from the vault as it is by then. -/
def contributionReceivedForVaultOwner (contribution : Contribution) :
    InboxTx NotificationError (Option NotificationRow) := do
  let vault ← okOr (← select fun w => w.1.vaults.find contribution.vaultId) .notFound
  handleApplicationEvent now newId emailSender (.contributionReceived vault.ownerUserId
    contribution.id contribution.vaultId contribution.amount.amountMinor
    contribution.amount.currency.asStr)

/-- The approved payout, to whom it was requested by. -/
def payoutApproved (payout : PayoutRequest) : InboxTx NotificationError (Option NotificationRow) :=
  handleApplicationEvent now newId emailSender (.payoutApproved payout.requestedBy payout.id
    payout.vaultId payout.amount.amountMinor payout.amount.currency.asStr)

/-- The completed payout, to whom it was requested by. -/
def payoutCompleted (payout : PayoutRequest) : InboxTx NotificationError (Option NotificationRow) :=
  handleApplicationEvent now newId emailSender (.payoutCompleted payout.requestedBy payout.id
    payout.vaultId payout.amount.amountMinor payout.amount.currency.asStr)

/-- The award that was granted, to the applicant. -/
def scholarshipAwarded (decision : ScholarshipReviewDecision) :
    InboxTx NotificationError (Option NotificationRow) :=
  handleApplicationEvent now newId emailSender (.scholarshipAwarded
    decision.application.applicantUserId decision.award.id decision.application.id
    decision.award.amount.amountMinor decision.award.amount.currency.asStr)

/-- `contributions::confirm` -/
def confirm (contributionId : Uuid) (currentUser : AuthenticatedUser)
    (request : SettleContributionRequest) : InboxTx ApiError Contribution :=
  respond request.validate
    (confirmContribution currentUser ⟨contributionId, request.externalReference⟩)
    (contributionReceivedForVaultOwner now newId emailSender)

/-- `payouts::approve` -/
def approve (payoutId : Uuid) (currentUser : AuthenticatedUser)
    (request : ReviewPayoutRequestBody) : InboxTx ApiError PayoutRequest :=
  respond request.validate
    (approvePayout currentUser ⟨payoutId, request.reviewNotes, request.externalPayoutReference⟩)
    (payoutApproved now newId emailSender)

/-- `payouts::complete` -/
def complete (payoutId : Uuid) (currentUser : AuthenticatedUser)
    (request : ReviewPayoutRequestBody) : InboxTx ApiError PayoutRequest :=
  respond request.validate
    (completePayout currentUser ⟨payoutId, request.reviewNotes, request.externalPayoutReference⟩)
    (payoutCompleted now newId emailSender)

/-- What the handlers of the other requests dispatch: only the approval of a scholarship application
    is announced. -/
def dispatchOther (q : Request) (answer : Response) :
    InboxTx NotificationError (Option NotificationRow) :=
  match q, answer with
  | .approve .., .decision decision => scholarshipAwarded now newId emailSender decision
  | _, _ => pure none

/-- The services behind the other handlers. -/
def other (q : Request) : InboxTx ApiError Response :=
  respond (.ok ()) q.program (dispatchOther now newId emailSender q)

end

/-- An item list as a page of it; arithmetic that overflows would panic. -/
def paged {α : Type} (items : List α) (page : Page) : InboxTx ApiError (List α × Meta) :=
  okOr (paginated items page none) ⟨500, .internal, "internal server error", []⟩

/-- `notifications::list` -/
def list (currentUser : AuthenticatedUser) (query : PaginationQuery) :
    InboxTx ApiError (List NotificationRow × Meta) := do
  let page ← ofExcept query.normalize
  paged (← (listNotifications currentUser).mapError ofNotification) page

/-- `notifications::list_preferences` -/
def listPreferences (currentUser : AuthenticatedUser) (query : PaginationQuery) :
    InboxTx ApiError (List NotificationPreferenceRow × Meta) := do
  let page ← ofExcept query.normalize
  paged (← (listNotificationPreferences currentUser).mapError ofNotification) page

/-- `notifications::upsert_preference`; the path names the type. -/
def upsertPreference (now : DateTime) (newId : Uuid) (currentUser : AuthenticatedUser)
    (notificationType : String) (inAppEnabled emailEnabled : Bool) :
    InboxTx ApiError NotificationPreferenceRow := do
  let notificationType ← ofExcept ((StringEnum.parse NotificationType notificationType).mapError
    fun _ => (⟨400, .validation, "invalid notification type supplied", []⟩ : ApiError))
  (upsertNotificationPreference now newId currentUser notificationType inAppEnabled
    emailEnabled).mapError ofNotification

/-! ## Requests

  A call is a request with its instant and what it draws, and its program is the one of its route.
  -/

/-- The requests of the routes; `other` are the workflow requests whose routes announce an award or
    nothing. -/
inductive InboxRequest
  | confirm (newId contributionId : Uuid) (currentUser : AuthenticatedUser)
    (request : SettleContributionRequest)
  | approve (newId payoutId : Uuid) (currentUser : AuthenticatedUser)
    (request : ReviewPayoutRequestBody)
  | complete (newId payoutId : Uuid) (currentUser : AuthenticatedUser)
    (request : ReviewPayoutRequestBody)
  | other (newId : Uuid) (q : Request)
  | list (currentUser : AuthenticatedUser) (query : PaginationQuery)
  | markRead (currentUser : AuthenticatedUser) (notificationId : Uuid)
  | markUnread (currentUser : AuthenticatedUser) (notificationId : Uuid)
  | listPreferences (currentUser : AuthenticatedUser) (query : PaginationQuery)
  | upsertPreference (newId : Uuid) (currentUser : AuthenticatedUser) (notificationType : String)
    (inAppEnabled emailEnabled : Bool)

/-- A request and the instant at which it is served. -/
structure InboxCall where
  now : DateTime
  request : InboxRequest

/-- What a request is answered with. -/
inductive InboxAnswer
  | contribution (c : Contribution)
  | payout (p : PayoutRequest)
  | other (r : Response)
  | notifications (page : List NotificationRow × Meta)
  | preferences (page : List NotificationPreferenceRow × Meta)
  | preference (p : NotificationPreferenceRow)
  | success

/-- The request as a program over both databases. -/
def InboxCall.program (emailSender : EmailSender) (c : InboxCall) : InboxTx ApiError InboxAnswer :=
  match c.request with
  | .confirm newId contributionId currentUser request =>
    .contribution <$> Inbox.confirm c.now newId emailSender contributionId currentUser request
  | .approve newId payoutId currentUser request =>
    .payout <$> Inbox.approve c.now newId emailSender payoutId currentUser request
  | .complete newId payoutId currentUser request =>
    .payout <$> Inbox.complete c.now newId emailSender payoutId currentUser request
  | .other newId q => .other <$> Inbox.other c.now newId emailSender q
  | .list currentUser query => .notifications <$> Inbox.list currentUser query
  | .markRead currentUser notificationId => (fun _ => .success) <$>
    (markNotificationRead c.now currentUser notificationId).mapError ofNotification
  | .markUnread currentUser notificationId => (fun _ => .success) <$>
    (markNotificationUnread currentUser notificationId).mapError ofNotification
  | .listPreferences currentUser query => .preferences <$> Inbox.listPreferences currentUser query
  | .upsertPreference newId currentUser notificationType inAppEnabled emailEnabled =>
    .preference <$> Inbox.upsertPreference c.now newId currentUser notificationType inAppEnabled
      emailEnabled

/-- An event of a run. -/
abbrev InboxHappening : Type := Event InboxCall Nat

/-- The two databases with their slots. -/
abbrev InboxSys : Type := System World (Sum.elim Content InboxContent) (Write ⊕ InboxWrite)
  ApiError InboxAnswer InboxCall Nat

/-- The system after the events `es`, from a committed database and no request under way. -/
def InboxSys.after (emailSender : EmailSender) (w : World) (es : List InboxHappening) : InboxSys :=
  (System.start w).run (InboxCall.program emailSender) es

end EduStell.Inbox
