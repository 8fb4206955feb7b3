/-
  Notifications are truthful, whatever runs next to what.

  A handler commits, and then dispatches, one statement after another, while others settle, review,
  mark and list.  By the time the notification is stored the row that it tells of may have moved on,
  and the recipient may have been looked up in a later state.  What every interleaving keeps is a pact
  (`inboxPact`): a stored notification tells of what the trail has (`Backed`), and to the one whom it
  concerns; only its recipient marks it read; only a user himself has chosen his preferences; and a
  listing shows him his own rows.

  The plan: one lemma for each statement, one for each call, and the induction over events from
  `EduStell.Txn.Rely`.  That the services keep their own pact is not proved again: they are one
  side of a product, and `left_carries` takes their pact over.
-/
import EduStell.Notifications.Backed
import EduStell.Notifications.Inbox

namespace EduStell.Inbox

open Txn Program Api Notifications

/-! ## The pact

  The pact has three parts: what must be so of the tables, what stays from one state to a later
  one, and what a user is promised when he is answered. -/

/-- The row but for whether it has been read. -/
def NotificationRow.unread (n : NotificationRow) : NotificationRow := n.mark .pending none

/-- The id under which a request stores what it announces. -/
def InboxRequest.newId : InboxRequest → Option Uuid
  | .confirm newId .. | .approve newId .. | .complete newId .. | .other newId _ => some newId
  | .list .. | .markRead .. | .markUnread .. | .listPreferences .. | .upsertPreference .. => none

/-- The row of an event that has happened, announced by a call of the run. -/
def Told (es : List InboxHappening) (s₀ s : Db) (n : NotificationRow) : Prop :=
  ∃ i c event, .call i c ∈ es ∧ c.request.newId = some n.id ∧ Backed s₀ s event ∧
    n.unread = eventRow c.now n.id event

/-- Marked read by a call of its recipient. -/
def ReadBy (es : List InboxHappening) (n : NotificationRow) : Prop :=
  ∃ i c user, .call i c ∈ es ∧ c.request = .markRead user n.id ∧ user.userId = n.userId ∧
    n.readAt = some c.now.toTimestamptz

/-- Set by a call of its user. -/
def ChosenBy (es : List InboxHappening) (p : NotificationPreferenceRow) : Prop :=
  ∃ i c newId user name, .call i c ∈ es ∧
    c.request = .upsertPreference newId user name p.inAppEnabled p.emailEnabled ∧
    user.userId = p.userId ∧ StringEnum.parse NotificationType name = .ok p.notificationType

/-- Everything in the tables has been there at the start, or has its reason in the run. -/
structure Truthful (es : List InboxHappening) (w₀ w : World) : Prop where
  /-- A notification was there at the start, or tells of what has happened. -/
  told : ∀ id n, w.2.notifications.find id = some n →
    (∃ n₀, w₀.2.notifications.find id = some n₀ ∧ n₀.unread = n.unread) ∨ Told es w₀.1 w.1 n
  /-- It was read at the start, or has been marked by its recipient. -/
  read : ∀ id n, w.2.notifications.find id = some n → n.status = .read →
    (∃ n₀, w₀.2.notifications.find id = some n₀ ∧ n₀.status = .read ∧ n₀.readAt = n.readAt) ∨
      ReadBy es n
  /-- A preference was set at the start, or by its user. -/
  chosen : ∀ key p, w.2.preferences.find key = some p →
    (∃ p₀, w₀.2.preferences.find key = some p₀ ∧ p₀.inAppEnabled = p.inAppEnabled ∧
      p₀.emailEnabled = p.emailEnabled) ∨ ChosenBy es p

/-- No notification is lost, and none changes but for its mark. -/
structure InboxKept (w w' : World) : Prop where
  /-- What notifications rely on stays true. -/
  news : NewsKept w.1 w'.1
  /-- No notification is lost, and none changes but for its mark. -/
  notifications : Table.Keeps NotificationRow.unread w.2.notifications w'.2.notifications

/-- The row, as it was or with another mark, is in the table. -/
def Present (w : World) (n : NotificationRow) : Prop :=
  ∃ n', w.2.notifications.find n.id = some n' ∧ n'.unread = n.unread

/-- A notification of this id is somebody's. -/
def Someones (w : World) (id : Uuid) (P : Uuid → Prop) : Prop :=
  ∃ n, w.2.notifications.find id = some n ∧ P n.userId

/-- What is promised of the answers: a user sees and marks what is his. -/
structure InboxAnswered (c : InboxCall) (r : Except ApiError InboxAnswer) (w : World) : Prop where
  /-- A list shows a user notifications of his own, as they are. -/
  listed : ∀ user query items pages, c.request = .list user query →
    r = .ok (.notifications (items, pages)) → ∀ n ∈ items, n.userId = user.userId ∧ Present w n
  /-- Only his own can be marked. -/
  marked : ∀ user id, c.request = .markRead user id ∨ c.request = .markUnread user id →
    r = .ok .success → Someones w id (· = user.userId)
  /-- And it is refused only for one that is not his. -/
  forbidden : ∀ user id, c.request = .markRead user id ∨ c.request = .markUnread user id →
    r = .error (ofNotification .forbidden) → Someones w id (· ≠ user.userId)

namespace InboxKept

variable {w w' w'' : World}

/-- Nothing has changed. -/
theorem refl (w : World) : InboxKept w w := ⟨.refl w.1, .refl _⟩

/-- What is kept over two stretches is kept over both. -/
theorem trans (h : InboxKept w w') (h' : InboxKept w' w'') : InboxKept w w'' :=
  ⟨h.news.trans h'.news, h.notifications.trans h'.notifications⟩

/-- A notification stays in the table. -/
theorem present {n : NotificationRow} (h : InboxKept w w') (hn : Present w n) : Present w' n := by
  obtain ⟨x, hx, hsame⟩ := hn
  obtain ⟨x', hx', hsame'⟩ := h.notifications _ x hx
  exact ⟨x', hx', hsame'.trans hsame⟩

/-- A notification stays with its user. -/
theorem someones {id : Uuid} {P : Uuid → Prop} (h : InboxKept w w') (hn : Someones w id P) :
    Someones w' id P := by
  obtain ⟨x, hx, hP⟩ := hn
  obtain ⟨x', hx', hsame⟩ := h.notifications _ x hx
  have huser : x'.userId = x.userId := congrArg (fun n => n.userId) hsame
  exact ⟨x', hx', by rw [huser]; exact hP⟩

/-- What was answered stays true. -/
theorem answered {c : InboxCall} {r : Except ApiError InboxAnswer} (h : InboxKept w w')
    (hr : InboxAnswered c r w) : InboxAnswered c r w' := by
  constructor
  · intro user query items pages hrequest hok n hn
    obtain ⟨huser, hpresent⟩ := hr.listed user query items pages hrequest hok n hn
    exact ⟨huser, h.present hpresent⟩
  · exact fun user id hrequest hok => h.someones (hr.marked user id hrequest hok)
  · exact fun user id hrequest herr => h.someones (hr.forbidden user id hrequest herr)

end InboxKept

/-- What a notification says stays true. -/
theorem Told.mono {es : List InboxHappening} {s₀ s t : Db} {n : NotificationRow} (h : NewsKept s t)
    (hn : Told es s₀ s n) : Told es s₀ t n := by
  obtain ⟨i, c, event, hcall, hid, hbacked, hrow⟩ := hn
  exact ⟨i, c, event, hcall, hid, h.backed hbacked, hrow⟩

/-- What the calls of a run agree on. -/
def inboxPact (es : List InboxHappening) (w₀ : World) : Pact World ApiError InboxAnswer InboxCall where
  inv w := Audited w₀.1 w.1 ∧ Truthful es w₀ w
  rely := InboxKept
  guar w w' := (Audited w₀.1 w'.1 ∧ Truthful es w₀ w') ∧ InboxKept w w'
  arrivals c := ∃ i, .call i c ∈ es
  answers := InboxAnswered
  refl := .refl
  trans := .trans
  keep _ h := h
  answers_stable := InboxKept.answered

/-! ## Each statement keeps the pact

  A COMMIT of the notification service publishes one statement, so one lemma for each kind of
  statement covers them all. -/

section Statements

variable {es : List InboxHappening} {w₀ w : World}

/-- What is written to the database of the requests alone. -/
theorem guar_db {s : Db} (h : (inboxPact es w₀).inv w) (haudited : Audited w₀.1 s)
    (hkept : NewsKept w.1 s) : (inboxPact es w₀).guar w (s, w.2) := by
  refine ⟨⟨haudited, ⟨?_, h.2.read, h.2.chosen⟩⟩, hkept, .refl _⟩
  exact fun id n hn => (h.2.told id n hn).imp_right fun htold => htold.mono hkept

/-- A notification is stored that tells of what has happened. -/
theorem guar_insert (h : (inboxPact es w₀).inv w) {n : NotificationRow} (htold : Told es w₀.1 w.1 n)
    (hpending : n.status = .pending) :
    (inboxPact es w₀).guar w (w.1, (InboxWrite.insertNotification n).apply w.2) := by
  refine ⟨⟨h.1, ⟨?_, ?_, h.2.chosen⟩⟩, .refl _, Table.keeps_insert _ _⟩
  · intro id x hx
    rcases Table.of_find_insert hx with rfl | hx
    · exact .inr htold
    · exact h.2.told id x hx
  · intro id x hx hread
    rcases Table.of_find_insert hx with rfl | hx
    · rw [hpending] at hread
      cases hread
    · exact h.2.read id x hx hread

/-- A notification is marked, and read only by its recipient. -/
theorem guar_mark (h : (inboxPact es w₀).inv w) {id : Uuid} {status : NotificationStatus}
    {readAt : Option DateTime}
    (hread : ∀ n, w.2.notifications.find id = some n → status = .read →
      ReadBy es (n.mark status readAt)) :
    (inboxPact es w₀).guar w (w.1, (InboxWrite.markNotification id status readAt).apply w.2) := by
  -- the row found after the update is the old one, or the one that was marked
  have hfind : ∀ id' x, ((InboxWrite.markNotification id status readAt).apply
      w.2).notifications.find id' = some x → ∃ n, w.2.notifications.find id' = some n ∧
        (x = n ∨ id' = id ∧ x = n.mark status readAt) := by
    intro id' x hx
    rw [InboxWrite.find_markNotification] at hx
    split at hx
    · rename_i hid
      obtain ⟨n, hn, rfl⟩ := Option.map_eq_some_iff.mp hx
      exact ⟨n, hn, .inr ⟨hid, rfl⟩⟩
    · exact ⟨x, hx, .inl rfl⟩
  have hkept : Table.Keeps NotificationRow.unread w.2.notifications
      ((InboxWrite.markNotification id status readAt).apply w.2).notifications :=
    Table.keeps_modify _ _ _ (fun _ hk => by exact hk) fun _ => rfl
  -- a mark changes status and time of reading, and nothing of what was told
  refine ⟨⟨h.1, ⟨?_, ?_, h.2.chosen⟩⟩, .refl _, hkept⟩
  · intro id' x hx
    obtain ⟨n, hn, rfl | ⟨-, rfl⟩⟩ := hfind id' x hx
    · exact h.2.told id' x hn
    · exact h.2.told id' n hn
  · intro id' x hx hstatus
    obtain ⟨n, hn, rfl | ⟨rfl, rfl⟩⟩ := hfind id' x hx
    · exact h.2.read id' x hn hstatus
    · exact .inr (hread n hn hstatus)

/-- A preference is set by its user. -/
theorem guar_preference (h : (inboxPact es w₀).inv w) {x : InboxWrite}
    (hnotifications : (x.apply w.2).notifications = w.2.notifications)
    (hchosen : ∀ key p, (x.apply w.2).preferences.find key = some p →
      w.2.preferences.find key = some p ∨ ChosenBy es p) :
    (inboxPact es w₀).guar w (w.1, x.apply w.2) := by
  refine ⟨⟨h.1, ⟨?_, ?_, ?_⟩⟩, .refl _, ?_⟩
  · intro id n hn
    exact h.2.told id n (hnotifications ▸ hn)
  · intro id n hn
    exact h.2.read id n (hnotifications ▸ hn)
  · intro key p hp
    rcases hchosen key p hp with hp | hp
    · exact h.2.chosen key p hp
    · exact .inr hp
  · change Table.Keeps _ _ (x.apply w.2).notifications
    rw [hnotifications]
    exact .refl _

end Statements

/-! ## Each call keeps the pact

  A handler first runs its service, whose own pact says what an `Ok` is worth, and goes on with
  the event that this entitles it to. -/

section Rules

variable {ε α : Type} {X : Pact World ε α InboxCall} {q : InboxCall} {w : World}

/-- The statements of `create`, and how it goes on. -/
theorem among_create {n : NotificationRow} {g : PersistenceError → ε}
    {k : NotificationRow → InboxTx ε α} (herr : ∀ e w', X.answers q (.error e) w')
    (h : ∀ w', X.Later w w' →
      X.guar w' (w'.1, (InboxWrite.insertNotification n).apply w'.2) ∧
      (k n).Among X q [] [] (w'.1, (InboxWrite.insertNotification n).apply w'.2)) :
    ((create n).mapError g >>= k).Among X q [] [] w := by
  intro t ht
  change Program.Among X q (((failIf (Option.isSome (t.2.notifications.find n.id) = true)
    (.uniqueViolation "notifications_pkey") >>= fun _ => _).mapError g) >>= k) [] _ t
  -- the primary key is asked first
  rw [failIf]
  split
  · exact herr _ _
  · -- the insert locks the row that it adds
    refine ⟨fun r hr => ?_, fun t' ht' => h t' ⟨ht'.inv, X.trans ht.rely ht'.rely⟩⟩
    cases r with
    | inl r => exact hr.elim
    | inr r =>
      obtain rfl : r = .notification n.id := hr
      exact List.mem_cons_self

/-- The statements of `mark`. -/
theorem among_mark {X : Pact World ε Unit InboxCall} {id : Uuid} {status : NotificationStatus}
    {readAt : Option DateTime}
    (h : ∀ w', X.Later w w' →
      X.guar w' (w'.1, (InboxWrite.markNotification id status readAt).apply w'.2) ∧
      X.answers q (.ok ()) (w'.1, (InboxWrite.markNotification id status readAt).apply w'.2)) :
    (mark id status readAt : InboxTx ε Unit).Among X q [] [] w := by
  refine Among.beginTx (Among.forUpdate fun t ht => Among.execute (fun r hr => ?_) fun t' ht' => ?_)
  · cases r with
    | inl r => exact hr.elim
    | inr r =>
      obtain rfl : r = .notification id := hr
      exact List.mem_cons_self
  · exact h t' ⟨ht'.inv, X.trans ht.rely ht'.rely⟩

/-- The statements of `upsert`: one of two rows is written. -/
theorem among_upsert {X : Pact World PersistenceError NotificationPreferenceRow InboxCall}
    {now : DateTime} {preference : NotificationPreferenceRow} (hanswer : ∀ r w', X.answers q r w')
    (hset : ∀ w', X.Later w w' →
      X.guar w' (w'.1, (InboxWrite.setPreference preference now.toTimestamptz).apply w'.2))
    (hinsert : ∀ w', X.Later w w' →
      X.guar w' (w'.1, (InboxWrite.insertPreference preference).apply w'.2)) :
    (upsert now preference).Among X q [] [] w := by
  -- the transaction locks the row of the pair, found or not
  refine Among.beginTx (Among.forUpdate fun t ht => ?_)
  split
  · -- found: it is updated under that lock
    refine Among.execute (fun r hr => ?_) fun t' ht' => ?_
    · cases r with
      | inl r => exact hr.elim
      | inr r =>
        obtain rfl : r = .preference preference.userId preference.notificationType := hr
        exact List.mem_cons_self
    · exact ⟨hset t' ⟨ht'.inv, X.trans ht.rely ht'.rely⟩, hanswer _ _⟩
  · -- not found: the insert needs the lock of the new id too
    refine Among.forUpdate fun t₁ ht₁ => Among.failIf (fun _ => hanswer _ _) fun _ => ?_
    refine Among.execute (fun r hr => ?_) fun t' ht' => ?_
    · cases r with
      | inl r => exact hr.elim
      | inr r =>
        rcases hr with hr | hr
        · obtain rfl : r = .preference preference.userId preference.notificationType := hr
          exact List.mem_cons_of_mem _ List.mem_cons_self
        · obtain rfl : r = .preferenceId preference.id := hr
          exact List.mem_cons_self
    · have hrely := X.trans ht.rely (X.trans ht₁.rely ht'.rely)
      exact ⟨hinsert t' ⟨ht'.inv, hrely⟩, hanswer _ _⟩

end Rules

section Calls

variable {es : List InboxHappening} {w₀ w : World} {c : InboxCall} {emailSender : EmailSender}

/-- The dispatcher promises nothing of its answer. -/
abbrev dispatchPact (es : List InboxHappening) (w₀ : World) :
    Pact World NotificationError (Option NotificationRow) InboxCall :=
  (inboxPact es w₀).answering (fun _ _ => True) fun _ h => h

/-- The row of an event that has happened is told by the call that stores it. -/
theorem eventRow_told {newId : Uuid} {event : ApplicationEvent} {s₀ s : Db}
    (hcall : ∃ i, .call i c ∈ es) (hid : c.request.newId = some newId)
    (hbacked : Backed s₀ s event) : Told es s₀ s (eventRow c.now newId event) := by
  obtain ⟨i, hcall⟩ := hcall
  exact ⟨i, c, event, hcall, hid, hbacked, rfl⟩

/-- An event that has happened is dispatched. -/
theorem among_handle {newId : Uuid} {event : ApplicationEvent} (hcall : ∃ i, .call i c ∈ es)
    (hid : c.request.newId = some newId) (hbacked : Backed w₀.1 w.1 event) :
    (handleApplicationEvent c.now newId emailSender event).Among (dispatchPact es w₀) c [] [] w := by
  -- the preferences are read first; what is announced was backed by then and stays so
  refine Among.select fun t ht => ?_
  have hnews : ∀ t', (dispatchPact es w₀).Later t t' → Backed w₀.1 t'.1 event :=
    fun t' hlater => hlater.2.news.backed (ht.rely.news.backed hbacked)
  have hsent : ∀ (enabled : Bool) (stored : Option NotificationRow) (t' : World),
      (if enabled = true then ofExcept (emailSender (eventMessage event)) >>= fun _ => pure stored
        else pure stored : InboxTx NotificationError (Option NotificationRow)).Among
        (dispatchPact es w₀) c [] [] t' := by
    intro enabled stored t'
    split
    · exact Among.ofExcept (fun _ _ => trivial) fun _ _ => trivial
    · exact trivial
  -- the in-app message is stored if it is enabled
  dsimp only
  split
  · rw [bind_map_left]
    refine among_create (fun _ _ => trivial) fun t' hlater => ⟨?_, hsent _ _ _⟩
    exact guar_insert hlater.1 (eventRow_told hcall hid (hnews t' hlater)) rfl
  · exact hsent _ _ _

/-- What the services keep is all that is asked of them. -/
theorem left_carries {α : Type} {f : α → InboxAnswer} {Q : Except ServiceError α → Db → Prop}
    {hQ : ∀ {r s t}, NewsKept s t → Q r s → Q r t} :
    (Part.left : Part World (Sum.elim Content InboxContent) (Write ⊕ InboxWrite) Db Content
      Write).Carries
      (((inboxPact es w₀).under (Except.map f)).answering (fun r w => Q r w.1)
        fun h hr => hQ h.news hr)
      (newsPact w₀.1 Q hQ) where
  later h := ⟨h.1.1, h.2.news⟩
  guar {w ws} hw h := by
    change (inboxPact es w₀).guar w (published (ws.map Sum.inl) w)
    rw [published_left]
    exact guar_db hw h.1 h.2
  answers h := h

/-- A handler that dispatches what its service has answered. -/
theorem among_respond {α : Type} {f : α → InboxAnswer} (Q : Except ServiceError α → Db → Prop)
    (hQ : ∀ {r s t}, NewsKept s t → Q r s → Q r t) {valid : Except ApiError Unit}
    {service : Tx ServiceError α} {dispatch : α → InboxTx NotificationError (Option NotificationRow)}
    (hanswer : ∀ r w, ((inboxPact es w₀).under (Except.map f)).answers c r w)
    (hservice : service.Among (newsPact w₀.1 Q hQ) c [] [] w.1)
    (hdispatch : ∀ a w', Q (.ok a) w'.1 → (dispatch a).Among (dispatchPact es w₀) c [] [] w') :
    (f <$> respond valid service dispatch).Among (inboxPact es w₀) c [] [] w := by
  refine Among.map (Among.ofExcept (fun _ _ => hanswer _ _) fun _ _ => ?_)
  have hstable : ∀ {r : Except ServiceError α} {w w' : World}, InboxKept w w' → Q r w.1 → Q r w'.1 :=
    fun h hr => hQ h.news hr
  refine Among.attempt hstable (Among.within Part.left_lawful left_carries hservice) fun r w' hr => ?_
  cases r with
  | error e => exact hanswer _ _
  | ok a => exact Among.attempt (fun _ h => h) (hdispatch a w' hr) fun _ w'' _ => hanswer _ _

/-- An answer of which nothing is promised. -/
theorem answered_other (hlist : ∀ user query, c.request ≠ .list user query)
    (hmark : ∀ user id, ¬ (c.request = .markRead user id ∨ c.request = .markUnread user id))
    (r : Except ApiError InboxAnswer) (w : World) : InboxAnswered c r w := by
  constructor
  · exact fun user query items pages hrequest => absurd hrequest (hlist user query)
  · exact fun user id hrequest => absurd hrequest (hmark user id)
  · exact fun user id hrequest => absurd hrequest (hmark user id)

section

variable {newId : Uuid}

/-- The announcement of a confirmed contribution keeps the pact. -/
theorem among_contributionReceived (hcall : ∃ i, .call i c ∈ es) (hid : c.request.newId = some newId)
    {contribution : Contribution} (hsettled : WasSettled w₀.1 .confirm contribution w.1) :
    (contributionReceivedForVaultOwner c.now newId emailSender contribution).Among
      (dispatchPact es w₀) c [] [] w := by
  refine Among.select fun t ht => Among.okOr (fun _ => trivial) fun vault hvault => ?_
  -- the owner is read in a later state
  exact among_handle hcall hid
    (.contributionReceived (ht.rely.news.subjects.wasSettled hsettled) hvault)

/-- The announcement of what the other requests report keeps the pact. -/
theorem among_dispatchOther (hcall : ∃ i, .call i c ∈ es) (hid : c.request.newId = some newId)
    {q : Request} {answer : Response} (hanswer : OtherAnswer q (.ok answer) w.1) :
    (dispatchOther c.now newId emailSender q answer).Among (dispatchPact es w₀) c [] [] w := by
  unfold dispatchOther
  split
  · exact among_handle hcall hid (.scholarshipAwarded (hanswer _ _ _ _ rfl rfl))
  · exact trivial

end

/-- A user is shown notifications of his own. -/
theorem among_list {user : AuthenticatedUser} {query : PaginationQuery}
    (hrequest : c.request = .list user query) :
    (.notifications <$> Inbox.list user query).Among (inboxPact es w₀) c [] [] w := by
  -- listing marks nothing, so two of the three clauses are void
  have hmark : ∀ user id, ¬ (c.request = .markRead user id ∨ c.request = .markUnread user id) := by
    intro user id
    rw [hrequest]
    rintro (h | h) <;> cases h
  have herr : ∀ e w, InboxAnswered c (.error e) w := by
    intro e w
    constructor
    · intro _ _ _ _ _ hok
      cases hok
    · exact fun user id h => absurd h (hmark user id)
    · exact fun user id h => absurd h (hmark user id)
  refine Among.map (Among.ofExcept (fun e _ => herr e _) fun page _ => ?_)
  refine Among.select fun t ht => ?_
  unfold paged
  generalize hpaged : paginated _ page none = answer
  cases answer with
  | none => exact herr _ _
  | some answer =>
    constructor
    · intro user' query' items pages' hrequest' hok n hn
      obtain ⟨rfl, -⟩ := InboxRequest.list.inj (hrequest.symm.trans hrequest')
      cases hok
      have hmem := mem_paginated hpaged hn
      -- sorted and filtered rows are rows
      rw [mem_orderByDesc] at hmem
      obtain ⟨hrow, huser⟩ := List.mem_filter.mp hmem
      exact ⟨of_decide_eq_true huser, n, Table.find_key hrow, rfl⟩
    · exact fun user id h => absurd h (hmark user id)
    · exact fun user id h => absurd h (hmark user id)

/-- What is promised of a mark. -/
theorem answered_mark {user : AuthenticatedUser} {id : Uuid} {r : Except ApiError InboxAnswer}
    (hrequest : c.request = .markRead user id ∨ c.request = .markUnread user id)
    (hok : r = .ok .success → Someones w id (· = user.userId))
    (herr : r = .error (ofNotification .forbidden) → Someones w id (· ≠ user.userId)) :
    InboxAnswered c r w := by
  -- the request names one user and one notification
  have hsame : ∀ user' id', c.request = .markRead user' id' ∨ c.request = .markUnread user' id' →
      user' = user ∧ id' = id := by
    intro user' id' h
    rcases hrequest with hrequest | hrequest <;> rw [hrequest] at h <;> rcases h with h | h <;>
      cases h <;> exact ⟨rfl, rfl⟩
  constructor
  · intro user' query items pages hlist
    rcases hrequest with hrequest | hrequest <;> cases hrequest.symm.trans hlist
  · intro user' id' hmark hr
    obtain ⟨rfl, rfl⟩ := hsame user' id' hmark
    exact hok hr
  · intro user' id' hmark hr
    obtain ⟨rfl, rfl⟩ := hsame user' id' hmark
    exact herr hr

/-- A user marks what is his. -/
theorem among_ownMark {user : AuthenticatedUser} {id : Uuid} {status : NotificationStatus}
    {readAt : Option DateTime} (hcall : ∃ i, .call i c ∈ es)
    (hrequest : c.request = .markRead user id ∨ c.request = .markUnread user id)
    (hread : status = .read → c.request = .markRead user id ∧ readAt = some c.now.toTimestamptz) :
    ((fun _ => InboxAnswer.success) <$> (do
      let _ ← ownNotification user id
      mark id status readAt).mapError ofNotification).Among (inboxPact es w₀) c [] [] w := by
  simp only [ownNotification, bind_assoc]
  refine Among.map (Among.mapError (Among.select fun t ht => ?_))
  refine Among.okOr (fun _ => ?_) fun n hn => ?_
  · exact answered_mark hrequest (fun h => by cases h) (fun h => by cases h)
  -- the owner is compared on the row that was read; the owner of a row never changes
  refine Among.failIf (fun hother => ?_) fun hown => among_mark fun t' hlater => ?_
  · exact answered_mark hrequest (fun h => by cases h) fun _ => ⟨n, hn, hother⟩
  rw [not_ne_iff] at hown
  obtain ⟨n', hn', hsame⟩ := hlater.2.notifications id n hn
  have huser : n'.userId = n.userId := congrArg (fun n => n.userId) hsame
  constructor
  · refine guar_mark hlater.1 fun x hx hstatus => ?_
    obtain rfl := Option.some.inj (hn'.symm.trans hx)
    obtain ⟨i, hcall⟩ := hcall
    obtain ⟨hmark, hat⟩ := hread hstatus
    have hid : n'.id = id := (Table.find_some hn').2
    exact ⟨i, c, user, hcall, by rw [hmark, ← hid]; rfl, (huser.trans hown).symm, hat⟩
  · refine answered_mark hrequest (fun _ => ?_) fun h => by cases h
    refine ⟨n'.mark status readAt, ?_, huser.trans hown⟩
    change ((InboxWrite.markNotification id status readAt).apply t'.2).notifications.find id = _
    rw [InboxWrite.find_markNotification, if_pos rfl, hn']
    rfl

/-- A user sets his preferences. -/
theorem among_upsertPreference {newId : Uuid} {user : AuthenticatedUser} {name : String}
    {inAppEnabled emailEnabled : Bool} (hcall : ∃ i, .call i c ∈ es)
    (hrequest : c.request = .upsertPreference newId user name inAppEnabled emailEnabled) :
    (.preference <$> Inbox.upsertPreference c.now newId user name inAppEnabled emailEnabled).Among
      (inboxPact es w₀) c [] [] w := by
  -- the answers to this request promise nothing
  have hanswer : ∀ r w, InboxAnswered c r w := by
    refine answered_other ?_ ?_
    · intro user query h
      cases hrequest.symm.trans h
    · rintro user id (h | h) <;> cases hrequest.symm.trans h
  refine Among.map (Among.ofExcept (fun _ _ => hanswer _ _) fun notificationType hparse => ?_)
  have hname : StringEnum.parse NotificationType name = .ok notificationType := by
    cases hresult : StringEnum.parse NotificationType name with
    | error e => rw [hresult] at hparse; cases hparse
    | ok b => rw [hresult] at hparse; cases hparse; rfl
  have hchosen : ∀ p : NotificationPreferenceRow, p.userId = user.userId →
      p.notificationType = notificationType → p.inAppEnabled = inAppEnabled →
      p.emailEnabled = emailEnabled → ChosenBy es p := by
    rintro p huser rfl rfl rfl
    obtain ⟨i, hcall⟩ := hcall
    exact ⟨i, c, newId, user, name, hcall, hrequest, huser.symm, hname⟩
  refine Among.mapError (Among.select fun t ht => Among.mapError ?_)
  -- either way the preference is the one that this request has named
  refine among_upsert (fun _ _ => hanswer _ _) (fun w' hlater => ?_) fun w' hlater => ?_
  · refine guar_preference hlater.1 rfl fun key p hp => ?_
    rw [InboxWrite.find_setPreference] at hp
    split at hp
    · rename_i hkey
      obtain ⟨p₀, hp₀, rfl⟩ := Option.map_eq_some_iff.mp hp
      obtain ⟨huser, htype⟩ := Prod.mk.inj ((Table.find_some hp₀).2.trans hkey)
      exact .inr (hchosen _ huser htype rfl rfl)
    · exact .inl hp
  · refine guar_preference hlater.1 rfl fun key p hp => ?_
    rcases Table.of_find_insert hp with rfl | hp
    · exact .inr (hchosen _ rfl rfl rfl rfl)
    · exact .inl hp

/-- A request that announces promises nothing about lists and marks. -/
theorem answered_announcing {newId : Uuid} (hid : c.request.newId = some newId)
    (r : Except ApiError InboxAnswer) (w : World) : InboxAnswered c r w := by
  refine answered_other ?_ ?_ r w
  · intro user query h
    rw [h] at hid
    cases hid
  · rintro user id (h | h) <;> rw [h] at hid <;> cases hid

/-- **Every call keeps the pact**, whatever it meets. -/
theorem InboxCall.among (emailSender : EmailSender) (hcall : ∃ i, .call i c ∈ es)
    (hw : (inboxPact es w₀).inv w) :
    (c.program emailSender).Among (inboxPact es w₀) c [] [] w := by
  unfold InboxCall.program
  -- one case for each request that the service knows
  split
  · rename_i newId contributionId currentUser request hrequest
    have hid : c.request.newId = some newId := by rw [hrequest]; rfl
    exact among_respond (SettleAnswer w₀.1 .confirm) settleAnswer_stable
      (fun _ _ => answered_announcing hid _ _) (settle_among .confirm currentUser _ hw.1)
      fun a w' ha => among_contributionReceived hcall hid (ha a rfl)
  · rename_i newId payoutId currentUser request hrequest
    have hid : c.request.newId = some newId := by rw [hrequest]; rfl
    exact among_respond (ReviewAnswer w₀.1 .approve) reviewAnswer_stable
      (fun _ _ => answered_announcing hid _ _) (review_among .approve currentUser _ hw.1)
      fun a w' ha => among_handle hcall hid (.payoutApproved (ha a rfl))
  · rename_i newId payoutId currentUser request hrequest
    have hid : c.request.newId = some newId := by rw [hrequest]; rfl
    exact among_respond (ReviewAnswer w₀.1 .complete) reviewAnswer_stable
      (fun _ _ => answered_announcing hid _ _) (review_among .complete currentUser _ hw.1)
      fun a w' ha => among_handle hcall hid (.payoutCompleted (ha a rfl))
  · rename_i newId q hrequest
    have hid : c.request.newId = some newId := by rw [hrequest]; rfl
    exact among_respond (OtherAnswer q) otherAnswer_stable (fun _ _ => answered_announcing hid _ _)
      (other_among q hw.1) fun a w' ha => among_dispatchOther hcall hid ha
  · rename_i currentUser query hrequest
    exact among_list hrequest
  · rename_i currentUser notificationId hrequest
    exact among_ownMark hcall (.inl hrequest) fun _ => ⟨hrequest, rfl⟩
  · rename_i currentUser notificationId hrequest
    exact among_ownMark hcall (.inr hrequest) fun h => by cases h
  · rename_i currentUser query hrequest
    have hanswer : ∀ r w, InboxAnswered c r w := by
      refine answered_other ?_ ?_
      · intro user query h
        cases hrequest.symm.trans h
      · rintro user id (h | h) <;> cases hrequest.symm.trans h
    refine Among.map (Among.ofExcept (fun _ _ => hanswer _ _) fun page _ => Among.select fun t _ => ?_)
    unfold paged
    generalize paginated _ page none = answer
    cases answer with
    | none => exact hanswer _ _
    | some answer => exact hanswer _ _
  · rename_i newId currentUser notificationType inAppEnabled emailEnabled hrequest
    exact among_upsertPreference hcall hrequest

end Calls

/-! ## Every run

  The induction over events is that of the pact.  The start is any state whose rows are taken as
  given. -/

/-- At the start everything was there. -/
theorem Truthful.start (es : List InboxHappening) (w : World) : Truthful es w w where
  told _ n hn := .inl ⟨n, hn, rfl⟩
  read _ n hn hread := .inl ⟨n, hn, hread, rfl⟩
  chosen _ p hp := .inl ⟨p, hp, rfl, rfl⟩

/-- The pact holds at the start. -/
theorem inv_start (es : List InboxHappening) (w : World) : (inboxPact es w).inv w :=
  ⟨.start w.1, .start es w⟩

/-- A run meets its own arrivals. -/
theorem within_inbox (w₀ : World) (es : List InboxHappening) : (inboxPact es w₀).Within es :=
  fun i _ h => ⟨i, h⟩

/-- **In every state of every interleaved run** the notifications tell, to those whom it concerns,
    what has happened; they are read by their recipients, who see and mark their own; and what has
    been told stays.

    Three parts: every row has its reason; from a state of the run to a later one nothing is lost;
    and what the answers to lists and marks promise to their users. -/
theorem notifications_truthful (emailSender : EmailSender) (w₀ : World)
    (es fs : List InboxHappening) :
    Truthful es w₀ (InboxSys.after emailSender w₀ es).db ∧
    InboxKept (InboxSys.after emailSender w₀ es).db (InboxSys.after emailSender w₀ (es ++ fs)).db ∧
    ∀ i c r l, (InboxSys.after emailSender w₀ es).slots i = .finished c r l →
      InboxAnswered c r (InboxSys.after emailSender w₀ es).db := by
  have hsound := (inboxPact es w₀).sound (inv_start es w₀)
    (fun _ hc _ hw => InboxCall.among emailSender hc hw) (within_inbox w₀ es)
  refine ⟨hsound.inv.2, ?_, hsound.finished⟩
  exact (inboxPact (es ++ fs) w₀).later_run (inv_start _ w₀)
    (fun _ hc _ hw => InboxCall.among emailSender hc hw) es (within_inbox w₀ _)

section

open EduStell.Scenario

namespace Scenario

/-- The family, and nobody has been told anything. -/
def untold : World := (family, ⟨.empty, .empty⟩)

/-- Slot `i` serves a request that arrives at `now`, undisturbed. -/
def undisturbed (i : Nat) (now : DateTime) (request : InboxRequest) (n : Nat) :
    List InboxHappening :=
  .call i ⟨now, request⟩ :: List.replicate n (.step i)

/-- The administrator confirms the contribution. -/
def confirmation (newId : Uuid) : InboxRequest := .confirm newId 1 admin ⟨none⟩

/-- Two confirmations of a contribution take turns; then the owner of the vault and somebody else
    mark what they have been told. -/
def confirmedTwice : List InboxHappening :=
  undisturbed 0 1 (.other 300 (record 1 100)) 16 ++
  [.call 1 ⟨2, confirmation 301⟩, .call 2 ⟨3, confirmation 302⟩] ++
  (List.replicate 18 [.step 1, .step 2]).flatten ++
  undisturbed 3 4000 (.markRead parent 301) 8 ++ undisturbed 4 5000 (.markRead donor 302) 8

end Scenario

/-- The owner is told twice, and only his own mark counts. -/
example :
    let S := InboxSys.after noopEmailSender Scenario.untold Scenario.confirmedTwice
    (S.db.2.notifications.rows.map fun n => (n.id, n.userId, n.readAt)) =
      [(301, 1, some 4000), (302, 1, none)] := by
  decide +kernel

end

end EduStell.Inbox
