/-
  Who has switched a kind of notification off is not told any more.

  The dispatcher reads the preference in one statement and stores the row in another, so a request
  that has read it before may still store a row after it was switched off.  Those that are under way
  at that moment are all: what arrives later finds the preference off, whatever runs next to it, as
  long as nobody switches it on again.

  The plan: what a call can write is a matter of its request (`InboxCall.writes`); among these
  statements, those that could disturb are the late ones; and a call that arrives later guards the
  opt-out (`InboxCall.guards`).
-/
import EduStell.Notifications.Truthful
import EduStell.Txn.Midway

namespace EduStell.Inbox

open Txn Program Api Notifications

/-! ## Off

  A preference is off if its row says so for the application; a user without a row gets the
  default, which is on. -/

/-- The user has switched this kind off. -/
def OptedOut (userId : Uuid) (kind : NotificationType) (w : World) : Prop :=
  ∃ p, w.2.preferences.find (userId, kind) = some p ∧ p.inAppEnabled = false

/-- The call switches it on. -/
def OptsIn (userId : Uuid) (kind : NotificationType) (c : InboxCall) : Prop :=
  ∃ newId user name emailEnabled, c.request = .upsertPreference newId user name true emailEnabled ∧
    user.userId = userId ∧ StringEnum.parse NotificationType name = .ok kind

/-- A notification of this user and type. -/
def Concerns (userId : Uuid) (kind : NotificationType) (n : NotificationRow) : Prop :=
  n.userId = userId ∧ n.notificationType = kind

/-- It stays off, and no such notification is stored, but for some that are `late`. -/
structure Respected (userId : Uuid) (kind : NotificationType) (late : Uuid → Prop) (w w' : World) :
    Prop where
  /-- What is off stays off. -/
  off : OptedOut userId kind w → OptedOut userId kind w'
  /-- Every notification of this kind was there before, or is late. -/
  stored : ∀ id n, w'.2.notifications.find id = some n → Concerns userId kind n →
    (∃ n₀, w.2.notifications.find id = some n₀ ∧ Concerns userId kind n₀) ∨ late id

section

variable {userId : Uuid} {kind : NotificationType} {late : Uuid → Prop}

/-- Nothing has happened. -/
theorem Respected.refl (w : World) : Respected userId kind late w w :=
  ⟨id, fun _ n hn hconcerns => .inl ⟨n, hn, hconcerns⟩⟩

/-- What is respected over two stretches is respected over both. -/
theorem Respected.trans {w w' w'' : World} (h : Respected userId kind late w w')
    (h' : Respected userId kind late w' w'') : Respected userId kind late w w'' := by
  refine ⟨fun hoff => h'.off (h.off hoff), fun id n hn hconcerns => ?_⟩
  rcases h'.stored id n hn hconcerns with ⟨n', hn', hconcerns'⟩ | hlate
  · exact h.stored id n' hn' hconcerns'
  · exact .inr hlate

end

/-! ## What a call writes

  What a call can write is read off its request, before anything is known about a run. -/

/-- A preference as the call sets it. -/
def InboxCall.Sets (c : InboxCall) (p : NotificationPreferenceRow) : Prop :=
  ∃ newId user name, c.request = .upsertPreference newId user name p.inAppEnabled p.emailEnabled ∧
    p.userId = user.userId ∧ StringEnum.parse NotificationType name = .ok p.notificationType

/-- The statements that a call may write. -/
def InboxCall.Writes (c : InboxCall) : Write ⊕ InboxWrite → Prop
  | .inl _ => True
  | .inr (.insertNotification n) => c.request.newId = some n.id
  | .inr (.markNotification ..) => True
  | .inr (.insertPreference p) => c.Sets p
  | .inr (.setPreference p _) => c.Sets p

section Writes

variable {G : Write ⊕ InboxWrite → Prop} {emailSender : EmailSender} {c : InboxCall}

/-- Delivering an event writes at most its row. -/
theorem writes_handle {now : DateTime} {newId : Uuid} {event : ApplicationEvent}
    (h : G (.inr (.insertNotification (eventRow now newId event)))) :
    (handleApplicationEvent now newId emailSender event).WritesOnly G := by
  have hcreate : (create (eventRow now newId event)).WritesOnly G := by
    refine WritesOnly.beginTx.bind fun _ => (WritesOnly.forUpdate _).bind fun _ => ?_
    refine (WritesOnly.failIf _ _).bind fun _ => (WritesOnly.execute h).bind fun _ => ?_
    exact WritesOnly.commitTx.bind fun _ => .pure _
  have hsent : ∀ (enabled : Bool) (stored : Option NotificationRow),
      (if enabled = true then ofExcept (emailSender (eventMessage event)) >>= fun _ => pure stored
        else pure stored : InboxTx NotificationError (Option NotificationRow)).WritesOnly G :=
    fun enabled stored => .ite ((WritesOnly.ofExcept _).bind fun _ => .pure _) (.pure _)
  refine (WritesOnly.select _).bind fun row => ?_
  dsimp only
  split
  · exact hcreate.mapError.map.bind fun _ => hsent _ _
  · exact (WritesOnly.pure _).bind fun _ => hsent _ _

/-- A handler writes what its service and its dispatcher write. -/
theorem writes_respond {α : Type} (hdb : ∀ w, G (.inl w)) {valid : Except ApiError Unit}
    {service : Tx ServiceError α} {dispatch : α → InboxTx NotificationError (Option NotificationRow)}
    (h : ∀ a, (dispatch a).WritesOnly G) : (respond valid service dispatch).WritesOnly G := by
  have hservice : (onDb service).WritesOnly G :=
    WritesOnly.within Part.left (fun w _ => hdb w) (.all (fun _ => trivial) service)
  refine (WritesOnly.ofExcept _).bind fun _ => hservice.attempt.bind fun r => ?_
  cases r with
  | error e => exact .fail _
  | ok a => exact (h a).attempt.bind fun _ => .pure a

/-- A mark writes the mark. -/
theorem writes_mark {id : Uuid} {status : NotificationStatus} {readAt : Option DateTime}
    {user : AuthenticatedUser} (h : G (.inr (.markNotification id status readAt))) :
    (do
      let _ ← ownNotification user id
      mark id status readAt : InboxTx NotificationError Unit).WritesOnly G := by
  have hown : (ownNotification user id : InboxTx NotificationError NotificationRow).WritesOnly G :=
    (WritesOnly.select _).bind fun _ => (WritesOnly.okOr _ _).bind fun _ =>
      (WritesOnly.failIf _ _).bind fun _ => .pure _
  refine hown.bind fun _ => WritesOnly.beginTx.bind fun _ => (WritesOnly.forUpdate _).bind fun _ => ?_
  exact (WritesOnly.execute h).bind fun _ => .commitTx

/-- A preference is written as an update or as a new row. -/
theorem writes_upsert {now : DateTime} {preference : NotificationPreferenceRow}
    (hset : G (.inr (.setPreference preference now.toTimestamptz)))
    (hinsert : G (.inr (.insertPreference preference))) : (upsert now preference).WritesOnly G := by
  refine WritesOnly.beginTx.bind fun _ => (WritesOnly.forUpdate _).bind fun row => ?_
  split
  · exact (WritesOnly.execute hset).bind fun _ => WritesOnly.commitTx.bind fun _ => .pure _
  · refine (WritesOnly.forUpdate _).bind fun (taken : Bool) => ?_
    refine (WritesOnly.failIf _ _).bind fun _ => ?_
    exact (WritesOnly.execute hinsert).bind fun _ => WritesOnly.commitTx.bind fun _ => .pure _

/-- **What a call writes**, whatever it reads. -/
theorem InboxCall.writes (emailSender : EmailSender) (c : InboxCall) :
    (c.program emailSender).WritesOnly c.Writes := by
  have hlisted : ∀ {α : Type} (items : List α) (page : Page),
      (paged items page).WritesOnly c.Writes := fun items page => .okOr _ _
  unfold InboxCall.program
  -- one case for each request
  split
  · rename_i newId contributionId currentUser request hrequest
    have hid : c.request.newId = some newId := by rw [hrequest]; rfl
    refine (writes_respond (fun _ => trivial) fun contribution => ?_).map
    exact (WritesOnly.select _).bind fun _ => (WritesOnly.okOr _ _).bind fun _ => writes_handle hid
  · rename_i newId payoutId currentUser request hrequest
    have hid : c.request.newId = some newId := by rw [hrequest]; rfl
    exact (writes_respond (fun _ => trivial) fun payout => writes_handle hid).map
  · rename_i newId payoutId currentUser request hrequest
    have hid : c.request.newId = some newId := by rw [hrequest]; rfl
    exact (writes_respond (fun _ => trivial) fun payout => writes_handle hid).map
  · rename_i newId q hrequest
    have hid : c.request.newId = some newId := by rw [hrequest]; rfl
    refine (writes_respond (fun _ => trivial) fun answer => ?_).map
    unfold dispatchOther
    split
    · exact writes_handle hid
    · exact .pure _
  · -- lists write nothing
    exact ((WritesOnly.ofExcept _).bind fun page =>
      (WritesOnly.select _).mapError.bind fun items => hlisted items page).map
  · exact (writes_mark trivial).mapError.map
  · exact (writes_mark trivial).mapError.map
  · exact ((WritesOnly.ofExcept _).bind fun page =>
      (WritesOnly.select _).mapError.bind fun items => hlisted items page).map
  · -- a preference is written under the name that the request has given
    rename_i newId currentUser name inAppEnabled emailEnabled hrequest
    refine (WritesOnly.ofExcept_bind fun notificationType hparse => ?_).map
    have hname : StringEnum.parse NotificationType name = .ok notificationType := by
      cases hresult : StringEnum.parse NotificationType name with
      | error e => rw [hresult] at hparse; cases hparse
      | ok b => rw [hresult] at hparse; cases hparse; rfl
    refine WritesOnly.mapError ((WritesOnly.select _).bind fun existing => WritesOnly.mapError ?_)
    exact writes_upsert ⟨newId, currentUser, name, hrequest, rfl, hname⟩
      ⟨newId, currentUser, name, hrequest, rfl, hname⟩

end Writes

/-! ## What a call keeps to

  A call that arrives when the preference is off stores nothing for this user, because the
  dispatcher reads the preference before it stores; it may do anything to others. -/

section Keeps

variable {userId : Uuid} {kind : NotificationType} {late : Uuid → Prop} {c : InboxCall}
  {emailSender : EmailSender}

/-- A stored row that does not concern the user, or is late. -/
theorem respected_insert {n : NotificationRow} (h : Concerns userId kind n → late n.id) (w : World) :
    Respected userId kind late w (w.1, (InboxWrite.insertNotification n).apply w.2) := by
  refine ⟨id, fun id x hx hconcerns => ?_⟩
  rcases Table.of_find_insert hx with rfl | hx'
  · have hid : x.id = id := (Table.find_some hx).2
    exact .inr (hid ▸ h hconcerns)
  · exact .inl ⟨x, hx', hconcerns⟩

/-- A mark neither stores a notification nor sets a preference. -/
theorem respected_mark (id : Uuid) (status : NotificationStatus) (readAt : Option DateTime)
    (w : World) :
    Respected userId kind late w (w.1, (InboxWrite.markNotification id status readAt).apply w.2) := by
  refine ⟨fun hoff => hoff, fun id' x hx hconcerns => .inl ?_⟩
  rw [InboxWrite.find_markNotification] at hx
  split at hx
  · obtain ⟨n, hn, rfl⟩ := Option.map_eq_some_iff.mp hx
    exact ⟨n, hn, hconcerns⟩
  · exact ⟨x, hx, hconcerns⟩

/-- A preference that does not switch the kind on. -/
theorem respected_preference {p : NotificationPreferenceRow}
    (h : (p.userId, p.notificationType) = (userId, kind) → p.inAppEnabled = false) (w : World) :
    Respected userId kind late w (w.1, (InboxWrite.insertPreference p).apply w.2) ∧
    ∀ now, Respected userId kind late w (w.1, (InboxWrite.setPreference p now).apply w.2) := by
  have hsame : ∀ id n, w.2.notifications.find id = some n → Concerns userId kind n →
      (∃ n₀, w.2.notifications.find id = some n₀ ∧ Concerns userId kind n₀) ∨ late id :=
    fun id n hn hconcerns => .inl ⟨n, hn, hconcerns⟩
  refine ⟨⟨?_, hsame⟩, fun now => ⟨?_, hsame⟩⟩
  · rintro ⟨p₀, hp₀, hoff⟩
    exact ⟨p₀, Table.find_insert_of_some hp₀ _, hoff⟩
  · rintro ⟨p₀, hp₀, hoff⟩
    rw [OptedOut, InboxWrite.find_setPreference]
    split
    · rename_i hkey
      refine ⟨p₀.set p now, by rw [hp₀]; rfl, h hkey.symm⟩
    · exact ⟨p₀, hp₀, hoff⟩

/-- **A statement of a call** that does not switch the kind on. -/
theorem InboxCall.Writes.respected (hopt : ¬ OptsIn userId kind c)
    (hlate : ∀ id, c.request.newId = some id → late id) {x : Write ⊕ InboxWrite} (hx : c.Writes x)
    (w : World) : Respected userId kind late w (Store.apply x w) := by
  have hset : ∀ p : NotificationPreferenceRow, c.Sets p →
      (p.userId, p.notificationType) = (userId, kind) → p.inAppEnabled = false := by
    rintro p ⟨newId, user, name, hrequest, huser, hname⟩ hkey
    obtain ⟨rfl, rfl⟩ := Prod.mk.inj hkey
    cases hon : p.inAppEnabled with
    | false => rfl
    | true =>
      rw [hon] at hrequest
      exact absurd ⟨newId, user, name, p.emailEnabled, hrequest, huser.symm, hname⟩ hopt
  rcases x with x | x
  · exact ⟨fun hoff => hoff, fun id n hn hconcerns => .inl ⟨n, hn, hconcerns⟩⟩
  cases x with
  | insertNotification n => exact respected_insert (fun _ => hlate n.id hx) w
  | markNotification id status readAt => exact respected_mark id status readAt w
  | insertPreference p => exact (respected_preference (hset p hx) w).1
  | setPreference p now => exact (respected_preference (hset p hx) w).2 now

/-- The preference that the dispatcher reads is the one that is off. -/
theorem OptedOut.read {w : World} (h : OptedOut userId kind w) {p : NotificationPreferenceRow}
    (hp : w.2.preferences.rows.find? (fun p => p.userId = userId ∧
      asStr p.notificationType = asStr kind) = some p) : p.inAppEnabled = false := by
  obtain ⟨p₀, hp₀, hoff⟩ := h
  have hread := List.find?_some hp
  obtain ⟨huser, htype⟩ : p.userId = userId ∧ asStr p.notificationType = asStr kind :=
    of_decide_eq_true hread
  have hkey : Keyed.key p = (userId, kind) := Prod.ext huser (StringEnum.asStr_injective htype)
  have hfound := Table.find_key (List.mem_of_find?_eq_some hp)
  rw [hkey] at hfound
  obtain rfl := Option.some.inj (hp₀.symm.trans hfound)
  exact hoff

/-- And it is there to be read. -/
theorem OptedOut.found {w : World} (h : OptedOut userId kind w) :
    ∃ p, w.2.preferences.rows.find? (fun p => p.userId = userId ∧
      asStr p.notificationType = asStr kind) = some p := by
  obtain ⟨p₀, hp₀, -⟩ := h
  obtain ⟨hmem, hkey⟩ := Table.find_some hp₀
  obtain ⟨huser, htype⟩ := Prod.mk.inj hkey
  refine Option.isSome_iff_exists.mp (List.find?_isSome.mpr ⟨p₀, hmem, ?_⟩)
  exact decide_eq_true ⟨huser, by rw [htype]⟩

/-- Where it is off, delivering an event stores nothing: the preference is read right before the
    notification is stored. -/
theorem guards_handle {now : DateTime} {newId : Uuid} {event : ApplicationEvent} :
    (handleApplicationEvent now newId emailSender event).Guards (OptedOut userId kind)
      (Respected userId kind late) [] := by
  have hsent : ∀ (enabled : Bool) (stored : Option NotificationRow),
      (if enabled = true then ofExcept (emailSender (eventMessage event)) >>= fun _ => pure stored
        else pure stored : InboxTx NotificationError (Option NotificationRow)).Guards
        (OptedOut userId kind) (Respected userId kind late) [] := by
    intro enabled stored
    split
    · exact Guards.ofExcept fun _ => trivial
    · exact trivial
  refine Guards.select fun w hw => ?_
  dsimp only
  split
  · rename_i hon
    have hother : ¬ Concerns userId kind (eventRow now newId event) := by
      rintro ⟨huser, htype⟩
      obtain rfl : eventRecipient event = userId := huser
      obtain rfl : (renderNotificationTemplate event).notificationType = kind := htype
      obtain ⟨p, hp⟩ := hw.found
      have hoff : p.inAppEnabled = false := hw.read hp
      change NotificationPreference.inAppEnabled (((w.2.preferences.rows.find? _).map
        fun p => p.toNotificationPreference).getD _) = true at hon
      rw [hp] at hon
      exact absurd (hoff.symm.trans hon) Bool.false_ne_true
    -- so what is stored is for somebody else, or of another kind
    intro w₁ hw₁
    change Program.Guards _ _ (((failIf (Option.isSome (w₁.2.notifications.find newId) = true)
      (PersistenceError.uniqueViolation "notifications_pkey") >>= fun _ => _).mapError _).bind
      _ |>.bind _) []
    rw [failIf]
    split
    · exact trivial
    · exact ⟨fun w' _ => respected_insert (fun hconcerns => absurd hconcerns hother) w',
        hsent _ _⟩
  · exact hsent _ _

/-- A handler keeps to it if its dispatcher does. -/
theorem guards_respond {α : Type} {valid : Except ApiError Unit} {service : Tx ServiceError α}
    {dispatch : α → InboxTx NotificationError (Option NotificationRow)}
    (h : ∀ a, (dispatch a).Guards (OptedOut userId kind) (Respected userId kind late) []) :
    (respond valid service dispatch).Guards (OptedOut userId kind) (Respected userId kind late)
      [] := by
  have hservice : (onDb service).WritesOnly fun x => ∃ w, x = Sum.inl w :=
    WritesOnly.within Part.left (fun w _ => ⟨w, rfl⟩) (.all (fun _ => trivial) service)
  have hkept : ∀ x w, (∃ y, x = Sum.inl y) → Respected userId kind late w (Store.apply x w) := by
    rintro _ w ⟨y, rfl⟩
    exact ⟨fun hoff => hoff, fun id n hn hconcerns => .inl ⟨n, hn, hconcerns⟩⟩
  refine Guards.ofExcept fun _ => Guards.attempt ?_ fun r => ?_
  · exact hservice.guards hkept .refl .trans fun _ hw => by cases hw
  · cases r with
    | error e => exact trivial
    | ok a => exact Guards.attempt (h a) fun _ => trivial

/-- **A call that arrives later** and does not switch the kind on. -/
theorem InboxCall.guards (hopt : ¬ OptsIn userId kind c) :
    (c.program emailSender).Guards (OptedOut userId kind) (Respected userId kind late) [] := by
  by_cases hid : c.request.newId = none
  · -- nothing is announced
    have hnone : ∀ id, c.request.newId = some id → late id := by
      intro id h
      rw [hid] at h
      cases h
    exact (c.writes emailSender).guards (fun x w hx => hx.respected hopt hnone w) .refl .trans
      fun _ hw => by cases hw
  · unfold InboxCall.program
    -- a request that announces; the others bring no id
    split
    · refine (guards_respond fun contribution => ?_).map
      exact Guards.select fun _ _ => Guards.okOr fun _ => guards_handle
    · exact (guards_respond fun payout => guards_handle).map
    · exact (guards_respond fun payout => guards_handle).map
    · refine (guards_respond fun answer => ?_).map
      unfold dispatchOther
      split
      · exact guards_handle
      · exact trivial
    all_goals
      rename_i hrequest
      rw [hrequest] at hid
      exact absurd rfl hid

end Keeps

/-! ## Every run

  The pact of `EduStell.Notifications.Truthful` is narrowed at the moment of the opt-out.  What is
  under way may still store, and is named in the statement. -/

/-- The call runs in some slot. -/
def UnderWay (S : InboxSys) (c : InboxCall) : Prop := ∃ i p l, S.slots i = .running c p l

/-- **Who has switched a kind off is not told any more**, but by requests that were under way.

    The two conditions are that the user does not switch the kind on again, by a request that is
    under way or by one that arrives later.  A new notification of this kind then has the id that a
    request under way had drawn: it may have read the preference before. -/
theorem opt_out_respected (emailSender : EmailSender) (w₀ : World) (es fs : List InboxHappening)
    (userId : Uuid) (kind : NotificationType)
    (hoff : OptedOut userId kind (InboxSys.after emailSender w₀ es).db)
    (hunderWay : ∀ c, UnderWay (InboxSys.after emailSender w₀ es) c → ¬ OptsIn userId kind c)
    (harrivals : ∀ i c, .call i c ∈ fs → ¬ OptsIn userId kind c) :
    OptedOut userId kind (InboxSys.after emailSender w₀ (es ++ fs)).db ∧
    ∀ id n, (InboxSys.after emailSender w₀ (es ++ fs)).db.2.notifications.find id = some n →
      Concerns userId kind n →
      (∃ n₀, (InboxSys.after emailSender w₀ es).db.2.notifications.find id = some n₀) ∨
      ∃ c, UnderWay (InboxSys.after emailSender w₀ es) c ∧ c.request.newId = some id := by
  have hrun : InboxSys.after emailSender w₀ (es ++ fs) =
      (InboxSys.after emailSender w₀ es).run (InboxCall.program emailSender) fs :=
    List.foldl_append
  -- the pact of the whole run holds at the moment in question
  have hall : (inboxPact (es ++ fs) w₀).Within es :=
    fun i c hc => ⟨i, List.mem_append_left _ hc⟩
  have hsound := (inboxPact (es ++ fs) w₀).sound (inv_start _ w₀)
    (fun _ hc _ hw => InboxCall.among emailSender hc hw) hall
  change (inboxPact (es ++ fs) w₀).Sound (InboxSys.after emailSender w₀ es) at hsound
  have hconfined : Confined InboxCall.Writes (InboxSys.after emailSender w₀ es) :=
    confined_run (InboxCall.writes emailSender) w₀ es
  rw [hrun]
  generalize InboxSys.after emailSender w₀ es = S at *
  let late : Uuid → Prop := fun id => ∃ c, UnderWay S c ∧ c.request.newId = some id
  -- and is narrowed from there on
  have hnarrow : ((inboxPact (es ++ fs) w₀).narrow (OptedOut userId kind)
      (Respected userId kind late)
      (fun c => (∃ i, .call i c ∈ es ++ fs) ∧ ¬ OptsIn userId kind c)
      (fun hw h => h.off hw) .refl .trans).Sound S := by
    refine hsound.narrow hoff hconfined fun i c p l hslot x w hx => ?_
    have hway : UnderWay S c := ⟨i, p, l, hslot⟩
    exact hx.respected (hunderWay c hway) (fun id hid => ⟨c, hway, hid⟩) w
  have hkept : Respected userId kind late S.db (S.run (InboxCall.program emailSender) fs).db :=
    (hnarrow.rely_run
      (fun c hc w hw => (InboxCall.among emailSender hc.1 hw.1).narrow (InboxCall.guards hc.2))
      fun i c hc => ⟨⟨i, List.mem_append_right _ hc⟩, harrivals i c hc⟩).2
  refine ⟨hkept.off hoff, fun id n hn hconcerns => ?_⟩
  rcases hkept.stored id n hn hconcerns with ⟨n₀, hn₀, -⟩ | hlate
  · exact .inl ⟨n₀, hn₀⟩
  · exact .inr hlate

section

open EduStell.Scenario

namespace Scenario

/-- The parent sets his preference for contributions. -/
def preference (newId : Uuid) (inAppEnabled : Bool) : InboxRequest :=
  .upsertPreference newId parent "contribution_received" inAppEnabled false

/-- A confirmation reads the preference; then the owner of the vault switches it off. -/
def switchedOff : List InboxHappening :=
  undisturbed 0 1 (.other 300 (record 1 100)) 16 ++
  .call 1 ⟨2, confirmation 301⟩ :: List.replicate 15 (.step 1) ++
  undisturbed 2 4000 (preference 303 false) 9

/-- The confirmation goes on, and another one arrives. -/
def afterwards : List InboxHappening :=
  List.replicate 8 (.step 1) ++ undisturbed 3 5000 (confirmation 302) 20

end Scenario

open Inbox.Scenario

/-- The first confirmation has read the preference in time to store its row; the second finds it
    off. -/
theorem opt_out_respected_parent :
    let S := InboxSys.after noopEmailSender untold switchedOff
    let S' := InboxSys.after noopEmailSender untold (switchedOff ++ afterwards)
    S.db.2.notifications.rows.map (fun n => n.id) = [] ∧
    S'.db.2.notifications.rows.map (fun n => n.id) = [301] ∧
    OptedOut 1 .contributionReceived S'.db ∧
    ∀ id n, S'.db.2.notifications.find id = some n → Concerns 1 .contributionReceived n →
      (∃ n₀, S.db.2.notifications.find id = some n₀) ∨
      ∃ c, UnderWay S c ∧ c.request.newId = some id := by
  -- a confirmation is no choice
  have hconfirms : ∀ {now newId}, ¬ OptsIn 1 .contributionReceived ⟨now, confirmation newId⟩ := by
    rintro now newId ⟨_, _, _, _, hrequest, -⟩
    cases hrequest
  -- before and after on the run itself, the rest by the theorem
  refine ⟨by decide +kernel, by decide +kernel, opt_out_respected noopEmailSender untold switchedOff
    afterwards 1 .contributionReceived ⟨_, rfl, rfl⟩ ?_ ?_⟩
  · -- the first confirmation alone is under way
    rintro c ⟨i, p, l, hslot⟩
    match i with
    | 0 => cases hslot
    | 1 => cases hslot; exact hconfirms
    | 2 => cases hslot
    | n + 3 => cases hslot
  · intro i c hcall
    simp only [afterwards, undisturbed, List.mem_append, List.mem_cons, List.mem_replicate,
      reduceCtorEq, and_false, false_or, or_false, Event.call.injEq] at hcall
    rw [hcall.2]
    exact hconfirms

end

end EduStell.Inbox
