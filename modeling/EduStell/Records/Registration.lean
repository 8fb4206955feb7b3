/-
  How `register` of the auth service can end: it writes a user, the audit row of the user, and a
  session, each in a call of its own.

  Before the session is stored, tokens are issued and the refresh token is hashed; that may fail as
  well, when the user is there already.

  `register` is described in the same form as the services of `EduStell.Records.Endings`.
-/
import EduStell.Records.Endings

namespace EduStell.Records

open Txn Program

/-! ## The calls of `PgAuthRepository`

  The calls that `register` makes, with the rows that it binds. -/

/-- `AuditEvent::user_registered` -/
def userRegistered (userId : Uuid) (role email : String) : AuditLog where
  actorUserId := some userId
  entityType := "user"
  entityId := some userId
  action := "user.registered"
  metadata := .object [
    ("role", .string role),
    ("email_domain", .string (((email.splitOn "@")[1]?).getD ""))]

/-- The row of a new user, as the auth repository binds it. -/
def newUserRow (newId : Uuid) (newUser : NewUser) : Auth.UserRow where
  id := newId
  email := newUser.email
  passwordHash := newUser.passwordHash
  role := asStr newUser.role
  emailVerified := false
  mfaEnabled := false
  status := "active"

/-- The user that is read back from it. -/
def createdUser (newId : Uuid) (newUser : NewUser) : User where
  id := newId
  email := newUser.email
  passwordHash := newUser.passwordHash
  role := newUser.role
  emailVerified := false
  mfaEnabled := false
  status := "active"

/-- The row of a new user is converted back to him. -/
theorem toUser_newUserRow (newId : Uuid) (newUser : NewUser) :
    (newUserRow newId newUser).toUser = .ok (createdUser newId newUser) := by
  have hrole : StringEnum.parse UserRole (newUserRow newId newUser).role = .ok newUser.role :=
    StringEnum.parse_asStr newUser.role
  rw [Auth.UserRow.toUser, hrole]
  rfl

section

variable {β : Type} {faults : Nat → Option Auth.AuthError} {n : Nat}
  {Q : Except Auth.AuthError β → Auth.AuthDb → Prop} {s : Auth.AuthDb}
  {l : Session Auth.AuthDb Auth.Resource Auth.Write}

/-- A unique index entry: an error if it is taken, or the rest under its lock. -/
theorem under_authUnique {r : Auth.Resource} {taken : Auth.Content r → Bool} {constraint : String}
    {k : Unit → Auth.Tx Auth.AuthError β}
    (htaken : taken (Store.get (l.view s) r) = true → ∀ e, Q (.error e) s)
    (h : taken (Store.get (l.view s) r) = false → (k ()).Under faults n Q (l.lock r) s) :
    (Auth.insertUnique r taken constraint >>= k).Under faults n Q l s := by
  rw [Auth.insertUnique, bind_assoc]
  refine Under.forUpdate (Under.failIf (fun hc => htaken hc _) fun hc => h ?_)
  exact Bool.eq_false_of_not_eq_true hc

/-- The INSERT of a user is a call: it fails, or his id or his address is taken, or the row is in
    the table. -/
theorem under_createUser {newId : Uuid} {newUser : NewUser}
    {k : User → Auth.Tx Auth.AuthError β} (hfault : ∀ e, faults n = some e → Q (.error e) s)
    (htaken : s.users.find newId ≠ none → ∀ e, Q (.error e) s)
    (hemail : (s.users.any fun u => u.email = newUser.email) = true → ∀ e, Q (.error e) s)
    (h : faults n = none → s.users.find newId = none →
      (k (createdUser newId newUser)).Under faults (n + 1) Q Session.init
        { s with users := s.users.insert (newUserRow newId newUser) }) :
    (Auth.createUser newId newUser >>= k).Under faults n Q Session.init s := by
  simp only [Auth.createUser, bind_assoc]
  refine Under.beginTx hfault fun hn => ?_
  refine under_authUnique (fun hsome => htaken (Option.ne_none_iff_isSome.mpr hsome)) fun hfree => ?_
  refine under_authUnique hemail fun _ => ?_
  refine Under.execute (Under.commitTx (Under.ofExcept ?_ ?_))
  · intro e he
    exact absurd ((toUser_newUserRow newId newUser).symm.trans he) (fun h => by cases h)
  · intro user huser
    rw [← Except.ok.inj ((toUser_newUserRow newId newUser).symm.trans huser)]
    exact h hn (Persistence.eq_none_of_free hfree)

/-- The INSERT of the audit row is a call of its own. -/
theorem under_recordUserRegistered {userId : Uuid} {role email : String}
    {k : Unit → Auth.Tx Auth.AuthError β} (hfault : ∀ e, faults n = some e → Q (.error e) s)
    (h : faults n = none → (k ()).Under faults (n + 1) Q Session.init
      { s with audit := s.audit ++ [sanitizeAuditLog (userRegistered userId role email)] }) :
    (Auth.recordUserRegistered userId role email >>= k).Under faults n Q Session.init s := by
  simp only [Auth.recordUserRegistered, bind_assoc]
  refine Under.beginTx hfault fun hn => ?_
  exact Under.execute (Under.commitTx (h hn))

/-- `find_user_by_email`: an error of the row read is a failure of its own. -/
theorem under_findUserByEmail {env : Auth.Env} {email : String}
    {k : Option User → Auth.Tx Auth.AuthError β} (hfault : ∀ e, faults n = some e → Q (.error e) s)
    (hfound : (s.users.rows.find? fun u => env.lower u.email = env.lower email) ≠ none →
      (∀ e, Q (.error e) s) ∧ ∀ user, (k (some user)).Under faults (n + 1) Q Session.init s)
    (h : faults n = none →
      (s.users.rows.find? fun u => env.lower u.email = env.lower email) = none →
      (k none).Under faults (n + 1) Q Session.init s) :
    (Auth.findUserByEmail env email >>= k).Under faults n Q Session.init s := by
  rw [Auth.findUserByEmail, bind_assoc]
  refine Under.select hfault fun hn => Under.restart rfl ?_
  rw [Session.view_init]
  cases hrow : s.users.rows.find? fun u => env.lower u.email = env.lower email with
  | none => exact h hn hrow
  | some row =>
    obtain ⟨herr, hrest⟩ := hfound (ne_of_eq_of_ne hrow (Option.some_ne_none row))
    rw [Auth.fromRow, bind_map_left]
    exact Under.ofExcept (fun e _ => herr e) fun user _ => hrest user

/-- The session that `issue_session` can store. -/
structure Issued (faults : Nat → Option Auth.AuthError) (n : Nat) (env : Auth.Env) (now : DateTime)
    (draw : Auth.SessionDraw) (user : User) (refreshTokens : Table RefreshSession)
    (session : RefreshSession) : Prop where
  access : ∃ access, env.issueAccessToken now draw.jti user draw.sessionId = .ok access
  refresh : ∃ refresh tokenHash, env.issueRefreshToken now user draw.sessionId = .ok refresh ∧
    env.hashSecret draw.salt refresh.token = .ok tokenHash ∧
    session = {
      id := draw.sessionId
      userId := user.id
      tokenHash := tokenHash
      expiresAt := refresh.expiresAt.toTimestamptz
      revokedAt := none }
  stored : faults n = none
  free : refreshTokens.find session.id = none
  unused : (refreshTokens.any fun x => x.tokenHash = session.tokenHash) = false

/-- The session is issued, or nothing is stored for it. -/
theorem under_issueSession {env : Auth.Env} {now : DateTime} {draw : Auth.SessionDraw} {user : User}
    {Q : Except Auth.AuthError Auth.AuthResponse → Auth.AuthDb → Prop}
    (hbroken : (∀ session, ¬ Issued faults n env now draw user s.refreshTokens session) → ∀ e, Q (.error e) s)
    (h : ∀ session, Issued faults n env now draw user s.refreshTokens session →
      ∀ r, Q (.ok r) { s with refreshTokens := s.refreshTokens.insert session }) :
    (Auth.issueSession env now draw user).Under faults n Q Session.init s := by
  refine Under.ofExcept (fun e he => hbroken (fun _ hi => ?_) e) fun access haccess => ?_
  · obtain ⟨access, haccess⟩ := hi.access
    rw [haccess] at he
    cases he
  refine Under.ofExcept (fun e he => hbroken (fun _ hi => ?_) e) fun refresh hrefresh => ?_
  · obtain ⟨refresh, _, hrefresh, -⟩ := hi.refresh
    rw [hrefresh] at he
    cases he
  refine Under.ofExcept (fun e he => hbroken (fun _ hi => ?_) e) fun tokenHash hhash => ?_
  · obtain ⟨refresh', _, hrefresh', hhash, -⟩ := hi.refresh
    rw [Except.ok.inj (hrefresh.symm.trans hrefresh'), hhash] at he
    cases he
  -- all that is left to fail is the statement itself
  have hsession : ∀ session, Issued faults n env now draw user s.refreshTokens session → session = {
      id := draw.sessionId
      userId := user.id
      tokenHash := tokenHash
      expiresAt := refresh.expiresAt.toTimestamptz
      revokedAt := none } := by
    intro session hi
    obtain ⟨refresh', _, hrefresh', hhash', hi⟩ := hi.refresh
    obtain rfl := Except.ok.inj (hrefresh.symm.trans hrefresh')
    obtain rfl := Except.ok.inj (hhash.symm.trans hhash')
    exact hi
  simp only [Auth.storeRefreshSession, bind_assoc]
  refine Under.beginTx (fun e he => hbroken (fun _ hi => ?_) e) fun hstored => ?_
  · exact Option.some_ne_none e (he.symm.trans hi.stored)
  refine under_authUnique (fun hsome => hbroken fun session hi => ?_) fun hfree => ?_
  · have hfree := hi.free
    rw [hsession session hi] at hfree
    exact Option.ne_none_iff_isSome.mpr hsome hfree
  refine under_authUnique (fun hused => hbroken fun session hi => ?_) fun hunused =>
    Under.execute (Under.commitTx (Under.ok ?_))
  · have hunused := hi.unused
    rw [hsession session hi] at hunused
    exact ne_true_of_eq_false hunused hused
  exact h _ ⟨⟨access, haccess⟩, ⟨refresh, tokenHash, hrefresh, hhash, rfl⟩, hstored,
    Persistence.eq_none_of_free hfree, hunused⟩ _

end

/-! ## `register`

  Three rows in three calls: the user, his event and a session.  Tokens are issued and a token is
  hashed between the second and the third. -/

namespace World

/-- The row of a new user. -/
def addUser (w : World) (row : Auth.UserRow) : World :=
  ({ w.1 with users := w.1.users.insert row }, w.2)

/-- The row of a new session. -/
def addSession (w : World) (session : RefreshSession) : World :=
  ({ w.1 with refreshTokens := w.1.refreshTokens.insert session }, w.2)

end World

section

variable (env : Auth.Env) (now : DateTime) (userDraw : Auth.UserDraw) (draw : Auth.SessionDraw)
  (input : Auth.RegisterInput) (faults : Nat → Option Auth.AuthError)

/-- What it takes to write the row of the user. -/
structure RegisterReady (w : World) (newUser : NewUser) : Prop where
  role : Auth.ensureRegisterableRole input.role = .ok ()
  looked : faults 0 = none
  unknown : (w.1.users.rows.find? fun u =>
    env.lower u.email = env.lower (Auth.normalizeEmail input.email)) = none
  hashed : ∃ passwordHash, env.hashSecret userDraw.salt input.password = .ok passwordHash ∧
    newUser = ⟨Auth.normalizeEmail input.email, passwordHash, input.role⟩
  stored : faults 1 = none
  free : w.1.users.find userDraw.userId = none

/-- The audit row is written, and then the session. -/
structure RegisterGoesOn (w : World) (newUser : NewUser) : Prop where
  logged : faults 2 = none
  issued : ∃ session, Issued faults 3 env now draw (createdUser userDraw.userId newUser)
    w.1.refreshTokens session

/-- The audit row of the new user. -/
def userEvent (newId : Uuid) (newUser : NewUser) : AuditLog :=
  userRegistered newId (asStr newUser.role) newUser.email

/-- The user with his event and a session; or the user with or without his event; or nothing. -/
def RegisterEnded (w : World) : Except Auth.AuthError Auth.AuthResponse → World → Prop :=
  Ended (RegisterReady env userDraw input faults w) (RegisterGoesOn env now userDraw draw faults w)
    (fun newUser w' => w' = w.addUser (newUserRow userDraw.userId newUser) ∨
      w' = (w.addUser (newUserRow userDraw.userId newUser)).addAudit
        (userEvent userDraw.userId newUser))
    (fun newUser w' => ∃ session, w' = ((w.addUser (newUserRow userDraw.userId newUser)).addAudit
      (userEvent userDraw.userId newUser)).addSession session) w

/-- Every end of `register` is one of these. -/
theorem register_ended (w : World) :
    ((Auth.register env now userDraw draw input).inl : Tx Auth.AuthError Auth.AuthResponse).Under
      faults 0 (RegisterEnded env now userDraw draw input faults w) Session.init w := by
  refine Under.inl (Under.ofExcept (fun e he => .refused fun _ h => ?_) fun _ hrole => ?_)
  · rw [h.role] at he
    cases he
  refine under_findUserByEmail (fun e he => .refused fun _ h => ?_) (fun hknown => ⟨?_, ?_⟩)
    fun hlooked hunknown => ?_
  · exact Option.some_ne_none e (he.symm.trans h.looked)
  · exact fun _ => .refused fun _ h => hknown h.unknown
  · intro user
    refine Under.failIf (fun _ => .refused fun _ h => hknown h.unknown) fun hnot => ?_
    exact absurd rfl hnot
  refine Under.failIf (fun hsome => by cases hsome) fun _ => ?_
  refine Under.ofExcept (fun e he => .refused fun _ h => ?_) fun passwordHash hhash => ?_
  · obtain ⟨passwordHash, hhash, -⟩ := h.hashed
    rw [hhash] at he
    cases he
  refine under_createUser (fun e he => .refused fun _ h => ?_)
    (fun htaken _ => .refused fun _ h => htaken h.free) (fun hused _ => .refused fun _ h => ?_)
    fun hstored hfree => ?_
  · exact Option.some_ne_none e (he.symm.trans h.stored)
  -- an exact match would have been found by the lookup, which ignores case
  · obtain ⟨u, hu, hemail⟩ := List.any_eq_true.mp hused
    refine List.find?_eq_none.mp h.unknown u hu (decide_eq_true ?_)
    exact congrArg env.lower (of_decide_eq_true hemail)
  have hready : RegisterReady env userDraw input faults w
      ⟨Auth.normalizeEmail input.email, passwordHash, input.role⟩ :=
    ⟨hrole, hlooked, hunknown, ⟨passwordHash, hhash, rfl⟩, hstored, hfree⟩
  -- the user is there from here on, and after this call the audit row as well
  refine under_recordUserRegistered (fun e he => .broken hready (fun hgo => ?_) (.inl rfl))
    fun hlogged => ?_
  · exact Option.some_ne_none e (he.symm.trans hgo.logged)
  refine under_issueSession (fun hnot e => .broken hready (fun hgo => ?_) (.inr rfl))
    fun session hissued r => ?_
  · obtain ⟨session, hissued⟩ := hgo.issued
    exact hnot session hissued
  exact .complete hready ⟨hlogged, session, hissued⟩ ⟨session, rfl⟩

end

end EduStell.Records
