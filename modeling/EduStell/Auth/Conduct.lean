/-
  What the auth service does to its tables, whatever else goes on.

  Between two statements of one call every other call may commit, so what a call may rely on is what
  no call changes: a user keeps his role and address, a session its user (`RolesKept`).  Users come
  from registrations, which do not make administrators (`RolesFounded`).  Under these rules a session
  that is answered is one of a stored user, in his stored role (`SessionOf`).

  The service is a part of the accounts (`EduStell.Auth.Accounts`), and its calls are those of a run
  of the accounts.

  As for other services with several transactions, the pact is kept statement by statement, then
  call by call; `Call.among` is what `EduStell.Auth.Verified` uses of this module.
-/
import EduStell.Auth.Accounts
import EduStell.Auth.Sessions

namespace EduStell.Auth

open Txn Program

/-- An event of a run of the account service. -/
abbrev AccountHappening : Type := Event AccountCall Nat

/-! ## The pact

  What stays (`RolesKept`), what every state has (`RolesFounded`), and what an answer is worth
  (`SessionAnswer`). -/

/-- The row is that of a registration of the run, which asks for no administrator. -/
def Registered (es : List AccountHappening) (u : UserRow) : Prop :=
  ∃ i now userDraw draw input, .call i ⟨now, .auth (.register userDraw draw input)⟩ ∈ es ∧
    u.id = userDraw.userId ∧ u.role = asStr input.role ∧ u.email = normalizeEmail input.email ∧
    input.role ≠ .platformAdmin ∧ input.role ≠ .schoolAdmin

/-- Every user was there with his role in `s₀`, or has registered. -/
def RolesFounded (es : List AccountHappening) (s₀ s : AuthDb) : Prop :=
  ∀ id u, s.users.find id = some u →
    (∃ u₀, s₀.users.find id = some u₀ ∧ u₀.role = u.role ∧ u₀.email = u.email) ∨ Registered es u

/-- No user is lost, nor his role or address, and no session. -/
structure RolesKept (s s' : AuthDb) : Prop where
  users : Table.Keeps (fun u => (u.role, u.email)) s.users s'.users
  sessions : Table.Keeps RefreshSession.userId s.refreshTokens s'.refreshTokens

/-- The user is there and his address is verified. -/
def MarkedUser (s : AuthDb) (id : Uuid) : Prop :=
  ∃ u, s.users.find id = some u ∧ u.emailVerified = true

/-- Who has verified his address has not changed. -/
structure SameMarks (s s' : AuthDb) : Prop where
  kept : Table.Keeps UserRow.emailVerified s.users s'.users
  back : ∀ id, MarkedUser s' id → MarkedUser s id

/-- The answer is a session of this user, and he is there in the role that it was issued for. -/
structure SessionOf (env : Env) (s : AuthDb) (resp : AuthResponse) (now : DateTime) (jti : Uuid)
    (user : User) (sessionId : Uuid) : Prop where
  /-- The user is stored, in his role and with his address. -/
  row : ∃ u, s.users.find user.id = some u ∧ u.role = asStr user.role ∧ u.email = user.email
  /-- The session is stored, and it is his. -/
  session : ∃ x, s.refreshTokens.find sessionId = some x ∧ x.userId = user.id
  /-- The user that is answered is this one. -/
  answer : resp.user = user.toPublic
  /-- The access token was issued for the two of them. -/
  issued : env.issueAccessToken now jti user sessionId =
    .ok ⟨resp.tokens.accessToken, resp.tokens.accessExpiresAt⟩

/-- An answered session is one of a user in his role. -/
def SessionAnswer (env : Env) (r : Except AuthError Answer) (s : AuthDb) : Prop :=
  ∀ resp, r = .ok (.session resp) → ∃ now jti user sessionId,
    SessionOf env s resp now jti user sessionId

/-- Nothing has changed. -/
theorem RolesKept.refl (s : AuthDb) : RolesKept s s := ⟨.refl _, .refl _⟩

/-- What is kept over two stretches is kept over both. -/
theorem RolesKept.trans {s t u : AuthDb} (h : RolesKept s t) (h' : RolesKept t u) : RolesKept s u :=
  ⟨h.users.trans h'.users, h.sessions.trans h'.sessions⟩

/-- A session speaks for its user as long as roles are kept. -/
theorem RolesKept.sessionOf {env : Env} {s s' : AuthDb} {resp : AuthResponse} {now : DateTime}
    {jti sessionId : Uuid} {user : User} (h : RolesKept s s')
    (hsession : SessionOf env s resp now jti user sessionId) :
    SessionOf env s' resp now jti user sessionId := by
  obtain ⟨⟨u, hu, hrole, hemail⟩, ⟨x, hx, huser⟩, hanswer, hissued⟩ := hsession
  obtain ⟨u', hu', hsame⟩ := h.users _ u hu
  obtain ⟨x', hx', huser'⟩ := h.sessions _ x hx
  obtain ⟨hrole', hemail'⟩ := Prod.mk.inj hsame
  exact ⟨⟨u', hu', hrole'.trans hrole, hemail'.trans hemail⟩, ⟨x', hx', huser'.trans huser⟩, hanswer,
    hissued⟩

/-- What a COMMIT of the auth service may do. -/
structure SessionsStep (es : List AccountHappening) (s₀ s s' : AuthDb) : Prop where
  founded : RolesFounded es s₀ s'
  kept : RolesKept s s'
  marks : SameMarks s s'

/-- What the calls of a run agree on when they begin, renew or end a session. -/
def sessionsPact (env : Env) (es : List AccountHappening) (s₀ : AuthDb) :
    Pact AuthDb AuthError Answer AccountCall where
  inv := RolesFounded es s₀
  rely := RolesKept
  guar := SessionsStep es s₀
  arrivals c := ∃ i, .call i c ∈ es
  answers _ := SessionAnswer env
  refl := RolesKept.refl
  trans := RolesKept.trans
  keep _ h := ⟨h.founded, h.kept⟩
  answers_stable h hr resp hresp := by
    obtain ⟨now, jti, user, sessionId, hsession⟩ := hr resp hresp
    exact ⟨now, jti, user, sessionId, h.sessionOf hsession⟩

/-! ## Each statement keeps it

  Five statements write the tables, and none of them changes a role or an address that is there. -/

section Statements

variable {es : List AccountHappening} {s₀ s s' : AuthDb}

/-- What leaves the users alone. -/
theorem step_of_users (h : RolesFounded es s₀ s) (husers : s'.users = s.users)
    (hsessions : Table.Keeps RefreshSession.userId s.refreshTokens s'.refreshTokens) :
    SessionsStep es s₀ s s' := by
  refine ⟨?_, ⟨?_, hsessions⟩, ?_, ?_⟩
  · intro id u hu
    rw [husers] at hu
    exact h id u hu
  · rw [husers]
    exact .refl _
  · rw [husers]
    exact .refl _
  · rintro id ⟨u, hu, hverified⟩
    rw [husers] at hu
    exact ⟨u, hu, hverified⟩

/-- A new session is nobody's role and nobody's mark. -/
theorem step_insertRefreshToken (h : RolesFounded es s₀ s) (x : RefreshSession) :
    SessionsStep es s₀ s ((Write.insertRefreshToken x).apply s) :=
  step_of_users h rfl (Table.keeps_insert _ x)

/-- A revocation leaves users, and whose session it is. -/
theorem step_revokeRefreshToken (h : RolesFounded es s₀ s) (id : Uuid) (now : DateTime) :
    SessionsStep es s₀ s ((Write.revokeRefreshToken id now).apply s) :=
  step_of_users h rfl (Table.keeps_modify _ id _ (fun _ h => by exact h) fun _ => rfl)

/-- An audit row leaves both tables. -/
theorem step_insertAuditLog (h : RolesFounded es s₀ s) (log : AuditLog) :
    SessionsStep es s₀ s ((Write.insertAuditLog log).apply s) :=
  step_of_users h rfl (.refl _)

/-- A status is neither a role nor a mark. -/
theorem step_setUserStatus (h : RolesFounded es s₀ s) (id : Uuid) (status : String) :
    SessionsStep es s₀ s ((Write.setUserStatus id status).apply s) := by
  have hfind : ∀ id', ((Write.setUserStatus id status).apply s).users.find id' = _ := fun id' =>
    Table.find_modify s.users id id' (·.setStatus status) fun _ h => by exact h
  have hback : ∀ id' u, ((Write.setUserStatus id status).apply s).users.find id' = some u →
      ∃ u', s.users.find id' = some u' ∧ (u = u' ∨ u = u'.setStatus status) := by
    intro id' u hu
    rw [hfind] at hu
    split at hu
    · obtain ⟨u', hu', rfl⟩ := Option.map_eq_some_iff.mp hu
      exact ⟨u', hu', .inr rfl⟩
    · exact ⟨u, hu, .inl rfl⟩
  refine ⟨?_, ⟨?_, .refl _⟩, ?_, ?_⟩
  · intro id' u hu
    obtain ⟨u', hu', rfl | rfl⟩ := hback id' u hu
    · exact h id' u hu'
    · exact h id' u' hu'
  · exact Table.keeps_modify _ id _ (fun _ h => by exact h) fun _ => rfl
  · exact Table.keeps_modify _ id _ (fun _ h => by exact h) fun _ => rfl
  · rintro id' ⟨u, hu, hverified⟩
    obtain ⟨u', hu', rfl | rfl⟩ := hback id' u hu
    · exact ⟨u, hu', hverified⟩
    · exact ⟨u', hu', hverified⟩

/-- A new user is founded by the registration that he comes from, and is not marked. -/
theorem step_insertUser (h : RolesFounded es s₀ s) {row : UserRow} (hrow : Registered es row)
    (hunverified : row.emailVerified = false) :
    SessionsStep es s₀ s ((Write.insertUser row).apply s) := by
  have hback : ∀ id u, ((Write.insertUser row).apply s).users.find id = some u →
      u = row ∨ s.users.find id = some u := fun id u hu => Table.of_find_insert hu
  refine ⟨?_, ⟨Table.keeps_insert _ row, .refl _⟩, Table.keeps_insert _ row, ?_⟩
  · intro id u hu
    rcases hback id u hu with rfl | hu
    · exact .inr hrow
    · exact h id u hu
  · rintro id ⟨u, hu, hverified⟩
    rcases hback id u hu with rfl | hu
    · rw [hunverified] at hverified
      cases hverified
    · exact ⟨u, hu, hverified⟩

end Statements

/-! ## Rules

  A lookup sees some later state than the call began in, so what it finds is known up to what the
  others may have committed meanwhile. -/

section Rules

variable {α κ : Type} {X : Pact AuthDb AuthError α κ} {q : κ} {s : AuthDb}

/-- The conversion of a row answers with its error, or the rest goes on with what it gave. -/
theorem among_fromRow {row : Option UserRow} {k : Option User → Tx AuthError α}
    (herr : ∀ e, X.answers q (.error e) s)
    (h : ∀ found, (∀ user, found = some user → ∃ u, row = some u ∧ u.toUser = .ok user) →
      (k found).Among X q [] [] s) : (fromRow row >>= k).Among X q [] [] s := by
  cases row with
  | none =>
    refine h none fun user hfound => ?_
    cases hfound
  | some u =>
    rw [fromRow, bind_map_left]
    refine Among.ofExcept (fun e _ => herr e) fun user huser => ?_
    refine h (some user) fun user' hfound => ?_
    cases hfound
    exact ⟨u, rfl, huser⟩

/-- A user looked up by address was there at some later moment. -/
theorem among_findUserByEmail {env : Env} {email : String} {k : Option User → Tx AuthError α}
    (herr : ∀ e s', X.answers q (.error e) s')
    (h : ∀ t found, X.Later s t → (∀ user, found = some user → ∃ u,
      (t.users.rows.find? fun u => env.lower u.email = env.lower email) = some u ∧
      u.toUser = .ok user) → (k found).Among X q [] [] t) :
    (findUserByEmail env email >>= k).Among X q [] [] s := by
  rw [findUserByEmail, bind_assoc]
  exact Among.select fun t ht => among_fromRow (fun _ => herr _ _) fun found => h t found ⟨ht.inv, ht.rely⟩

/-- A user looked up by id was there at some later moment. -/
theorem among_findUserById {userId : Uuid} {k : Option User → Tx AuthError α}
    (herr : ∀ e s', X.answers q (.error e) s')
    (h : ∀ t found, X.Later s t → (∀ user, found = some user → ∃ u,
      t.users.find userId = some u ∧ u.toUser = .ok user) → (k found).Among X q [] [] t) :
    (findUserById userId >>= k).Among X q [] [] s := by
  rw [findUserById, bind_assoc]
  exact Among.select fun t ht => among_fromRow (fun _ => herr _ _) fun found => h t found ⟨ht.inv, ht.rely⟩

/-- The revocation is a transaction of its own. -/
theorem among_revokeRefreshSession {now : DateTime} {id : Uuid} {k : Unit → Tx AuthError α}
    (h : ∀ s', X.Later s s' → X.guar s' ((Write.revokeRefreshToken id now.toTimestamptz).apply s') ∧
      (k ()).Among X q [] [] ((Write.revokeRefreshToken id now.toTimestamptz).apply s')) :
    (revokeRefreshSession now id >>= k).Among X q [] [] s := by
  simp only [revokeRefreshSession, bind_assoc]
  refine Among.beginTx (Among.forUpdate fun t ht => ?_)
  refine Among.execute ?_ (Among.commitTx fun t' ht' => ?_)
  · rintro r rfl
    exact List.mem_cons_self
  · exact h t' ⟨ht'.inv, X.trans ht.rely ht'.rely⟩

/-- The locks on id and hash are held until the row is stored. -/
theorem among_storeRefreshSession {x : RefreshSession} {k : Unit → Tx AuthError α}
    (herr : ∀ e s', X.answers q (.error e) s')
    (h : ∀ s' row, X.Later s s' → row = { x with expiresAt := x.expiresAt.toTimestamptz } →
      s'.refreshTokens.find x.id = none → X.guar s' ((Write.insertRefreshToken row).apply s') ∧
      (k ()).Among X q [] [] ((Write.insertRefreshToken row).apply s')) :
    (storeRefreshSession x >>= k).Among X q [] [] s := by
  simp only [storeRefreshSession, insertUnique, bind_assoc]
  refine Among.beginTx (Among.forUpdate fun t ht => Among.failIf (fun _ => herr _ _) ?_)
  intro hfree
  refine Among.forUpdate fun t' ht' => ?_
  refine Among.failIf (fun _ => herr _ _) fun _ => Among.execute ?_ ?_
  · rintro r (rfl | rfl)
    · exact List.mem_cons_of_mem _ List.mem_cons_self
    · exact List.mem_cons_self
  refine Among.commitTx fun t'' ht'' => h t'' _ ?_ rfl ?_
  · exact ⟨ht''.inv, X.trans ht.rely (X.trans ht'.rely ht''.rely)⟩
  · have hsame' := ht'.same (.refreshToken x.id) List.mem_cons_self
    have hsame := ht''.same (.refreshToken x.id) (List.mem_cons_of_mem _ List.mem_cons_self)
    exact (hsame.trans hsame').trans (Option.not_isSome_iff_eq_none.mp hfree)

/-- The locks on id and address are held until the row is stored. -/
theorem among_createUser {newId : Uuid} {newUser : NewUser} {k : User → Tx AuthError α}
    (herr : ∀ e s', X.answers q (.error e) s')
    (h : ∀ s' row user, X.Later s s' → row.id = newId → row.role = asStr newUser.role →
      row.email = newUser.email → row.emailVerified = false → row.toUser = .ok user →
      s'.users.find newId = none → X.guar s' ((Write.insertUser row).apply s') ∧
      (k user).Among X q [] [] ((Write.insertUser row).apply s')) :
    (createUser newId newUser >>= k).Among X q [] [] s := by
  simp only [createUser, insertUnique, bind_assoc]
  refine Among.beginTx (Among.forUpdate fun t ht => Among.failIf (fun _ => herr _ _) ?_)
  intro hfree
  refine Among.forUpdate fun t' ht' => ?_
  refine Among.failIf (fun _ => herr _ _) fun _ => Among.execute ?_ ?_
  · rintro r (rfl | rfl)
    · exact List.mem_cons_of_mem _ List.mem_cons_self
    · exact List.mem_cons_self
  have hread : ∀ row : UserRow, row.role = asStr newUser.role → ∃ user, row.toUser = .ok user := by
    intro row hrole
    rw [UserRow.toUser, hrole, StringEnum.parse_asStr]
    exact ⟨_, rfl⟩
  refine Among.commitTx fun t'' ht'' => ?_
  obtain ⟨user, huser⟩ := hread ⟨newId, newUser.email, newUser.passwordHash, asStr newUser.role, false,
    false, "active"⟩ rfl
  have hsame' := ht'.same (.user newId) List.mem_cons_self
  have hsame := ht''.same (.user newId) (List.mem_cons_of_mem _ List.mem_cons_self)
  obtain ⟨hguar, hrest⟩ := h t'' _ user
    ⟨ht''.inv, X.trans ht.rely (X.trans ht'.rely ht''.rely)⟩ rfl rfl rfl rfl huser
    ((hsame.trans hsame').trans (Option.not_isSome_iff_eq_none.mp hfree))
  refine ⟨hguar, ?_⟩
  rw [huser]
  exact hrest

/-- The audit row is a transaction of its own. -/
theorem among_recordUserRegistered {userId : Uuid} {role email : String} {k : Unit → Tx AuthError α}
    (h : ∀ s' log, X.Later s s' → X.guar s' ((Write.insertAuditLog log).apply s') ∧
      (k ()).Among X q [] [] ((Write.insertAuditLog log).apply s')) :
    (recordUserRegistered userId role email >>= k).Among X q [] [] s := by
  simp only [recordUserRegistered, bind_assoc]
  refine Among.beginTx (Among.execute ?_ ?_)
  · exact fun r hr => hr.elim
  · exact Among.commitTx fun s' hs' => h s' _ hs'.later

end Rules

/-! ## Each call keeps it

  A session is answered for a user who was found, and whatever else happens he keeps the role that
  the session names. -/

/-- A converted row has the role and the address of the user. -/
theorem toUser_role {row : UserRow} {user : User} (h : row.toUser = .ok user) :
    row.role = asStr user.role ∧ row.email = user.email := by
  rw [UserRow.toUser] at h
  split at h
  · rename_i role hrole
    cases h
    refine ⟨?_, rfl⟩
    rw [StringEnum.parse] at hrole
    split at hrole
    · rename_i a ha
      cases hrole
      exact (of_decide_eq_true (List.find?_some ha :)).symm
    · cases hrole
  · cases h

section Calls

variable {env : Env} {es : List AccountHappening} {s₀ s : AuthDb} {c : AccountCall}

/-- An error is no session. -/
theorem sessionAnswer_error (e : AuthError) (s : AuthDb) : SessionAnswer env (.error e) s := by
  intro resp hresp
  cases hresp

/-- An answer without a session is none. -/
theorem sessionAnswer_done (s : AuthDb) : SessionAnswer env (.ok .done) s := by
  intro resp hresp
  cases hresp

/-- A session is issued for a user who is there. -/
theorem among_issueSession {now : DateTime} {draw : SessionDraw} {user : User}
    (hrow : ∃ u, s.users.find user.id = some u ∧ u.role = asStr user.role ∧ u.email = user.email) :
    (issueSession env now draw user).Among
      ((sessionsPact env es s₀).under (Except.map .session)) c [] [] s := by
  have herr : ∀ e s, ((sessionsPact env es s₀).under (Except.map .session)).answers c (.error e) s :=
    fun e s => sessionAnswer_error e s
  refine Among.ofExcept (fun _ _ => herr _ _) fun access haccess => ?_
  refine Among.ofExcept (fun _ _ => herr _ _) fun refresh _ => ?_
  refine Among.ofExcept (fun _ _ => herr _ _) fun hash _ => ?_
  refine among_storeRefreshSession herr fun t x hlater hx hfresh => ?_
  refine ⟨step_insertRefreshToken hlater.1 x, ?_⟩
  intro resp hresp
  cases hresp
  obtain ⟨u, hu, hrole, hemail⟩ := hrow
  obtain ⟨u', hu', hsame⟩ := hlater.2.users _ u hu
  obtain ⟨hrole', hemail'⟩ := Prod.mk.inj hsame
  refine ⟨now, draw.jti, user, draw.sessionId, ?_⟩
  constructor
  · exact ⟨u', hu', hrole'.trans hrole, hemail'.trans hemail⟩
  · have hid : x.id = draw.sessionId := by rw [hx]
    exact ⟨x, Table.find_insert_new hid hfresh, by rw [hx]⟩
  · rfl
  · exact haccess

/-- A registration keeps the pact: its user and its session are its own. -/
theorem among_register {now : DateTime} {userDraw : UserDraw} {draw : SessionDraw}
    {input : RegisterInput}
    (hcalled : ∃ i now, .call i ⟨now, .auth (.register userDraw draw input)⟩ ∈ es) :
    (register env now userDraw draw input).Among
      ((sessionsPact env es s₀).under (Except.map .session)) c [] [] s := by
  have herr : ∀ e s, ((sessionsPact env es s₀).under (Except.map .session)).answers c (.error e) s :=
    fun e s => sessionAnswer_error e s
  refine Among.ofExcept (fun _ _ => herr _ _) fun _ hrole => ?_
  refine among_findUserByEmail herr fun t existing ht _ => ?_
  refine Among.failIf (fun _ => herr _ _) fun _ => Among.ofExcept (fun _ _ => herr _ _) fun hash _ => ?_
  refine among_createUser herr fun t₁ row user hlater hid hrow hemail hunverified huser hfresh => ?_
  have hregistered : Registered es row := by
    obtain ⟨i, now, hcall⟩ := hcalled
    refine ⟨i, now, userDraw, draw, input, hcall, hid, hrow, hemail, ?_⟩
    rw [ensureRegisterableRole] at hrole
    split at hrole
    · cases hrole
    · rename_i hnone
      exact not_or.mp hnone
  refine ⟨step_insertUser hlater.1 hregistered hunverified, ?_⟩
  have hfound : ((Write.insertUser row).apply t₁).users.find row.id = some row :=
    Table.find_insert_new rfl (hid ▸ hfresh)
  refine among_recordUserRegistered fun t₂ log hlater₂ => ⟨step_insertAuditLog hlater₂.1 log, ?_⟩
  -- the new row is still there when the session is issued
  obtain ⟨u, hu, hsame⟩ := hlater₂.2.users _ row hfound
  obtain ⟨hrole', hemail'⟩ := Prod.mk.inj hsame
  obtain ⟨hread, hread'⟩ := toUser_role huser
  refine among_issueSession ⟨u, ?_, hrole'.trans hread, hemail'.trans hread'⟩
  rw [toUser_id huser]
  exact hu

/-- A login keeps the pact. -/
theorem among_login {now : DateTime} {draw : SessionDraw} {input : LoginInput} :
    (login env now draw input).Among
      ((sessionsPact env es s₀).under (Except.map .session)) c [] [] s := by
  have herr : ∀ e s, ((sessionsPact env es s₀).under (Except.map .session)).answers c (.error e) s :=
    fun e s => sessionAnswer_error e s
  refine among_findUserByEmail herr fun t found ht hfound => ?_
  refine Among.okOr (fun _ => herr _ _) fun user huser => Among.ofExcept (fun _ _ => herr _ _) ?_
  intro _ _
  refine Among.ofExcept (fun _ _ => herr _ _) fun _ _ => Among.failIf (fun _ => herr _ _) fun _ => ?_
  obtain ⟨u, hu, hread⟩ := hfound user huser
  have hmem : u ∈ t.users.rows := List.mem_of_find?_eq_some hu
  refine among_issueSession ⟨u, ?_, toUser_role hread⟩
  rw [toUser_id hread]
  exact Table.find_key hmem

/-- A refresh keeps the pact, however many others use its token. -/
theorem among_refresh {now : DateTime} {draw : SessionDraw} {token : String} :
    (refresh env now draw token).Among
      ((sessionsPact env es s₀).under (Except.map .session)) c [] [] s := by
  have herr : ∀ e s, ((sessionsPact env es s₀).under (Except.map .session)).answers c (.error e) s :=
    fun e s => sessionAnswer_error e s
  refine Among.ofExcept (fun _ _ => herr _ _) fun claims _ => Among.select fun t ht => ?_
  refine Among.okOr (fun _ => herr _ _) fun session _ => Among.failIf (fun _ => herr _ _) fun _ => ?_
  refine Among.failIf (fun _ => herr _ _) fun _ => Among.ofExcept (fun _ _ => herr _ _) fun _ _ => ?_
  refine Among.failIf (fun _ => herr _ _) fun _ => ?_
  refine among_revokeRefreshSession fun t₁ hlater => ⟨step_revokeRefreshToken hlater.1 _ _, ?_⟩
  refine among_findUserById herr fun t₂ found ht₂ hfound => ?_
  refine Among.okOr (fun _ => herr _ _) fun user huser => Among.ofExcept (fun _ _ => herr _ _) ?_
  intro _ _
  obtain ⟨u, hu, hread⟩ := hfound user huser
  refine among_issueSession ⟨u, ?_, toUser_role hread⟩
  have hid : u.id = claims.sub := (Table.find_some hu).2
  rw [toUser_id hread, hid]
  exact hu

/-- Every call of the auth service. -/
theorem Call.among {now : DateTime} {request : Request} {i : Nat}
    (hcalled : .call i ⟨now, .auth request⟩ ∈ es) :
    (Call.program env ⟨now, request⟩).Among (sessionsPact env es s₀) c [] [] s := by
  cases request with
  | register userDraw draw input => exact Among.map (among_register ⟨i, now, hcalled⟩)
  | login draw input => exact Among.map among_login
  | refresh draw token => exact Among.map among_refresh
  | logout token =>
    refine Among.map (Among.ofExcept (fun e _ => sessionAnswer_error e _) fun claims _ => ?_)
    -- logging out ends with the revocation
    refine Among.beginTx (Among.forUpdate fun t ht => Among.execute ?_ fun t' ht' => ?_)
    · rintro r rfl
      exact List.mem_cons_self
    · exact ⟨step_revokeRefreshToken ht'.inv _ _, sessionAnswer_done _⟩
  | setUserStatus userId status =>
    refine Among.map (Among.beginTx (Among.forUpdate fun t ht => Among.execute ?_ fun t' ht' => ?_))
    · rintro r rfl
      exact List.mem_cons_self
    · exact ⟨step_setUserStatus ht'.inv _ _, sessionAnswer_done _⟩

end Calls

end EduStell.Auth
