/-
  When a refresh is accepted: the life of a refresh token over a run of requests.

  The services look at a session row; the theorem speaks of the past of the run.  A refresh with a
  token is accepted at time `t` if and only if an earlier call was answered with this token, no
  logout with it succeeded since, no refresh with it passed the session checks since, its session
  expires after `t`, and its user is active (`refresh_accepted_iff`).

  In between stands a book of the run, with two columns: the tokens that were issued and the tokens
  that were retired.  `Book` says how the rows follow it; retiring a token and issuing one are its two
  moves (`Book.retire`, `Book.issue`), and every call makes some of them.

  The plan: what one call does (`Call.outcome`), what it does to the book (`Book.step`), and the
  book of a run, which is its past (`book_run`).  `Unforged` is the one assumption on a run; it is
  about logouts that present a token which nobody has issued.
-/
import EduStell.Auth.Scenario
import EduStell.Txn.Serial

namespace EduStell.Auth

open Txn Program

/-! ## One call

  A call that meets no other, evaluated to its answer and the tables it leaves. -/

/-- The call alone, its answer and the database after it. -/
def Call.serve (env : Env) (c : Call) (s : AuthDb) : Except AuthError Answer × AuthDb :=
  (c.program env).serve s

section Rules

variable {α : Type} {s : AuthDb} {Q : Except AuthError α → AuthDb → Prop}

/-- A unique index entry: taken, or locked for the rest. -/
theorem runs_insertUnique {r : Resource} {taken : Content r → Bool} {constraint : String}
    {k : Unit → Tx AuthError α} {l : Session AuthDb Resource Write}
    (htaken : taken (Store.get (l.view s) r) = true → Q (.error (uniqueViolation constraint)) s)
    (h : ¬ taken (Store.get (l.view s) r) = true → (k ()).Runs (l.lock r) s Q) :
    (insertUnique r taken constraint >>= k).Runs l s Q := by
  rw [insertUnique, bind_assoc]
  exact Runs.forUpdate (Runs.failIf htaken h)

/-- The conversion of a row: its error, or the user. -/
theorem runs_fromRow {row : Option UserRow} {k : Option User → Tx AuthError α}
    {l : Session AuthDb Resource Write}
    (herr : ∀ u e, row = some u → u.toUser = .error e → Q (.error e) s)
    (hnone : row = none → (k none).Runs l s Q)
    (hsome : ∀ u user, row = some u → u.toUser = .ok user → (k (some user)).Runs l s Q) :
    (fromRow row >>= k).Runs l s Q := by
  cases row with
  | none => exact hnone rfl
  | some u =>
    rw [fromRow, bind_map_left]
    exact Runs.ofExcept (fun e he => herr u e rfl he) fun user huser => hsome u user rfl huser

/-- A user looked up by address: his row, if it is there and can be converted. -/
theorem runs_findUserByEmail {env : Env} {email : String} {k : Option User → Tx AuthError α}
    (herr : ∀ u e, (s.users.rows.find? fun u => env.lower u.email = env.lower email) = some u →
      u.toUser = .error e → Q (.error e) s)
    (hnone : (s.users.rows.find? fun u => env.lower u.email = env.lower email) = none →
      (k none).Runs Session.init s Q)
    (hsome : ∀ u user, (s.users.rows.find? fun u => env.lower u.email = env.lower email) = some u →
      u.toUser = .ok user → (k (some user)).Runs Session.init s Q) :
    (findUserByEmail env email >>= k).Runs Session.init s Q := by
  rw [findUserByEmail, bind_assoc]
  exact Runs.select (Runs.restart rfl (runs_fromRow herr hnone hsome))

/-- A user looked up by id: his row, if it is there and can be converted. -/
theorem runs_findUserById {userId : Uuid} {k : Option User → Tx AuthError α}
    (herr : ∀ u e, s.users.find userId = some u → u.toUser = .error e → Q (.error e) s)
    (hnone : s.users.find userId = none → (k none).Runs Session.init s Q)
    (hsome : ∀ u user, s.users.find userId = some u → u.toUser = .ok user →
      (k (some user)).Runs Session.init s Q) :
    (findUserById userId >>= k).Runs Session.init s Q := by
  rw [findUserById, bind_assoc]
  exact Runs.select (Runs.restart rfl (runs_fromRow herr hnone hsome))

/-! ### Statements that are a transaction of their own

  Each write is published at once. -/

/-- The UPDATE that revokes a session. -/
theorem runs_revokeRefreshSession {now : DateTime} {x : Uuid} {k : Unit → Tx AuthError α}
    (h : (k ()).Runs Session.init ((Write.revokeRefreshToken x now.toTimestamptz).apply s) Q) :
    (revokeRefreshSession now x >>= k).Runs Session.init s Q := by
  simp only [revokeRefreshSession, bind_assoc]
  exact Runs.beginTx (Runs.forUpdate (Runs.execute (Runs.commitTx (Runs.restart rfl h))))

/-- The INSERT of a session, unless its id or its hash is taken. -/
theorem runs_storeRefreshSession {x : RefreshSession} {k : Unit → Tx AuthError α}
    (hid : (s.refreshTokens.find x.id).isSome → Q (.error (uniqueViolation "refresh_tokens_pkey")) s)
    (hhash : s.refreshTokens.any (fun y => y.tokenHash = x.tokenHash) →
      Q (.error (uniqueViolation "refresh_tokens_token_hash_key")) s)
    (h : s.refreshTokens.find x.id = none → (k ()).Runs Session.init ((Write.insertRefreshToken
      { x with expiresAt := x.expiresAt.toTimestamptz }).apply s) Q) :
    (storeRefreshSession x >>= k).Runs Session.init s Q := by
  simp only [storeRefreshSession, bind_assoc]
  refine Runs.beginTx (runs_insertUnique hid fun hfree => ?_)
  refine runs_insertUnique hhash fun _ => ?_
  refine Runs.execute (Runs.commitTx (Runs.restart rfl ?_))
  exact h (Option.not_isSome_iff_eq_none.mp hfree)

/-- The INSERT of a user, unless his id or his address is taken. -/
theorem runs_createUser {newId : Uuid} {newUser : NewUser} {k : User → Tx AuthError α}
    (herr : ∀ e, Q (.error e) s)
    (h : ∀ row user, row.toUser = .ok user → s.users.find row.id = none →
      (k user).Runs Session.init ((Write.insertUser row).apply s) Q) :
    (createUser newId newUser >>= k).Runs Session.init s Q := by
  simp only [createUser, bind_assoc]
  refine Runs.beginTx (runs_insertUnique (fun _ => herr _) ?_)
  intro hfree
  refine runs_insertUnique (fun _ => herr _) fun _ => ?_
  refine Runs.execute (Runs.commitTx (Runs.restart rfl ?_))
  refine Runs.ofExcept ?_ fun user huser => h _ user huser (Option.not_isSome_iff_eq_none.mp hfree)
  intro e he
  rw [UserRow.toUser, StringEnum.parse_asStr] at he
  cases he

end Rules

/-! ## Issuing a session

  Issuing a session comes last in three of the calls, and is the same in all of them. -/

/-- `row` is the session that `issue_session` stores, and `resp` its answer. -/
structure Granted (env : Env) (now : DateTime) (user : User) (resp : AuthResponse)
    (row : RefreshSession) : Prop where
  /-- The refresh token was signed for the row. -/
  signed : env.crates.encode (.refresh (env.refreshClaims now user row.id)) env.config.refreshSecret =
    .ok resp.tokens.refreshToken
  /-- The row holds a hash of it. -/
  hashed : ∃ salt, env.crates.hashPassword resp.tokens.refreshToken salt = .ok row.tokenHash
  userId : row.userId = user.id
  unrevoked : row.revokedAt = none
  expiresAt : row.expiresAt = (now.addSeconds env.config.refreshTtlSecs).toTimestamptz

/-- Signing and hashing do not fail, so a session is stored unless its id or its hash is taken. -/
theorem runs_issueSession {env : Env} (hcrates : env.crates.Lawful) (now : DateTime)
    (draw : SessionDraw) (user : User) :
    ∃ resp row, Granted env now user resp row ∧ row.id = draw.sessionId ∧
      ∀ {s : AuthDb} {Q : Except AuthError AuthResponse → AuthDb → Prop},
        ((s.refreshTokens.find row.id).isSome →
          Q (.error (uniqueViolation "refresh_tokens_pkey")) s) →
        (s.refreshTokens.any (fun y => y.tokenHash = row.tokenHash) →
          Q (.error (uniqueViolation "refresh_tokens_token_hash_key")) s) →
        (s.refreshTokens.find row.id = none →
          Q (.ok resp) ((Write.insertRefreshToken row).apply s)) →
        (issueSession env now draw user).Runs Session.init s Q := by
  obtain ⟨access, haccess⟩ := hcrates.encodes
    (.access (env.accessClaims now draw.jti user draw.sessionId)) env.config.accessSecret
  obtain ⟨token, htoken⟩ := hcrates.encodes
    (.refresh (env.refreshClaims now user draw.sessionId)) env.config.refreshSecret
  obtain ⟨hash, hhash⟩ := hcrates.hashes token draw.salt
  let accessExpiresAt := now.addSeconds env.config.accessTtlSecs
  let refreshExpiresAt := now.addSeconds env.config.refreshTtlSecs
  have hissue : env.issueAccessToken now draw.jti user draw.sessionId =
      .ok ⟨access, accessExpiresAt⟩ := by rw [Env.issueAccessToken, haccess]
  have hissue' : env.issueRefreshToken now user draw.sessionId = .ok ⟨token, refreshExpiresAt⟩ := by
    rw [Env.issueRefreshToken, htoken]
  have hsecret : env.hashSecret draw.salt token = .ok hash := by
    rw [Env.hashSecret, hhash]; rfl
  refine ⟨⟨user.toPublic, ⟨access, token, accessExpiresAt, refreshExpiresAt⟩⟩,
    ⟨draw.sessionId, user.id, hash, refreshExpiresAt.toTimestamptz, none⟩,
    ⟨htoken, ⟨draw.salt, hhash⟩, rfl, rfl, rfl⟩, rfl, ?_⟩
  intro s Q hid htaken h
  rw [issueSession, hissue, hissue']
  refine Runs.ofExcept (fun e he => by cases he) fun issued hissued => ?_
  cases hissued
  refine Runs.ofExcept (fun e he => by cases he) fun issued hissued => ?_
  cases hissued
  rw [hsecret]
  exact runs_storeRefreshSession hid htaken h

/-! ## The session checks

  `PassesChecks` is what `refresh` asks before it writes: the claims, the row, its hash and its
  expiry. -/

/-- The token passes the checks of `refresh` that stand before the revocation. -/
structure PassesChecks (env : Env) (now : DateTime) (token : String) (s : AuthDb)
    (claims : RefreshClaims) (session : RefreshSession) : Prop where
  /-- The signature is good, and the token is in time. -/
  decoded : env.decodeRefreshToken now token = .ok claims
  /-- The session that the claims name is there. -/
  found : s.refreshTokens.find claims.sessionId = some session
  /-- It belongs to the user whom the claims name. -/
  owner : session.userId = claims.sub
  /-- It has not been revoked. -/
  unrevoked : session.revokedAt = none
  /-- It has not expired. -/
  unexpired : now < session.expiresAt
  /-- Its hash is that of the token. -/
  verified : env.verifySecret token session.tokenHash = .ok true

section

variable {env : Env} {now : DateTime} {token : String} {s : AuthDb} {draw : SessionDraw}
  {Q : Except AuthError AuthResponse → AuthDb → Prop}

/-- A refresh that fails the checks is refused and changes nothing; one that passes them revokes its
    session, whatever comes of it. -/
theorem runs_refresh
    (hrefused : (∀ claims session, ¬ PassesChecks env now token s claims session) →
      ∀ e, Q (.error e) s)
    (hpasses : ∀ claims session, PassesChecks env now token s claims session →
      (do
        let user ← Program.okOr (← findUserById claims.sub) .unauthorized
        Program.ofExcept (ensureActiveUser user)
        issueSession env now draw user : Tx AuthError AuthResponse).Runs Session.init
      ((Write.revokeRefreshToken claims.sessionId now.toTimestamptz).apply s) Q) :
    (refresh env now draw token).Runs Session.init s Q := by
  refine Runs.ofExcept ?_ fun claims hdecoded => Runs.select (Runs.okOr ?_ fun session hfound => ?_)
  · intro e he
    exact hrefused (fun claims session h => by rw [h.decoded] at he; cases he) e
  · intro hnone
    exact hrefused (fun claims' session h => by
      obtain rfl := Except.ok.inj (hdecoded.symm.trans h.decoded)
      exact Option.some_ne_none session (h.found.symm.trans hnone)) _
  -- what passes the checks is this session
  have hsession : ∀ claims' session', PassesChecks env now token s claims' session' →
      claims' = claims ∧ session' = session := by
    intro claims' session' h
    obtain rfl := Except.ok.inj (hdecoded.symm.trans h.decoded)
    exact ⟨rfl, Option.some.inj (h.found.symm.trans hfound)⟩
  have hfails : ¬ PassesChecks env now token s claims session → ∀ e, Q (.error e) s := by
    intro hnot
    refine hrefused fun claims' session' h => ?_
    obtain ⟨rfl, rfl⟩ := hsession claims' session' h
    exact hnot h
  refine Runs.failIf (fun hbad => hfails (fun h => ?_) _) fun howner => ?_
  · rcases hbad with hbad | hbad
    · exact hbad h.owner
    · rw [h.unrevoked] at hbad; cases hbad
  refine Runs.failIf (fun hbad => hfails (fun h => Int.not_le.mpr h.unexpired hbad) _) fun hlive => ?_
  refine Runs.ofExcept (fun e he => hfails (fun h => ?_) e) fun isMatch hverified => ?_
  · rw [h.verified] at he; cases he
  refine Runs.failIf (fun hbad => hfails (fun h => ?_) _) fun hmatch => ?_
  · obtain rfl : isMatch = true := Except.ok.inj (hverified.symm.trans h.verified)
    cases hbad
  have hid : session.id = claims.sessionId := (Table.find_some hfound).2
  rw [hid]
  refine Runs.restart rfl (runs_revokeRefreshSession (hpasses claims session ?_))
  rw [not_or, not_ne_iff, Bool.not_eq_true, Option.isSome_eq_false_iff, Option.isNone_iff_eq_none]
    at howner
  have htrue : isMatch = true := by simpa using hmatch
  exact ⟨hdecoded, hfound, howner.1, howner.2, Int.not_le.mp hlive, htrue ▸ hverified⟩

end

/-! ## What a call can do

  All calls together have a few effects on the sessions: none, one revoked, one added, or both. -/

/-- The user row is there, and its role is one. -/
def Readable (s : AuthDb) (id : Uuid) : Prop :=
  ∃ row user, s.users.find id = some row ∧ row.toUser = .ok user

/-- No user row is lost or spoiled. -/
def UsersKept (s s' : AuthDb) : Prop := ∀ id, Readable s id → Readable s' id

/-- No user is lost when nothing happens. -/
theorem UsersKept.refl (s : AuthDb) : UsersKept s s := fun _ h => h

/-- A converted row keeps its id. -/
theorem toUser_id {row : UserRow} {user : User} (h : row.toUser = .ok user) : user.id = row.id := by
  rw [UserRow.toUser] at h
  split at h
  · cases h; rfl
  · cases h

/-- What a user is read from. -/
theorem toUser_status {row : UserRow} {user : User} (h : row.toUser = .ok user) :
    user.status = row.status := by
  rw [UserRow.toUser] at h
  split at h
  · cases h; rfl
  · cases h

/-- Who passes the check is active. -/
theorem active_of_ok {user : User} {u : Unit} (h : ensureActiveUser user = .ok u) :
    user.status = "active" := by
  rw [ensureActiveUser] at h
  split at h
  · assumption
  · cases h

/-- An INSERT loses no user. -/
theorem usersKept_insert (s : AuthDb) (row : UserRow) :
    UsersKept s ((Write.insertUser row).apply s) := by
  rintro id ⟨row', user, hfound, huser⟩
  refine ⟨row', user, ?_, huser⟩
  have hfind := Table.find_insert s.users row id
  rw [hfound] at hfind
  exact hfind.trans (by simp)

/-- A change of status loses no user. -/
theorem usersKept_setStatus (s : AuthDb) (id : Uuid) (status : String) :
    UsersKept s ((Write.setUserStatus id status).apply s) := by
  rintro id' ⟨row, user, hfound, huser⟩
  have hfind := Table.find_modify s.users id id' (·.setStatus status) fun _ h => by exact h
  rw [hfound] at hfind
  by_cases hid : id' = id
  · rw [if_pos hid] at hfind
    refine ⟨row.setStatus status, { user with status := status }, hfind, ?_⟩
    rw [UserRow.toUser] at huser ⊢
    split at huser
    · rename_i role hrole
      cases huser
      have hsame : StringEnum.parse UserRole (row.setStatus status).role = .ok role := hrole
      rw [hsame]; rfl
    · cases huser
  · rw [if_neg hid] at hfind
    exact ⟨row, user, hfind, huser⟩

/-- A call that is neither a logout nor a refresh. -/
def Call.Begins (c : Call) : Prop :=
  match c.request with
  | .logout _ => False
  | .refresh _ _ => False
  | _ => True

/-- Beginning a session is no logout. -/
theorem Call.Begins.not_logout {c : Call} (h : c.Begins) (token : String) :
    c.request ≠ .logout token := by
  intro hrequest
  rw [Call.Begins, hrequest] at h
  exact h

/-- Beginning a session is no refresh. -/
theorem Call.Begins.not_refresh {c : Call} (h : c.Begins) (draw : SessionDraw) (token : String) :
    c.request ≠ .refresh draw token := by
  intro hrequest
  rw [Call.Begins, hrequest] at h
  exact h

/-- Every way a call can end: it leaves the sessions alone, revokes one, adds one, or revokes one and
    adds another. -/
inductive Outcome (env : Env) (c : Call) (s : AuthDb) : Except AuthError Answer → AuthDb → Prop
  /-- No session is written; a refresh among these was refused at the checks. -/
  | quiet {r : Except AuthError Answer} {s' : AuthDb} (answer : ∀ resp, r ≠ .ok (.session resp))
    (tokens : s'.refreshTokens = s.refreshTokens) (users : UsersKept s s')
    (logout : ∀ token, c.request = .logout token → ∃ e, r = .error e)
    (refresh : ∀ draw token, c.request = .refresh draw token → ∀ claims session,
      ¬ PassesChecks env c.now token s claims session) : Outcome env c s r s'
  /-- The session of the token is revoked. -/
  | logout {token : String} {claims : RefreshClaims} (request : c.request = .logout token)
    (decoded : env.decodeRefreshToken c.now token = .ok claims) :
    Outcome env c s (.ok .done)
      ((Write.revokeRefreshToken claims.sessionId c.now.toTimestamptz).apply s)
  /-- The session is revoked, and the call fails after that: the token is lost. -/
  | spent {draw : SessionDraw} {token : String} {claims : RefreshClaims} {session : RefreshSession}
    (request : c.request = .refresh draw token)
    (checks : PassesChecks env c.now token s claims session) (e : AuthError) :
    Outcome env c s (.error e)
      ((Write.revokeRefreshToken claims.sessionId c.now.toTimestamptz).apply s)
  /-- The session is revoked, and a new one is stored. -/
  | rotated {draw : SessionDraw} {token : String} {claims : RefreshClaims}
    {session row : RefreshSession} {user : User} {resp : AuthResponse} {mid : AuthDb}
    (request : c.request = .refresh draw token)
    (checks : PassesChecks env c.now token s claims session)
    (revoked : mid = (Write.revokeRefreshToken claims.sessionId c.now.toTimestamptz).apply s)
    (active : ∃ u, s.users.find claims.sub = some u ∧ u.status = "active")
    (granted : Granted env c.now user resp row) (readable : Readable mid row.userId)
    (fresh : mid.refreshTokens.find row.id = none) :
    Outcome env c s (.ok (.session resp)) ((Write.insertRefreshToken row).apply mid)
  /-- A session is stored by a call that presents no token. -/
  | begun {row : RefreshSession} {user : User} {resp : AuthResponse} {mid : AuthDb}
    (begins : c.Begins) (tokens : mid.refreshTokens = s.refreshTokens) (users : UsersKept s mid)
    (granted : Granted env c.now user resp row) (readable : Readable mid row.userId)
    (fresh : mid.refreshTokens.find row.id = none) :
    Outcome env c s (.ok (.session resp)) ((Write.insertRefreshToken row).apply mid)

section Outcomes

variable {env : Env} {c : Call} {s mid : AuthDb}

/-- A call that would begin a session and is refused has issued none. -/
theorem Outcome.refused (hc : c.Begins) (e : AuthError) (htokens : mid.refreshTokens = s.refreshTokens)
    (husers : UsersKept s mid) : Outcome env c s (.error e) mid := by
  refine .quiet ?_ htokens husers ?_ ?_
  · intro resp hr
    cases hr
  · exact fun token hrequest => absurd hrequest (hc.not_logout token)
  · exact fun draw token hrequest => absurd hrequest (hc.not_refresh draw token)

/-- The last step of a call that begins a session. -/
theorem runs_begun (hcrates : env.crates.Lawful) (hc : c.Begins)
    (htokens : mid.refreshTokens = s.refreshTokens) (husers : UsersKept s mid) {draw : SessionDraw}
    {user : User} (hreadable : Readable mid user.id) :
    (issueSession env c.now draw user).Runs Session.init mid
      fun r s' => Outcome env c s (r.map .session) s' := by
  obtain ⟨resp, row, hgranted, -, hruns⟩ := runs_issueSession hcrates c.now draw user
  refine hruns (fun _ => .refused hc _ htokens husers) (fun _ => .refused hc _ htokens husers) ?_
  exact fun hfresh => .begun hc htokens husers hgranted (hgranted.userId ▸ hreadable) hfresh

/-- How a registration can end. -/
theorem register_outcome (hcrates : env.crates.Lawful) (userDraw : UserDraw) (draw : SessionDraw)
    (input : RegisterInput) (hc : c.Begins) :
    (register env c.now userDraw draw input).Runs Session.init s
      fun r s' => Outcome env c s (r.map .session) s' := by
  -- an error before the user is stored changes nothing
  have hrefused : ∀ e, Outcome env c s ((Except.error e : Except AuthError AuthResponse).map .session)
      s := fun e => .refused hc e rfl (.refl s)
  -- whatever the lookup by email finds, the rest is one program
  have hrest : ∀ existing : Option User, (do
      Program.failIf existing.isSome .emailAlreadyExists
      let passwordHash ← Program.ofExcept (env.hashSecret userDraw.salt input.password)
      let user ← createUser userDraw.userId ⟨normalizeEmail input.email, passwordHash, input.role⟩
      recordUserRegistered user.id (asStr user.role) (normalizeEmail input.email)
      issueSession env c.now draw user : Tx AuthError AuthResponse).Runs Session.init s
        fun r s' => Outcome env c s (r.map .session) s' := by
    intro existing
    refine Runs.failIf (fun _ => hrefused _) fun _ => Runs.ofExcept (fun e _ => hrefused e) ?_
    intro passwordHash _
    refine runs_createUser hrefused fun row user huser hfresh => ?_
    simp only [recordUserRegistered, bind_assoc]
    refine Runs.beginTx (Runs.execute (Runs.commitTx ?_))
    refine Runs.restart rfl (runs_begun hcrates hc ?_ ?_ ?_)
    · rfl
    · exact usersKept_insert s row
    · have hfind := Table.find_insert s.users row row.id
      rw [hfresh] at hfind
      exact ⟨row, user, toUser_id huser ▸ hfind.trans (if_pos rfl), huser⟩
  refine Runs.ofExcept (fun e _ => hrefused e) fun _ _ => ?_
  refine runs_findUserByEmail (fun _ e _ _ => hrefused e) (fun _ => hrest none) ?_
  exact fun _ user _ _ => hrest (some user)

/-- How a login can end. -/
theorem login_outcome (hcrates : env.crates.Lawful) (draw : SessionDraw) (input : LoginInput)
    (hc : c.Begins) : (login env c.now draw input).Runs Session.init s
      fun r s' => Outcome env c s (r.map .session) s' := by
  have hrefused : ∀ e, Outcome env c s ((Except.error e : Except AuthError AuthResponse).map .session)
      s := fun e => .refused hc e rfl (.refl s)
  refine runs_findUserByEmail ?_ ?_ ?_
  · exact fun _ e _ _ => hrefused e
  · exact fun _ => hrefused _
  intro u user hfound huser
  refine Runs.ofExcept (fun e _ => hrefused e) fun _ _ => Runs.ofExcept (fun e _ => hrefused e) ?_
  intro passwordOk _
  refine Runs.failIf (fun _ => hrefused _) fun _ => runs_begun hcrates hc rfl (.refl s) ?_
  have hmem : u ∈ s.users.rows := List.mem_of_find?_eq_some hfound
  have hid : user.id = u.id := toUser_id huser
  exact ⟨u, user, hid ▸ Table.find_key hmem, huser⟩

/-- How a refresh can end: refused before or after the revocation, or with a new session in
    exchange. -/
theorem refresh_outcome (hcrates : env.crates.Lawful) {draw : SessionDraw} {token : String}
    (hrequest : c.request = .refresh draw token) : (refresh env c.now draw token).Runs Session.init s
      fun r s' => Outcome env c s (r.map .session) s' := by
  refine runs_refresh ?_ ?_
  · -- a check before the revocation has failed
    intro hnot e
    refine .quiet ?_ rfl (.refl s) ?_ ?_
    · intro resp hr
      cases hr
    · intro token' hrequest'
      rw [hrequest] at hrequest'; cases hrequest'
    · intro draw' token' hrequest'
      rw [hrequest] at hrequest'; cases hrequest'
      exact hnot
  · intro claims session hchecks
    -- from the revocation on, every error leaves the token revoked
    have hspent : ∀ e, Outcome env c s
        ((Except.error e : Except AuthError AuthResponse).map .session) _ :=
      fun e => .spent hrequest hchecks e
    refine runs_findUserById ?_ ?_ ?_
    · exact fun _ e _ _ => hspent e
    · exact fun _ => hspent _
    intro u user hfound huser
    refine Runs.ofExcept (fun e _ => hspent e) fun _ hactive => ?_
    obtain ⟨resp, row, hgranted, -, hruns⟩ := runs_issueSession hcrates c.now draw user
    refine hruns (fun _ => hspent _) (fun _ => hspent _) fun hfresh => ?_
    -- the user that was read is the subject of the token
    have hid : user.id = u.id := toUser_id huser
    have hkey : u.id = claims.sub := (Table.find_some hfound).2
    have hstatus : u.status = "active" := toUser_status huser ▸ active_of_ok hactive
    refine .rotated hrequest hchecks rfl ⟨u, hfound, hstatus⟩ hgranted ⟨u, user, ?_, huser⟩ hfresh
    rw [hgranted.userId, hid, hkey]
    exact hfound

/-- How a logout can end: refused, or with the session revoked. -/
theorem logout_outcome {token : String} (hrequest : c.request = .logout token) :
    (logout env c.now token).Runs Session.init s
      fun r s' => Outcome env c s (r.map fun _ => .done) s' := by
  refine Runs.ofExcept (fun e hdecoded => ?_) fun claims hdecoded => ?_
  · refine .quiet ?_ rfl (.refl s) (fun _ _ => ⟨e, rfl⟩) ?_
    · intro resp hr
      cases hr
    · intro draw token' hrequest'
      rw [hrequest] at hrequest'; cases hrequest'
  · exact .logout hrequest hdecoded

end Outcomes

/-- **Every call** ends in one of these ways. -/
theorem Call.outcome {env : Env} (hcrates : env.crates.Lawful) (c : Call) (s : AuthDb) :
    Outcome env c s (c.serve env s).1 (c.serve env s).2 := by
  change (c.program env).Runs Session.init s (Outcome env c s)
  obtain ⟨now, request⟩ := c
  cases request with
  | register userDraw draw input => exact Runs.map (register_outcome hcrates userDraw draw input trivial)
  | login draw input => exact Runs.map (login_outcome hcrates draw input trivial)
  | refresh draw token => exact Runs.map (refresh_outcome hcrates rfl)
  | logout token => exact Runs.map (logout_outcome rfl)
  | setUserStatus userId status =>
    refine Runs.map (.quiet ?_ rfl (usersKept_setStatus s userId status) ?_ ?_)
    · intro resp hr
      cases hr
    · intro token hrequest
      cases hrequest
    · intro draw token hrequest
      cases hrequest

/-! ## Tokens and their sessions

  A token and a session belong together if the token was signed for the row and the row has its
  hash. -/

/-- The token was signed for the session, and the session's hash is that of the token. -/
structure Genuine (env : Env) (token : String) (row : RefreshSession) : Prop where
  /-- The token was signed for this session, and does not expire before it. -/
  signed : ∃ claims : RefreshClaims,
    env.crates.encode (.refresh claims) env.config.refreshSecret = .ok token ∧
    claims.sub = row.userId ∧ claims.sessionId = row.id ∧ claims.tokenType = "refresh" ∧
    row.expiresAt.timestamp ≤ claims.exp
  /-- The hash of the session is that of this token and of no other text. -/
  verified : ∀ value, env.crates.verifyPassword value row.tokenHash = .ok (decide (value = token))

/-- What is granted is genuine: the token was signed for the row, and the row keeps its hash. -/
theorem Granted.genuine {env : Env} (hcrates : env.crates.Lawful) {now : DateTime} {user : User}
    {resp : AuthResponse} {row : RefreshSession} (h : Granted env now user resp row) :
    Genuine env resp.tokens.refreshToken row := by
  constructor
  · refine ⟨_, h.signed, h.userId.symm, rfl, rfl, ?_⟩
    rw [h.expiresAt]
    exact DateTime.timestamp_le (DateTime.toTimestamptz_le _)
  · obtain ⟨salt, hhash⟩ := h.hashed
    exact hcrates.verify _ _ _ hhash

section Genuine

variable {env : Env} (hcrates : env.crates.Lawful) {token : String} {row row' : RefreshSession}
  {now : DateTime} {claims : RefreshClaims}

include hcrates

/-- A genuine token decodes to its session, if it decodes. -/
theorem Genuine.decoded (h : Genuine env token row)
    (hdecoded : env.decodeRefreshToken now token = .ok claims) :
    claims.sessionId = row.id ∧ claims.sub = row.userId := by
  obtain ⟨signed, hsigned, hsub, hid, -⟩ := h.signed
  rw [Env.decodeRefreshToken, hcrates.decodeAs_signed hsigned, Claims.json,
    Serde.deserialize_serialize] at hdecoded
  split at hdecoded
  · rename_i c hc
    obtain rfl : signed = c := by
      split at hc
      · exact Option.some.inj hc
      · cases hc
    split at hdecoded
    · cases hdecoded
    · obtain rfl := Except.ok.inj hdecoded
      exact ⟨hid, hsub⟩
  · cases hdecoded

/-- It decodes before its session expires. -/
theorem Genuine.decodes (h : Genuine env token row) (hnow : now < row.expiresAt) :
    ∃ claims, env.decodeRefreshToken now token = .ok claims := by
  obtain ⟨signed, hsigned, -, -, htype, hexp⟩ := h.signed
  have hle : now.timestamp ≤ (Claims.refresh signed).exp + leeway := by
    have hsecond := DateTime.timestamp_le (Int.le_of_lt hnow)
    have hleeway : (0 : Int) ≤ leeway := by decide
    exact Int.le_trans (Int.le_trans hsecond hexp) (Int.le_add_of_nonneg_right hleeway)
  refine ⟨signed, ?_⟩
  rw [Env.decodeRefreshToken, hcrates.decodeAs_own hsigned rfl hle]
  exact if_neg (not_ne_iff.mpr htype)

/-- A token is genuine for one session. -/
theorem Genuine.id_eq (h : Genuine env token row) (h' : Genuine env token row') :
    row.id = row'.id := by
  obtain ⟨signed, hsigned, -, hid, -⟩ := h.signed
  obtain ⟨signed', hsigned', -, hid', -⟩ := h'.signed
  obtain ⟨rfl⟩ : signed = signed' := Claims.refresh.inj (hcrates.encode_inj hsigned hsigned')
  exact hid.symm.trans hid'

end Genuine

/-! ## The book

  The rows follow the book: each token that was issued has its row, and the row is revoked exactly
  if the token is retired. -/

/-- A row stays one for the token when it is revoked. -/
theorem RefreshSession.revoke_same {x row : RefreshSession}
    (h : x = { row with revokedAt := x.revokedAt }) (now : DateTime) :
    x.revoke now = { row with revokedAt := (x.revoke now).revokedAt } :=
  congrArg (fun z : RefreshSession => { z with revokedAt := (x.revoke now).revokedAt }) h

/-- How the rows follow the book: one row for each token that was issued, revoked if and only if the
    token is retired. -/
structure Book (env : Env) (issued : String → RefreshSession → Prop) (retired : String → Prop)
    (s : AuthDb) : Prop where
  /-- Every row is the row of a token that was issued, but for its revocation. -/
  rows : ∀ x ∈ s.refreshTokens.rows, ∃ token row, issued token row ∧
    x = { row with revokedAt := x.revokedAt }
  /-- Every token that was issued has its row, revoked exactly if the token is retired. -/
  found : ∀ token row, issued token row → ∃ x, s.refreshTokens.find row.id = some x ∧
    x = { row with revokedAt := x.revokedAt } ∧ (x.revokedAt = none ↔ ¬ retired token)
  /-- A token and its row belong together. -/
  genuine : ∀ token row, issued token row → Genuine env token row
  /-- The user of the token can be read. -/
  readable : ∀ token row, issued token row → Readable s row.userId
  /-- What is retired was issued. -/
  known : ∀ token, retired token → ∃ row, issued token row

namespace Book

variable {env : Env} {issued : String → RefreshSession → Prop} {retired : String → Prop}
  {s s' : AuthDb} {token token' : String} {row row' : RefreshSession}

/-- Two tokens of one session are one token. -/
theorem token_eq (h : Book env issued retired s) (hrow : issued token row) (hrow' : issued token' row')
    (hid : row.id = row'.id) : token = token' := by
  obtain ⟨x, hx, hsame, -⟩ := h.found token row hrow
  obtain ⟨y, hy, hsame', -⟩ := h.found token' row' hrow'
  obtain rfl : x = y := Option.some.inj (hx.symm.trans (hid ▸ hy))
  have hhash : row.tokenHash = row'.tokenHash := by
    have hrow : x.tokenHash = row.tokenHash := by rw [hsame]
    have hrow' : x.tokenHash = row'.tokenHash := by rw [hsame']
    exact hrow.symm.trans hrow'
  have hverified := (h.genuine token row hrow).verified token
  rw [hhash, (h.genuine token' row' hrow').verified token] at hverified
  simpa using hverified

/-- What passes the session checks is a token of the book that is not retired. -/
theorem passes (h : Book env issued retired s) {now : DateTime} {claims : RefreshClaims}
    {session : RefreshSession} (hchecks : PassesChecks env now token s claims session) :
    ∃ row, issued token row ∧ session = { row with revokedAt := session.revokedAt } ∧
      ¬ retired token := by
  obtain ⟨hmem, hkey⟩ := Table.find_some hchecks.found
  obtain ⟨owner, row, hrow, hsame⟩ := h.rows session hmem
  have hhash : session.tokenHash = row.tokenHash := by rw [hsame]
  have hverified := hchecks.verified
  -- the stored hash answers to one token alone, so the token is the session's own
  rw [Env.verifySecret, hhash, (h.genuine owner row hrow).verified token] at hverified
  obtain rfl : token = owner := by simpa [Except.mapError] using hverified
  refine ⟨row, hrow, hsame, ?_⟩
  obtain ⟨x, hx, -, hlive⟩ := h.found token row hrow
  have hid : row.id = claims.sessionId := by
    have hrowid : session.id = row.id := by rw [hsame]
    exact hrowid.symm.trans hkey
  rw [hid, hchecks.found] at hx
  obtain rfl := Option.some.inj hx
  exact hlive.mp hchecks.unrevoked

/-- A token that passes the checks was issued, for the session that its claims name. -/
theorem passes_id (h : Book env issued retired s) {now : DateTime} {claims : RefreshClaims}
    {session : RefreshSession} (hchecks : PassesChecks env now token s claims session) :
    ∃ row, issued token row ∧ claims.sessionId = row.id := by
  obtain ⟨row, hrow, hsame, -⟩ := h.passes hchecks
  have hid : session.id = row.id := by rw [hsame]
  exact ⟨row, hrow, (Table.find_some hchecks.found).2.symm.trans hid⟩

/-- Equivalent books are kept alike. -/
theorem congr {issued' : String → RefreshSession → Prop} {retired' : String → Prop}
    (h : Book env issued retired s) (hissued : ∀ token row, issued token row ↔ issued' token row)
    (hretired : ∀ token, retired token ↔ retired' token) : Book env issued' retired' s := by
  obtain rfl : issued = issued' := funext fun token => funext fun row => propext (hissued token row)
  obtain rfl : retired = retired' := funext fun token => propext (hretired token)
  exact h

/-- What leaves the sessions and the users in place. -/
theorem keep (h : Book env issued retired s) (htokens : s'.refreshTokens = s.refreshTokens)
    (husers : UsersKept s s') : Book env issued retired s' where
  rows := htokens ▸ h.rows
  found := htokens ▸ h.found
  genuine := h.genuine
  readable token row hrow := husers _ (h.readable token row hrow)
  known := h.known

/-- A token of the book is retired: its session is revoked. -/
theorem retire (hcrates : env.crates.Lawful) (h : Book env issued retired s)
    (hrow : issued token row) (now : DateTime) :
    Book env issued (fun t => retired t ∨ t = token)
      ((Write.revokeRefreshToken row.id now).apply s) := by
  -- rows, lookups, and the tokens that are known
  refine ⟨?_, ?_, h.genuine, h.readable, ?_⟩
  · intro y hy
    obtain ⟨x, hx, rfl⟩ := List.mem_map.mp hy
    obtain ⟨t, r, hr, hsame⟩ := h.rows x hx
    refine ⟨t, r, hr, ?_⟩
    split
    · exact RefreshSession.revoke_same hsame now
    · exact hsame
  · intro t r hr
    obtain ⟨x, hx, hsame, hlive⟩ := h.found t r hr
    rw [find_revokeRefreshToken]
    by_cases hid : r.id = row.id
    · -- the session that is revoked, and its token is this one
      have ht : t = token := h.token_eq hr hrow hid
      rw [if_pos hid, ← hid, hx]
      refine ⟨x.revoke now, rfl, RefreshSession.revoke_same hsame now, ?_⟩
      constructor
      · intro hnone
        cases hx : x.revokedAt <;> rw [RefreshSession.revoke, hx] at hnone <;> cases hnone
      · exact fun hnot => absurd (.inr ht) hnot
    · have ht : t ≠ token := by
        rintro rfl
        exact hid ((h.genuine t r hr).id_eq hcrates (h.genuine t row hrow))
      rw [if_neg hid]
      refine ⟨x, hx, hsame, ?_⟩
      rw [hlive, not_or, and_iff_left ht]
  · rintro t (ht | rfl)
    · exact h.known t ht
    · exact ⟨row, hrow⟩

/-- A session is stored for a new token. -/
theorem issue (hcrates : env.crates.Lawful) (h : Book env issued retired s) {now : DateTime}
    {user : User} {resp : AuthResponse} (hgranted : Granted env now user resp row)
    (hreadable : Readable s row.userId) (hfresh : s.refreshTokens.find row.id = none) :
    Book env (fun t r => issued t r ∨ t = resp.tokens.refreshToken ∧ r = row) retired
      ((Write.insertRefreshToken row).apply s) := by
  have hgenuine := hgranted.genuine hcrates
  have hfind : ∀ id, ((Write.insertRefreshToken row).apply s).refreshTokens.find id =
      if row.id = id then some row else s.refreshTokens.find id := by
    intro id
    have hinsert := Table.find_insert s.refreshTokens row id
    by_cases hid : row.id = id
    · rw [← hid, hfresh] at hinsert
      rw [← hid, if_pos rfl]
      exact hinsert.trans (if_pos rfl)
    · rw [if_neg hid]
      exact hinsert.trans (if_neg hid)
  refine ⟨?_, ?_, ?_, ?_, ?_⟩
  · intro x hx
    rcases (Table.mem_insert hfresh).mp hx with hx | rfl
    · obtain ⟨t, r, hr, hsame⟩ := h.rows x hx
      exact ⟨t, r, .inl hr, hsame⟩
    · exact ⟨_, x, .inr ⟨rfl, rfl⟩, rfl⟩
  · rintro t r (hr | ⟨rfl, rfl⟩)
    · obtain ⟨x, hx, hsame⟩ := h.found t r hr
      have hid : row.id ≠ r.id := by
        intro hid
        rw [← hid, hfresh] at hx
        cases hx
      rw [hfind, if_neg hid]
      exact ⟨x, hx, hsame⟩
    · rw [hfind, if_pos rfl]
      refine ⟨r, rfl, rfl, iff_of_true hgranted.unrevoked ?_⟩
      -- a retired token has a row already, and under this id
      intro hretired
      obtain ⟨old, hold⟩ := h.known _ hretired
      obtain ⟨x, hx, -⟩ := h.found _ old hold
      rw [(h.genuine _ old hold).id_eq hcrates hgenuine, hfresh] at hx
      cases hx
  · rintro t r (hr | ⟨rfl, rfl⟩)
    · exact h.genuine t r hr
    · exact hgenuine
  · rintro t r (hr | ⟨rfl, rfl⟩)
    · exact h.readable t r hr
    · exact hreadable
  · intro t ht
    obtain ⟨r, hr⟩ := h.known t ht
    exact ⟨r, .inl hr⟩

/-- The hash of a new token is not in the book. -/
theorem hash_free (hcrates : env.crates.Lawful) (h : Book env issued retired s) {now : DateTime}
    {user : User} {resp : AuthResponse} (hgranted : Granted env now user resp row)
    (hfresh : s.refreshTokens.find row.id = none) :
    ¬ s.refreshTokens.any (fun y => y.tokenHash = row.tokenHash) = true := by
  intro hany
  obtain ⟨y, hy, hhash⟩ := List.any_eq_true.mp hany
  obtain ⟨t, r, hr, hsame⟩ := h.rows y hy
  have hgenuine := hgranted.genuine hcrates
  have hrhash : r.tokenHash = row.tokenHash := by
    have hyhash : y.tokenHash = r.tokenHash := by rw [hsame]
    exact hyhash.symm.trans (of_decide_eq_true hhash)
  -- the hash is of one token, and the token of one session
  have hverified := hgenuine.verified t
  rw [← hrhash, (h.genuine t r hr).verified t] at hverified
  obtain rfl : t = resp.tokens.refreshToken := by simpa using hverified
  obtain ⟨x, hx, -⟩ := h.found _ r hr
  rw [(h.genuine _ r hr).id_eq hcrates hgenuine, hfresh] at hx
  cases hx

end Book

/-! ## What a call does to the book

  A logout retires the session of the token that it presents, whether or not the token is of this
  run: hence `Unforged` in the statement. -/

/-- The call is answered with the token and has stored the session. -/
def Issues (s : AuthDb) (r : Except AuthError Answer) (s' : AuthDb) (token : String)
    (row : RefreshSession) : Prop :=
  (∃ resp, r = .ok (.session resp) ∧ resp.tokens.refreshToken = token) ∧
    s.refreshTokens.find row.id = none ∧ s'.refreshTokens.find row.id = some row

/-- The call is a logout with the token that succeeds. -/
def LogsOut (c : Call) (r : Except AuthError Answer) (token : String) : Prop :=
  c.request = .logout token ∧ r = .ok .done

/-- The call is a refresh with the token that passes the session checks. -/
def Uses (env : Env) (c : Call) (s : AuthDb) (token : String) : Prop :=
  (∃ draw, c.request = .refresh draw token) ∧
    ∃ claims session, PassesChecks env c.now token s claims session

section Step

variable {env : Env} {c : Call} {s s' : AuthDb} {r : Except AuthError Answer}

/-- A call that answers no session issues none. -/
theorem not_issues (h : ∀ resp, r ≠ .ok (.session resp)) (token : String) (row : RefreshSession) :
    ¬ Issues s r s' token row := by
  rintro ⟨⟨resp, hr, -⟩, -⟩
  exact h resp hr

/-- What a call issues is the session it has stored. -/
theorem issues_iff {mid : AuthDb} {row : RefreshSession} {resp : AuthResponse}
    (hids : ∀ id, mid.refreshTokens.find id = none ↔ s.refreshTokens.find id = none)
    (hfresh : mid.refreshTokens.find row.id = none) (token : String) (row' : RefreshSession) :
    Issues s (.ok (.session resp)) ((Write.insertRefreshToken row).apply mid) token row' ↔
      token = resp.tokens.refreshToken ∧ row' = row := by
  have hinsert := Table.find_insert mid.refreshTokens row
  constructor
  · -- the row is new to the table after the call and was not in it before
    rintro ⟨⟨resp', hr, rfl⟩, hnone, hsome⟩
    cases hr
    refine ⟨rfl, ?_⟩
    have hfind := (hinsert row'.id).symm.trans hsome
    rw [(hids row'.id).mpr hnone] at hfind
    split at hfind
    · exact (Option.some.inj hfind).symm
    · cases hfind
  · rintro ⟨rfl, rfl⟩
    refine ⟨⟨resp, rfl, rfl⟩, (hids _).mp hfresh, ?_⟩
    refine (hinsert row'.id).trans ?_
    rw [hfresh]
    -- the row that the insert has put there
    exact if_pos rfl

/-- A refresh that passes the checks retires its token and no other. -/
theorem uses_iff {draw : SessionDraw} {token : String} {claims : RefreshClaims}
    {session : RefreshSession} (hrequest : c.request = .refresh draw token)
    (hchecks : PassesChecks env c.now token s claims session) (t : String) :
    t = token ↔ LogsOut c r t ∨ Uses env c s t := by
  constructor
  · rintro rfl
    exact .inr ⟨⟨draw, hrequest⟩, claims, session, hchecks⟩
  · rintro (⟨hlogout, -⟩ | ⟨⟨draw', hrefresh⟩, -⟩)
    · rw [hrequest] at hlogout; cases hlogout
    · rw [hrequest] at hrefresh; cases hrefresh; rfl

/-- A revocation neither adds a row nor loses one. -/
theorem find_revoke_none (s : AuthDb) (x : Uuid) (now : DateTime) (id : Uuid) :
    ((Write.revokeRefreshToken x now).apply s).refreshTokens.find id = none ↔
      s.refreshTokens.find id = none := by
  rw [find_revokeRefreshToken]
  split
  · rename_i hid
    rw [hid, Option.map_eq_none_iff]
  · rfl

/-- **One call**: the book moves with it.  A logout is assumed to present a token of the book, if it
    presents one that decodes. -/
theorem Book.step (hcrates : env.crates.Lawful) {issued : String → RefreshSession → Prop}
    {retired : String → Prop} (h : Book env issued retired s) (houtcome : Outcome env c s r s')
    (hlogout : ∀ token claims, c.request = .logout token →
      env.decodeRefreshToken c.now token = .ok claims → ∃ row, issued token row) :
    Book env (fun token row => issued token row ∨ Issues s r s' token row)
      (fun token => retired token ∨ LogsOut c r token ∨ Uses env c s token) s' := by
  cases houtcome with
  -- nothing is issued and nothing retired
  | quiet answer tokens users logout refresh =>
    refine (h.keep tokens users).congr ?_ ?_
    · exact fun token row => (or_iff_left (not_issues answer token row)).symm
    · intro token
      refine (or_iff_left ?_).symm
      rintro (⟨hrequest, hr⟩ | ⟨⟨draw, hrequest⟩, claims, session, hchecks⟩)
      · obtain ⟨e, he⟩ := logout token hrequest
        rw [he] at hr; cases hr
      · exact refresh draw token hrequest claims session hchecks
  | @logout token claims request decoded =>
    obtain ⟨row, hrow⟩ := hlogout token claims request decoded
    rw [((h.genuine token row hrow).decoded hcrates decoded).1]
    refine (h.retire hcrates hrow _).congr ?_ ?_
    · exact fun token row => (or_iff_left (not_issues (fun _ hr => by cases hr) token row)).symm
    · intro t
      refine or_congr_right ⟨?_, ?_⟩
      · rintro rfl
        exact .inl ⟨request, rfl⟩
      · rintro (⟨hrequest, -⟩ | ⟨⟨draw, hrequest⟩, -⟩)
        · rw [request] at hrequest; cases hrequest; rfl
        · rw [request] at hrequest; cases hrequest
  -- the presented token is gone, whatever has failed after that
  | @spent draw token claims session request checks e =>
    obtain ⟨row, hrow, hid⟩ := h.passes_id checks
    rw [hid]
    refine (h.retire hcrates hrow _).congr ?_ (fun t => or_congr_right (uses_iff request checks t))
    exact fun token row => (or_iff_left (not_issues (fun _ hr => by cases hr) token row)).symm
  -- first the presented token is retired, then its successor is issued
  | @rotated draw token claims session new user resp mid request checks revoked active granted
      readable fresh =>
    obtain ⟨row, hrow, hid⟩ := h.passes_id checks
    have hids : ∀ id, mid.refreshTokens.find id = none ↔ s.refreshTokens.find id = none := by
      intro id
      rw [revoked, find_revoke_none]
    have hmid : Book env issued (fun t => retired t ∨ t = token) mid := by
      rw [revoked, hid]
      exact h.retire hcrates hrow _
    refine (hmid.issue hcrates granted readable fresh).congr ?_ ?_
    · exact fun token row => or_congr_right (issues_iff hids fresh token row).symm
    · exact fun t => or_congr_right (uses_iff request checks t)
  | @begun new user resp mid begins tokens users granted readable fresh =>
    have hids : ∀ id, mid.refreshTokens.find id = none ↔ s.refreshTokens.find id = none := by
      intro id
      rw [tokens]
    refine ((h.keep tokens users).issue hcrates granted readable fresh).congr ?_ ?_
    · exact fun token row => or_congr_right (issues_iff hids fresh token row).symm
    · intro t
      refine (or_iff_left ?_).symm
      rintro (⟨hrequest, -⟩ | ⟨⟨draw, hrequest⟩, -⟩)
      · exact begins.not_logout t hrequest
      · exact begins.not_refresh draw t hrequest

end Step

/-! ## Every run

  By induction on the run, and then the columns of the book are read as its past. -/

/-- Calls served one after another. -/
def runCalls (env : Env) (s : AuthDb) (cs : List Call) : AuthDb :=
  Serial.run (Call.program env) s cs

section Run

variable (env : Env) (s : AuthDb) (cs : List Call)

/-- An earlier register, login or refresh was answered with the token and stored the session. -/
def Issued (token : String) (row : RefreshSession) : Prop :=
  Serial.Earlier (fun pre c => Issues (runCalls env s pre) (c.serve env (runCalls env s pre)).1
    (c.serve env (runCalls env s pre)).2 token row) cs

/-- An earlier logout with the token succeeded. -/
def LoggedOut (token : String) : Prop :=
  Serial.Earlier (fun pre c => LogsOut c (c.serve env (runCalls env s pre)).1 token) cs

/-- An earlier refresh with the token passed the session checks. -/
def Used (token : String) : Prop :=
  Serial.Earlier (fun pre c => Uses env c (runCalls env s pre) token) cs

/-- No signature is forged: a token that a logout presents and that decodes was issued before. -/
def Unforged : Prop :=
  ∀ pre c post, cs = pre ++ c :: post → ∀ token claims, c.request = .logout token →
    env.decodeRefreshToken c.now token = .ok claims → ∃ row, Issued env s pre token row

end Run

section

variable {env : Env} {s : AuthDb} {cs : List Call}

/-- The rows follow the book of the run. -/
theorem book_run (hcrates : env.crates.Lawful) (hs : s.refreshTokens.rows = [])
    (hunforged : Unforged env s cs) :
    Book env (Issued env s cs) (fun token => LoggedOut env s cs token ∨ Used env s cs token)
      (runCalls env s cs) := by
  -- a run grows at its end, as the notions of a token issued and used do
  induction cs using List.reverseRecOn with
  | nil =>
    refine ⟨?_, ?_, ?_, ?_, ?_⟩
    · intro x hx
      rw [show (runCalls env s []).refreshTokens.rows = [] from hs] at hx
      cases hx
    · exact fun token row h => absurd h Serial.earlier_nil
    · exact fun token row h => absurd h Serial.earlier_nil
    · exact fun token row h => absurd h Serial.earlier_nil
    · rintro token (h | h)
      · exact absurd h Serial.earlier_nil
      · exact absurd h Serial.earlier_nil
  -- the induction hypothesis needs the shorter run to be free of forgeries too
  | append_singleton cs c ih =>
    have hbook := ih fun pre d post hcs => hunforged pre d (post ++ [c]) (by rw [hcs]; simp)
    have hstep := hbook.step hcrates (c.outcome hcrates _) (hunforged cs c [] rfl)
    rw [runCalls, Serial.run_snoc]
    refine hstep.congr (fun token row => Serial.earlier_snoc.symm) fun token => ?_
    exact or_or_or_comm.trans (or_congr Serial.earlier_snoc.symm Serial.earlier_snoc.symm)

/-- A token of the book that is not retired is accepted before its session expires, if its user is
    active. -/
theorem Book.accepts (hcrates : env.crates.Lawful) {issued : String → RefreshSession → Prop}
    {retired : String → Prop} (h : Book env issued retired s) {now : DateTime} {draw : SessionDraw}
    {token : String} {row : RefreshSession} (hrow : issued token row) (hlive : ¬ retired token)
    (hexpires : now < row.expiresAt) {u : UserRow} (hu : s.users.find row.userId = some u)
    (hactive : u.status = "active") (hfresh : s.refreshTokens.find draw.sessionId = none) :
    ∃ resp, (Call.serve env ⟨now, .refresh draw token⟩ s).1 = .ok (.session resp) := by
  have hgenuine := h.genuine token row hrow
  obtain ⟨x, hx, hsame, hrevoked⟩ := h.found token row hrow
  obtain ⟨claims, hdecoded⟩ := hgenuine.decodes hcrates hexpires
  obtain ⟨hid, hsub⟩ := hgenuine.decoded hcrates hdecoded
  have hchecks : PassesChecks env now token s claims x := by
    refine ⟨hdecoded, hid ▸ hx, ?_, hrevoked.mpr hlive, ?_, ?_⟩
    · exact (congrArg (·.userId) hsame).trans hsub.symm
    · exact (congrArg (·.expiresAt) hsame) ▸ hexpires
    · have hhash : x.tokenHash = row.tokenHash := congrArg (·.tokenHash) hsame
      rw [Env.verifySecret, hhash, hgenuine.verified token, decide_eq_true rfl]; rfl
  change (Call.program env ⟨now, .refresh draw token⟩).Runs Session.init s
    fun r _ => ∃ resp, r = .ok (.session resp)
  refine Runs.map (runs_refresh (fun hnot => absurd hchecks (hnot claims x)) ?_)
  intro claims' session' hchecks'
  obtain rfl : claims = claims' := Except.ok.inj (hdecoded.symm.trans hchecks'.decoded)
  have hmid := h.retire hcrates hrow now.toTimestamptz
  rw [hid]
  -- the user is read back and is active
  obtain ⟨u', user, hu', huser⟩ := h.readable token row hrow
  obtain rfl : u' = u := Option.some.inj (hu'.symm.trans hu)
  have hfound : s.users.find claims.sub = some u' := hsub ▸ hu
  refine runs_findUserById ?_ ?_ ?_
  · intro u e hrow he
    obtain rfl : u' = u := Option.some.inj (hfound.symm.trans hrow)
    rw [huser] at he; cases he
  · intro hnone
    exact absurd (hfound.symm.trans hnone) (Option.some_ne_none u')
  intro u user' hrow huser'
  obtain rfl : u' = u := Option.some.inj (hfound.symm.trans hrow)
  obtain rfl : user = user' := Except.ok.inj (huser.symm.trans huser')
  have hok : ensureActiveUser user = .ok () := if_pos ((toUser_status huser).trans hactive)
  refine Runs.ofExcept (fun e he => ?_) fun _ _ => ?_
  · rw [hok] at he; cases he
  -- and the new session's id and hash are free
  obtain ⟨resp, new, hgranted, hnew, hruns⟩ := runs_issueSession hcrates now draw user
  have hfree := (find_revoke_none s row.id now.toTimestamptz new.id).mpr (hnew ▸ hfresh)
  refine hruns (fun htaken => ?_) (fun hany => ?_) fun _ => ⟨resp, rfl⟩
  · rw [hfree] at htaken; cases htaken
  · exact absurd hany (hmid.hash_free hcrates hgranted hfree)

/-- **A refresh is accepted** if and only if its token was issued earlier in the run and neither
    logged out nor used since, its session has not expired, and its user is active.

    The run is serial and starts without sessions.  `Unforged` is asked of the tokens that logouts
    present; the tokens of refreshes need no such condition, because a refresh looks at the stored
    hash.  `hfresh` says that the id drawn for the new session is new. -/
theorem refresh_accepted_iff (hcrates : env.crates.Lawful) (hs : s.refreshTokens.rows = [])
    (hunforged : Unforged env s cs) {now : DateTime} {draw : SessionDraw} {token : String}
    (hfresh : (runCalls env s cs).refreshTokens.find draw.sessionId = none) :
    (∃ resp, (Call.serve env ⟨now, .refresh draw token⟩ (runCalls env s cs)).1 = .ok (.session resp)) ↔
      ∃ session, Issued env s cs token session ∧ ¬ LoggedOut env s cs token ∧
        ¬ Used env s cs token ∧ now < session.expiresAt ∧
        ∃ user, (runCalls env s cs).users.find session.userId = some user ∧ user.status = "active" := by
  -- every token's row, and which of them are dead
  have hbook := book_run hcrates hs hunforged
  constructor
  · -- an accepted refresh is one of the outcomes, and only the rotation answers a session
    rintro ⟨resp, hserve⟩
    have houtcome := Call.outcome hcrates ⟨now, .refresh draw token⟩ (runCalls env s cs)
    rw [hserve] at houtcome
    generalize (Call.serve env ⟨now, .refresh draw token⟩ (runCalls env s cs)).2 = s' at houtcome
    cases houtcome with
    | quiet answer => exact absurd rfl (answer resp)
    | begun begins => exact begins.elim
    | rotated request checks revoked active granted readable fresh =>
      cases request
      obtain ⟨row, hrow, hsame, hlive⟩ := hbook.passes checks
      obtain ⟨u, hu, hstatus⟩ := active
      rw [not_or] at hlive
      have howner : row.userId = _ := (congrArg (·.userId) hsame).symm.trans checks.owner
      have hexpires : _ = row.expiresAt := congrArg (·.expiresAt) hsame
      exact ⟨row, hrow, hlive.1, hlive.2, hexpires ▸ checks.unexpired, u, howner ▸ hu, hstatus⟩
  · -- the other way, the checks are passed one by one
    rintro ⟨session, hissued, hloggedOut, hused, hexpires, u, hu, hactive⟩
    exact hbook.accepts hcrates hissued (not_or.mpr ⟨hloggedOut, hused⟩) hexpires hu hactive hfresh

end

section

open EduStell.Auth.Scenario

/-- The session that `login sessionId` stores. -/
def Scenario.session (sessionId : Uuid) : RefreshSession :=
  ⟨sessionId, 1, refreshToken sessionId, 5000000000, none⟩

/-- Two logins, and a logout of the second. -/
def Scenario.departure : List Call := [Scenario.login 3, Scenario.login 6, Scenario.logout 6]

/-- Two tokens of the run are different texts. -/
theorem Scenario.refreshToken_ne : refreshToken 3 ≠ refreshToken 6 := by decide

/-- The logout of `departure` presents a token that was issued before. -/
theorem Scenario.unforged_departure (cs : List Call) (hcs : ∀ c ∈ cs, ∀ t, c.request ≠ .logout t) :
    Unforged env household (departure ++ cs) := by
  rintro pre c post hsplit token claims hrequest -
  match pre with
  | [] => cases hsplit; cases hrequest
  | [_] => cases hsplit; cases hrequest
  | [_, _] =>
    cases hsplit
    cases hrequest
    exact ⟨session 6, [Scenario.login 3], Scenario.login 6, [], rfl, ⟨_, rfl, rfl⟩, rfl, rfl⟩
  | _ :: _ :: _ :: pre =>
    -- the rest of the run logs nothing out
    have hrest : cs = pre ++ c :: post := by simpa [departure] using (List.cons.inj (List.cons.inj
      (List.cons.inj hsplit).2).2).2
    exact absurd hrequest (hcs c (by simp [hrest]) token)

/-- A session that lives on is refreshed, one that has been logged out is not, and neither is one
    that has been refreshed before. -/
theorem refresh_accepted_once :
    (∃ resp, ((Scenario.refresh 4 3).serve env (runCalls env household departure)).1 =
      .ok (.session resp)) ∧
    (¬ ∃ resp, ((Scenario.refresh 5 6).serve env (runCalls env household departure)).1 =
      .ok (.session resp)) ∧
    ¬ ∃ resp, ((Scenario.refresh 5 3).serve env
      (runCalls env household (departure ++ [Scenario.refresh 4 3]))).1 = .ok (.session resp) := by
  have hissued : Issued env household departure (refreshToken 3) (session 3) :=
    ⟨[], Scenario.login 3, [Scenario.login 6, Scenario.logout 6], rfl, ⟨_, rfl, rfl⟩, rfl, rfl⟩
  have hunforged : Unforged env household departure := unforged_departure [] (by simp)
  -- the token of the first session is refreshed, that of the second was logged out, and the first
  -- is not accepted again
  refine ⟨?_, ?_, ?_⟩
  · refine (refresh_accepted_iff crates_lawful rfl hunforged rfl).mpr
      ⟨session 3, hissued, ?_, ?_, by decide, _, rfl, rfl⟩
    · rintro ⟨pre, c, post, hcs, hrequest, -⟩
      have hc : c ∈ departure := by rw [hcs]; simp
      simp only [departure, List.mem_cons, List.not_mem_nil, or_false] at hc
      rcases hc with rfl | rfl | rfl
      · cases hrequest
      · cases hrequest
      · exact refreshToken_ne (Request.logout.inj hrequest).symm
    · rintro ⟨pre, c, post, hcs, ⟨draw, hrequest⟩, -⟩
      have hc : c ∈ departure := by rw [hcs]; simp
      simp only [departure, List.mem_cons, List.not_mem_nil, or_false] at hc
      rcases hc with rfl | rfl | rfl <;> cases hrequest
  · intro haccepted
    obtain ⟨session, -, hloggedOut, -⟩ :=
      (refresh_accepted_iff crates_lawful rfl hunforged rfl).mp haccepted
    exact hloggedOut ⟨[Scenario.login 3, Scenario.login 6], Scenario.logout 6, [], rfl, rfl, rfl⟩
  · intro haccepted
    have hunforged' : Unforged env household (departure ++ [Scenario.refresh 4 3]) :=
      unforged_departure _ (by simp [Scenario.refresh])
    obtain ⟨session, -, -, hused, -⟩ :=
      (refresh_accepted_iff crates_lawful rfl hunforged' rfl).mp haccepted
    refine hused ⟨departure, Scenario.refresh 4 3, [], rfl, ⟨_, rfl⟩,
      ⟨1, 3, 5, 0, "refresh"⟩, Scenario.session 3, ?_⟩
    exact ⟨rfl, rfl, rfl, rfl, by decide, rfl⟩

end

end EduStell.Auth
