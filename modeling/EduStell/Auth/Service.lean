/-
  `application::auth` over `PgAuthRepository`: registering, logging in, refreshing, logging out.

  The auth service opens no transaction.  Each repository call is a statement of its own on the
  connection pool, so an UPDATE or INSERT is a transaction of one statement, and between two calls
  other requests may commit.

  Every call is served at one instant, `now`.
-/
import EduStell.Auth.Store
import EduStell.Domain.Scholarships
import EduStell.Txn.Interleave

namespace EduStell.Auth

open Txn Program

/-- A transaction of the auth service. -/
abbrev Tx (ε α : Type) : Type := Program AuthDb Content Write ε α

/-! ## `PgAuthRepository`

  The lookups and the statements.  A row that is read is converted, and an unknown role is an
  error of the lookup. -/

/-- `map_repo_error` on code 23505. -/
def uniqueViolation (constraint : String) : AuthError :=
  let message := "duplicate key value violates unique constraint \"" ++ constraint ++ "\""
  if contains message "users" then .emailAlreadyExists
  else .repository ("error returned from database: " ++ message)

/-- A row of a unique index: its lock, and the error of PostgreSQL when the entry is taken. -/
def insertUnique (r : Resource) (taken : Content r → Bool) (constraint : String) :
    Tx AuthError Unit := do
  let entry ← forUpdate r
  failIf (taken entry) (uniqueViolation constraint)

/-- `TryFrom<UserRow>` -/
def UserRow.toUser (value : UserRow) : Except AuthError User :=
  match StringEnum.parse UserRole value.role with
  | .ok role => .ok {
      id := value.id
      email := value.email
      passwordHash := value.passwordHash
      role := role
      emailVerified := value.emailVerified
      mfaEnabled := value.mfaEnabled
      status := value.status }
  | .error err => .error (.repository err)

/-- `row.map(TryInto::try_into).transpose()` -/
def fromRow : Option UserRow → Tx AuthError (Option User)
  | some row => some <$> ofExcept row.toUser
  | none => pure none

/-- Plain SELECT by `LOWER(email)`; the row is converted, which fails on an unknown role. -/
def findUserByEmail (env : Env) (email : String) : Tx AuthError (Option User) := do
  fromRow (← select fun s => s.users.rows.find? fun u => env.lower u.email = env.lower email)

/-- Plain SELECT by id, converted like the one above. -/
def findUserById (userId : Uuid) : Tx AuthError (Option User) := do
  fromRow (← select fun s => s.users.find userId)

/-- INSERT of a user, who is active and not verified; his id and his address have to be new. -/
def createUser (newId : Uuid) (newUser : NewUser) : Tx AuthError User := do
  let row : UserRow := {
    id := newId
    email := newUser.email
    passwordHash := newUser.passwordHash
    role := asStr newUser.role
    emailVerified := false
    mfaEnabled := false
    status := "active" }
  beginTx
  insertUnique (.user row.id) Option.isSome "users_pkey"
  insertUnique (.userEmail row.email) (fun taken => taken) "users_email_key"
  execute (.insertUser row)
  commitTx
  ofExcept row.toUser

/-- INSERT of a refresh token row; its id and its hash have to be new. -/
def storeRefreshSession (session : RefreshSession) : Tx AuthError Unit := do
  let row := { session with expiresAt := session.expiresAt.toTimestamptz }
  beginTx
  insertUnique (.refreshToken row.id) Option.isSome "refresh_tokens_pkey"
  insertUnique (.refreshTokenHash row.tokenHash) (fun taken => taken) "refresh_tokens_token_hash_key"
  execute (.insertRefreshToken row)
  commitTx

/-- Plain SELECT of a refresh token row. -/
def findRefreshSession (sessionId : Uuid) : Tx AuthError (Option RefreshSession) :=
  select fun s => s.refreshTokens.find sessionId

/-- No rows affected is no error. -/
def revokeRefreshSession (now : DateTime) (sessionId : Uuid) : Tx AuthError Unit := do
  beginTx
  let _ ← forUpdate (.refreshToken sessionId)
  execute (.revokeRefreshToken sessionId now.toTimestamptz)
  commitTx

/-- `AuditService::record` with `AuditEvent::user_registered`. -/
def recordUserRegistered (userId : Uuid) (role email : String) : Tx AuthError Unit := do
  beginTx
  execute (.insertAuditLog (sanitizeAuditLog {
    actorUserId := some userId
    entityType := "user"
    entityId := some userId
    action := "user.registered"
    metadata := .object [
      ("role", .string role),
      ("email_domain", .string (((email.splitOn "@")[1]?).getD ""))] }))
  commitTx

/-! ## The service

  The service opens no transaction around them, so what one statement has written stays when the
  next one fails. -/

/-- What a visitor registers with. -/
structure RegisterInput where
  email : String
  password : String
  role : UserRole

/-- What a user logs in with. -/
structure LoginInput where
  email : String
  password : String

/-- The pair of tokens of one session. -/
structure AuthTokens where
  accessToken : String
  refreshToken : String
  accessExpiresAt : DateTime
  refreshExpiresAt : DateTime

/-- The answer of the calls that begin a session. -/
structure AuthResponse where
  user : PublicUser
  tokens : AuthTokens

/-- What `issue_session` draws. -/
structure SessionDraw where
  sessionId : Uuid
  jti : Uuid
  salt : String

/-- What `register` draws before it. -/
structure UserDraw where
  userId : Uuid
  salt : String

/-- `trim` and `to_ascii_lowercase`. -/
def normalizeEmail (email : String) : String :=
  String.ofList ((trim email).toList.map Char.toLower)

/-- The administrative roles are not given away by registration. -/
def ensureRegisterableRole (role : UserRole) : Except AuthError Unit :=
  if role = .platformAdmin ∨ role = .schoolAdmin then .error .forbidden else .ok ()

/-- Any status but `"active"` is turned away. -/
def ensureActiveUser (user : User) : Except AuthError Unit :=
  if user.status = "active" then .ok () else .error .unauthorized

section

variable (env : Env) (now : DateTime)

/-- Both tokens are signed before the row of the session is stored; the row keeps a hash of the
    refresh token only.

    The three steps before the INSERT only compute.  So a session that fails to be issued leaves
    nothing behind, but for what its caller has written before. -/
def issueSession (draw : SessionDraw) (user : User) : Tx AuthError AuthResponse := do
  let access ← ofExcept (env.issueAccessToken now draw.jti user draw.sessionId)
  let refresh ← ofExcept (env.issueRefreshToken now user draw.sessionId)
  let refreshTokenHash ← ofExcept (env.hashSecret draw.salt refresh.token)
  storeRefreshSession {
    id := draw.sessionId
    userId := user.id
    tokenHash := refreshTokenHash
    expiresAt := refresh.expiresAt
    revokedAt := none }
  return {
    user := user.toPublic
    tokens := {
      accessToken := access.token
      refreshToken := refresh.token
      accessExpiresAt := access.expiresAt
      refreshExpiresAt := refresh.expiresAt } }

/-- The address is looked up before the password is hashed, so an address that is taken is refused
    without a hash.

    No index is asked before the INSERT of the user: two registrations of one address that both find
    it free are told apart by the unique index on the address. -/
def register (userDraw : UserDraw) (draw : SessionDraw) (input : RegisterInput) :
    Tx AuthError AuthResponse := do
  ofExcept (ensureRegisterableRole input.role)
  let normalizedEmail := normalizeEmail input.email
  let existing ← findUserByEmail env normalizedEmail
  failIf existing.isSome .emailAlreadyExists
  let passwordHash ← ofExcept (env.hashSecret userDraw.salt input.password)
  -- three calls of repositories from here on: the user, the audit row, the session
  let user ← createUser userDraw.userId ⟨normalizedEmail, passwordHash, input.role⟩
  recordUserRegistered user.id (asStr user.role) normalizedEmail
  issueSession env now draw user

/-- An unknown address and a wrong password give one error. -/
def login (draw : SessionDraw) (input : LoginInput) : Tx AuthError AuthResponse := do
  let user ← okOr (← findUserByEmail env (normalizeEmail input.email)) .invalidCredentials
  ofExcept (ensureActiveUser user)
  let passwordOk ← ofExcept (env.verifySecret input.password user.passwordHash)
  failIf (!passwordOk) .invalidCredentials
  issueSession env now draw user

/-- The session is revoked before the user is checked, and the number of rows that the UPDATE has
    affected is not looked at: two calls with one token that both pass the checks both go on.

    All that can be checked without the user is checked before the UPDATE, in the order of the
    source; the user and the new session come after it, in transactions of their own. -/
def refresh (draw : SessionDraw) (refreshToken : String) : Tx AuthError AuthResponse := do
  let claims ← ofExcept (env.decodeRefreshToken now refreshToken)
  let existingSession ← okOr (← findRefreshSession claims.sessionId) .unauthorized
  failIf (existingSession.userId ≠ claims.sub ∨ existingSession.revokedAt.isSome) .unauthorized
  failIf (existingSession.expiresAt ≤ now) .unauthorized
  let isMatch ← ofExcept (env.verifySecret refreshToken existingSession.tokenHash)
  failIf (!isMatch) .unauthorized
  -- the UPDATE may affect no row, when another call has revoked the session
  revokeRefreshSession now existingSession.id
  -- an error from here on leaves the session revoked
  let user ← okOr (← findUserById claims.sub) .unauthorized
  ofExcept (ensureActiveUser user)
  issueSession env now draw user

/-- No check but the signature: a session that is revoked, or not there, makes no difference. -/
def logout (refreshToken : String) : Tx AuthError Unit := do
  let claims ← ofExcept (env.decodeRefreshToken now refreshToken)
  revokeRefreshSession now claims.sessionId

end

/-! ## Requests

  A change of a status is here as well: the checks for active users are about it. -/

/-- `setUserStatus` is no route: an operator's UPDATE of a user row. -/
inductive Request
  | register (userDraw : UserDraw) (draw : SessionDraw) (input : RegisterInput)
  | login (draw : SessionDraw) (input : LoginInput)
  | refresh (draw : SessionDraw) (refreshToken : String)
  | logout (refreshToken : String)
  | setUserStatus (userId : Uuid) (status : String)

/-- A request and the instant at which it is served. -/
structure Call where
  now : DateTime
  request : Request

/-- What a call answers with. -/
inductive Answer
  | session (r : AuthResponse)
  | done

/-- The operator's UPDATE, as one transaction. -/
def setUserStatus (userId : Uuid) (status : String) : Tx AuthError Unit := do
  beginTx
  let _ ← forUpdate (.user userId)
  execute (.setUserStatus userId status)
  commitTx

/-- The call as a transaction program. -/
def Call.program (env : Env) (c : Call) : Tx AuthError Answer :=
  match c.request with
  | .register userDraw draw input => .session <$> Auth.register env c.now userDraw draw input
  | .login draw input => .session <$> Auth.login env c.now draw input
  | .refresh draw refreshToken => .session <$> Auth.refresh env c.now draw refreshToken
  | .logout refreshToken => (fun _ => .done) <$> Auth.logout env c.now refreshToken
  | .setUserStatus userId status => (fun _ => .done) <$> Auth.setUserStatus userId status

end EduStell.Auth
