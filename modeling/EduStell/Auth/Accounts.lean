/-
  The rest of `application::auth` over `PgAuthRepository`: verifying an email address, and the current
  user.

  The store is that of the auth service with one table more.  What the auth service does is run in it
  as it stands (`authPart`); `mark_email_verified` writes a user row from outside of that part.  As in
  the auth service, every repository call is a transaction of its own.

  `verify_email` is the function to look at.  It consumes the token, marks the address as verified
  and only then asks whether the user is active; both UPDATEs are transactions of their own, so a
  user who is not active is refused with his token spent and his address marked.
-/
import EduStell.Auth.Service
import EduStell.Txn.Part
import EduStell.Txn.Table

namespace EduStell

/-- A row of `email_verification_tokens`. -/
structure EmailVerificationToken where
  id : Uuid
  userId : Uuid
  tokenHash : String
  expiresAt : DateTime
  consumedAt : Option DateTime

/-- `email_verification_tokens_pkey`. -/
instance : Txn.Keyed EmailVerificationToken Uuid := ⟨EmailVerificationToken.id⟩

/-- `SET consumed_at = NOW() ... WHERE consumed_at IS NULL` -/
def EmailVerificationToken.consume (x : EmailVerificationToken) (now : DateTime) :
    EmailVerificationToken :=
  { x with consumedAt := x.consumedAt.or (some now) }

namespace Auth

open Txn Program

/-- `email_verified = TRUE`. -/
def UserRow.verify (u : UserRow) : UserRow := { u with emailVerified := true }

/-! ## The store

  The store of the auth service is embedded as a part, so its programs and what is known of them
  carry over. -/

/-- The tables of the auth service and the verification tokens. -/
structure AccountDb where
  auth : AuthDb
  verifications : Table EmailVerificationToken

/-- What a transaction can lock: what the auth service locks, or the row of a token. -/
inductive AccountResource
  | auth (r : Resource)
  | verification (id : Uuid)
  deriving DecidableEq

/-- What a lock returns. -/
@[reducible] def AccountContent : AccountResource → Type
  | .auth r => Content r
  | .verification _ => Option EmailVerificationToken

/-- The content of a resource in the database. -/
def AccountDb.content (s : AccountDb) : (r : AccountResource) → AccountContent r
  | .auth r => s.auth.content r
  | .verification id => s.verifications.find id

/-- The statements: those of the auth service, and three that only the verification uses. -/
inductive AccountWrite
  | auth (w : Write)
  | insertVerification (row : EmailVerificationToken)
  | consumeVerification (id : Uuid) (now : DateTime)
  | markEmailVerified (userId : Uuid)

namespace AccountWrite

/-- What a statement does to the tables. -/
def apply : AccountWrite → AccountDb → AccountDb
  | auth w, s => { s with auth := w.apply s.auth }
  | insertVerification row, s => { s with verifications := s.verifications.insert row }
  | consumeVerification id now, s =>
    { s with verifications := s.verifications.modify id (fun x => x.consume now) fun _ h => h }
  | markEmailVerified userId, s =>
    { s with auth := { s.auth with users := s.auth.users.modify userId UserRow.verify fun _ h => h } }

/-- What a statement changes. -/
def Touches : AccountWrite → AccountResource → Prop
  | auth w, .auth r => w.Touches r
  | auth _, .verification _ => False
  | insertVerification row, r => r = .verification row.id
  | consumeVerification id _, r => r = .verification id
  | markEmailVerified userId, r => r = .auth (.user userId)

/-- A statement leaves the content outside its footprint alone. -/
theorem content_of_not_touches {w : AccountWrite} {r : AccountResource} {s : AccountDb}
    (h : ¬ w.Touches r) : (w.apply s).content r = s.content r := by
  cases w with
  | auth w =>
    cases r with
    | auth r => exact Write.content_of_not_touches h
    | verification id => rfl
  | insertVerification row =>
    cases r with
    | auth r => rfl
    | verification id =>
      exact Table.find_insert_ne _ _ fun he => h (congrArg AccountResource.verification he)
  | consumeVerification id now =>
    cases r with
    | auth r => rfl
    | verification id' =>
      have hne : id' ≠ id := ne_of_apply_ne AccountResource.verification h
      exact Table.find_modify_ne _ hne _ fun _ hk => by exact hk
  | markEmailVerified userId =>
    cases r with
    | verification id => rfl
    | auth r =>
      cases r with
      | user id =>
        have hne : id ≠ userId := fun he => h (by rw [he]; rfl)
        exact Table.find_modify_ne _ hne _ fun _ hk => by exact hk
      | userEmail email => exact Table.any_modify _ _ _ (fun _ hk => by exact hk) fun _ => rfl
      | refreshToken id => rfl
      | refreshTokenHash hash => rfl

/-- What a statement makes of its footprint depends on the footprint alone. -/
theorem content_congr {w : AccountWrite} {s s' : AccountDb}
    (h : ∀ r, w.Touches r → s.content r = s'.content r) {r : AccountResource} (hr : w.Touches r) :
    (w.apply s).content r = (w.apply s').content r := by
  cases w with
  | auth w =>
    cases r with
    | auth r => exact Write.content_congr (fun r hr => h (.auth r) hr) hr
    | verification id => exact hr.elim
  | insertVerification row =>
    cases hr
    exact Table.find_insert_congr _ (h _ rfl)
  | consumeVerification id now =>
    cases hr
    exact Table.find_modify_congr (h _ rfl) _ fun _ hk => by exact hk
  | markEmailVerified userId =>
    cases hr
    exact Table.find_modify_congr (h (.auth (.user userId)) rfl) _ fun _ hk => by exact hk

end AccountWrite

/-- The statements and locks of the accounts as a store. -/
instance : Store AccountDb AccountContent AccountWrite where
  get := AccountDb.content
  apply := AccountWrite.apply
  touches := AccountWrite.Touches
  get_of_not_touches := AccountWrite.content_of_not_touches
  get_congr h _ hr := AccountWrite.content_congr h hr

/-- Where the store of the auth service lies. -/
def authPart : Part AccountDb AccountContent AccountWrite AuthDb Content Write where
  proj := AccountDb.auth
  resource := .auth
  content _ v := v
  statement := .auth

/-! ## `PgAuthRepository`

  The UPDATEs do not look at the number of rows that they affect. -/

/-- The other cases of `AuthError`, and the panic of an overflow. -/
inductive AccountError
  | auth (e : AuthError)
  | notFound
  | emailAlreadyVerified
  | panic

/-- A transaction of the account service. -/
abbrev AccountTx (α : Type) : Type := Program AccountDb AccountContent AccountWrite AccountError α

/-- What the auth service does. -/
def authTx {α : Type} (p : Tx AuthError α) : AccountTx α := (p.within authPart).mapError .auth

/-- INSERT of a token row, whose id has to be new. -/
def storeEmailVerificationToken (token : EmailVerificationToken) : AccountTx Unit := do
  let row := { token with expiresAt := token.expiresAt.toTimestamptz }
  beginTx
  let entry ← forUpdate (.verification row.id)
  failIf (Option.isSome entry = true) (.auth (uniqueViolation "email_verification_tokens_pkey"))
  execute (.insertVerification row)
  commitTx

/-- Plain SELECT of a token row. -/
def findEmailVerificationToken (tokenId : Uuid) : AccountTx (Option EmailVerificationToken) :=
  select fun s => s.verifications.find tokenId

/-- No rows affected is no error. -/
def consumeEmailVerificationToken (now : DateTime) (tokenId : Uuid) : AccountTx Unit := do
  beginTx
  let _ ← forUpdate (.verification tokenId)
  execute (.consumeVerification tokenId now.toTimestamptz)
  commitTx

/-- No rows affected is no error. -/
def markEmailVerified (userId : Uuid) : AccountTx Unit := do
  beginTx
  let _ ← forUpdate (.auth (.user userId))
  execute (.markEmailVerified userId)
  commitTx

/-! ## The service

  `verify_email` checks signature, record and hash, then writes twice, then looks at the status of
  the user. -/

/-- The answer of a call that asks for a verification token. -/
structure EmailVerificationResponse where
  user : PublicUser
  verificationToken : String
  verificationExpiresAt : DateTime

/-- What `begin_email_verification` draws. -/
structure VerificationDraw where
  verificationId : Uuid
  salt : String

/-- The user of an access token, who has to be there and active. -/
def currentUser (userId : Uuid) : AccountTx PublicUser := do
  let user ← okOr (← authTx (findUserById userId)) .notFound
  ofExcept ((ensureActiveUser user).mapError .auth)
  return user.toPublic

section

variable (env : Env) (now : DateTime)

/-- Only who has not verified his address yet gets a token; the row keeps a hash of it.

    Three computations follow the checks, each with its own error; then one INSERT.  A user may have
    any number of tokens that are not consumed. -/
def beginEmailVerification (draw : VerificationDraw) (userId : Uuid) :
    AccountTx EmailVerificationResponse := do
  let user ← okOr (← authTx (findUserById userId)) .notFound
  ofExcept ((ensureActiveUser user).mapError .auth)
  failIf user.emailVerified .emailAlreadyVerified
  -- the id of the row is in the token, so the row is found again
  let signed ← okOr (env.issueEmailVerificationToken now user draw.verificationId) .panic
  let issued ← ofExcept (signed.mapError .auth)
  let tokenHash ← ofExcept ((env.hashSecret draw.salt issued.token).mapError .auth)
  storeEmailVerificationToken {
    id := draw.verificationId
    userId := user.id
    tokenHash := tokenHash
    expiresAt := issued.expiresAt
    consumedAt := none }
  return {
    user := user.toPublic
    verificationToken := issued.token
    verificationExpiresAt := issued.expiresAt }

/-- Signature, record and hash are checked in this order; the token is consumed and the address
    marked before the user is checked to be active.

    Each of the two writes is a transaction of its own, so a connection that is lost between them
    leaves the token consumed and the address unmarked. -/
def verifyEmail (token : String) : AccountTx PublicUser := do
  let (userId, verificationId, expiresAt) ←
    ofExcept ((env.decodeEmailVerificationToken now token).mapError .auth)
  failIf (expiresAt ≤ now) (.auth .invalidVerificationToken)
  let record ← okOr (← findEmailVerificationToken verificationId) (.auth .invalidVerificationToken)
  failIf (record.userId ≠ userId ∨ record.consumedAt.isSome ∨ record.expiresAt ≤ now)
    (.auth .invalidVerificationToken)
  let isMatch ← ofExcept ((env.verifySecret token record.tokenHash).mapError .auth)
  failIf (!isMatch) (.auth .invalidVerificationToken)
  -- the UPDATE may affect no row, when another call has consumed the token
  consumeEmailVerificationToken now record.id
  markEmailVerified userId
  -- an inactive user is refused after his address has been marked
  let user ← okOr (← authTx (findUserById userId)) .notFound
  ofExcept ((ensureActiveUser user).mapError .auth)
  return user.toPublic

end

/-! ## Requests

  A call with its instant.  The ids and the salts that it draws belong to its request. -/

/-- The calls of the account service; `auth` are those that begin, renew or end a session. -/
inductive AccountRequest
  | auth (request : Request)
  | beginEmailVerification (draw : VerificationDraw) (userId : Uuid)
  | verifyEmail (token : String)
  | currentUser (userId : Uuid)

/-- A request and the instant at which it is served. -/
structure AccountCall where
  now : DateTime
  request : AccountRequest

/-- What a call answers with. -/
inductive AccountAnswer
  | auth (answer : Answer)
  | begun (r : EmailVerificationResponse)
  | user (u : PublicUser)

/-- The call as a transaction program. -/
def AccountCall.program (env : Env) (c : AccountCall) : AccountTx AccountAnswer :=
  match c.request with
  | .auth request => .auth <$> authTx (Call.program env ⟨c.now, request⟩)
  | .beginEmailVerification draw userId =>
    .begun <$> Auth.beginEmailVerification env c.now draw userId
  | .verifyEmail token => .user <$> Auth.verifyEmail env c.now token
  | .currentUser userId => .user <$> Auth.currentUser userId

end Auth
end EduStell
