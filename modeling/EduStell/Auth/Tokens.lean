/-
  `domain::auth` and the two ports of the auth service: tokens (`infrastructure::auth::jwt`) and
  hashes (`infrastructure::auth::hasher`).

  What the `jsonwebtoken` and `argon2` crates compute is a parameter, `Crates`; what the services
  rely on is `Crates.Lawful`, and `Crates.Keyed` where two secrets meet.  A call of `Utc::now()` is
  the instant at which the request is served, and what `Uuid::new_v4()` and `SaltString::generate`
  draw are inputs of the request.

  A signature is taken literally here: a token decodes to the claims that it was made from, under
  its secret and until it expires, and nothing else decodes.  That nobody can forge one is
  therefore no theorem below but a reading of `Crates.Lawful`; where a result needs more of the
  world, it says so.
-/
import EduStell.Auth.Claims

namespace EduStell

/-! ## Users and sessions

  Rows and errors, with the columns that the service reads. -/

/-- A user of the platform. -/
structure User where
  id : Uuid
  email : String
  passwordHash : String
  role : UserRole
  emailVerified : Bool
  mfaEnabled : Bool
  status : String

/-- What is stored of a user on registration. -/
structure NewUser where
  email : String
  passwordHash : String
  role : UserRole

/-- What a user is shown of a user: no password hash. -/
structure PublicUser where
  id : Uuid
  email : String
  role : UserRole
  emailVerified : Bool
  mfaEnabled : Bool
  status : String

/-- Everything but the password hash and the status. -/
def User.toPublic (value : User) : PublicUser where
  id := value.id
  email := value.email
  role := value.role
  emailVerified := value.emailVerified
  mfaEnabled := value.mfaEnabled
  status := value.status

/-- A row of `refresh_tokens`. -/
structure RefreshSession where
  id : Uuid
  userId : Uuid
  tokenHash : String
  expiresAt : DateTime
  revokedAt : Option DateTime

/-- `refresh_tokens_pkey`. -/
instance : Txn.Keyed RefreshSession Uuid := ⟨RefreshSession.id⟩

/-- `SET revoked_at = NOW() ... WHERE revoked_at IS NULL` -/
def RefreshSession.revoke (x : RefreshSession) (now : DateTime) : RefreshSession :=
  { x with revokedAt := x.revokedAt.or (some now) }

namespace Auth

/-- The errors of the auth service. -/
inductive AuthError
  | emailAlreadyExists
  | invalidCredentials
  | unauthorized
  | forbidden
  | repository (message : String)
  | security (message : String)
  | invalidVerificationToken
  deriving DecidableEq

/-! ## The crates

  What is assumed of the crates is stated once, in two structures.  Signing does not fail, and
  decoding inverts it until a token expires; a hash is verified by its text alone; and, where two
  secrets meet, no token is signed with both. -/

/-- The claims that are signed. -/
inductive Claims
  | access (claims : AccessClaims)
  | refresh (claims : RefreshClaims)
  | emailVerification (claims : EmailVerificationClaims)

/-- The `exp` claim of a token of any kind. -/
def Claims.exp : Claims → Int
  | access claims => claims.exp
  | refresh claims => claims.exp
  | emailVerification claims => claims.exp

/-- The JSON that is signed. -/
def Claims.json : Claims → Value
  | access claims => serialize claims
  | refresh claims => serialize claims
  | emailVerification claims => serialize claims

/-- `jsonwebtoken` under HS256 (claims and secret; token, secret and current second) and `argon2`
    (value and salt; value and hash, an error for a text that is no hash). -/
structure Crates where
  encode : Claims → String → Except String String
  decode : String → String → Int → Except String Claims
  hashPassword : String → String → Except String String
  verifyPassword : String → String → Except String Bool

/-- The seconds for which an expired token still decodes: the default of `Validation`. -/
def leeway : Int := 60

/-- Decoding gives exactly the signed claims of the tokens that have not expired; a hash verifies
    exactly the value that was hashed; signing and hashing do not fail. -/
structure Crates.Lawful (crates : Crates) : Prop where
  decode_iff : ∀ token secret now claims, crates.decode token secret now = .ok claims ↔
    crates.encode claims secret = .ok token ∧ now ≤ claims.exp + leeway
  encodes : ∀ claims secret, ∃ token, crates.encode claims secret = .ok token
  hashes : ∀ value salt, ∃ hash, crates.hashPassword value salt = .ok hash
  verify : ∀ value salt hash, crates.hashPassword value salt = .ok hash →
    ∀ other, crates.verifyPassword other hash = .ok (decide (other = value))

/-- A token is signed with one secret, and accepted under no other. -/
structure Crates.Keyed (crates : Crates) : Prop where
  secret_eq : ∀ {a b : Claims} {secret secret' token : String}, crates.encode a secret = .ok token →
    crates.encode b secret' = .ok token → secret = secret'

/-- `decode::<T>` -/
def Crates.decodeAs (α : Type) [Serde α] (crates : Crates) (token secret : String) (now : Int) :
    Option α :=
  match crates.decode token secret now with
  | .ok claims => deserialize claims.json
  | .error _ => none

section

variable {crates : Crates} {claims : Claims} {secret token : String}

/-- One token has one set of claims. -/
theorem Crates.Lawful.encode_inj (hcrates : crates.Lawful) {a b : Claims}
    (ha : crates.encode a secret = .ok token) (hb : crates.encode b secret = .ok token) : a = b := by
  -- both decode while neither has expired
  have hdecode : ∀ c : Claims, crates.encode c secret = .ok token → min a.exp b.exp ≤ c.exp →
      crates.decode token secret (min a.exp b.exp) = .ok c := by
    intro c hc hle
    refine (hcrates.decode_iff _ _ _ _).mpr ⟨hc, ?_⟩
    have hleeway : (0 : Int) ≤ leeway := by decide
    omega
  have hda := hdecode a ha (Int.min_le_left _ _)
  have hdb := hdecode b hb (Int.min_le_right _ _)
  exact Except.ok.inj (hda.symm.trans hdb)

/-- A token decodes with the secret that signed it until it expires, as far as its JSON is a `T`. -/
theorem Crates.Lawful.decodeAs_signed (hcrates : crates.Lawful)
    (h : crates.encode claims secret = .ok token) (α : Type) [Serde α] (now : Int) :
    crates.decodeAs α token secret now =
      if now ≤ claims.exp + leeway then deserialize claims.json else none := by
  rw [decodeAs]
  split
  · rename_i claims' hdecode
    obtain ⟨hencode, hnow⟩ := (hcrates.decode_iff _ _ _ _).mp hdecode
    obtain rfl := hcrates.encode_inj hencode h
    rw [if_pos hnow]
  · rename_i hdecode
    have hexpired : ¬ now ≤ claims.exp + leeway := by
      intro hnow
      rw [(hcrates.decode_iff _ _ _ _).mpr ⟨h, hnow⟩] at hdecode
      cases hdecode
    rw [if_neg hexpired]

/-- A token that has not expired decodes to what was signed. -/
theorem Crates.Lawful.decodeAs_own {α : Type} [Serde α] (hcrates : crates.Lawful)
    (h : crates.encode claims secret = .ok token) {a : α} (hjson : claims.json = serialize a)
    {now : Int} (hnow : now ≤ claims.exp + leeway) :
    crates.decodeAs α token secret now = some a := by
  rw [hcrates.decodeAs_signed h, if_pos hnow, hjson, Serde.deserialize_serialize]

/-- A token whose JSON is no `T` does not decode to one. -/
theorem Crates.Lawful.decodeAs_other {α : Type} [Serde α] (hcrates : crates.Lawful)
    (h : crates.encode claims secret = .ok token)
    (hother : (deserialize claims.json : Option α) = none) (now : Int) :
    crates.decodeAs α token secret now = none := by
  rw [hcrates.decodeAs_signed h, hother, ite_self]

/-- It decodes with no other secret. -/
theorem Crates.Lawful.decodeAs_foreign (hcrates : crates.Lawful) (hkeyed : crates.Keyed)
    (h : crates.encode claims secret = .ok token) {secret' : String} (hne : secret ≠ secret')
    (α : Type) [Serde α] (now : Int) : crates.decodeAs α token secret' now = none := by
  rw [decodeAs]
  split
  · rename_i claims' hdecode
    exact absurd (hkeyed.secret_eq h ((hcrates.decode_iff _ _ _ _).mp hdecode).1) hne
  · rfl

end

/-- The secrets and lifetimes of the configuration. -/
structure JwtConfig where
  accessSecret : String
  refreshSecret : String
  accessTtlSecs : Int
  refreshTtlSecs : Int

/-- What the auth services run with; `lower` is the function of that name of the database. -/
structure Env where
  crates : Crates
  config : JwtConfig
  lower : String → String

/-- A signed token and its expiry. -/
structure IssuedToken where
  token : String
  expiresAt : DateTime

/-- A signed verification token and its expiry. -/
structure IssuedVerificationToken where
  token : String
  expiresAt : DateTime

/-! ## `JwtTokenService`

  Each token names its kind, its subject and its expiry, and is decoded as its own claims only. -/

namespace Env

variable (env : Env)

/-- The claims of an access token that is issued at `now`. -/
def accessClaims (now : DateTime) (jti : Uuid) (user : User) (sessionId : Uuid) : AccessClaims where
  sub := user.id
  role := user.role
  sessionId := sessionId
  jti := jti
  exp := (now.addSeconds env.config.accessTtlSecs).timestamp
  iat := now.timestamp
  tokenType := "access"

/-- An access token, signed with the access secret. -/
def issueAccessToken (now : DateTime) (jti : Uuid) (user : User) (sessionId : Uuid) :
    Except AuthError IssuedToken :=
  match env.crates.encode (.access (env.accessClaims now jti user sessionId))
    env.config.accessSecret with
  | .ok token => .ok ⟨token, now.addSeconds env.config.accessTtlSecs⟩
  | .error err => .error (.security ("failed to sign access token: " ++ err))

/-- The claims of a refresh token that is issued at `now`. -/
def refreshClaims (now : DateTime) (user : User) (sessionId : Uuid) : RefreshClaims where
  sub := user.id
  sessionId := sessionId
  exp := (now.addSeconds env.config.refreshTtlSecs).timestamp
  iat := now.timestamp
  tokenType := "refresh"

/-- A refresh token, signed with the refresh secret. -/
def issueRefreshToken (now : DateTime) (user : User) (sessionId : Uuid) :
    Except AuthError IssuedToken :=
  match env.crates.encode (.refresh (env.refreshClaims now user sessionId))
    env.config.refreshSecret with
  | .ok token => .ok ⟨token, now.addSeconds env.config.refreshTtlSecs⟩
  | .error err => .error (.security ("failed to sign refresh token: " ++ err))

/-- The claims of a verification token that is issued at `now`. -/
def emailVerificationClaims (now : DateTime) (user : User) (verificationId : Uuid)
    (expiresAt : DateTime) : EmailVerificationClaims where
  sub := user.id
  verificationId := verificationId
  exp := expiresAt.timestamp
  iat := now.timestamp
  tokenType := "email_verification"

/-- `None` where `now + Duration::hours(24)` overflows, which panics. -/
def issueEmailVerificationToken (now : DateTime) (user : User) (verificationId : Uuid) :
    Option (Except AuthError IssuedVerificationToken) :=
  (now.checkedAddSeconds (24 * 60 * 60)).map fun expiresAt =>
    match env.crates.encode
      (.emailVerification (emailVerificationClaims now user verificationId expiresAt))
      env.config.accessSecret with
    | .ok token => .ok ⟨token, expiresAt⟩
    | .error err => .error (.security ("failed to sign email verification token: " ++ err))

/-- The claims of an access token: of its own type, signed with the access secret, not expired. -/
def decodeAccessToken (now : DateTime) (token : String) : Except AuthError AccessClaims :=
  match env.crates.decodeAs AccessClaims token env.config.accessSecret now.timestamp with
  | some claims => if claims.tokenType ≠ "access" then .error .unauthorized else .ok claims
  | none => .error .unauthorized

/-- The claims of a refresh token: of its own type, signed with the refresh secret, not expired. -/
def decodeRefreshToken (now : DateTime) (token : String) : Except AuthError RefreshClaims :=
  match env.crates.decodeAs RefreshClaims token env.config.refreshSecret now.timestamp with
  | some claims => if claims.tokenType ≠ "refresh" then .error .unauthorized else .ok claims
  | none => .error .unauthorized

/-- What a verification token is for; its expiry has to be an instant that `chrono` can represent.
    -/
def decodeEmailVerificationToken (now : DateTime) (token : String) :
    Except AuthError (Uuid × Uuid × DateTime) :=
  match env.crates.decodeAs EmailVerificationClaims token env.config.accessSecret now.timestamp with
  | some claims =>
    if claims.tokenType ≠ "email_verification" then .error .invalidVerificationToken
    else
      match DateTime.fromTimestamp claims.exp with
      | some expiresAt => .ok (claims.sub, claims.verificationId, expiresAt)
      | none => .error (.security "invalid email verification exp")
  | none => .error .invalidVerificationToken

/-! ## `Argon2PasswordHasher`

  Hashing takes a salt that the request draws. -/

/-- The hash of a password or of a token. -/
def hashSecret (salt value : String) : Except AuthError String :=
  (env.crates.hashPassword value salt).mapError fun err =>
    .security ("failed to hash secret: " ++ err)

/-- Whether the hash is one of this text; a text that is no hash is an error. -/
def verifySecret (value hash : String) : Except AuthError Bool :=
  (env.crates.verifyPassword value hash).mapError fun err =>
    .security ("invalid password hash: " ++ err)

end Env
end Auth
end EduStell
