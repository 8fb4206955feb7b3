/-
  Three kinds of tokens under two secrets: each decoder takes the tokens of its own kind and no others.

  Access and email verification tokens are signed with one secret, so it is a field that tells them
  apart: the JSON of one kind lacks a field that the claims of the other need.  Refresh tokens have a
  secret of their own, and `Config::validate` refuses a configuration in which the two are equal.

  Tokens are not told apart by a tag.  What is used is which fields a kind has, which secret it is
  signed with, and that a configuration with one secret for both is refused.
-/
import EduStell.Auth.Scenario

namespace EduStell

/-! ## `api::config`

  The rules of `validate` and what is left when it accepts: two secrets that are long enough and
  different. -/

/-- The startup errors of the API. -/
inductive InternalError
  | config (message : String)
  deriving DecidableEq

/-- Where the API runs. -/
inductive Environment
  | «local» | development | staging | production
  deriving DecidableEq

/-- The part of the configuration that `validate` reads. -/
structure ObservabilityConfig where
  logFormat : String

/-- What `Config::validate` reads; the token service gets a copy of `jwt`. -/
structure Config where
  environment : Environment
  jwt : Auth.JwtConfig
  observability : ObservabilityConfig

namespace Config

/-- The length of a secret is counted in bytes. -/
def validate (config : Config) : Except InternalError Unit :=
  if config.jwt.accessSecret.utf8ByteSize < 32 then
    .error (.config "JWT_ACCESS_SECRET must be at least 32 characters")
  else if config.jwt.refreshSecret.utf8ByteSize < 32 then
    .error (.config "JWT_REFRESH_SECRET must be at least 32 characters")
  else if config.jwt.accessSecret = config.jwt.refreshSecret then
    .error (.config "JWT_ACCESS_SECRET and JWT_REFRESH_SECRET must differ")
  else if (config.environment = .staging ∨ config.environment = .production) ∧
      config.observability.logFormat ≠ "json" then
    .error (.config "LOG_FORMAT must be json outside local/development")
  else .ok ()

/-- A configuration is accepted when both secrets are long enough and different, and the logs of a
    deployed environment are JSON. -/
theorem validate_ok_iff {config : Config} : config.validate = .ok () ↔
    32 ≤ config.jwt.accessSecret.utf8ByteSize ∧ 32 ≤ config.jwt.refreshSecret.utf8ByteSize ∧
    config.jwt.accessSecret ≠ config.jwt.refreshSecret ∧
    (config.environment = .staging ∨ config.environment = .production →
      config.observability.logFormat = "json") := by
  unfold validate
  split_ifs with haccess hrefresh hsame hlog
  · simp [haccess]
  · simp [hrefresh]
  · simp [hsame]
  · simp only [false_iff]
    exact fun h => hlog.2 (h.2.2.2 hlog.1)
  · simp only [true_iff]
    refine ⟨Nat.le_of_not_lt haccess, Nat.le_of_not_lt hrefresh, hsame, fun henv => ?_⟩
    exact Decidable.not_not.mp fun hne => hlog ⟨henv, hne⟩

/-- What the auth services run with under a configuration. -/
def env (config : Config) (crates : Auth.Crates) (lower : String → String) : Auth.Env :=
  ⟨crates, config.jwt, lower⟩

/-- `Config::test` -/
def test : Config where
  environment := .local
  jwt := ⟨"access-secret-access-secret-1234", "refresh-secret-refresh-secret-1234", 900, 2592000⟩
  observability := ⟨"pretty"⟩

end Config

namespace Auth

/-! ## One secret: fields

  What the JSON of one kind lacks is a required field of the other, so reading it fails before
  anything else is looked at. -/

/-- The claims of an email verification have no role. -/
theorem not_access_of_emailVerification (claims : EmailVerificationClaims) :
    (deserialize (serialize claims) : Option AccessClaims) = none := by
  have hrole : ((serialize claims).get "role" : Option UserRole) = none :=
    Value.get_of_not_mem (by simp)
  simp only [deserialize, hrole]
  simp

/-- The claims of an access token have no verification id. -/
theorem not_emailVerification_of_access (claims : AccessClaims) :
    (deserialize (serialize claims) : Option EmailVerificationClaims) = none := by
  have hid : ((serialize claims).get "verification_id" : Option Uuid) = none :=
    Value.get_of_not_mem (by simp)
  simp only [deserialize, hid]
  simp

/-! ## Decoders

  A decoder refuses whatever does not decode as its own claims. -/

section

variable {env : Env} {now : DateTime} {token : String}

/-- A text that does not decode as access claims is refused. -/
theorem Env.decodeAccessToken_of_none
    (h : env.crates.decodeAs AccessClaims token env.config.accessSecret now.timestamp = none) :
    env.decodeAccessToken now token = .error .unauthorized := by
  rw [decodeAccessToken, h]

/-- A text that does not decode as refresh claims is refused. -/
theorem Env.decodeRefreshToken_of_none
    (h : env.crates.decodeAs RefreshClaims token env.config.refreshSecret now.timestamp = none) :
    env.decodeRefreshToken now token = .error .unauthorized := by
  rw [decodeRefreshToken, h]

/-- A text that does not decode as verification claims is refused. -/
theorem Env.decodeEmailVerificationToken_of_none
    (h : env.crates.decodeAs EmailVerificationClaims token env.config.accessSecret now.timestamp
      = none) :
    env.decodeEmailVerificationToken now token = .error .invalidVerificationToken := by
  rw [decodeEmailVerificationToken, h]

/-! ## Issued tokens

  What each of the three functions has signed, and with which secret. -/

variable {issuedAt : DateTime} {jti id : Uuid} {user : User}

/-- An issued access token is signed with the access secret, over claims that expire when it says.
    -/
theorem Env.signed_of_issueAccessToken {issued : IssuedToken}
    (h : env.issueAccessToken issuedAt jti user id = .ok issued) :
    env.crates.encode (.access (env.accessClaims issuedAt jti user id)) env.config.accessSecret
        = .ok issued.token ∧
      (env.accessClaims issuedAt jti user id).exp = issued.expiresAt.timestamp := by
  rw [issueAccessToken] at h
  split at h
  · obtain rfl := Except.ok.inj h
    exact ⟨‹_›, rfl⟩
  · cases h

/-- An issued refresh token is signed with the refresh secret, over claims that expire when it says.
    -/
theorem Env.signed_of_issueRefreshToken {issued : IssuedToken}
    (h : env.issueRefreshToken issuedAt user id = .ok issued) :
    env.crates.encode (.refresh (env.refreshClaims issuedAt user id)) env.config.refreshSecret
        = .ok issued.token ∧
      (env.refreshClaims issuedAt user id).exp = issued.expiresAt.timestamp := by
  rw [issueRefreshToken] at h
  split at h
  · obtain rfl := Except.ok.inj h
    exact ⟨‹_›, rfl⟩
  · cases h

/-- An issued verification token is signed with the access secret, and its expiry is an instant that
    the decoder can represent. -/
theorem Env.signed_of_issueEmailVerificationToken {issued : IssuedVerificationToken}
    (h : env.issueEmailVerificationToken issuedAt user id = some (.ok issued)) :
    env.crates.encode (.emailVerification (emailVerificationClaims issuedAt user id issued.expiresAt))
        env.config.accessSecret = .ok issued.token ∧
      DateTime.minUtc ≤ issued.expiresAt ∧ issued.expiresAt ≤ DateTime.maxUtc := by
  rw [issueEmailVerificationToken] at h
  obtain ⟨expiresAt, hadd, h⟩ := Option.map_eq_some_iff.mp h
  obtain ⟨-, hrange⟩ := DateTime.of_checkedAddSeconds hadd
  split at h
  · obtain rfl := Except.ok.inj h
    exact ⟨‹_›, hrange⟩
  · cases h

end

/-! ## The three kinds

  For each kind: its own decoder accepts it until it expires, the two others never. -/

/-- Not expired, as far as `Validation` asks. -/
def Unexpired (now expiresAt : DateTime) : Prop := now.timestamp ≤ expiresAt.timestamp + leeway

section

variable {env : Env} (hcrates : env.crates.Lawful) (hkeyed : env.crates.Keyed)
  (hsecrets : env.config.accessSecret ≠ env.config.refreshSecret)
  {issuedAt jti user id}

include hcrates hkeyed hsecrets

/-- Until it expires an access token decodes to its claims, and never as one of the other kinds. -/
theorem accessToken_apart {issued : IssuedToken}
    (hissue : env.issueAccessToken issuedAt jti user id = .ok issued) (now : DateTime) :
    (Unexpired now issued.expiresAt → env.decodeAccessToken now issued.token =
      .ok (env.accessClaims issuedAt jti user id)) ∧
    env.decodeRefreshToken now issued.token = .error .unauthorized ∧
    env.decodeEmailVerificationToken now issued.token = .error .invalidVerificationToken := by
  obtain ⟨hsigned, hexp⟩ := Env.signed_of_issueAccessToken hissue
  refine ⟨fun hnow => ?_, ?_, ?_⟩
  · rw [Unexpired, ← hexp] at hnow
    rw [Env.decodeAccessToken, hcrates.decodeAs_own hsigned rfl hnow]
    exact if_neg fun h => h rfl
  · exact Env.decodeRefreshToken_of_none (hcrates.decodeAs_foreign hkeyed hsigned hsecrets _ _)
  · -- the secret is the same: the verification id is missing
    refine Env.decodeEmailVerificationToken_of_none ?_
    exact hcrates.decodeAs_other hsigned (not_emailVerification_of_access _) _

/-- Until it expires a refresh token decodes to its claims, and never as one of the other kinds. -/
theorem refreshToken_apart {issued : IssuedToken}
    (hissue : env.issueRefreshToken issuedAt user id = .ok issued) (now : DateTime) :
    (Unexpired now issued.expiresAt → env.decodeRefreshToken now issued.token =
      .ok (env.refreshClaims issuedAt user id)) ∧
    env.decodeAccessToken now issued.token = .error .unauthorized ∧
    env.decodeEmailVerificationToken now issued.token = .error .invalidVerificationToken := by
  obtain ⟨hsigned, hexp⟩ := Env.signed_of_issueRefreshToken hissue
  have hforeign (α : Type) [Serde α] : env.crates.decodeAs α issued.token env.config.accessSecret
      now.timestamp = none := hcrates.decodeAs_foreign hkeyed hsigned hsecrets.symm α _
  refine ⟨fun hnow => ?_, ?_, ?_⟩
  · rw [Unexpired, ← hexp] at hnow
    rw [Env.decodeRefreshToken, hcrates.decodeAs_own hsigned rfl hnow]
    exact if_neg fun h => h rfl
  · exact Env.decodeAccessToken_of_none (hforeign _)
  · exact Env.decodeEmailVerificationToken_of_none (hforeign _)

/-- Until it expires a verification token decodes to its claims, and never as one of the other
    kinds. -/
theorem emailVerificationToken_apart {issued : IssuedVerificationToken}
    (hissue : env.issueEmailVerificationToken issuedAt user id = some (.ok issued)) (now : DateTime) :
    (Unexpired now issued.expiresAt → env.decodeEmailVerificationToken now issued.token =
      .ok (user.id, id, issued.expiresAt.timestamp * 1000000000)) ∧
    env.decodeAccessToken now issued.token = .error .unauthorized ∧
    env.decodeRefreshToken now issued.token = .error .unauthorized := by
  obtain ⟨hsigned, hrange⟩ := Env.signed_of_issueEmailVerificationToken hissue
  refine ⟨fun hnow => ?_, ?_, ?_⟩
  · have hexpires := DateTime.fromTimestamp_timestamp hrange
    rw [Env.decodeEmailVerificationToken, hcrates.decodeAs_own hsigned rfl hnow]
    simp only [Env.emailVerificationClaims, ne_eq, not_true, if_false, hexpires]
  · -- the secret is the same: the role is missing
    refine Env.decodeAccessToken_of_none ?_
    exact hcrates.decodeAs_other hsigned (not_access_of_emailVerification _) _
  · exact Env.decodeRefreshToken_of_none (hcrates.decodeAs_foreign hkeyed hsigned hsecrets _ _)

end

/-- Every kind of token, before its own decoder and the two others. -/
structure KindsApart (env : Env) : Prop where
  /-- An access token: its own decoder takes it until it expires, the others never. -/
  access : ∀ {issuedAt jti user sessionId issued},
    env.issueAccessToken issuedAt jti user sessionId = .ok issued →
    ∃ claims : AccessClaims, claims.sub = user.id ∧ claims.role = user.role ∧
      claims.sessionId = sessionId ∧ claims.jti = jti ∧
      ∀ now, (Unexpired now issued.expiresAt → env.decodeAccessToken now issued.token = .ok claims) ∧
        env.decodeRefreshToken now issued.token = .error .unauthorized ∧
        env.decodeEmailVerificationToken now issued.token = .error .invalidVerificationToken
  /-- A refresh token, likewise. -/
  refresh : ∀ {issuedAt user sessionId issued},
    env.issueRefreshToken issuedAt user sessionId = .ok issued →
    ∃ claims : RefreshClaims, claims.sub = user.id ∧ claims.sessionId = sessionId ∧
      ∀ now, (Unexpired now issued.expiresAt → env.decodeRefreshToken now issued.token = .ok claims) ∧
        env.decodeAccessToken now issued.token = .error .unauthorized ∧
        env.decodeEmailVerificationToken now issued.token = .error .invalidVerificationToken
  /-- An email verification token, likewise. -/
  emailVerification : ∀ {issuedAt user verificationId issued},
    env.issueEmailVerificationToken issuedAt user verificationId = some (.ok issued) →
    ∀ now, (Unexpired now issued.expiresAt → env.decodeEmailVerificationToken now issued.token =
        .ok (user.id, verificationId, issued.expiresAt.timestamp * 1000000000)) ∧
      env.decodeAccessToken now issued.token = .error .unauthorized ∧
      env.decodeRefreshToken now issued.token = .error .unauthorized

/-- **No token passes for one of another kind**, and each passes for its own, under every
    configuration that `Config::validate` lets through.

    A refresh token has a secret of its own, which `Config::validate` keeps different from the other
    one; access and verification tokens share a secret, and each of them lacks a field that the
    other's claims need. -/
theorem kinds_apart {crates : Crates} (hcrates : crates.Lawful) (hkeyed : crates.Keyed)
    {config : Config} (hvalid : config.validate = .ok ()) (lower : String → String) :
    KindsApart (config.env crates lower) := by
  obtain ⟨-, -, hsecrets, -⟩ := Config.validate_ok_iff.mp hvalid
  constructor
  · intro issuedAt jti user sessionId issued hissue
    exact ⟨_, rfl, rfl, rfl, rfl, accessToken_apart hcrates hkeyed hsecrets hissue⟩
  · intro issuedAt user sessionId issued hissue
    exact ⟨_, rfl, rfl, refreshToken_apart hcrates hkeyed hsecrets hissue⟩
  · intro issuedAt user verificationId issued hissue
    exact emailVerificationToken_apart hcrates hkeyed hsecrets hissue

/-- The configuration of the tests, with tokens of every kind. -/
theorem kinds_apart_test : Scenario.keyedCrates.Lawful ∧ Scenario.keyedCrates.Keyed ∧
    Config.test.validate = .ok () ∧ KindsApart (Config.test.env Scenario.keyedCrates id) ∧
    (∃ issued, (Config.test.env Scenario.keyedCrates id).issueAccessToken 0 9 Scenario.user 3
      = .ok issued) ∧
    (∃ issued, (Config.test.env Scenario.keyedCrates id).issueRefreshToken 0 Scenario.user 3
      = .ok issued) ∧
    ∃ issued, (Config.test.env Scenario.keyedCrates id).issueEmailVerificationToken 0 Scenario.user 7
      = some (.ok issued) := by
  have hvalid : Config.test.validate = .ok () := by decide
  exact ⟨Scenario.keyedCrates_lawful, Scenario.keyedCrates_keyed, hvalid,
    kinds_apart Scenario.keyedCrates_lawful Scenario.keyedCrates_keyed hvalid id,
    ⟨_, rfl⟩, ⟨_, rfl⟩, ⟨_, rfl⟩⟩

end Auth
end EduStell
