/-
  What an access token opens: `extractors::current_user` and `middleware::auth` of the API.

  The extractor looks at the token alone, so what a token says has to be right for as long as it is
  accepted, whatever has happened to the user since.  It is (`sessions_speak`): roles and addresses do
  not change.  And since nobody registers as an administrator, an administrator's token is one of a
  user who was stored as one from the start.

  About runs nothing is proved here a second time: `sessions_speak` takes what every run keeps
  from `EduStell.Auth.Verified` (`accounts_sound`, `accounts_kept`), and the rest is about one
  token.
-/
import EduStell.Auth.Verified

namespace EduStell.Auth

open Txn Program

/-- `AuthenticatedUser` with its session, which no service reads. -/
structure CurrentUser where
  user : AuthenticatedUser
  sessionId : Uuid

/-- `header.strip_prefix("Bearer ")` -/
def bearerToken (header : String) : Option String :=
  (List.isPrefixOf? "Bearer ".toList header.toList).map String.ofList

/-- The header is `None` where it is missing or not text. -/
def CurrentUser.fromRequestParts (env : Env) (now : DateTime) (authorization : Option String) :
    Except AuthError CurrentUser := do
  let header ← authorization.elim (.error .unauthorized) .ok
  let token ← (bearerToken header).elim (.error .unauthorized) .ok
  let claims ← env.decodeAccessToken now token
  return ⟨⟨claims.sub, claims.role⟩, claims.sessionId⟩

/-- The role has to be one of the list. -/
def requireAnyRole (user : AuthenticatedUser) (allowed : List UserRole) : Except AuthError Unit :=
  if user.role ∈ allowed then .ok () else .error .forbidden

/-- `platform_admin_ping`, which answers the role. -/
def platformAdminPing (env : Env) (now : DateTime) (authorization : Option String) :
    Except AuthError String := do
  let current ← CurrentUser.fromRequestParts env now authorization
  requireAnyRole current.user [.platformAdmin]
  return asStr current.user.role

/-! ## One token

  No look at the database is made: until it expires, a token opens what its claims say. -/

/-- The token behind the prefix is read. -/
theorem bearerToken_bearer (token : String) : bearerToken ("Bearer " ++ token) = some token := by
  have hstrip : List.isPrefixOf? "Bearer ".toList ("Bearer ".toList ++ token.toList) =
      some token.toList := List.isPrefixOf?_eq_some_iff_append_eq.mpr rfl
  rw [bearerToken, String.toList_append, hstrip, Option.map_some, String.ofList_toList]

section

variable {env : Env} {now issuedAt : DateTime} {jti sessionId : Uuid} {user : User}
  {issued : IssuedToken}

/-- The extractor on a bearer token. -/
theorem fromRequestParts_bearer (token : String) :
    CurrentUser.fromRequestParts env now (some ("Bearer " ++ token)) =
      (env.decodeAccessToken now token).map fun claims => ⟨⟨claims.sub, claims.role⟩, claims.sessionId⟩ := by
  rw [CurrentUser.fromRequestParts]
  change (do
    let token ← (bearerToken ("Bearer " ++ token)).elim (.error .unauthorized) .ok
    let claims ← env.decodeAccessToken now token
    return ⟨⟨claims.sub, claims.role⟩, claims.sessionId⟩ : Except AuthError CurrentUser) = _
  rw [bearerToken_bearer]
  change (do
    let claims ← env.decodeAccessToken now token
    return ⟨⟨claims.sub, claims.role⟩, claims.sessionId⟩ : Except AuthError CurrentUser) = _
  cases env.decodeAccessToken now token <;> rfl

/-- An issued token speaks for its user until it expires, and for nobody after that. -/
theorem fromRequestParts_issued (hcrates : env.crates.Lawful)
    (h : env.issueAccessToken issuedAt jti user sessionId = .ok issued) :
    (Unexpired now issued.expiresAt →
      CurrentUser.fromRequestParts env now (some ("Bearer " ++ issued.token)) =
        .ok ⟨⟨user.id, user.role⟩, sessionId⟩) ∧
    (¬ Unexpired now issued.expiresAt →
      CurrentUser.fromRequestParts env now (some ("Bearer " ++ issued.token)) =
        .error .unauthorized) := by
  obtain ⟨hsigned, hexp⟩ := Env.signed_of_issueAccessToken h
  rw [fromRequestParts_bearer, Unexpired, ← hexp]
  constructor
  · intro hnow
    rw [Env.decodeAccessToken, hcrates.decodeAs_own hsigned rfl hnow]
    rfl
  · intro hexpired
    rw [Env.decodeAccessToken, hcrates.decodeAs_signed hsigned]
    have hlate : ¬ now.timestamp ≤ (Claims.access (env.accessClaims issuedAt jti user sessionId)).exp
        + leeway := hexpired
    rw [if_neg hlate]
    rfl

/-- Who is let through. -/
theorem platformAdminPing_ok {authorization : Option String} {current : CurrentUser}
    (h : CurrentUser.fromRequestParts env now authorization = .ok current) :
    platformAdminPing env now authorization = .ok "platform_admin" ↔
      current.user.role = .platformAdmin := by
  rw [platformAdminPing, h]
  change (do
    requireAnyRole current.user [.platformAdmin]
    return asStr current.user.role : Except AuthError String) = _ ↔ _
  by_cases hrole : current.user.role = .platformAdmin
  · rw [requireAnyRole, hrole]
    exact iff_of_true rfl rfl
  · rw [requireAnyRole, if_neg (by simpa using hrole)]
    refine iff_of_false (fun hok => ?_) hrole
    cases hok

end

/-! ## Every run

  The claims stay true as long as the run goes on, because no call changes a role or an address. -/

/-- What a session that a run has answered stands for, in a committed state `s'` from then on. -/
structure SpeaksFor (env : Env) (es : List AccountHappening) (s s' : AccountDb)
    (resp : AuthResponse) : Prop where
  /-- The user is stored, with the role and the address that the answer tells, and has them from
      the start of the run or from his registration. -/
  stored : ∃ u, s'.auth.users.find resp.user.id = some u ∧ u.role = asStr resp.user.role ∧
    u.email = resp.user.email ∧
    ((∃ u₀, s.auth.users.find resp.user.id = some u₀ ∧ u₀.role = u.role ∧ u₀.email = u.email) ∨
      Registered es u)
  /-- Until it expires the access token is that of this user, in this role, with his session. -/
  accepted : ∃ sessionId x, s'.auth.refreshTokens.find sessionId = some x ∧
    x.userId = resp.user.id ∧ ∀ now, Unexpired now resp.tokens.accessExpiresAt →
      CurrentUser.fromRequestParts env now (some ("Bearer " ++ resp.tokens.accessToken)) =
        .ok ⟨⟨resp.user.id, resp.user.role⟩, sessionId⟩
  /-- After that it is refused. -/
  refused : ∀ now, ¬ Unexpired now resp.tokens.accessExpiresAt →
    CurrentUser.fromRequestParts env now (some ("Bearer " ++ resp.tokens.accessToken)) =
      .error .unauthorized
  /-- It opens what is for administrators exactly if the user was stored as one at the start. -/
  admin : ∀ now, Unexpired now resp.tokens.accessExpiresAt →
    (platformAdminPing env now (some ("Bearer " ++ resp.tokens.accessToken)) = .ok "platform_admin" ↔
      ∃ u₀, s.auth.users.find resp.user.id = some u₀ ∧ u₀.role = asStr UserRole.platformAdmin)

/-- **A session speaks for a stored user in his stored role**, in every interleaved run and for ever
    after: its access token opens what that role opens, until it expires.

    `es` is the run up to the answer, `fs` how it goes on; the session is judged in the state after
    both.  No statement changes the role of a user, so the role in the token stays the stored one.
    -/
theorem sessions_speak {env : Env} (hcrates : env.crates.Lawful) {s : AccountDb}
    {es : List AccountHappening} {i : Nat} {c : AccountCall} {resp : AuthResponse}
    {l : Session AccountDb AccountResource AccountWrite}
    (hslot : (AccountSys.after env s es).slots i = .finished c (.ok (.auth (.session resp))) l)
    (fs : List AccountHappening) :
    SpeaksFor env (es ++ fs) s (AccountSys.after env s (es ++ fs)).db resp := by
  obtain ⟨issuedAt, jti, user, sessionId, hnow⟩ :=
    ((accounts_sound env s es).finished i c _ l hslot).session _ rfl resp rfl
  obtain ⟨⟨u, hu, hrole, hemail⟩, hsession, hanswer, hissued⟩ :=
    (accounts_kept env s es fs).roles.sessionOf hnow
  have hfounded := (accounts_sound env s (es ++ fs)).inv.roles user.id u hu
  have hid : resp.user.id = user.id := by rw [hanswer]; rfl
  have hrole' : resp.user.role = user.role := by rw [hanswer]; rfl
  have hemail' : resp.user.email = user.email := by rw [hanswer]; rfl
  refine ⟨?_, ?_, ?_, ?_⟩
  · rw [hid, hrole', hemail']
    exact ⟨u, hu, hrole, hemail, hfounded⟩
  · obtain ⟨x, hx, huser⟩ := hsession
    refine ⟨sessionId, x, hx, huser.trans hid.symm, fun now hunexpired => ?_⟩
    rw [hid, hrole']
    exact (fromRequestParts_issued hcrates hissued).1 hunexpired
  · exact fun now hexpired => (fromRequestParts_issued hcrates hissued).2 hexpired
  · intro now hunexpired
    rw [platformAdminPing_ok ((fromRequestParts_issued hcrates hissued).1 hunexpired), hid]
    change user.role = .platformAdmin ↔ _
    constructor
    · intro hadmin
      rw [hadmin] at hrole
      rcases hfounded with ⟨u₀, hu₀, hsame, -⟩ | ⟨-, -, -, -, input, -, -, hinput, -, hnot, -⟩
      · exact ⟨u₀, hu₀, hsame.trans hrole⟩
      · exact absurd (StringEnum.asStr_injective (hinput.symm.trans hrole)) hnot
    · rintro ⟨u₀, hu₀, hadmin⟩
      obtain ⟨u', hu', hsame⟩ := (accounts_kept env s [] (es ++ fs)).roles.users _ u₀ hu₀
      obtain rfl : u = u' := Option.some.inj (hu.symm.trans hu')
      obtain ⟨hsame, -⟩ := Prod.mk.inj hsame
      exact StringEnum.asStr_injective (hrole.symm.trans (hsame.trans hadmin))

section

open EduStell.Auth.Scenario

/-- A registration, and what its token stands for. -/
def Scenario.joining : AccountCall :=
  ⟨0, .auth (.register ⟨2, ""⟩ ⟨7, 0, ""⟩ ⟨"d@x", "correct horse", .donor⟩)⟩

/-- Its answer. -/
def Scenario.donorSession : AuthResponse where
  user := ⟨2, "d@x", .donor, false, false, "active"⟩
  tokens := {
    accessToken := token (.access ⟨2, .donor, 7, 0, 1, 0, "access"⟩) "A"
    refreshToken := token (.refresh ⟨2, 7, 5, 0, "refresh"⟩) "R"
    accessExpiresAt := 1000000000
    refreshExpiresAt := 5000000000 }

/-- The donor's session speaks for him while another call is under way. -/
theorem sessions_speak_donor :
    let es : List AccountHappening := .call 0 joining :: List.replicate 30 (.step 0)
    SpeaksFor env (es ++ [.call 1 askForToken]) newcomer
      (AccountSys.after env newcomer (es ++ [.call 1 askForToken])).db donorSession :=
  sessions_speak crates_lawful (i := 0) (c := joining) (l := ⟨[], [], _, true⟩) rfl
    [.call 1 askForToken]

end

end EduStell.Auth
